import Settle.Command.Failure
import Settle.Duration
import Settle.Files.ErrorNumber

/-!
# Errors

What can go wrong in a query, a wait or a submission, by cause, and how it is put into words. A
failed command becomes an error by its class; for a submission a passing failure is told apart.
-/

namespace Settle

inductive FileError where
  | noSuchFile
  | permissionDenied
  | fileExists
  | notDirectory
  | isDirectory
  | nameTooLong
  | notText
  | nulInPath
  | other (number : Int)
  deriving DecidableEq, Repr

namespace FileError

def message : FileError → String
  | .notText => "stream did not contain valid UTF-8"
  | .nulInPath => "file name contained an unexpected NUL byte"
  | .noSuchFile => ErrorNumber.message 2
  | .permissionDenied => ErrorNumber.message 13
  | .fileExists => ErrorNumber.message 17
  | .notDirectory => ErrorNumber.message 20
  | .isDirectory => ErrorNumber.message 21
  | .nameTooLong => ErrorNumber.message 36
  | .other number => ErrorNumber.message number

def ofNumber : Int → FileError
  | 2 => .noSuchFile
  | 13 => .permissionDenied
  | 17 => .fileExists
  | 20 => .notDirectory
  | 21 => .isDirectory
  | 36 => .nameTooLong
  | number => .other number

end FileError

/-- Why a template could not be expanded. -/
inductive TemplateError where
  | sourceNotFound (path : String)
  | read (path : String) (cause : FileError)
  | unresolvedPlaceholder (path placeholder : String)
  | write (path : String) (cause : FileError)
  | expansionFailed (cause : CommandFailure)
  deriving DecidableEq, Repr

def TemplateError.message : TemplateError → String
  | .sourceNotFound path => "template source " ++ path ++ " does not exist"
  | .read path cause => "failed to read template " ++ path ++ ": " ++ cause.message
  | .unresolvedPlaceholder path placeholder =>
    "template " ++ path ++ " references undefined parameter " ++ placeholder
  | .write path cause => "failed to write expanded manifest " ++ path ++ ": " ++ cause.message
  | .expansionFailed cause => "template expansion failed: " ++ cause.text

/-- Why an operation did not succeed. -/
inductive Error where
  | transientSubmission (text : String)
  | transient (text : String)
  | rejected (text : String)
  | notFound (target : String)
  | unknownKind (target : String)
  | noRolloutStatus (kind : String)
  | timeout (what : String) (elapsed : Duration) (last : String)
  | cancelled (what : String)
  | template (cause : TemplateError)
  | command (cause : CommandFailure)
  | decode (what message : String)
  deriving DecidableEq, Repr

namespace Error

def message : Error → String
  | .transientSubmission text => "transient submission failure: " ++ text
  | .transient text => "transient failure: " ++ text
  | .rejected text => "control plane rejected the request: " ++ text
  | .notFound target => target ++ " not found"
  | .unknownKind target => "resource kind " ++ target ++ " is not known to the cluster"
  | .noRolloutStatus kind => kind ++ " has no rollout status"
  | .timeout what elapsed last =>
    "timed out after " ++ toString elapsed.wholeSecs ++ "s waiting for " ++ what
      ++ "; last observation: " ++ last
  | .cancelled what => "cancelled while waiting for " ++ what
  | .template cause => cause.message
  | .command cause => cause.text
  | .decode what message => "failed to decode " ++ what ++ ": " ++ message

def isTransient : Error → Bool
  | .transientSubmission _ | .transient _ | .template (.expansionFailed _) => true
  | _ => false

def isNotFound : Error → Bool
  | .notFound _ => true
  | _ => false

def ofCommand (f : CommandFailure) (target : String) : Error :=
  match f.kind with
  | .notFound => .notFound target
  | .unknownKind => .unknownKind target
  | .transient => .transient f.text
  | .rejected => .rejected f.text
  | .other => .command f

def ofSubmission (f : CommandFailure) (target : String) : Error :=
  match ofCommand f target with
  | .transient text => .transientSubmission text
  | e => e

end Error

end Settle
