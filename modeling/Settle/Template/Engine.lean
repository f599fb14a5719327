import Settle.Client
import Settle.Scratch
import Settle.Template.Basic

/-!
# Expansion of templates

A template is expanded by substitution in this process, or by the cluster's command line. Either way
the document goes into a scratch file. Nothing is written, and no name drawn, before the document is
complete.
-/

namespace Settle

inductive Expander where
  | substitution
  /-- The command line does it; it may be told to ignore parameters that it does not know. -/
  | process (client : Client) (ignoreUnknown : Bool)
  deriving DecidableEq, Repr

/-- A way to expand templates, and the directory for the results. -/
structure Engine where
  expander : Expander
  scratch : String
  deriving DecidableEq, Repr

namespace Template

def processArgs (t : Template) (ignoreUnknown : Bool) : List String :=
  "-f" :: t.source :: (if ignoreUnknown then ["--ignore-unknown-parameters=true"] else [])
    ++ t.params.flatMap fun (key, value) => ["-p", key ++ "=" ++ value]

def expandText (t : Template) (files : FileSystem) : Except TemplateError String :=
  match files.readText t.source with
  | .error .noSuchFile => .error (.sourceNotFound t.source)
  | .error e => .error (.read t.source e)
  | .ok text => (substitute t.params text).mapError (.unresolvedPlaceholder t.source)

def checkSource (t : Template) (files : FileSystem) : Except TemplateError Unit :=
  match files.pathExists t.source with
  | .ok true => .ok ()
  | .ok false => .error (.sourceNotFound t.source)
  | .error e => .error (.read t.source e)

end Template

namespace Engine

variable {σ : Type} [Cluster σ]

/-- The document of a template, and the extension of the file that will hold it. -/
def document (e : Engine) (t : Template) :
    Action σ (Except TemplateError (String × String)) := do
  match e.expander with
  | .substitution => return (t.expandText (← get).files).map (·, t.extension)
  | .process client ignoreUnknown =>
    match t.checkSource (← get).files with
    | .error cause => return .error cause
    | .ok () =>
      match ← Action.issue (client.command .process none (t.processArgs ignoreUnknown)) with
      | .error f => return .error (.expansionFailed f)
      | .ok document => return .ok (document, "json")

def expand (e : Engine) (t : Template) : Action σ (Except Error Manifest) := do
  match ← e.document t with
  | .error cause => return .error (.template cause)
  | .ok (document, extension) =>
    match ← Scratch.write e.scratch t.stem extension document with
    | .error cause => return .error (.template cause)
    | .ok path => return .ok { path, document }

end Engine

end Settle
