import Settle.World

/-!
# Scratch files

Manifests are written to new files in a scratch directory, which is made when it is missing. A name
that is taken is given up for another one, a limited number of times; every other failure is final.
-/

namespace Settle.Scratch

def attempts : Nat := 16

def path (root stem suffix extension : String) : String :=
  Path.join root (stem ++ "-" ++ suffix ++ "." ++ extension)

/-- Creates a file under a fresh name, trying at most `fuel + 1` names. -/
def createFresh (root stem extension : String) (contents : ByteArray) :
    (fuel : Nat) → FileSystem → Names → Except TemplateError String × FileSystem × Names
  | 0, fs, names =>
    let (suffix, names) := names.suffix
    let path := path root stem suffix extension
    match fs.createFile path contents with
    | .ok fs => (.ok path, fs, names)
    | .error e => (.error (.write path e), fs, names)
  | fuel + 1, fs, names =>
    let (suffix, names) := names.suffix
    let path := path root stem suffix extension
    match fs.createFile path contents with
    | .ok fs => (.ok path, fs, names)
    | .error .fileExists => createFresh root stem extension contents fuel fs names
    | .error e => (.error (.write path e), fs, names)

/-- Writes a new file below a directory and gives its path. -/
def write {σ : Type} (root stem extension contents : String) :
    Action σ (Except TemplateError String) := fun w =>
  match w.files.createDirectories root with
  | (.error e, files) => (.error (.write root e), { w with files })
  | (.ok (), files) =>
    let (result, files, names) :=
      createFresh root stem extension contents.toUTF8 (attempts - 1) files w.names
    (result, { w with files, names })

end Settle.Scratch
