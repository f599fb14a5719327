import Settle.Text.Search

/-!
# Paths

A path is a text; slashes separate its segments and a leading slash makes it absolute. Empty
segments do not count, and a segment `.` counts only at the very start. The name of a path is its
last segment unless that is `.` or `..`; its extension follows the last dot of the name, except a
dot that the name begins with.
-/

namespace Settle.Path

open Settle.Text (splitAll)

def isAbsolute (path : String) : Bool := path.toList.head? == some '/'

def endsWithSlash (path : String) : Bool := path.toList.getLast? == some '/'

/-- The segments that are not empty, `.` and `..` included. -/
def segments (path : String) : List String :=
  ((splitAll '/' path.toList).filter fun s => !s.isEmpty).map String.ofList

/-- The segments that count: `.` only as the first one of a relative path. -/
def components (path : String) : List String :=
  match segments path with
  | [] => []
  | first :: rest =>
    let rest := rest.filter (· ≠ ".")
    if first = "." ∧ isAbsolute path then rest else first :: rest

def fileName? (path : String) : Option String :=
  match (components path).getLast? with
  | some s => if s = "." ∨ s = ".." then none else some s
  | none => none

/-- A name cut at its last dot, unless it has none but at its start. -/
def cutExtension (name : String) : String × Option String :=
  let reversed := name.toList.reverse
  match Text.cutAt '.' reversed with
  | none => (name, none)
  | some (_, []) => (name, none)
  | some (extension, stem) => (String.ofList stem.reverse, some (String.ofList extension.reverse))

def stem? (path : String) : Option String := (fileName? path).map fun n => (cutExtension n).1

def extension? (path : String) : Option String := (fileName? path).bind fun n => (cutExtension n).2

/-- A name below a directory. An absolute name stands for itself. -/
def join (dir name : String) : String :=
  if isAbsolute name then name
  else if dir.isEmpty || endsWithSlash dir then dir ++ name
  else dir ++ "/" ++ name

end Settle.Path
