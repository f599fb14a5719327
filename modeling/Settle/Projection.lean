import Settle.Error
import Settle.Json.Pointer
import Settle.Json.Printer
import Settle.Json.Reader

/-!
# Projections

A projection reduces an object to a text. Some are computed by the cluster's command line, which is
told so by output flags; a pointer is evaluated here on the JSON form of the object.
-/

namespace Settle

open Json (Value)

inductive Projection where
  | name
  | jsonPath (template : String)
  | pointer (path : String)
  | raw
  deriving DecidableEq, Repr

namespace Projection

def ofJsonPath (path : String) : Projection :=
  if path.toList.head? = some '\x7b' then .jsonPath path
  else .jsonPath ("\x7b" ++ path ++ "\x7d")

def text : Projection → String
  | .name => "name"
  | .jsonPath template => "jsonpath=" ++ template
  | .pointer path => "pointer=" ++ path
  | .raw => "raw"

def flags : Projection → List String
  | .name => ["-o", "name"]
  | .jsonPath template => ["-o", "jsonpath=" ++ template]
  | .pointer _ => ["-o", "json"]
  | .raw => []

/-- A selected value as text: strings as they are, null as nothing, others as compact JSON. -/
def textOfValue : Value → String
  | .null => ""
  | .string s => s
  | v => v.compact

/-- The text of what a pointer selects; nothing when it selects nothing. -/
def select (path : String) (document : Value) : String :=
  match document.pointer? path with
  | some v => textOfValue v
  | none => ""

def extract (p : Projection) (output : String) : Except Error String :=
  match p with
  | .name | .jsonPath _ | .raw => .ok output
  | .pointer path =>
    match Json.parse output with
    | .ok document => .ok (select path document)
    | .error message => .error (.decode "JSON object" message)

end Projection

end Settle
