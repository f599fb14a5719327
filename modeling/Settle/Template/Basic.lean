import Settle.Files.Path
import Settle.Template.Substitution

/-!
# Templates and manifests

A template is a source file with parameters. Expanding it gives a manifest, a document in a file of
its own.
-/

namespace Settle

structure Template where
  source : String
  params : List (String × String) := []
  deriving DecidableEq, Repr

structure Manifest where
  path : String
  document : String
  deriving DecidableEq, Repr

namespace Template

/-- A template with parameters in any order; the last value of a key counts. -/
def ofParams (source : String) (params : List (String × String)) : Template :=
  { source, params := Association.ofPairs params }

def stem (t : Template) : String := (Path.stem? t.source).getD "manifest"

def extension (t : Template) : String := (Path.extension? t.source).getD "yaml"

end Template

end Settle
