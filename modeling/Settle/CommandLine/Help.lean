import Settle.CommandLine.Request
import Settle.Config

/-!
# Help

Help on a level of the command line says what the level is for, how it is used, and what may be
given, in two columns. Options are listed in the order in which they are declared. Shared options
have the places they have at the outer level, and so stand among the options of a task.
-/

namespace Settle.CommandLine

def taskNames : List String :=
  ["exists", "wait-present", "wait-gone", "wait-rollout", "wait-pods", "get", "wait-field",
   "delete", "apply", "list", "wait-log"]

def helpLevel : Level where
  task := some "help"
  about := "Print this message or the help of the given subcommand(s)"
  options := []
  operands :=
    [{ name := "task", label := "[COMMAND]...", about := "Print help for the subcommand(s)" }]

def levelOf : Option String → Level
  | none => outerLevel
  | some name => (taskLevel? name).getD helpLevel

namespace Opt

def takesValue (o : Opt) : Bool := o.arity matches .single | .many

def usage (o : Opt) : String :=
  "--" ++ o.name ++ if o.takesValue then " <" ++ o.label ++ ">" else ""

def spelling (o : Opt) : String :=
  o.letter.elim "    " (fun c => String.ofList ['-', c, ',', ' ']) ++ o.usage

def description (env : Config.Environment) (o : Opt) : String :=
  let current := o.envVariable.toList.map fun v => "env: " ++ v ++ "=" ++ (env.lookup v).getD ""
  " ".intercalate (o.about :: (current ++ o.notes).map fun note => "[" ++ note ++ "]")

/-- Among options of one place the letters decide, small ones first, or the names. -/
def sortKey (o : Opt) : String :=
  o.letter.elim o.name fun c => String.ofList [c.toLower, if c.isLower then '0' else '1']

/-- The place of an option at its level; what ends the reading comes last. -/
def place (l : Level) (o : Opt) : Nat :=
  if o.arity matches .help | .version then l.options.length + sharedOptions.length
  else match sharedOptions.findIdx? (·.name == o.name) with
    | some i => i + 1
    | none => l.options.findIdx (·.name == o.name)

end Opt

namespace Level

def listed (l : Level) : List Opt :=
  l.options.mergeSort fun o p =>
    o.place l < p.place l || (o.place l == p.place l && o.sortKey ≤ p.sortKey)

def usage (l : Level) : String :=
  let options := if l.options.isEmpty then [] else ["[OPTIONS]"]
  let required := (l.options.filter (·.required)).map Opt.usage
  let task := if l.task.isNone then ["<COMMAND>"] else []
  " ".intercalate
    ("converge" :: l.task.toList ++ options ++ required ++ l.operands.map (·.label) ++ task)

end Level

/-- A table of two columns, if there is anything in it. Beside a wide first column all texts go on
lines of their own when one of them is too long. -/
def table? (heading : String) (rows : List (String × String)) : Option String :=
  if rows.isEmpty then none
  else
    let width := (rows.map (·.1.length)).foldl max 0
    let apart := width > 32 && rows.any fun row => width + row.2.length > 92
    let gap (left : String) :=
      if apart then "\n" ++ String.ofList (List.replicate 10 ' ')
      else String.ofList (List.replicate (width + 2 - left.length) ' ')
    some ("\n".intercalate ((heading ++ ":") :: rows.map fun (left, right) =>
      "  " ++ left ++ gap left ++ right))

def Level.help (l : Level) (env : Config.Environment) : String :=
  let tasks := taskNames.map fun name => (name, (levelOf (some name)).about)
  let tables :=
    [table? "Commands" (if l.task.isNone then tasks ++ [("help", helpLevel.about)] else []),
     table? "Arguments" (l.operands.map fun o => (o.label, o.about)),
     table? "Options" (l.listed.map fun o => (o.spelling, o.description env))]
  "\n\n".intercalate (l.about :: ("Usage: " ++ l.usage) :: tables.filterMap id) ++ "\n"

end Settle.CommandLine
