import Settle.Files.System
import Settle.Rehearsal.Rule
import Settle.Subprocess

/-!
# Rehearsed machines

A machine with some programs that answer by rules; of their arguments the first one is the verb. All
other files cannot be run. A program that no rule fits succeeds and writes nothing. A program is
named by its path; a name without a slash is looked for in some directories.
-/

namespace Settle.Rehearsal

structure Machine where
  files : FileSystem
  programs : List Place
  /-- The directories in which a program is looked for by its name. -/
  searched : List String
  rules : List (Rule Exit)
  ran : List Spawn := []

namespace Machine

def runnable (m : Machine) (path : String) : Except FileError Unit := do
  match ← m.files.stat path with
  | .directory => .error .permissionDenied
  | .file _ =>
    if m.programs.contains (← m.files.locate path) then return () else .error .permissionDenied

/-- Looks for a name in directories, in order. What cannot be run is passed over, but shows in the
end if no program is found; `last` is what shows so far. -/
def search (m : Machine) (name : String) (last : FileError) : List String → Except FileError Unit
  | [] => .error last
  | dir :: rest =>
    match m.runnable (Path.join dir name) with
    | .ok () => .ok ()
    | .error .permissionDenied => search m name .permissionDenied rest
    | .error .noSuchFile | .error .notDirectory => search m name last rest
    | .error e => .error e

/-- Finds a program by a path, or by a name where it is searched. -/
def find (m : Machine) (program : String) : Except FileError Unit :=
  if program.isEmpty then .error .noSuchFile
  else if program.toList.contains '/' then m.runnable program
  else m.search program .noSuchFile m.searched

instance : Host Machine where
  spawn p m :=
    match m.find p.program with
    | .error e => (.error e, m)
    | .ok () =>
      let (found, rules) := Rule.answer 0 (p.argv.headD "") (p.argv.drop 1) m.rules
      (.ok (found.getD {}), { m with rules, ran := p :: m.ran })

end Machine

end Settle.Rehearsal
