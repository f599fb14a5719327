import Settle.CommandLine.Run
import Settle.Rehearsal.Transcript

/-!
# The program

Runs a command line. The cluster's side is played back from the standard input, one JSON object a
line for each command that is run. Files that the request names are read before the run, and files
that it makes are written after it; the commands go to the standard error.
-/

namespace Settle

def variableNames : List String :=
  ["CONVERGE_BINARY", "KUBECONFIG", "CONVERGE_USER_KUBECONFIG", "CONVERGE_SCRATCH_DIR",
   "CONVERGE_CONFIG", "TMPDIR"]

def readEnvironment : IO Config.Environment := do
  let values ← variableNames.mapM fun name => do return (← IO.getEnv name).map (name, ·)
  return values.filterMap id

def filesRead (r : CommandLine.Request) : List String :=
  r.config.toList ++ match r.task with
    | .apply source _ _ _ _ => [source]
    | _ => []

def FileSystem.supply (fs : FileSystem) (path : String) (contents : ByteArray) : FileSystem :=
  let p := fs.start path ++ Path.segments path
  let fs := (List.range (p.length - 1)).foldl (fun fs n => fs.put (p.take (n + 1)) .directory) fs
  fs.put p (.file contents)

def readFiles (working : Place) (paths : List String) : IO FileSystem := do
  let directories := (List.range working.length).map fun n =>
    (working.take (n + 1), Entry.directory)
  let mut fs : FileSystem := { entries := directories, working }
  for path in paths do
    try fs := fs.supply path (← IO.FS.readBinFile path)
    catch _ => pure ()
  return fs

def writeFiles (before after : FileSystem) : IO Unit := do
  for (p, contents) in after.filesBelow [] do
    if (before.file? p).isNone then
      IO.FS.createDirAll ("/" ++ "/".intercalate p.dropLast)
      IO.FS.writeBinFile ("/" ++ "/".intercalate p) contents

def readEndings (text : String) : List Exit :=
  (Text.lines text).filterMap fun line => (Json.parse line).toOption.map Exit.ofJson

end Settle

open Settle in
def main (args : List String) : IO UInt32 := do
  let env ← readEnvironment
  let paths := match CommandLine.Request.read (env.lookup "CONVERGE_CONFIG") args with
    | .ok r => filesRead r
    | .error _ => []
  let working := Path.segments (← IO.currentDir).toString
  let files ← readFiles working paths
  let names := Names.ofSeed (← IO.rand 0 (Nat.pow 2 62)).toUInt64 Names.defaultLength
  let host : Rehearsal.Transcript := { left := readEndings (← (← IO.getStdin).readToEnd) }
  let (e, site) := CommandLine.run args { env, files, names, host }
  writeFiles files site.files
  for p in site.host.ran.reverse do
    IO.eprintln (" ".intercalate (p.program :: p.argv))
  IO.print e.stdout
  if let some report := e.report then IO.eprintln ("Error: " ++ report)
  if e.refused then IO.eprintln "The arguments were refused."
  return e.status.toUInt32
