import Settle.Error
import Settle.Files.Path
import Settle.Text.Utf8

/-!
# A file system

Files and directories by their place, the list of names from the root. The root and the working
directory always exist. Paths are resolved segment by segment, so that `..` after a missing
directory fails; a name may have 255 bytes and a path less than 4096. Operations fail for the first
reason met on the way.
-/

namespace Settle

abbrev Place := List String

inductive Entry where
  | directory
  | file (contents : ByteArray)

/-- Files and directories by place; of two entries of one place the first one counts. -/
structure FileSystem where
  entries : List (Place × Entry)
  working : Place

namespace FileSystem

/-- The directories that a system always has, a working directory among them, and a file that is
always empty. -/
def blank : FileSystem where
  entries :=
    [["work"], ["tmp"], ["usr"], ["usr", "bin"], ["etc"], ["var"], ["var", "tmp"], ["dev"]].map
        (·, .directory)
      ++ [(["dev", "null"], .file .empty)]
  working := ["work"]

def entry? (fs : FileSystem) (p : Place) : Option Entry :=
  if p.isEmpty then some .directory else fs.entries.lookup p

def isDirectory (fs : FileSystem) (p : Place) : Bool :=
  match fs.entry? p with
  | some .directory => true
  | _ => false

def file? (fs : FileSystem) (p : Place) : Option ByteArray :=
  match fs.entry? p with
  | some (.file contents) => some contents
  | _ => none

def put (fs : FileSystem) (p : Place) (n : Entry) : FileSystem :=
  { fs with entries := (p, n) :: fs.entries }

/-! ## Resolving paths -/

/-- Goes down from a place by segments. Every place that is left must be a directory. -/
def walk (fs : FileSystem) (p : Place) : List String → Except FileError Place
  | [] => .ok p
  | s :: rest =>
    match fs.entry? p with
    | none => .error .noSuchFile
    | some (.file _) => .error .notDirectory
    | some .directory =>
      if s = "." then walk fs p rest
      else if s = ".." then walk fs p.dropLast rest
      else if 255 < s.utf8ByteSize then .error .nameTooLong
      else walk fs (p ++ [s]) rest

def checkPath (path : String) : Except FileError Unit :=
  if path.toList.contains '\x00' then .error .nulInPath
  else if path.isEmpty then .error .noSuchFile
  else if 4096 ≤ path.utf8ByteSize then .error .nameTooLong
  else .ok ()

def start (fs : FileSystem) (path : String) : Place :=
  if Path.isAbsolute path then [] else fs.working

/-- The place that a path leads to, whether or not something is there. -/
def locate (fs : FileSystem) (path : String) : Except FileError Place := do
  checkPath path
  fs.walk (fs.start path) (Path.segments path)

/-- What is at a path. A path with a slash at its end must lead to a directory. -/
def stat (fs : FileSystem) (path : String) : Except FileError Entry := do
  let p ← fs.locate path
  match fs.entry? p with
  | none => .error .noSuchFile
  | some (.file contents) =>
    if Path.endsWithSlash path then .error .notDirectory else return .file contents
  | some .directory => return .directory

/-- Whether something is at a path; only a missing file counts as absent. -/
def pathExists (fs : FileSystem) (path : String) : Except FileError Bool :=
  match fs.stat path with
  | .ok _ => .ok true
  | .error .noSuchFile => .ok false
  | .error e => .error e

def readText (fs : FileSystem) (path : String) : Except FileError String := do
  match ← fs.stat path with
  | .directory => .error .isDirectory
  | .file contents =>
    match String.fromUTF8? contents with
    | some text => return text
    | none => .error .notText

/-! ## Creating files and directories -/

/-- Where a new entry goes: its directory, which must exist, and its name there. The root and the
names `.` and `..` are taken everywhere. -/
def newPlace (fs : FileSystem) (path : String) : Except FileError (Place × String) := do
  checkPath path
  let segments := Path.segments path
  match segments.getLast? with
  | none => .error .fileExists
  | some name =>
    let dir ← fs.walk (fs.start path) (segments.dropLast ++ ["."])
    if name = "." ∨ name = ".." then .error .fileExists else return (dir, name)

def vacancy (fs : FileSystem) (dir : Place) (name : String) : Except FileError Place := do
  let p ← fs.walk dir [name]
  if (fs.entry? p).isSome then .error .fileExists else return p

/-- A new file, which must not exist before. A slash at the end of the path asks for a directory,
whatever the name is. -/
def createFile (fs : FileSystem) (path : String) (contents : ByteArray) :
    Except FileError FileSystem := do
  let (dir, name) ← fs.newPlace path
  if Path.endsWithSlash path then .error .isDirectory
  else return fs.put (← fs.vacancy dir name) (.file contents)

def createDirectory (fs : FileSystem) (path : String) : Except FileError FileSystem := do
  let (dir, name) ← fs.newPlace path
  return fs.put (← fs.vacancy dir name) .directory

def leadsToDirectory (fs : FileSystem) (path : String) : Bool :=
  match fs.stat path with
  | .ok .directory => true
  | _ => false

/-- A path and its parents, the longest one first; the root and the working directory itself are
left out. -/
def ancestors (path : String) : List String :=
  let lead := if Path.isAbsolute path then "/" else ""
  let components := Path.components path
  let parents := (List.range (components.length - 1)).reverse.map fun n =>
    lead ++ "/".intercalate (components.take (n + 1))
  if components.isEmpty then [] else path :: parents

/-- Creates directories in order. One that exists already is no fault; the first fault ends it. -/
def createAll (fs : FileSystem) : List String → Except FileError Unit × FileSystem
  | [] => (.ok (), fs)
  | path :: rest =>
    match fs.createDirectory path with
    | .ok fs => createAll fs rest
    | .error .fileExists =>
      if fs.leadsToDirectory path then createAll fs rest else (.error .fileExists, fs)
    | .error e => (.error e, fs)

/-- Creates a directory below the nearest parent that exists, or can be created, and then those in
between; `missing` holds the paths that could not be created for want of a parent, shortest first.
-/
def createMissing (fs : FileSystem) (missing : List String) :
    List String → Except FileError Unit × FileSystem
  | [] => fs.createAll missing
  | path :: parents =>
    match fs.createDirectory path with
    | .ok fs => fs.createAll missing
    | .error .noSuchFile => createMissing fs (path :: missing) parents
    | .error .fileExists =>
      if fs.leadsToDirectory path then fs.createAll missing else (.error .fileExists, fs)
    | .error e => (.error e, fs)

def createDirectories (fs : FileSystem) (path : String) : Except FileError Unit × FileSystem :=
  fs.createMissing [] (ancestors path)

/-! ## Listing -/

/-- The files at or below a place, with the names that lead on from it. -/
def filesBelow (fs : FileSystem) (p : Place) : List (Place × ByteArray) :=
  (fs.entries.map (·.1)).eraseDups.filterMap fun q =>
    if p.isPrefixOf q && p.length < q.length then
      (fs.file? q).map fun contents => (q.drop p.length, contents)
    else none

end FileSystem

end Settle
