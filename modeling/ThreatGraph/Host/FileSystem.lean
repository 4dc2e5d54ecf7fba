import ThreatGraph.Host.Basic
import ThreatGraph.Host.Path
import ThreatGraph.Table

/-!
# A file system as a value

Directories and files by their places, which are the names that lead to them from the root. A
file holds a text, or bytes that are none. Paths are followed name by name: each step starts in a
directory, and two points lead back. So a path that ends in a slash or a point can only be that of
a directory.
-/

namespace ThreatGraph

/-- Directories and files by the names that lead to them. -/
structure FileSystem where
  /-- the place from which paths are followed that do not start at the root -/
  current : List String
  /-- the directories besides the root -/
  directories : List (List String)
  /-- the text of each file that holds one -/
  files : List (List String × String)
  /-- the bytes of each other file -/
  binaries : List (List String × List UInt8) := []

namespace FileSystem

variable (fs : FileSystem)

/-- Whether a directory is at a place. -/
def isDirectory (place : List String) : Bool := place.isEmpty || fs.directories.contains place

/-- The text of the file at a place. -/
def file? (place : List String) : Option String := fs.files.lookup place

/-- Whether a file is at a place. -/
def isFile (place : List String) : Bool :=
  (fs.file? place).isSome || (fs.binaries.lookup place).isSome

/-- The place that names lead to from `place`. Only the last of them may be missing. -/
def follow? (place : List String) : List String → Option (List String)
  | [] => some place
  | name :: rest =>
    if !fs.isDirectory place then none
    else if name = "" ∨ name = "." then follow? place rest
    else if name = ".." then follow? place.dropLast rest
    else follow? (place ++ [name]) rest

/-- Where a path is followed from. -/
def start (path : String) : List String := if Path.isAbsolute path then [] else fs.current

/-- The place that a path leads to. -/
def place? (path : String) : Option (List String) :=
  if path.isEmpty then none else fs.follow? (fs.start path) (Path.names path)

/-- The text of the file that a path leads to. -/
def readText? (path : String) : Option String :=
  (fs.place? path).bind fs.file?

/-- Whether a path leads to a directory or a file. -/
def isThere (path : String) : Bool :=
  (fs.place? path).any fun place => fs.isDirectory place || fs.isFile place

/-- The file system with a text in the file that a path leads to. -/
def writeText? (path text : String) : Option FileSystem :=
  match fs.place? path with
  | none => none
  | some place =>
    if fs.isDirectory place then none
    else
      some
        { fs with
          files := (place, text) :: fs.files.filter fun entry => entry.1 != place
          binaries := fs.binaries.filter fun entry => entry.1 != place }

/-- The file system with directories at all the places that names lead through. -/
def createFrom? (fs : FileSystem) (place : List String) : List String → Option FileSystem
  | [] => some fs
  | name :: rest =>
    if name = "" ∨ name = "." then createFrom? fs place rest
    else if name = ".." then createFrom? fs place.dropLast rest
    else
      let next := place ++ [name]
      if fs.isDirectory next then createFrom? fs next rest
      else if fs.isFile next then none
      else createFrom? { fs with directories := next :: fs.directories } next rest

/-- The file system with the directory of a path. -/
def createDirectories? (path : String) : Option FileSystem :=
  if path.isEmpty then none else createFrom? fs (fs.start path) (Path.names path)

/-- Makes a change if it is possible, and says whether it was. -/
def attempt (change : FileSystem → Option FileSystem) : StateM FileSystem Bool :=
  modifyGet fun fs =>
    match change fs with
    | some changed => (true, changed)
    | none => (false, fs)

/-- The surroundings with these files, in which time stands still. -/
def host : Host (StateM FileSystem) where
  isThere path := return (← get).isThere path
  readText? path := return (← get).readText? path
  writeText path text := attempt fun fs => fs.writeText? path text
  createDirectories path := attempt fun fs => fs.createDirectories? path
  now := pure 0

end FileSystem

end ThreatGraph
