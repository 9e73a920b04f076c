/-
**Files.** What the library sees of the file system: what reading a path gives, and where the user's
own configuration is kept.

* `Reading` — the outcome of reading a path.
* `Disk` — the outcome for every path, at one moment.
* `joinPath` — a path relative to a directory.
-/
import LiquidHover.Text.Utf8

namespace LiquidHover

/-- The outcome of reading a path. -/
inductive Reading where
  | missing
  | directory
  /-- Something on the way to the path is a file. -/
  | notDirectory
  | content (bytes : List UInt8)
  deriving DecidableEq, Repr

/-- The files at one moment. -/
structure Disk where
  read : String → Reading
  /-- The path of the user's own configuration, if there is a place for it. -/
  userConfig : Option String
  /-- The directory to which relative paths refer, or why there is none. -/
  workingDirectory : Except String String

namespace Files

/-- Whether a path starts at the root of the file system. -/
def isAbsolute (path : String) : Bool := path.toList.head? == some '/'

/-- A path as seen from a directory; an absolute path stays as it is. -/
def joinPath (directory path : String) : String :=
  if isAbsolute path || directory.isEmpty then path
  else if directory.toList.getLast? = some '/' then directory ++ path
  else directory ++ "/" ++ path

/-- The content of the file at a path. -/
def content? (disk : Disk) (path : String) : Option (List UInt8) :=
  match disk.read path with
  | .content bytes => some bytes
  | .missing | .directory | .notDirectory => none

end Files

end LiquidHover
