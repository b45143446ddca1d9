import ImageOwnership.Command.Path
import ImageOwnership.Failure

/-!
Files named by the segments of their paths from the root, with a directory to start from. A path is
followed segment by segment, so that the first segment that cannot be followed decides why there is
nothing to read.
-/

namespace ImageOwnership.Command

structure Disk where
  files : List (List String × List UInt8)
  /-- Directories that are there even if no file lies in them. -/
  directories : List (List String)
  /-- Where relative paths begin. -/
  start : List String

namespace Disk

/-- The greatest number of bytes of a segment. -/
def segmentLimit : Nat := 255

/-- The greatest number of bytes of a path. -/
def pathLimit : Nat := 4095

/-- A place is a directory if it is known as one or if something lies below it. -/
def isDirectory (disk : Disk) (place : List String) : Bool :=
  disk.directories.contains place || decide (place <+: disk.start) ||
    disk.files.any fun file => decide (place <+: file.1) && file.1 ≠ place

/-- Why a path leads to no file. -/
inductive Obstacle where
  | absent
  | isDirectory
  | throughFile
  | longName
deriving DecidableEq, Repr

/-- Follows segments from a place. -/
def follow (disk : Disk) (place : List String) : List String → Except Obstacle (List UInt8)
  | [] => .error .isDirectory
  | segment :: rest =>
      if segment = ".." then
        disk.follow place.dropLast rest
      else if segment.utf8ByteSize > segmentLimit then
        .error .longName
      else
        let next := place ++ [segment]
        match disk.files.lookup next with
        | some content => if rest.isEmpty then .ok content else .error .throughFile
        | none => if disk.isDirectory next then disk.follow next rest else .error .absent

def Obstacle.fault (path : String) : Obstacle → FileFault
  | .absent => .missing path
  | .isDirectory => .directory path
  | .throughFile => .throughFile path
  | .longName => .longName path

/-- The content of the file at a path. -/
def read (disk : Disk) (path : String) : Except FileFault (List UInt8) :=
  let chars := path.toList
  if path.utf8ByteSize > pathLimit then
    .error (.longName path)
  else
    (disk.follow (if (Path.root chars).isEmpty then disk.start else [])
      ((Path.segments chars).map String.ofList)).mapError (Obstacle.fault path)

end Disk

end ImageOwnership.Command
