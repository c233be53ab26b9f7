/-!
# Files

A path leads through a tree of directories to a file. It starts at the root if a
slash comes first, and otherwise where the reader is. Whatever keeps the path
from leading to a text has a wording of its own.
-/

namespace SqlBuilder

/-- Why a path does not lead to a text. -/
inductive ReadFailure where
  | missing
  /-- The path goes on behind a file. -/
  | notDirectory
  | isDirectory
  /-- The path or one of its names is too long. -/
  | nameTooLong
  /-- The path contains the character that ends a path. -/
  | nulInPath
  | notUtf8
  deriving DecidableEq, Repr

/-- The failure as the operating system words it. -/
def ReadFailure.text : ReadFailure → String
  | .missing => "No such file or directory (os error 2)"
  | .notDirectory => "Not a directory (os error 20)"
  | .isDirectory => "Is a directory (os error 21)"
  | .nameTooLong => "File name too long (os error 36)"
  | .nulInPath => "file name contained an unexpected NUL byte"
  | .notUtf8 => "stream did not contain valid UTF-8"

/-- A file, or a directory with what it contains under names. -/
inductive FileTree where
  | file (content : ByteArray)
  | directory (entries : List (String × FileTree))

/-- A place in a tree, with the directories above it, the innermost first. -/
structure FilePlace where
  here : FileTree
  above : List FileTree

namespace FilePlace

/-- How many bytes a name may have. -/
def maximalNameSize : Nat := 255

/-- How many bytes a path may have. -/
def maximalPathSize : Nat := 4095

/-- The root of a tree. -/
def atRoot (tree : FileTree) : FilePlace :=
  { here := tree, above := [] }

/-- The root of the tree that a place belongs to. -/
def root (place : FilePlace) : FilePlace :=
  atRoot (place.above.getLast?.getD place.here)

/-- The place above this one. The root is above itself. -/
def parent (place : FilePlace) : FilePlace :=
  match place.above with
  | [] => place
  | directory :: above => { here := directory, above := above }

/-- The place that one name of a path leads to. A path may go on behind a
directory only, even if its next name is empty. -/
def enter (place : FilePlace) (name : String) : Except ReadFailure FilePlace :=
  match place.here with
  | .file _ => .error .notDirectory
  | .directory entries =>
      if name = "" || name = "." then .ok place
      else if name = ".." then .ok place.parent
      else if maximalNameSize < name.utf8ByteSize then .error .nameTooLong
      else
        match entries.lookup name with
        | some found => .ok { here := found, above := place.here :: place.above }
        | none => .error .missing

/-- The names in a path. -/
def names (path : String) : List String :=
  path.splitOn "/"

/-- The place that a path leads to. -/
def follow (start : FilePlace) (path : String) : Except ReadFailure FilePlace :=
  if path.toList.contains '\x00' then .error .nulInPath
  else if path = "" then .error .missing
  else if maximalPathSize < path.utf8ByteSize then .error .nameTooLong
  else (names path).foldlM enter (if path.front = '/' then start.root else start)

/-- The text of the file that a path leads to. -/
def readText (start : FilePlace) (path : String) : Except ReadFailure String := do
  match (← start.follow path).here with
  | .directory _ => .error .isDirectory
  | .file content =>
      match String.fromUTF8? content with
      | some text => return text
      | none => .error .notUtf8

end FilePlace
end SqlBuilder
