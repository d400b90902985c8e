import SheetLint.Monitoring.Path

namespace SheetLint.Monitoring

/-!
# Directories among files

Logs lie in directories, which are made where they are missing.  A path is
followed name by name from the root or from the current directory, so that two
paths written differently may lead to the same place.
-/

/-- A place among the files: the names on the way from it up to the root. -/
abbrev Place : Type := List (List UInt8)

/--
What is known of the files: where relative paths begin, and which entries there
are.
-/
structure FileTree where
  current : Place
  files : List Place
  /-- Directories; those above an entry exist as well. -/
  directories : List Place
  deriving Repr, DecidableEq

/-- Why a path cannot be used. -/
inductive Obstacle where
  /-- A file has the name of the directory. -/
  | taken
  /-- A file stands where a directory above it should be. -/
  | underFile
  /-- A name in the path, or the path as a whole, is too long. -/
  | tooLong
  /-- The path has a zero byte in it. -/
  | zeroByte
  deriving Repr, DecidableEq

/-- The message about an obstacle. -/
def Obstacle.message : Obstacle → String
  | .taken => "File exists (os error 17)"
  | .underFile => "Not a directory (os error 20)"
  | .tooLong => "File name too long (os error 36)"
  | .zeroByte => "file name contained an unexpected NUL byte"

/-- The most bytes that a name may have. -/
def nameLimit : Nat := 255

/-- The number of bytes that a path must stay below. -/
def pathLimit : Nat := 4096

namespace FileTree

/-- The files that every system has. -/
def systemFiles : List Place :=
  [["null", "dev"], ["zero", "dev"], ["full", "dev"], ["random", "dev"],
    ["urandom", "dev"], ["passwd", "etc"]].map
    (·.map fun name : String => Text.encode name.toList)

/-- A tree in which nothing has been made below the current directory. -/
def fresh (current : Place) : FileTree :=
  ⟨current, systemFiles, [current]⟩

/-- Whether a place is a file. -/
def isFile (tree : FileTree) (place : Place) : Bool :=
  tree.files.contains place

/--
Whether a place is a directory: one that is known, or one above another entry.
-/
def isDirectory (tree : FileTree) (place : Place) : Bool :=
  tree.directories.any (place.isSuffixOf ·) ||
    tree.files.any (place.isSuffixOf ·.tail)

/-- The tree with one more directory. -/
def add (tree : FileTree) (place : Place) : FileTree :=
  { tree with directories := place :: tree.directories }

/--
Follow the components of a path downwards from a directory and make the
directories that are missing.  A file on the way is an entry where there should
be none as soon as a directory above it was missing, and otherwise only at the
end.
-/
def descend (tree : FileTree) (place : Place) (making : Bool) :
    List (List UInt8) → Except Obstacle Place × FileTree
  | [] =>
      (.ok place, tree)
  | component :: rest =>
      let next := component :: place
      if component = Path.here then
        tree.descend place making rest
      else if component = Path.above then
        tree.descend place.tail making rest
      else if nameLimit < component.length then
        (.error .tooLong, tree)
      else if tree.isDirectory next then
        tree.descend next making rest
      else if tree.isFile next then
        (.error (if making || rest.isEmpty then .taken else .underFile), tree)
      else
        (tree.add next).descend next true rest

/--
Make the directory of a path and those above it, as far as they are missing.
-/
def makeDirectory (tree : FileTree) (path : Path) :
    Except Obstacle Place × FileTree :=
  if path.bytes.contains 0 then
    (.error .zeroByte, tree)
  else if pathLimit ≤ path.trimEnd.bytes.length then
    (.error .tooLong, tree)
  else
    tree.descend (if path.shape.absolute then [] else tree.current) false
      path.shape.components

end FileTree

end SheetLint.Monitoring
