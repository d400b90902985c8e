import SheetLint.Text.Pieces
import SheetLint.Text.Quoted
import SheetLint.Text.Utf8

namespace SheetLint.Monitoring

/-!
# Paths

A path is a byte string and need not be text.  Two paths name the same place, as
far as their writing shows, if they agree as absolute or relative and in their
components.
-/

/-- The path of a directory. -/
structure Path where
  bytes : List UInt8
  deriving Repr, DecidableEq

/-- What counts when paths are compared. -/
structure Path.Shape where
  absolute : Bool
  components : List (List UInt8)
  deriving Repr, DecidableEq

namespace Path

/-- The byte between components. -/
def slash : UInt8 := 0x2F

/-- The component that stands for the directory it is in. -/
def here : List UInt8 := [0x2E]

/-- The component that stands for the directory above the one it is in. -/
def above : List UInt8 := [0x2E, 0x2E]

/-- The path with the given text. -/
def ofText (text : List Char) : Path :=
  ⟨Text.encode text⟩

/-- The text of a path, if it is one. -/
def text? (path : Path) : Option (List Char) :=
  Text.text? path.bytes

/-- Whether a component leads from one directory to another. -/
def counts (component : List UInt8) : Bool :=
  component != [] && component != here

/--
The components of a path.  Empty ones and those for the directory itself do not
count, except where the latter begins a relative path.
-/
def shape (path : Path) : Shape :=
  if path.bytes.head? = some slash then
    ⟨true, (Text.pieces slash path.bytes).filter counts⟩
  else
    match Text.pieces slash path.bytes with
    | [] =>
        ⟨false, []⟩
    | first :: rest =>
        ⟨false, [first].filter (· ≠ []) ++ rest.filter counts⟩

/-- Whether two paths name the same place. -/
def same (first second : Path) : Bool :=
  first.shape == second.shape

/--
The path with one more component; a slash is put in front of it where one is
needed.
-/
def join (path : Path) (component : List Char) : Path :=
  let mark :=
    if path.bytes = [] || path.bytes.getLast? = some slash then [] else [slash]
  ⟨path.bytes ++ mark ++ Text.encode component⟩

/--
The path up to its last component that counts; of a path without any, the root
or nothing.
-/
def trimEnd (path : Path) : Path :=
  match Text.pieces slash path.bytes with
  | [] =>
      path
  | first :: rest =>
      let kept := (rest.reverse.dropWhile (!counts ·)).reverse
      if first.isEmpty && kept.isEmpty then
        ⟨path.bytes.take 1⟩
      else
        ⟨[slash].intercalate (first :: kept)⟩

/-- A hexadecimal digit in upper case. -/
def upperHexDigit (value : Nat) : Char :=
  if value < 10 then Char.ofNat (48 + value) else Char.ofNat (55 + value)

/--
One piece of a path inside its literal; a byte of no character shows its number.
-/
def literalPiece : Text.Piece → List Char
  | .char value =>
      Text.literalChar value
  | .stray byte =>
      ['\\', 'x', upperHexDigit (byte.toNat / 16),
        upperHexDigit (byte.toNat % 16)]

/-- The literal of a path. -/
def literal (path : Path) : List Char :=
  '"' :: ((Text.decode path.bytes).flatMap literalPiece ++ ['"'])

end Path

end SheetLint.Monitoring
