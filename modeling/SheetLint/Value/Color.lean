import SheetLint.Trace.Event
import SheetLint.Unicode.Lowercase
import SheetLint.Unicode.Word

namespace SheetLint.Color

/-!
# Hexadecimal colours

A colour literal is a number sign with three or six hexadecimal digits.  Six
digits in three equal pairs condense to three.  In a longer text a literal ends
at a word boundary, so that a longer run of digits or letters holds none.
-/

/-- Whether `c` is a hexadecimal digit. -/
def isHexDigit (c : Char) : Bool :=
  ('0' ≤ c && c ≤ '9') || ('a' ≤ c && c ≤ 'f') || ('A' ≤ c && c ≤ 'F')

/--
Whether a text has seven characters of which the last six form three equal
pairs.
-/
def isCondensableChars : List Char → Bool
  | [_, red, red', green, green', blue, blue'] =>
      red == red' && green == green' && blue == blue'
  | _ =>
      false

/-- The first character of seven and one of each pair behind it. -/
def condensed : List Char → List Char
  | [sign, red, _, green, _, blue, _] =>
      [sign, red, green, blue]
  | text =>
      text

/--
Whether `hex` can be written with half of its digits.  Only the characters are
compared.
-/
def isCondensable (hex : String) : Bool :=
  isCondensableChars hex.toList

/-- The shortest way to write the colour `hex`, in lower case. -/
def shortestForm (hex : String) : Traced String :=
  if isCondensable hex then
    let short := condensed hex.toList
    ⟨String.ofList (Unicode.lower short),
      [.condensed hex (String.ofList short)]⟩
  else
    .silent (String.ofList (Unicode.lower hex.toList))

/-- Whether a text is a colour literal and nothing else. -/
def isLiteralChars : List Char → Bool
  | '#' :: digits =>
      (digits.length == 3 || digits.length == 6) && digits.all isHexDigit
  | _ =>
      false

/-- Whether `value` is a colour literal and nothing else. -/
def isLiteral (value : String) : Bool :=
  isLiteralChars value.toList

/-- Whether a word that was going on up to here ends before `rest`. -/
def endsWord : List Char → Bool
  | [] =>
      true
  | c :: _ =>
      !Unicode.isWord c

/--
The first `count` characters of a text, if they are digits and a word ends
behind them.
-/
def digitsAt? (count : Nat) (text : List Char) : Option (List Char) :=
  let digits := text.take count
  if digits.length == count && digits.all isHexDigit &&
      endsWord (text.drop count) then
    some digits
  else
    none

/-- The literal at the head of a text: six digits are tried before three. -/
def literalAt? : List Char → Option (List Char)
  | '#' :: rest =>
      ((digitsAt? 6 rest).orElse fun _ => digitsAt? 3 rest).map ('#' :: ·)
  | _ =>
      none

/--
The literals of a text, where the first `skipped` characters belong to a literal
that is already found.
-/
def literalsFrom : Nat → List Char → List (List Char)
  | _, [] =>
      []
  | skipped + 1, _ :: rest =>
      literalsFrom skipped rest
  | 0, c :: rest =>
      match literalAt? (c :: rest) with
      | some literal =>
          literal :: literalsFrom (literal.length - 1) rest
      | none =>
          literalsFrom 0 rest

/-- The literals of a text from left to right; none overlaps another. -/
def literals (text : List Char) : List (List Char) :=
  literalsFrom 0 text

/-- The colour literals in `value` from left to right. -/
def find (value : String) : List String :=
  (literals value.toList).map String.ofList

/-- The hexadecimal digits by their code points. -/
theorem isHexDigit_iff {c : Char} :
    isHexDigit c = true ↔
      (48 ≤ c.toNat ∧ c.toNat ≤ 57) ∨ (97 ≤ c.toNat ∧ c.toNat ≤ 102) ∨
        (65 ≤ c.toNat ∧ c.toNat ≤ 70) := by
  simp [isHexDigit, Char.le_def, UInt32.le_iff_toNat_le, or_assoc]

/--
A digit continues a word, so that a run of digits is never cut at a word
boundary.
-/
theorem isWord_of_isHexDigit {c : Char} (digit : isHexDigit c = true) :
    Unicode.isWord c = true := by
  rw [isHexDigit_iff] at digit
  have ascii : c.toNat < 128 := by
    omega
  have letterOrDigit : c.isAlphanum = true := by
    change
      ((decide (c.val ≥ 'A'.val ∧ c.val ≤ 'Z'.val) ||
          (c.val ≥ 'a'.val && c.val ≤ 'z'.val)) ||
        (c.val ≥ '0'.val && c.val ≤ '9'.val)) = true
    simp only [Bool.or_eq_true, Bool.and_eq_true, decide_eq_true_eq, ge_iff_le,
      UInt32.le_iff_toNat_le]
    simp
    omega
  simp [Unicode.isWord, ascii, letterOrDigit]

end SheetLint.Color
