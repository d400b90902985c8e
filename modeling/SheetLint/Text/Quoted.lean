import SheetLint.Unicode.Visible

namespace SheetLint.Text

/-!
# Quoted literals

Messages show a text between double quotes, in a form that tells any two texts
apart: quotes, backslashes and the common controls get an escape of two
characters, anything else without a glyph of its own gets its code point in
braces.
-/

/-- The code point of `c` as an escape. -/
def codeEscape (c : Char) : List Char :=
  ['\\', 'u', '\x7b'] ++ Nat.toDigits 16 c.toNat ++ ['\x7d']

/-- One character inside a literal. -/
def literalChar (c : Char) : List Char :=
  if c = '\x00' then ['\\', '0']
  else if c = '\t' then ['\\', 't']
  else if c = '\n' then ['\\', 'n']
  else if c = '\r' then ['\\', 'r']
  else if c = '"' then ['\\', '"']
  else if c = '\\' then ['\\', '\\']
  else if Unicode.isVisible c then [c]
  else codeEscape c

/-- The literal of a string. -/
def literal (text : List Char) : List Char :=
  '"' :: (text.flatMap literalChar ++ ['"'])

end SheetLint.Text
