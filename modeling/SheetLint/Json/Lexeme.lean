import SheetLint.Json.Basic

namespace SheetLint.Json

/-!
# Lexemes

The pieces of a JSON text: marks, words, numbers and strings.  A number out of
range and a string with half a surrogate pair are lexemes of their own kind,
because a reader that skips them need not refuse them.
-/

/-- A piece of a JSON text. -/
inductive Lexeme where
  | openArray
  | closeArray
  | openObject
  | closeObject
  | comma
  | colon
  | null
  | bool (value : Bool)
  /-- A number, without a value where it is out of range. -/
  | number (value : Option Number)
  /-- A string, without a value where half a surrogate pair stands in it. -/
  | text (value : Option String)
  /-- The place where no lexeme can be made out. -/
  | bad
  deriving Repr, DecidableEq

/-- A hexadecimal digit in lower case. -/
def hexDigit (value : Nat) : Char :=
  if value < 10 then Char.ofNat (48 + value) else Char.ofNat (87 + value)

/--
One character inside a written string: only quotes, backslashes and controls are
escaped.
-/
def escaped (c : Char) : List Char :=
  if c = '"' then ['\\', '"']
  else if c = '\\' then ['\\', '\\']
  else if c = '\x08' then ['\\', 'b']
  else if c = '\x0c' then ['\\', 'f']
  else if c = '\n' then ['\\', 'n']
  else if c = '\r' then ['\\', 'r']
  else if c = '\t' then ['\\', 't']
  else if c.toNat < 0x20 then
    ['\\', 'u', '0', '0', hexDigit (c.toNat / 16), hexDigit (c.toNat % 16)]
  else [c]

/-- A string with its quotes. -/
def quoted (value : String) : List Char :=
  '"' :: (value.toList.flatMap escaped ++ ['"'])

/-- The compact written form of a lexeme that has a value. -/
def Lexeme.write : Lexeme → List Char
  | .openArray => ['[']
  | .closeArray => [']']
  | .openObject => ['\x7b']
  | .closeObject => ['\x7d']
  | .comma => [',']
  | .colon => [':']
  | .null => ['n', 'u', 'l', 'l']
  | .bool true => ['t', 'r', 'u', 'e']
  | .bool false => ['f', 'a', 'l', 's', 'e']
  | .number value => (value.map Number.text).getD []
  | .text value => (value.map quoted).getD []
  | .bad => []

end SheetLint.Json
