import SheetLint.Text.Slice

namespace SheetLint.Quote

/-!
# Quoted strings in a property value

A quoted string reaches from a quote to the next quote of the same kind;
whatever stands between them, quotes of the other kind included, belongs to it.
A quote without a later one of its kind opens nothing and stays an ordinary
character.
-/

/-- Whether `c` opens and closes quoted strings. -/
def isQuote (c : Char) : Bool :=
  c == '"' || c == '\''

/--
The text outside quoted strings, where `inside` is the quote of the string that
is open.
-/
def maskFrom : Option Char → List Char → List Char
  | _, [] =>
      []
  | some quote, c :: rest =>
      if c = quote then maskFrom none rest else maskFrom (some quote) rest
  | none, c :: rest =>
      if isQuote c && rest.contains c then
        maskFrom (some c) rest
      else
        c :: maskFrom none rest

/-- The text without its quoted strings. -/
def maskChars (text : List Char) : List Char :=
  maskFrom none text

/-- The value without its quoted strings, quotes included. -/
def mask (value : String) : String :=
  String.ofList (maskChars value.toList)

/-- Whether `quote` stands at both ends of a text of two characters or more. -/
def encloses (quote : Char) (text : List Char) : Bool :=
  2 ≤ Text.byteLength text && text.head? == some quote &&
    text.getLast? == some quote

/--
The byte offsets of the part of a text that remains when enclosing quotes are
taken off.
-/
def interior (text : List Char) : Nat × Nat :=
  if encloses '"' text || encloses '\'' text then
    (1, Text.byteLength text - 1)
  else
    (0, Text.byteLength text)

/-- The value without one pair of quotes around it, if there is one. -/
def strip (value : String) : String :=
  let (start, stop) := interior value.toList
  match Text.slice? start stop value.toList with
  | some text =>
      String.ofList text
  | none =>
      value

end SheetLint.Quote
