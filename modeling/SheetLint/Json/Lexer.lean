import SheetLint.Json.Lexeme

namespace SheetLint.Json

/-!
# Reading lexemes

The lexer takes one character at a time.  Its state says what it is in the
middle of, and each step gives the lexemes that the character completes.  Where
no lexeme can be made out it gives the lexeme `bad` and nothing after it, so
that the lexemes before a fault do not depend on the text behind it.
-/

/-- The part of a number that its last character belongs to. -/
inductive Place where
  | sign
  | zero
  | whole
  | point
  | fraction
  | mark
  | markSign
  | exponent
  deriving Repr, DecidableEq

/-- What the lexer is in the middle of. -/
inductive Stance where
  | gap
  /-- A word of which `rest` is still to come. -/
  | word (rest : List Char) (lexeme : Lexeme)
  /-- A number, with the digits of each part read so far in reverse. -/
  | numeral (place : Place) (sofar : Numeral)
  /-- A string, with the code points and surrogates read so far in reverse. -/
  | body (units : List Nat)
  /-- A string after a backslash. -/
  | escape (units : List Nat)
  /-- A string inside a four-digit escape, with `left` digits to come. -/
  | hex (units : List Nat) (left value : Nat)
  /-- Behind a fault. -/
  | stuck
  deriving Repr, DecidableEq

/-- The value of a decimal digit. -/
def digit? (c : Char) : Option Nat :=
  if '0' ≤ c && c ≤ '9' then some (c.toNat - 48) else none

/-- The value of a hexadecimal digit of either case. -/
def hexDigit? (c : Char) : Option Nat :=
  if '0' ≤ c && c ≤ '9' then some (c.toNat - 48)
  else if 'a' ≤ c && c ≤ 'f' then some (c.toNat - 87)
  else if 'A' ≤ c && c ≤ 'F' then some (c.toNat - 55)
  else none

/-- Whether `c` may stand between lexemes. -/
def isGap (c : Char) : Bool :=
  c == ' ' || c == '\n' || c == '\t' || c == '\r'

/-- The code point that a one-letter escape stands for. -/
def shortEscape? (c : Char) : Option Nat :=
  if c = '"' then some 0x22
  else if c = '\\' then some 0x5C
  else if c = '/' then some 0x2F
  else if c = 'b' then some 0x08
  else if c = 'f' then some 0x0C
  else if c = 'n' then some 0x0A
  else if c = 'r' then some 0x0D
  else if c = 't' then some 0x09
  else none

/-- Whether `unit` is the first half of a surrogate pair. -/
def isHighSurrogate (unit : Nat) : Bool :=
  0xD800 ≤ unit && unit < 0xDC00

/-- Whether `unit` is the second half of a surrogate pair. -/
def isLowSurrogate (unit : Nat) : Bool :=
  0xDC00 ≤ unit && unit < 0xE000

/--
The characters of a string; none where half a surrogate pair stands alone.
-/
def joinUnits : List Nat → Option (List Char)
  | [] =>
      some []
  | high :: low :: rest =>
      if isHighSurrogate high then
        if isLowSurrogate low then
          (joinUnits rest).map
            (Char.ofNat
              (0x10000 + (high - 0xD800) * 0x400 + (low - 0xDC00)) :: ·)
        else
          none
      else if isLowSurrogate high then
        none
      else
        (joinUnits (low :: rest)).map (Char.ofNat high :: ·)
  | [unit] =>
      if isHighSurrogate unit || isLowSurrogate unit then
        none
      else
        some [Char.ofNat unit]

/-- The string lexeme of the units read in reverse. -/
def Lexeme.ofUnits (units : List Nat) : Lexeme :=
  .text ((joinUnits units.reverse).map String.ofList)

/-- The number lexeme of a numeral whose parts were read in reverse. -/
def Lexeme.ofNumeral (sofar : Numeral) : Lexeme :=
  .number
    (Numeral.value?
      { sofar with
        whole := sofar.whole.reverse
        fraction := sofar.fraction.reverse
        exponent := sofar.exponent.reverse })

/-- A numeral before its first digit. -/
def Numeral.start (negative : Bool) : Numeral :=
  ⟨negative, [], [], false, [], true⟩

/-- What one more character does to a number. -/
inductive Growth where
  | grown (place : Place) (sofar : Numeral)
  | complete
  | broken
  deriving Repr, DecidableEq

/--
The number after a character that may begin its fraction or its exponent or end
it.
-/
def Numeral.leaveWhole (sofar : Numeral) (c : Char) : Growth :=
  if c = '.' then .grown .point { sofar with plain := false }
  else if c = 'e' || c = 'E' then .grown .mark { sofar with plain := false }
  else .complete

/-- One more character of a number. -/
def Numeral.grow (place : Place) (sofar : Numeral) (c : Char) : Growth :=
  match place, digit? c with
  | .sign, some 0 =>
      .grown .zero { sofar with whole := [0] }
  | .sign, some digit =>
      .grown .whole { sofar with whole := [digit] }
  | .zero, some _ =>
      .broken
  | .whole, some digit =>
      .grown .whole { sofar with whole := digit :: sofar.whole }
  | .point, some digit | .fraction, some digit =>
      .grown .fraction { sofar with fraction := digit :: sofar.fraction }
  | .mark, some digit | .markSign, some digit | .exponent, some digit =>
      .grown .exponent { sofar with exponent := digit :: sofar.exponent }
  | .zero, none | .whole, none =>
      sofar.leaveWhole c
  | .fraction, none =>
      if c = 'e' || c = 'E' then .grown .mark sofar else .complete
  | .mark, none =>
      if c = '+' then .grown .markSign sofar
      else if c = '-' then
        .grown .markSign { sofar with exponentNegative := true }
      else .broken
  | .exponent, none =>
      .complete
  | .sign, none | .point, none | .markSign, none =>
      .broken

/-- Whether a number may end after the given part. -/
def Place.mayEnd : Place → Bool
  | .zero | .whole | .fraction | .exponent => true
  | .sign | .point | .mark | .markSign => false

/-- A character between lexemes. -/
def stepGap (c : Char) : List Lexeme × Stance :=
  if isGap c then ([], .gap)
  else if c = '[' then ([.openArray], .gap)
  else if c = ']' then ([.closeArray], .gap)
  else if c = '\x7b' then ([.openObject], .gap)
  else if c = '\x7d' then ([.closeObject], .gap)
  else if c = ',' then ([.comma], .gap)
  else if c = ':' then ([.colon], .gap)
  else if c = '"' then ([], .body [])
  else if c = 'n' then ([], .word ['u', 'l', 'l'] .null)
  else if c = 't' then ([], .word ['r', 'u', 'e'] (.bool true))
  else if c = 'f' then ([], .word ['a', 'l', 's', 'e'] (.bool false))
  else if c = '-' then ([], .numeral .sign (.start true))
  else
    match Numeral.grow .sign (.start false) c with
    | .grown place sofar =>
        ([], .numeral place sofar)
    | .complete | .broken =>
        ([.bad], .stuck)

/-- One character: the lexemes that it completes and the state after it. -/
def Stance.step : Stance → Char → List Lexeme × Stance
  | .gap, c =>
      stepGap c
  | .word (expected :: rest) lexeme, c =>
      if c = expected then
        if rest.isEmpty then ([lexeme], .gap) else ([], .word rest lexeme)
      else
        ([.bad], .stuck)
  | .word [] _, _ =>
      ([.bad], .stuck)
  | .numeral place sofar, c =>
      match sofar.grow place c with
      | .grown place sofar =>
          ([], .numeral place sofar)
      | .complete =>
          (.ofNumeral sofar :: (stepGap c).1, (stepGap c).2)
      | .broken =>
          ([.bad], .stuck)
  | .body units, c =>
      if c = '"' then ([.ofUnits units], .gap)
      else if c = '\\' then ([], .escape units)
      else if c.toNat < 0x20 then ([.bad], .stuck)
      else ([], .body (c.toNat :: units))
  | .escape units, c =>
      if c = 'u' then
        ([], .hex units 4 0)
      else
        match shortEscape? c with
        | some unit =>
            ([], .body (unit :: units))
        | none =>
            ([.bad], .stuck)
  | .hex units left value, c =>
      match hexDigit? c with
      | some digit =>
          if left ≤ 1 then
            ([], .body ((value * 16 + digit) :: units))
          else
            ([], .hex units (left - 1) (value * 16 + digit))
      | none =>
          ([.bad], .stuck)
  | .stuck, _ =>
      ([], .stuck)

/-- The lexemes that the end of the text completes. -/
def Stance.finish : Stance → List Lexeme
  | .gap | .stuck =>
      []
  | .numeral place sofar =>
      if place.mayEnd then [.ofNumeral sofar] else [.bad]
  | .word _ _ | .body _ | .escape _ | .hex _ _ _ =>
      [.bad]

/-- The lexemes of a text that goes on from the given state. -/
def lexFrom : Stance → List Char → List Lexeme
  | stance, [] =>
      stance.finish
  | stance, c :: rest =>
      (stance.step c).1 ++ lexFrom (stance.step c).2 rest

/-- The lexemes of a text. -/
def lex (text : List Char) : List Lexeme :=
  lexFrom .gap text

end SheetLint.Json
