import SheetLint.Json.Shortest

namespace SheetLint.Json

/-!
# Numbers

A JSON number has a written form, the digits of its parts, and a value.  Written
with whole digits only and inside the ranges of 64-bit words it is an exact
integer; anything else becomes a binary64 value, or none where that value would
be infinite.
-/

/-- The value of a number: exact, or the bits of a finite binary64 value. -/
inductive Number where
  | whole (value : Int)
  | binary (bits : UInt64)
  deriving Repr, DecidableEq

/-- The text of a number. -/
def Number.text : Number → List Char
  | .whole value =>
      (if value < 0 then ['-'] else []) ++ (Nat.repr value.natAbs).toList
  | .binary bits =>
      binaryText bits

/--
The written form of a number; each list holds the digits of one part, the first
one first.
-/
structure Numeral where
  negative : Bool
  whole : List Nat
  fraction : List Nat
  exponentNegative : Bool
  exponent : List Nat
  /-- Whether the number is written with whole digits only. -/
  plain : Bool
  deriving Repr, DecidableEq

/-- The largest word that collects digits. -/
def wordLimit : Nat := Nat.pow 2 64 - 1

/--
Append digits to `significand` while it stays within a word; the rest is left
over.
-/
def collect (significand : Nat) : List Nat → Nat × List Nat
  | [] =>
      (significand, [])
  | digit :: rest =>
      if significand * 10 + digit ≤ wordLimit then
        collect (significand * 10 + digit) rest
      else
        (significand, digit :: rest)

/-- The number that a list of digits denotes. -/
def ofDigits (digits : List Nat) : Nat :=
  digits.foldl (fun total digit => total * 10 + digit) 0

/-- The product `significand * 10 ^ scale`, where the significand is a word. -/
structure Scaled where
  significand : Nat
  scale : Int
  deriving Repr, DecidableEq

/-- The power `10 ^ exponent` as a binary64 value, for an exponent up to 308. -/
def powerOfTen (exponent : Nat) : Float :=
  Float.ofScientific 1 false exponent

/--
The product as a binary64 value, rounded after the conversion of the significand
and after each multiplication or division by a power of ten; none where it
overflows.
-/
def Scaled.toFloat? (scaled : Scaled) : Option Float :=
  let significand := (UInt64.ofNat scaled.significand).toFloat
  let shift := scaled.scale.natAbs
  if 0 ≤ scaled.scale then
    if shift ≤ 308 then
      let product := significand * powerOfTen shift
      if product.isInf then none else some product
    else if scaled.significand = 0 then
      some 0
    else
      none
  else if shift ≤ 308 then
    some (significand / powerOfTen shift)
  else if shift ≤ 616 then
    some (significand / powerOfTen 308 / powerOfTen (shift - 308))
  else
    some 0

namespace Numeral

/--
The significand and scale of a numeral.  Whole digits beyond a word only raise
the scale, and fraction digits beyond a word are dropped.
-/
def scaled (numeral : Numeral) : Scaled :=
  let (wholePart, wholeRest) := collect 0 numeral.whole
  let (significand, fractionRest) := collect wholePart numeral.fraction
  let used := numeral.fraction.length - fractionRest.length
  let exponent : Int := ofDigits numeral.exponent
  let written := if numeral.exponentNegative then -exponent else exponent
  ⟨significand, wholeRest.length - used + written⟩

/--
The exact integer that a numeral denotes: whole digits only, at most the largest
word, or at least the least signed word and not a negative zero.
-/
def whole? (numeral : Numeral) : Option Int :=
  let size := ofDigits numeral.whole
  if !numeral.plain then
    none
  else if numeral.negative then
    if 0 < size && size ≤ Nat.pow 2 63 then some (-size) else none
  else
    if size ≤ wordLimit then some size else none

/-- The value of a numeral; none where it is out of range. -/
def value? (numeral : Numeral) : Option Number :=
  match numeral.whole? with
  | some value =>
      some (.whole value)
  | none =>
      numeral.scaled.toFloat?.map fun value =>
        .binary (if numeral.negative then -value else value).toBits

end Numeral

end SheetLint.Json
