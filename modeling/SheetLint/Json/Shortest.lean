namespace SheetLint.Json

/-!
# Shortest decimal text of a binary64 value

A finite binary64 value stands for an interval of reals, those that round to it.
Its text is the decimal with the fewest digits in that interval, and of two such
decimals the one nearer to the value.  The search runs over the grids of
multiples of a power of ten, from the coarsest to the finest, in exact natural
number arithmetic.
-/

/-- The magnitude `mantissa * 2 ^ power` of a finite binary64 value. -/
structure Magnitude where
  mantissa : Nat
  power : Int
  /-- Whether the gap below the value is half the gap above it. -/
  narrowBelow : Bool
  deriving Repr, DecidableEq

/-- The decimal `digits * 10 ^ power`. -/
structure Decimal where
  digits : Nat
  power : Int
  deriving Repr, DecidableEq

namespace Magnitude

/-- The magnitude in the bits of a finite value. -/
def ofBits (bits : UInt64) : Magnitude :=
  let hidden := Nat.pow 2 52
  let field := bits.toNat / hidden % Nat.pow 2 11
  let low := bits.toNat % hidden
  if field = 0 then
    ⟨low, -1074, false⟩
  else
    ⟨hidden + low, (field : Int) - 1075, low = 0 && 1 < field⟩

/--
The numerator and denominator of a quarter of the value's last place, over `10 ^
power`.
-/
def quarter (magnitude : Magnitude) (power : Int) : Nat × Nat :=
  let exponent := magnitude.power - 2
  (Nat.pow 2 exponent.toNat * Nat.pow 10 (-power).toNat,
    Nat.pow 2 (-exponent).toNat * Nat.pow 10 power.toNat)

/-- Whether `count * 10 ^ power` rounds to the value. -/
def holds (magnitude : Magnitude) (power : Int) (count : Nat) : Bool :=
  let (unit, denominator) := magnitude.quarter power
  let point := count * denominator
  let low :=
    (4 * magnitude.mantissa - if magnitude.narrowBelow then 1 else 2) * unit
  let high := (4 * magnitude.mantissa + 2) * unit
  if magnitude.mantissa % 2 = 0 then
    low ≤ point && point ≤ high
  else
    low < point && point < high

/--
The multiple of `10 ^ power` that rounds to the value, the nearer one if there
are two.
-/
def gridPoint? (magnitude : Magnitude) (power : Int) : Option Decimal :=
  let (unit, denominator) := magnitude.quarter power
  let value := 4 * magnitude.mantissa * unit
  let below := value / denominator
  let twiceRest := 2 * (value % denominator)
  let upper :=
    denominator < twiceRest || (denominator = twiceRest && below % 2 = 1)
  let lowerFits := below != 0 && magnitude.holds power below
  let upperFits := magnitude.holds power (below + 1)
  if lowerFits && !(upperFits && upper) then
    some ⟨below, power⟩
  else if upperFits then
    some ⟨below + 1, power⟩
  else
    none

/--
The shortest decimal that rounds to the value.  The grid of `10 ^ 309` is
coarser than any value needs, and 640 grids reach below the least value.
-/
def shortest (magnitude : Magnitude) : Decimal :=
  let point? (index : Nat) : Option Decimal :=
    magnitude.gridPoint? (309 - (index : Int))
  ((List.range 640).findSome? point?).getD ⟨0, 0⟩

end Magnitude

namespace Decimal

/--
The text of a positive decimal: positional where its first digit stands for `10
^ -5` up to `10 ^ 15`, always with a decimal point; otherwise with a signed
exponent, and with a point only where there are more digits than one.
-/
def text (decimal : Decimal) : List Char :=
  let digits := (Nat.repr decimal.digits).toList
  let lead := decimal.power + digits.length - 1
  if 0 ≤ decimal.power && lead ≤ 15 then
    digits ++ List.replicate decimal.power.toNat '0' ++ ['.', '0']
  else if 0 ≤ lead && lead ≤ 15 then
    digits.take (lead.toNat + 1) ++ '.' :: digits.drop (lead.toNat + 1)
  else if -5 ≤ lead && lead < 0 then
    '0' :: '.' :: (List.replicate (-lead - 1).toNat '0' ++ digits)
  else
    digits.take 1 ++ (if 1 < digits.length then '.' :: digits.drop 1 else []) ++
      'e' :: (if lead < 0 then '-' else '+') :: (Nat.repr lead.natAbs).toList

end Decimal

/-- The text of the finite binary64 value with the given bits. -/
def binaryText (bits : UInt64) : List Char :=
  let magnitude := Magnitude.ofBits bits
  let unsigned :=
    if magnitude.mantissa = 0 then ['0', '.', '0'] else magnitude.shortest.text
  if bits.toNat < Nat.pow 2 63 then unsigned else '-' :: unsigned

end SheetLint.Json
