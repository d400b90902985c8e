import SheetLint.Proofs.Unicode.SmallLetters
import SheetLint.Proofs.Value.Run
import SheetLint.Text.Slice

namespace SheetLint.Color

/-!
# The colour of a literal

A literal stands for an amount of red, of green and of blue, written with two
hexadecimal digits each, or with one that counts twice.  Whether its letters are
capital or small makes no difference.  The shortest form of a literal stands for
the same colour.
-/

/--
The value of a hexadecimal digit, by the code points of `0` to `9`, `a` to `f`
and `A` to `F`.
-/
def digitValue? (c : Char) : Option (Fin 16) :=
  if number : 48 ≤ c.toNat ∧ c.toNat ≤ 57 then
    some ⟨c.toNat - 48, by omega⟩
  else if small : 97 ≤ c.toNat ∧ c.toNat ≤ 102 then
    some ⟨c.toNat - 97 + 10, by omega⟩
  else if capital : 65 ≤ c.toNat ∧ c.toNat ≤ 70 then
    some ⟨c.toNat - 65 + 10, by omega⟩
  else
    none

/-- The number that two digits write. -/
def channel? (high low : Char) : Option (Fin 256) :=
  match digitValue? high, digitValue? low with
  | some high, some low =>
      some ⟨16 * high + low, by omega⟩
  | _, _ =>
      none

/-- A colour as amounts of red, green and blue. -/
structure Rgb where
  red : Fin 256
  green : Fin 256
  blue : Fin 256
  deriving Repr, DecidableEq

/-- The colour of six digits, two for each of red, green and blue. -/
def Rgb.ofDigits? (red red' green green' blue blue' : Char) : Option Rgb :=
  match channel? red red', channel? green green', channel? blue blue' with
  | some red, some green, some blue =>
      some ⟨red, green, blue⟩
  | _, _, _ =>
      none

/-- The colour that a literal stands for; three digits are doubled. -/
def rgb? : List Char → Option Rgb
  | ['#', red, green, blue] =>
      Rgb.ofDigits? red red green green blue blue
  | ['#', red, red', green, green', blue, blue'] =>
      Rgb.ofDigits? red red' green green' blue blue'
  | _ =>
      none

/-! ## Which texts stand for a colour -/

theorem digitValue?_eq_some_iff
    {c : Char}
    {value : Fin 16} :
    digitValue? c = some value ↔
      (48 ≤ c.toNat ∧ c.toNat ≤ 57 ∧ c.toNat = value + 48) ∨
        (97 ≤ c.toNat ∧ c.toNat ≤ 102 ∧ c.toNat = value + 87) ∨
          (65 ≤ c.toNat ∧ c.toNat ≤ 70 ∧ c.toNat = value + 55) := by
  fun_cases digitValue? c with
  | case1 number =>
      simp [Fin.ext_iff]
      omega
  | case2 _ small =>
      simp [Fin.ext_iff]
      omega
  | case3 _ _ capital =>
      simp [Fin.ext_iff]
      omega
  | case4 =>
      simp
      omega

theorem isSome_digitValue?
    (c : Char) :
    (digitValue? c).isSome = isHexDigit c := by
  rw [Bool.eq_iff_iff, isHexDigit_iff]
  fun_cases digitValue? c <;>
    simp <;>
    omega

theorem isSome_channel?
    (high low : Char) :
    (channel? high low).isSome = (isHexDigit high && isHexDigit low) := by
  rw [← isSome_digitValue?, ← isSome_digitValue?, channel?]
  cases digitValue? high <;> cases digitValue? low <;> rfl

theorem isSome_ofDigits?
    (red red' green green' blue blue' : Char) :
    (Rgb.ofDigits? red red' green green' blue blue').isSome =
      [red, red', green, green', blue, blue'].all isHexDigit := by
  have channels :
      (Rgb.ofDigits? red red' green green' blue blue').isSome =
        ((channel? red red').isSome && (channel? green green').isSome &&
          (channel? blue blue').isSome) := by
    rw [Rgb.ofDigits?]
    cases channel? red red' <;> cases channel? green green' <;>
      cases channel? blue blue' <;> rfl
  simp [channels, isSome_channel?, Bool.and_assoc]

/-- A literal has one digit for each of red, green and blue, or two. -/
theorem shape_of_isLiteralChars
    {text : List Char}
    (literal : isLiteralChars text = true) :
    (∃ red green blue, text = ['#', red, green, blue]) ∨
      ∃ red red' green green' blue blue',
        text = ['#', red, red', green, green', blue, blue'] := by
  obtain ⟨digits, rfl, three | six, -⟩ := isLiteralChars_iff.mp literal
  · match digits, three with
    | [red, green, blue], _ =>
        exact .inl ⟨red, green, blue, rfl⟩
  · match digits, six with
    | [red, red', green, green', blue, blue'], _ =>
        exact .inr ⟨red, red', green, green', blue, blue', rfl⟩

/-- A text stands for a colour exactly if it is a literal. -/
theorem isSome_rgb?
    (text : List Char) :
    (rgb? text).isSome = isLiteralChars text := by
  unfold rgb?
  split
  · simp [isSome_ofDigits?, isLiteralChars]
  · simp [isSome_ofDigits?, isLiteralChars]
  · next notThree notSix =>
      have noLiteral : ¬ isLiteralChars text = true := by
        intro literal
        obtain ⟨red, green, blue, rfl⟩ |
            ⟨red, red', green, green', blue, blue', rfl⟩ :=
          shape_of_isLiteralChars literal
        · exact notThree red green blue rfl
        · exact notSix red red' green green' blue blue' rfl
      simpa using noLiteral

/-! ## Lower case -/

theorem digitValue?_toLower
    (c : Char) :
    digitValue? c.toLower = digitValue? c := by
  ext value
  rw [digitValue?_eq_some_iff, digitValue?_eq_some_iff, Unicode.toNat_toLower]
  split <;> omega

theorem ofDigits?_toLower
    (red red' green green' blue blue' : Char) :
    Rgb.ofDigits? red.toLower red'.toLower green.toLower green'.toLower
        blue.toLower blue'.toLower =
      Rgb.ofDigits? red red' green green' blue blue' := by
  simp only [Rgb.ofDigits?, channel?, digitValue?_toLower]

/-- The case of its letters does not change the colour of a literal. -/
theorem rgb?_map_toLower
    {text : List Char}
    (literal : isLiteralChars text = true) :
    rgb? (text.map Char.toLower) = rgb? text := by
  obtain ⟨red, green, blue, rfl⟩ |
      ⟨red, red', green, green', blue, blue', rfl⟩ :=
    shape_of_isLiteralChars literal
  · exact ofDigits?_toLower red red green green blue blue
  · exact ofDigits?_toLower red red' green green' blue blue'

theorem ascii_of_isLiteralChars
    {text : List Char}
    (literal : isLiteralChars text = true) :
    ∀ c ∈ text, c.toNat < 128 := by
  obtain ⟨digits, rfl, -, hex⟩ := isLiteralChars_iff.mp literal
  rw [List.forall_mem_cons]
  refine ⟨by decide, fun c member => ?_⟩
  have bounds := isHexDigit_iff.mp (hex c member)
  omega

/-! ## Condensation -/

/-- The characters that are kept of a colour before they are lower-cased. -/
def kept (text : List Char) : List Char :=
  if isCondensableChars text then condensed text else text

theorem value_shortestForm
    (value : String) :
    (shortestForm value).value =
      String.ofList (Unicode.lower (kept value.toList)) := by
  unfold shortestForm kept isCondensable
  split <;> rfl

/--
What can be condensed is a character and three pairs, of which one character
each is kept.
-/
theorem shape_of_isCondensableChars
    {text : List Char}
    (condensable : isCondensableChars text = true) :
    ∃ sign red green blue,
      text = [sign, red, red, green, green, blue, blue] ∧
        kept text = [sign, red, green, blue] := by
  have shape := condensable
  unfold isCondensableChars at shape
  split at shape
  · next sign red red' green green' blue blue' =>
      rw [kept, if_pos condensable]
      simp only [Bool.and_eq_true, beq_iff_eq] at shape
      obtain ⟨⟨rfl, rfl⟩, rfl⟩ := shape
      exact ⟨sign, red, green, blue, rfl, rfl⟩
  · contradiction

theorem kept_of_not_condensable
    {text : List Char}
    (notCondensable : isCondensableChars text = false) :
    kept text = text := by
  rw [kept, notCondensable, if_neg Bool.false_ne_true]

/-- Half of the digits are enough where every pair is a doubled digit. -/
theorem rgb?_kept
    {text : List Char}
    (literal : isLiteralChars text = true) :
    rgb? (kept text) = rgb? text := by
  obtain ⟨red, green, blue, rfl⟩ |
      ⟨red, red', green, green', blue, blue', rfl⟩ :=
    shape_of_isLiteralChars literal
  · rfl
  · by_cases condensable :
        isCondensableChars ['#', red, red', green, green', blue, blue'] = true
    · rw [kept, if_pos condensable]
      simp only [isCondensableChars, Bool.and_eq_true, beq_iff_eq]
        at condensable
      obtain ⟨⟨rfl, rfl⟩, rfl⟩ := condensable
      rfl
    · rw [kept, if_neg condensable]

theorem isLiteralChars_kept
    {text : List Char}
    (literal : isLiteralChars text = true) :
    isLiteralChars (kept text) = true := by
  rw [← isSome_rgb?, rgb?_kept literal, isSome_rgb?, literal]

theorem length_kept
    {text : List Char}
    (literal : isLiteralChars text = true) :
    (kept text).length ≤ text.length ∧
      ((kept text).length < text.length ↔ isCondensableChars text = true) := by
  obtain ⟨red, green, blue, rfl⟩ |
      ⟨red, red', green, green', blue, blue', rfl⟩ :=
    shape_of_isLiteralChars literal
  · simp [kept, isCondensableChars]
  · by_cases condensable :
        isCondensableChars ['#', red, red', green, green', blue, blue'] = true
    · simp [kept, condensable, condensed]
    · simp [kept, condensable]

/--
The shortest form of a colour is a colour without capital letters, the same one.
It never takes more bytes, and fewer exactly if the colour can be condensed.
-/
theorem shortestForm_same_color
    {value : String}
    (literal : isLiteral value = true) :
    isLiteral (shortestForm value).value = true ∧
      (∀ c ∈ (shortestForm value).value.toList, c.isUpper = false) ∧
      (∃ color,
        rgb? (shortestForm value).value.toList = some color ∧
          rgb? value.toList = some color) ∧
      (shortestForm value).value.utf8ByteSize ≤ value.utf8ByteSize ∧
      ((shortestForm value).value.utf8ByteSize < value.utf8ByteSize ↔
        isCondensable value = true) := by
  have keptLiteral : isLiteralChars (kept value.toList) = true :=
    isLiteralChars_kept literal
  have chars :
      (shortestForm value).value.toList =
        (kept value.toList).map Char.toLower := by
    rw [value_shortestForm, String.toList_ofList,
      Unicode.lower_of_ascii (ascii_of_isLiteralChars keptLiteral)]
  have sameColor :
      rgb? (shortestForm value).value.toList = rgb? value.toList := by
    rw [chars, rgb?_map_toLower keptLiteral, rgb?_kept literal]
  have shortLiteral : isLiteral (shortestForm value).value = true := by
    rw [isLiteral, ← isSome_rgb?, sameColor, isSome_rgb?]
    exact literal
  have bytes {text : String} (literal : isLiteral text = true) :
      text.utf8ByteSize = text.toList.length := by
    rw [← Text.byteLength_of_ascii (ascii_of_isLiteralChars literal),
      ← Text.utf8ByteSize_ofList, String.ofList_toList]
  refine ⟨shortLiteral, ?_, ?_, ?_⟩
  · intro c member
    rw [chars] at member
    obtain ⟨d, -, rfl⟩ := List.mem_map.mp member
    exact Unicode.isUpper_toLower d
  · have stands : (rgb? value.toList).isSome = true := by
      rw [isSome_rgb?]
      exact literal
    obtain ⟨color, same⟩ := Option.isSome_iff_exists.mp stands
    exact ⟨color, sameColor.trans same, same⟩
  · rw [bytes shortLiteral, bytes literal, chars, List.length_map]
    exact length_kept literal

/-- Capital letters in pairs are condensed and become small. -/
theorem shortestForm_same_color_of_pairs :
    isLiteral "#AA33cc" = true ∧
      (∃ color,
        rgb? (shortestForm "#AA33cc").value.toList = some color ∧
          rgb? "#AA33cc".toList = some color) ∧
      (shortestForm "#AA33cc").value.utf8ByteSize < "#AA33cc".utf8ByteSize := by
  have literal : isLiteral "#AA33cc" = true := by
    decide
  obtain ⟨-, -, sameColor, -, shorter⟩ := shortestForm_same_color literal
  exact ⟨literal, sameColor, shorter.mpr (by decide)⟩

end SheetLint.Color
