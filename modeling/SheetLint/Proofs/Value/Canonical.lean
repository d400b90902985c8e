import SheetLint.Proofs.Value.Rgb

namespace SheetLint.Color

/-!
# Canonical forms of colours

A colour can be written with three digits or with six, and each letter in two
cases.  Spelled out with six small digits, all its spellings are one text, and
the shortest form is what this text condenses to.  The exception are spellings
that write the two digits of a pair in different cases: these are not condensed,
because only equal characters make a pair.
-/

/--
Whether each pair of six digits writes one digit twice, and some pair in two
different cases.
-/
def isMixedDoubled : List Char → Bool
  | [_, red, red', green, green', blue, blue'] =>
      (red.toLower == red'.toLower && green.toLower == green'.toLower &&
          blue.toLower == blue'.toLower) &&
        (red != red' || green != green' || blue != blue')
  | _ =>
      false

/--
The sign and two digits for each of red, green and blue, where there was one.
-/
def doubled : List Char → List Char
  | [sign, red, green, blue] =>
      [sign, red, red, green, green, blue, blue]
  | text =>
      text

/-- The literal with six small digits. -/
def spelledOut (text : List Char) : List Char :=
  (doubled text).map Char.toLower

/-! ## Digits and their values -/

/-- A digit is determined by its value up to its case. -/
theorem toLower_eq_of_digitValue?
    {c d : Char}
    {value : Fin 16}
    (first : digitValue? c = some value)
    (second : digitValue? d = some value) :
    c.toLower = d.toLower := by
  rw [digitValue?_eq_some_iff] at first second
  rw [← Char.toNat_inj, Unicode.toNat_toLower, Unicode.toNat_toLower]
  split <;> split <;> omega

theorem digits_of_channel?
    {high low : Char}
    {amount : Fin 256}
    (written : channel? high low = some amount) :
    ∃ highValue lowValue,
      digitValue? high = some highValue ∧ digitValue? low = some lowValue ∧
        amount.val = 16 * highValue + lowValue := by
  unfold channel? at written
  split at written
  · next highValue lowValue isHigh isLow =>
      exact ⟨highValue, lowValue, isHigh, isLow,
        by rw [← Option.some.inj written]⟩
  · contradiction

theorem toLower_eq_of_channel?
    {high low high' low' : Char}
    {amount : Fin 256}
    (first : channel? high low = some amount)
    (second : channel? high' low' = some amount) :
    high.toLower = high'.toLower ∧ low.toLower = low'.toLower := by
  obtain ⟨highValue, lowValue, isHigh, isLow, sum⟩ := digits_of_channel? first
  obtain ⟨highValue', lowValue', isHigh', isLow', sum'⟩ :=
    digits_of_channel? second
  obtain rfl : highValue = highValue' := by
    omega
  obtain rfl : lowValue = lowValue' := by
    omega
  exact ⟨toLower_eq_of_digitValue? isHigh isHigh',
    toLower_eq_of_digitValue? isLow isLow'⟩

theorem channels_of_ofDigits?
    {red red' green green' blue blue' : Char}
    {color : Rgb}
    (written : Rgb.ofDigits? red red' green green' blue blue' = some color) :
    channel? red red' = some color.red ∧
      channel? green green' = some color.green ∧
      channel? blue blue' = some color.blue := by
  unfold Rgb.ofDigits? at written
  split at written
  · next isRed isGreen isBlue =>
      obtain rfl := Option.some.inj written
      exact ⟨isRed, isGreen, isBlue⟩
  · contradiction

/-! ## Literals spelled out -/

theorem exists_doubled
    {text : List Char}
    (literal : isLiteralChars text = true) :
    ∃ red red' green green' blue blue',
      doubled text = ['#', red, red', green, green', blue, blue'] ∧
        rgb? text = Rgb.ofDigits? red red' green green' blue blue' := by
  obtain ⟨red, green, blue, rfl⟩ |
      ⟨red, red', green, green', blue, blue', rfl⟩ :=
    shape_of_isLiteralChars literal
  · exact ⟨red, red, green, green, blue, blue, rfl, rfl⟩
  · exact ⟨red, red', green, green', blue, blue', rfl, rfl⟩

theorem length_spelledOut
    {text : List Char}
    (literal : isLiteralChars text = true) :
    (spelledOut text).length = 7 := by
  obtain ⟨red, red', green, green', blue, blue', shape, -⟩ :=
    exists_doubled literal
  rw [spelledOut, shape]
  rfl

theorem rgb?_spelledOut
    {text : List Char}
    (literal : isLiteralChars text = true) :
    rgb? (spelledOut text) = rgb? text := by
  obtain ⟨red, red', green, green', blue, blue', shape, sameColor⟩ :=
    exists_doubled literal
  rw [spelledOut, shape, sameColor]
  exact ofDigits?_toLower red red' green green' blue blue'

theorem spelledOut_eq_of_rgb?
    {first second : List Char}
    {color : Rgb}
    (firstColor : rgb? first = some color)
    (secondColor : rgb? second = some color) :
    spelledOut first = spelledOut second := by
  have literal {text : List Char} (stands : rgb? text = some color) :
      isLiteralChars text = true := by
    rw [← isSome_rgb?, stands]
    rfl
  obtain ⟨_, _, _, _, _, _, firstShape, firstDigits⟩ :=
    exists_doubled (literal firstColor)
  obtain ⟨_, _, _, _, _, _, secondShape, secondDigits⟩ :=
    exists_doubled (literal secondColor)
  rw [firstDigits] at firstColor
  rw [secondDigits] at secondColor
  obtain ⟨red, green, blue⟩ := channels_of_ofDigits? firstColor
  obtain ⟨red', green', blue'⟩ := channels_of_ofDigits? secondColor
  simp only [spelledOut, firstShape, secondShape, List.map_cons,
    toLower_eq_of_channel? red red', toLower_eq_of_channel? green green',
    toLower_eq_of_channel? blue blue']

/--
Spelled out, the literals of one colour are one text, and those of two colours
differ.
-/
theorem spelledOut_eq_iff
    {first second : List Char}
    (firstLiteral : isLiteralChars first = true)
    (secondLiteral : isLiteralChars second = true) :
    spelledOut first = spelledOut second ↔
      ∃ color, rgb? first = some color ∧ rgb? second = some color := by
  constructor
  · intro same
    have stands : (rgb? first).isSome = true := by
      rw [isSome_rgb?, firstLiteral]
    obtain ⟨color, firstColor⟩ := Option.isSome_iff_exists.mp stands
    refine ⟨color, firstColor, ?_⟩
    rw [← rgb?_spelledOut secondLiteral, ← same, rgb?_spelledOut firstLiteral,
      firstColor]
  · rintro ⟨color, firstColor, secondColor⟩
    exact spelledOut_eq_of_rgb? firstColor secondColor

/-! ## The shortest form -/

/-- Condensing a text of seven characters loses nothing. -/
theorem doubled_kept
    {text : List Char}
    (seven : text.length = 7) :
    doubled (kept text) = text := by
  cases condensable : isCondensableChars text with
  | true =>
      obtain ⟨sign, red, green, blue, rfl, four⟩ :=
        shape_of_isCondensableChars condensable
      rw [four]
      rfl
  | false =>
      rw [kept_of_not_condensable condensable]
      match text, seven with
      | [_, _, _, _, _, _, _], _ =>
          rfl

/-- Small letters make equal pairs of pairs in two cases, and only of them. -/
theorem not_condensable_spelledOut
    {text : List Char}
    (seven : text.length = 7)
    (notCondensable : isCondensableChars text = false)
    (unmixed : isMixedDoubled text = false) :
    isCondensableChars (spelledOut text) = false := by
  match text, seven with
  | [sign, red, red', green, green', blue, blue'], _ =>
      rw [Bool.eq_false_iff]
      intro pairs
      simp only [spelledOut, doubled, List.map_cons, List.map_nil,
        isCondensableChars, Bool.and_eq_true, beq_iff_eq] at pairs
      simp [isMixedDoubled, pairs] at unmixed
      simp [isCondensableChars, unmixed] at notCondensable

/--
Unless a pair is written in two cases, a literal condenses as its spelled-out
form does.
-/
theorem map_toLower_kept
    {text : List Char}
    (literal : isLiteralChars text = true)
    (unmixed : isMixedDoubled text = false) :
    (kept text).map Char.toLower = kept (spelledOut text) := by
  cases condensable : isCondensableChars text with
  | true =>
      obtain ⟨sign, red, green, blue, rfl, four⟩ :=
        shape_of_isCondensableChars condensable
      rw [four]
      simp [kept, spelledOut, doubled, isCondensableChars, condensed]
  | false =>
      rw [kept_of_not_condensable condensable]
      obtain ⟨red, green, blue, rfl⟩ |
          ⟨red, red', green, green', blue, blue', rfl⟩ :=
        shape_of_isLiteralChars literal
      · simp [kept, spelledOut, doubled, isCondensableChars, condensed]
      · rw [kept_of_not_condensable
            (not_condensable_spelledOut rfl condensable unmixed)]
        rfl

theorem not_condensable_of_mixedDoubled
    {text : List Char}
    (mixed : isMixedDoubled text = true) :
    isCondensableChars text = false ∧ text.length = 7 := by
  unfold isMixedDoubled at mixed
  split at mixed
  · simp only [Bool.and_eq_true, Bool.or_eq_true, bne_iff_ne] at mixed
    refine ⟨?_, rfl⟩
    rw [Bool.eq_false_iff]
    intro condensable
    simp only [isCondensableChars, Bool.and_eq_true, beq_iff_eq] at condensable
    obtain ⟨⟨sameRed, sameGreen⟩, sameBlue⟩ := condensable
    obtain ⟨-, (red | green) | blue⟩ := mixed
    · exact red sameRed
    · exact green sameGreen
    · exact blue sameBlue
  · contradiction

/--
Of literals that write no pair in two cases, those with one shortest form are
those of one colour.  A literal that does so keeps its six digits and is only
lower-cased.
-/
theorem shortestForm_canonical :
    (∀ first second : String,
        isLiteral first = true → isLiteral second = true →
        isMixedDoubled first.toList = false →
        isMixedDoubled second.toList = false →
        ((shortestForm first).value = (shortestForm second).value ↔
          ∃ color, rgb? first.toList = some color ∧
            rgb? second.toList = some color)) ∧
      ∀ value : String,
        isLiteral value = true → isMixedDoubled value.toList = true →
        (shortestForm value).value =
          String.ofList (value.toList.map Char.toLower) ∧
          (shortestForm value).value.length = 7 := by
  have lowered {value : String} (literal : isLiteral value = true) :
      (shortestForm value).value =
        String.ofList ((kept value.toList).map Char.toLower) := by
    rw [value_shortestForm,
      Unicode.lower_of_ascii
        (ascii_of_isLiteralChars (isLiteralChars_kept literal))]
  constructor
  · intro first second firstLiteral secondLiteral firstUnmixed secondUnmixed
    rw [lowered firstLiteral, lowered secondLiteral,
      map_toLower_kept firstLiteral firstUnmixed,
      map_toLower_kept secondLiteral secondUnmixed,
      ← spelledOut_eq_iff firstLiteral secondLiteral, String.ofList_inj]
    constructor
    · intro same
      rw [← doubled_kept (length_spelledOut firstLiteral), same,
        doubled_kept (length_spelledOut secondLiteral)]
    · exact congrArg kept
  · intro value literal mixed
    obtain ⟨notCondensable, seven⟩ := not_condensable_of_mixedDoubled mixed
    rw [lowered literal, kept_of_not_condensable notCondensable]
    refine ⟨rfl, ?_⟩
    rw [String.length_ofList, List.length_map, seven]

/--
Three digits and six capital ones have one form, and a pair in two cases has its
own.
-/
theorem shortestForm_canonical_of_spellings :
    (isLiteral "#f06" = true ∧ isMixedDoubled "#f06".toList = false) ∧
      (isLiteral "#FF0066" = true ∧ isMixedDoubled "#FF0066".toList = false) ∧
      (isLiteral "#fF0066" = true ∧ isMixedDoubled "#fF0066".toList = true) ∧
      (shortestForm "#f06").value = (shortestForm "#FF0066").value ∧
      (shortestForm "#fF0066").value = "#ff0066" := by
  have short :
      isLiteral "#f06" = true ∧ isMixedDoubled "#f06".toList = false := by
    decide
  have capital :
      isLiteral "#FF0066" = true ∧ isMixedDoubled "#FF0066".toList = false := by
    decide
  have mixed :
      isLiteral "#fF0066" = true ∧ isMixedDoubled "#fF0066".toList = true := by
    decide
  have sameForm :=
    shortestForm_canonical.1 "#f06" "#FF0066" short.1 capital.1
      short.2 capital.2
  refine ⟨short, capital, mixed, sameForm.mpr ⟨⟨255, 0, 102⟩, ?_, ?_⟩, ?_⟩
  · decide
  · decide
  · exact (shortestForm_canonical.2 "#fF0066" mixed.1 mixed.2).1

end SheetLint.Color
