import SheetLint.Proofs.Value.Rgb

namespace SheetLint.Color

/-!
# Repeated shortening

What was shortened once holds no capital letters, so that shortening it again
can only condense it: pairs that were written in two cases have become equal.
What was condensed has four characters, or more where a dotted capital I took
two in lower case, and never three pairs again.
-/

theorem mem_kept
    {text : List Char}
    {c : Char} :
    c ∈ kept text ↔ c ∈ text := by
  cases condensable : isCondensableChars text with
  | false =>
      rw [kept_of_not_condensable condensable]
  | true =>
      obtain ⟨sign, red, green, blue, rfl, four⟩ :=
        shape_of_isCondensableChars condensable
      rw [four]
      simp

/-- Only what cannot be condensed is kept whole. -/
theorem kept_eq_self_iff
    {text : List Char} :
    kept text = text ↔ isCondensableChars text = false := by
  cases condensable : isCondensableChars text with
  | false =>
      simpa using kept_of_not_condensable condensable
  | true =>
      obtain ⟨sign, red, green, blue, rfl, four⟩ :=
        shape_of_isCondensableChars condensable
      simp [four]

theorem kept_kept
    (text : List Char) :
    kept (kept text) = kept text := by
  cases condensable : isCondensableChars text with
  | false =>
      rw [kept_of_not_condensable condensable,
        kept_of_not_condensable condensable]
  | true =>
      obtain ⟨sign, red, green, blue, -, four⟩ :=
        shape_of_isCondensableChars condensable
      rw [four]
      rfl

/-! ## Characters of the shortest form -/

/--
A shortest form has the characters that are kept and one more for each dotted
capital I.
-/
theorem length_shortestForm
    (value : String) :
    (shortestForm value).value.length =
      (kept value.toList).length + (kept value.toList).count 'İ' := by
  rw [value_shortestForm, String.length_ofList, Unicode.length_lower]

/--
Seven characters have a shortest form of four exactly if they can be condensed
and none of them is a dotted capital I.
-/
theorem length_shortestForm_eq_four_iff
    {value : String}
    (seven : value.length = 7) :
    (shortestForm value).value.length = 4 ↔
      isCondensable value = true ∧ 'İ' ∉ value.toList := by
  have sameCharacters : 'İ' ∈ kept value.toList ↔ 'İ' ∈ value.toList :=
    mem_kept
  rw [length_shortestForm, isCondensable, ← sameCharacters]
  cases condensable : isCondensableChars value.toList with
  | false =>
      rw [kept_of_not_condensable condensable, String.length_toList, seven]
      have tooLong : 7 + value.toList.count 'İ' ≠ 4 := by
        omega
      simp [tooLong]
  | true =>
      obtain ⟨sign, red, green, blue, -, four⟩ :=
        shape_of_isCondensableChars condensable
      simp [four, List.count_eq_zero]

/--
A Kelvin sign takes fewer bytes in lower case but is one character before and
after.
-/
theorem length_shortestForm_of_kelvin_pair :
    "#\u212A\u212Aaabb".length = 7 ∧
      isCondensable "#\u212A\u212Aaabb" = true ∧
      (shortestForm "#\u212A\u212Aaabb").value.length = 4 := by
  have seven : "#\u212A\u212Aaabb".length = 7 := by
    decide
  have condensable : isCondensable "#\u212A\u212Aaabb" = true := by
    decide
  exact ⟨seven, condensable,
    (length_shortestForm_eq_four_iff seven).mpr ⟨condensable, by simp⟩⟩

/--
Three pairs can be condensed, and yet five characters are left of a pair of
dotted capitals.
-/
theorem condensable_without_four_characters :
    ¬ ∀ value : String,
      value.length = 7 →
      (isCondensable value = true ↔ (shortestForm value).value.length = 4) := by
  intro always
  have four : (shortestForm "#İİaabb").value.length = 4 :=
    (always "#İİaabb" (by decide)).mp (by decide)
  exact absurd four (by decide)

/-! ## Shortening again -/

/--
Four characters that were kept make no three pairs in lower case.  Only with
three dotted capitals among them do they become seven, and these never stand in
line with the pairs.
-/
theorem not_condensable_lower_kept
    {text : List Char}
    (condensable : isCondensableChars text = true) :
    isCondensableChars (Unicode.lower (kept text)) = false := by
  obtain ⟨sign, red, green, blue, -, four⟩ :=
    shape_of_isCondensableChars condensable
  obtain ⟨first, firstShape, firstHead⟩ :=
    Unicode.exists_lowerAfter_cons [] sign [red, green, blue]
  obtain ⟨second, secondShape, secondHead⟩ :=
    Unicode.exists_lowerAfter_cons [sign] red [green, blue]
  obtain ⟨third, thirdShape, thirdHead⟩ :=
    Unicode.exists_lowerAfter_cons [red, sign] green [blue]
  obtain ⟨fourth, fourthShape, fourthHead⟩ :=
    Unicode.exists_lowerAfter_cons [green, red, sign] blue []
  rw [four, Unicode.lower, firstShape, secondShape, thirdShape, fourthShape,
    Unicode.lowerAfter]
  obtain ⟨-, rfl⟩ | ⟨-, a, rfl⟩ := firstHead <;>
    obtain ⟨-, rfl⟩ | ⟨-, b, rfl⟩ := secondHead <;>
    obtain ⟨-, rfl⟩ | ⟨-, c, rfl⟩ := thirdHead <;>
    obtain ⟨-, rfl⟩ | ⟨-, d, rfl⟩ := fourthHead <;>
    simp [isCondensableChars]

theorem not_condensable_lower_kept_iff
    (text : List Char) :
    isCondensableChars (Unicode.lower (kept text)) = false ↔
      isCondensableChars text = true ∨
        isCondensableChars (Unicode.lower text) = false := by
  cases condensable : isCondensableChars text with
  | false =>
      rw [kept_of_not_condensable condensable]
      simp
  | true =>
      simpa using not_condensable_lower_kept condensable

/-- The text of the shortest form, without the event of a condensation. -/
def shortened (hex : String) : String :=
  (shortestForm hex).value

/--
Without capital letters there is nothing to be lower-cased in what is kept.
-/
theorem shortened_of_no_capitals
    {text : List Char}
    (small : ∀ c ∈ text, Unicode.isCapital c = false) :
    shortened (String.ofList text) = String.ofList (kept text) := by
  have smallKept : ∀ c ∈ kept text, Unicode.isCapital c = false :=
    fun c member => small c (mem_kept.mp member)
  rw [shortened, value_shortestForm, String.toList_ofList,
    Unicode.lower_of_no_capitals smallKept]

/-- Shortening twice only condenses what shortening once has lower-cased. -/
theorem shortened_shortened
    (value : String) :
    shortened (shortened value) =
      String.ofList (kept (Unicode.lower (kept value.toList))) := by
  have once :
      shortened value = String.ofList (Unicode.lower (kept value.toList)) :=
    value_shortestForm value
  rw [once]
  apply shortened_of_no_capitals
  intro c member
  exact Unicode.not_capital_of_mem_lower member

/--
Whatever the text, what was shortened twice does not change any more.  Once is
enough exactly if the text could be condensed as it is or cannot be condensed in
lower case either.
-/
theorem shortened_settles (value : String) :
    shortened (shortened (shortened value)) = shortened (shortened value) ∧
      (shortened (shortened value) = shortened value ↔
        isCondensable value = true ∨
          isCondensable (String.ofList (Unicode.lower value.toList)) =
            false) := by
  constructor
  · have small :
        ∀ c ∈ kept (Unicode.lower (kept value.toList)),
          Unicode.isCapital c = false :=
      fun c member => Unicode.not_capital_of_mem_lower (mem_kept.mp member)
    calc
      shortened (shortened (shortened value)) =
          String.ofList (kept (kept (Unicode.lower (kept value.toList)))) := by
        rw [shortened_shortened value]
        exact shortened_of_no_capitals small
      _ = shortened (shortened value) := by
        rw [kept_kept, shortened_shortened value]
  · calc
      shortened (shortened value) = shortened value ↔
          kept (Unicode.lower (kept value.toList)) =
            Unicode.lower (kept value.toList) := by
        rw [shortened_shortened, shortened, value_shortestForm,
          String.ofList_inj]
      _ ↔ isCondensableChars (Unicode.lower (kept value.toList)) = false :=
        kept_eq_self_iff
      _ ↔ isCondensable value = true ∨
          isCondensable (String.ofList (Unicode.lower value.toList)) =
            false := by
        rw [not_condensable_lower_kept_iff, isCondensable, isCondensable,
          String.toList_ofList]

example :
    (shortestForm "#Ff0066").value = "#ff0066" ∧
      (shortestForm "#ff0066").value = "#f06" := by
  decide

end SheetLint.Color
