import Mathlib.Logic.ExistsUnique
import SheetLint.Proofs.Text.Slice
import SheetLint.Value.Quote

namespace SheetLint.Quote

/-!
# Quotes around a value

A value in quotes loses the first and the last of its bytes.  Both are the bytes
of a quote, since a quote takes one byte and a text that is a single quote is
too short to be cut, so that the slice between them begins and ends where a
character does.  What is left is the text between the quotes, and a value that
no quotes surround keeps all of its bytes.
-/

/-- The value is a text between two quotes of one kind. -/
def Framed
    (quote : Char)
    (body value : String) : Prop :=
  isQuote quote = true ∧
    value = String.singleton quote ++ body ++ String.singleton quote

/-- A quote takes one byte. -/
theorem utf8Size_of_isQuote
    {quote : Char}
    (quotes : isQuote quote = true) :
    quote.utf8Size = 1 := by
  simp only [isQuote, Bool.or_eq_true, beq_iff_eq] at quotes
  rcases quotes with rfl | rfl <;>
    rfl

theorem encloses_iff
    {quote : Char}
    {text : List Char}
    (quotes : isQuote quote = true) :
    encloses quote text = true ↔ ∃ body, text = quote :: (body ++ [quote]) := by
  have oneByte := utf8Size_of_isQuote quotes
  simp only [encloses, Bool.and_eq_true, decide_eq_true_eq, beq_iff_eq]
  constructor
  · rintro ⟨⟨twoBytes, first⟩, last⟩
    obtain ⟨front, rfl⟩ := List.getLast?_eq_some_iff.mp last
    cases front with
    | nil =>
        simp [Text.byteLength, oneByte] at twoBytes
    | cons c body =>
        obtain rfl : c = quote :=
          Option.some.inj first
        exact ⟨body, rfl⟩
  · rintro ⟨body, rfl⟩
    have last : (quote :: (body ++ [quote])).getLast? = some quote :=
      List.getLast?_eq_some_iff.mpr ⟨quote :: body, rfl⟩
    refine ⟨⟨?_, rfl⟩, last⟩
    simp only [Text.byteLength, Text.byteLength_append, oneByte]
    omega

namespace Framed

variable {quote : Char} {body value : String}

theorem toList_eq
    (framed : Framed quote body value) :
    value.toList = quote :: (body.toList ++ [quote]) := by
  rw [framed.2]
  simp

/-- A value is one text between quotes of one kind only. -/
theorem unique
    {otherQuote : Char}
    {otherBody : String}
    (framed : Framed quote body value)
    (otherFramed : Framed otherQuote otherBody value) :
    quote = otherQuote ∧ body = otherBody := by
  have same := framed.toList_eq.symm.trans otherFramed.toList_eq
  obtain ⟨rfl, sameRest⟩ := List.cons.inj same
  exact ⟨rfl, String.toList_injective (List.append_cancel_right sameRest)⟩

/-- A value has more characters than the text between its quotes. -/
theorem body_ne
    (framed : Framed quote body value) :
    body ≠ value := by
  rintro rfl
  have sameLength := congrArg List.length framed.toList_eq
  simp at sameLength
  omega

/-- The slice of a value in quotes is the text between them. -/
theorem slice?_interior
    (framed : Framed quote body value) :
    Text.slice? (interior value.toList).1
        (interior value.toList).2 value.toList =
      some body.toList := by
  have oneByte := utf8Size_of_isQuote framed.1
  have surrounded : encloses quote value.toList = true :=
    (encloses_iff framed.1).mpr ⟨body.toList, framed.toList_eq⟩
  have offsets :
      interior value.toList = (1, Text.byteLength value.toList - 1) := by
    have either : quote = '"' ∨ quote = '\'' := by
      simpa [isQuote] using framed.1
    apply if_pos
    rcases either with rfl | rfl <;>
      simp [surrounded]
  rw [offsets, framed.toList_eq, Text.slice?_eq_some_iff]
  refine ⟨[quote], [quote], rfl, ?_, ?_⟩
  · simp [Text.byteLength, oneByte]
  · simp only [Text.byteLength, Text.byteLength_append, oneByte]
    omega

end Framed

/-- The slice of a value without quotes around it is the whole value. -/
theorem slice?_interior_of_not_framed
    {value : String}
    (bare : ∀ quote body, ¬ Framed quote body value) :
    Text.slice? (interior value.toList).1
        (interior value.toList).2 value.toList =
      some value.toList := by
  have notSurrounded
      (quote : Char)
      (quotes : isQuote quote = true) :
      encloses quote value.toList = false := by
    apply Bool.eq_false_iff.mpr
    intro surrounded
    obtain ⟨body, shape⟩ := (encloses_iff quotes).mp surrounded
    apply bare quote (String.ofList body)
    refine ⟨quotes, String.toList_injective ?_⟩
    rw [shape]
    simp
  have offsets : interior value.toList = (0, Text.byteLength value.toList) := by
    apply if_neg
    simp [notSurrounded '"' rfl, notSurrounded '\'' rfl]
  rw [offsets, Text.slice?_eq_some_iff]
  exact ⟨[], [], by simp, rfl, rfl⟩

theorem strip_eq_of_slice?
    {value : String}
    {part : List Char}
    (sliced :
      Text.slice? (interior value.toList).1
        (interior value.toList).2 value.toList = some part) :
    strip value = String.ofList part := by
  simp only [strip, sliced]

theorem strip_of_framed
    {quote : Char}
    {body value : String}
    (framed : Framed quote body value) :
    strip value = body := by
  rw [strip_eq_of_slice? framed.slice?_interior, String.ofList_toList]

theorem strip_of_not_framed
    {value : String}
    (bare : ∀ quote body, ¬ Framed quote body value) :
    strip value = value := by
  rw [strip_eq_of_slice? (slice?_interior_of_not_framed bare),
    String.ofList_toList]

/-- There always is a slice, and stripping leaves it. -/
theorem slice?_interior_eq_strip (value : String) :
    Text.slice? (interior value.toList).1
        (interior value.toList).2 value.toList =
      some (strip value).toList := by
  by_cases framed : ∃ quote body, Framed quote body value
  · obtain ⟨quote, body, framed⟩ := framed
    rw [framed.slice?_interior, strip_of_framed framed]
  · have bare : ∀ quote body, ¬ Framed quote body value :=
      fun quote body isFramed => framed ⟨quote, body, isFramed⟩
    rw [slice?_interior_of_not_framed bare, strip_of_not_framed bare]

/--
Stripping changes a value exactly if the value is what is left between quotes of
one kind.
-/
theorem strip_ne_iff
    {value : String} :
    strip value ≠ value ↔ ∃! quote, Framed quote (strip value) value := by
  constructor
  · intro changed
    have framed : ∃ quote body, Framed quote body value := by
      apply Classical.byContradiction
      intro bare
      exact changed
        (strip_of_not_framed fun quote body framed =>
          bare ⟨quote, body, framed⟩)
    obtain ⟨quote, body, framed⟩ := framed
    obtain rfl : strip value = body :=
      strip_of_framed framed
    exact ⟨quote, framed,
      fun other otherFramed => (otherFramed.unique framed).1⟩
  · rintro ⟨quote, framed, -⟩
    exact framed.body_ne

/--
For every value the offsets between which stripping cuts stand in order and in
range, each at the position of a character, so that there is a slice between
them, and it is the result.  Of a value in quotes what stands between them is
left, further quotes in it included; any other value stays as it is.  A value
that changes is the result between quotes of exactly one kind.
-/
theorem strip_takes_off_one_pair (value : String) :
    ((interior value.toList).1 ≤ (interior value.toList).2 ∧
        (interior value.toList).2 ≤ value.utf8ByteSize ∧
        String.Pos.Raw.IsValid value ⟨(interior value.toList).1⟩ ∧
        String.Pos.Raw.IsValid value ⟨(interior value.toList).2⟩ ∧
        Text.slice? (interior value.toList).1
            (interior value.toList).2 value.toList =
          some (strip value).toList) ∧
      (∀ quote body, Framed quote body value → strip value = body) ∧
      ((∀ quote body, ¬ Framed quote body value) → strip value = value) ∧
      (strip value ≠ value ↔ ∃! quote, Framed quote (strip value) value) := by
  have sliced := slice?_interior_eq_strip value
  obtain ⟨inOrder, startsAtChar, stopsAtChar⟩ :=
    Text.exists_slice?_iff.mp ⟨_, sliced⟩
  exact ⟨⟨inOrder, stopsAtChar.le_utf8ByteSize, startsAtChar, stopsAtChar,
      sliced⟩,
    fun _ _ => strip_of_framed, strip_of_not_framed, strip_ne_iff⟩

/--
A letter of two bytes next to the quotes and one more quote behind it are left;
a quote alone is not a pair and stays.
-/
theorem strip_of_inner_and_lone_quote :
    (Framed '"' "é\"" "\"é\"\"" ∧ strip "\"é\"\"" = "é\"") ∧
      (∀ quote body, ¬ Framed quote body "\"") ∧ strip "\"" = "\"" := by
  have framed : Framed '"' "é\"" "\"é\"\"" :=
    ⟨rfl, rfl⟩
  have bare : ∀ quote body, ¬ Framed quote body "\"" := by
    intro quote body isFramed
    simpa using isFramed.toList_eq
  exact ⟨⟨framed, (strip_takes_off_one_pair _).2.1 _ _ framed⟩,
    bare, (strip_takes_off_one_pair _).2.2.1 bare⟩

end SheetLint.Quote
