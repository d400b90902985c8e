import SheetLint.Value.Quote

namespace SheetLint.Quote

/-!
# Quotes that are left over

Whether a quote opens a string depends on the whole text behind it.  A quote
that stays outside has no later one of its kind in the value, so there is none
either in what is left of the value.  That is why removing strings never brings
two quotes together that make a new one.
-/

/-- `c` opens a quoted string when `rest` is the text behind it. -/
def Opens
    (c : Char)
    (rest : List Char) : Prop :=
  isQuote c = true ∧ c ∈ rest

instance (c : Char) (rest : List Char) : Decidable (Opens c rest) :=
  inferInstanceAs (Decidable (_ ∧ _))

/--
No quote of a text stands again behind it, in the text itself or in what
follows.
-/
def Lone (following : List Char) : List Char → Prop
  | [] =>
      True
  | c :: rest =>
      ¬ Opens c (rest ++ following) ∧ Lone following rest

/-! What one character does to the scan, inside and outside strings. -/

theorem opens_iff
    {c : Char}
    {rest : List Char} :
    (isQuote c && rest.contains c) = true ↔ Opens c rest := by
  simp [Opens]

theorem maskFrom_none_of_opens
    {c : Char}
    {rest : List Char}
    (opens : Opens c rest) :
    maskFrom none (c :: rest) = maskFrom (some c) rest := by
  rw [maskFrom, if_pos (opens_iff.mpr opens)]

theorem maskFrom_none_of_not_opens
    {c : Char}
    {rest : List Char}
    (kept : ¬ Opens c rest) :
    maskFrom none (c :: rest) = c :: maskFrom none rest := by
  rw [maskFrom, if_neg (mt opens_iff.mp kept)]

theorem maskFrom_some_self
    (inside : Char)
    (rest : List Char) :
    maskFrom (some inside) (inside :: rest) = maskFrom none rest := by
  rw [maskFrom, if_pos rfl]

theorem maskFrom_some_of_ne
    {inside c : Char}
    (different : c ≠ inside)
    (rest : List Char) :
    maskFrom (some inside) (c :: rest) = maskFrom (some inside) rest := by
  rw [maskFrom, if_neg different]

/-- Up to the quote that closes it, a string swallows everything. -/
theorem maskFrom_some_append
    {inside : Char}
    {front : List Char}
    (notClosed : inside ∉ front)
    (back : List Char) :
    maskFrom (some inside) (front ++ back) = maskFrom (some inside) back := by
  induction front with
  | nil =>
      rfl
  | cons c front inductionHypothesis =>
      obtain ⟨different, notClosed⟩ :=
        not_or.mp (mt List.mem_cons.mpr notClosed)
      rw [List.cons_append, maskFrom_some_of_ne (Ne.symm different),
        inductionHypothesis notClosed]

/-- The next quote of its kind closes a string. -/
theorem maskFrom_some_of_split
    {quote : Char}
    {body : List Char}
    (closed : quote ∉ body)
    (rest : List Char) :
    maskFrom (some quote) (body ++ quote :: rest) = maskFrom none rest := by
  rw [maskFrom_some_append closed, maskFrom_some_self]

/-- A text whose quotes are lone is kept in front of what follows. -/
theorem maskFrom_none_append
    {plain following : List Char}
    (lone : Lone following plain) :
    maskFrom none (plain ++ following) =
      plain ++ maskFrom none following := by
  induction plain with
  | nil =>
      rfl
  | cons c plain inductionHypothesis =>
      obtain ⟨kept, lone⟩ := lone
      rw [List.cons_append, maskFrom_none_of_not_opens kept,
        inductionHypothesis lone, List.cons_append]

/-- What is left of a text stands in it in the same order. -/
theorem maskFrom_sublist
    (inside : Option Char)
    (text : List Char) :
    (maskFrom inside text).Sublist text := by
  fun_induction maskFrom inside text with
  | case1 =>
      exact List.nil_sublist _
  | case2 quote rest inductionHypothesis =>
      exact inductionHypothesis.cons quote
  | case3 quote c rest _ inductionHypothesis =>
      exact inductionHypothesis.cons c
  | case4 c rest _ inductionHypothesis =>
      exact inductionHypothesis.cons c
  | case5 c rest _ inductionHypothesis =>
      exact inductionHypothesis.cons_cons c

/--
The quotes that are left of a text are lone: with a second one behind it a quote
would have had that one behind it in the text already, and would have opened a
string there.
-/
theorem lone_maskFrom
    (inside : Option Char)
    (text : List Char) :
    Lone [] (maskFrom inside text) := by
  fun_induction maskFrom inside text with
  | case1 =>
      trivial
  | case2 quote rest inductionHypothesis =>
      exact inductionHypothesis
  | case3 quote c rest _ inductionHypothesis =>
      exact inductionHypothesis
  | case4 c rest _ inductionHypothesis =>
      exact inductionHypothesis
  | case5 c rest kept inductionHypothesis =>
      refine ⟨?_, inductionHypothesis⟩
      rintro ⟨quotes, again⟩
      rw [List.append_nil] at again
      exact kept
        (opens_iff.mpr ⟨quotes, (maskFrom_sublist none rest).subset again⟩)

theorem maskChars_of_lone
    {text : List Char}
    (lone : Lone [] text) :
    maskChars text = text := by
  simpa [maskChars, maskFrom] using maskFrom_none_append lone

/-- A text with lone quotes holds each quote once at most. -/
theorem count_le_one_of_lone
    {quote : Char}
    (quotes : isQuote quote = true)
    {text : List Char}
    (lone : Lone [] text) :
    text.count quote ≤ 1 := by
  induction text with
  | nil =>
      simp
  | cons c rest inductionHypothesis =>
      obtain ⟨kept, lone⟩ := lone
      by_cases same : c = quote
      · subst c
        have notAgain : quote ∉ rest := by
          intro again
          exact kept ⟨quotes, by simpa using again⟩
        simp [List.count_eq_zero.mpr notAgain]
      · rw [List.count_cons_of_ne same]
        exact inductionHypothesis lone

/--
Masking a masked value changes nothing, for it holds at most one quote of each
kind.
-/
theorem mask_of_masked
    (value : String) :
    mask (mask value) = mask value ∧
      (mask value).toList.count '"' ≤ 1 ∧
      (mask value).toList.count '\'' ≤ 1 := by
  have lone : Lone [] (maskChars value.toList) :=
    lone_maskFrom none value.toList
  refine ⟨?_, ?_, ?_⟩
  · simp only [mask, String.toList_ofList, maskChars_of_lone lone]
  · simpa only [mask, String.toList_ofList] using
      count_le_one_of_lone (by decide) lone
  · simpa only [mask, String.toList_ofList] using
      count_le_one_of_lone (by decide) lone

end SheetLint.Quote
