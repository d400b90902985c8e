import SheetLint.Proofs.Value.Seam

namespace SheetLint

/-!
# Values put together

A scan of a value looks ahead: the search for colours to the end of a word, the
removal of strings to the next quote of a kind.  So what is found in the first
part of a value, or left of it, may change when a second part is put behind it.
It stays, and the second part is read as if it stood alone, where no word
reaches across the cut and where no quote that is left over in front finds
another of its kind behind.
-/

namespace Color

/--
One of two texts is empty, the first ends with a character that neither
continues a word nor begins a colour, or the second does not go on with a word.
-/
def Apart (front back : List Char) : Prop :=
  front = [] ∨ back = [] ∨
    (∃ c ∈ front.getLast?, Unicode.isWord c = false ∧ c ≠ '#') ∨
    ∃ c ∈ back.head?, Unicode.isWord c = false

/-- No run reaches from a text into one that stands apart from it. -/
theorem Apart.not_straddled
    {front back : List Char}
    (apart : Apart front back) :
    ¬ Straddled back front := by
  rintro ⟨before, run, rfl, words, goesOn, -⟩
  rcases apart with
    noFront | noBack | ⟨c, last, noWord, noSign⟩ | ⟨c, first, noWord⟩
  · simp at noFront
  · rw [noBack] at goesOn
    exact goesOn headRun_nil
  · have lastOfRun : ('#' :: run).getLast? = some c := by
      simpa using last
    rcases List.mem_cons.mp (List.mem_of_getLast? lastOfRun) with isSign | inRun
    · exact noSign isSign
    · rw [words c inRun] at noWord
      contradiction
  · obtain ⟨rest, rfl⟩ := List.head?_eq_some_iff.mp first
    rw [headRun, List.takeWhile_cons_of_neg (by simp [noWord])] at goesOn
    exact goesOn rfl

/--
The colours of two values are found one by one just where no run straddles the
cut.
-/
theorem find_append_iff
    (front back : String) :
    find (front ++ back) = find front ++ find back ↔
      ¬ Straddled back.toList front.toList := by
  simp only [find, String.toList_append, literals_eq_colors, colors_append,
    List.append_nil, List.map_append, List.append_cancel_right_eq]
  rw [List.map_inj_right fun _ _ => String.ofList_injective, colors_eq_iff]

/--
The colours of two values that stand apart are those of the first and then of
the second.
-/
theorem find_append_of_apart
    {front back : String}
    (apart : Apart front.toList back.toList) :
    find (front ++ back) = find front ++ find back :=
  (find_append_iff front back).mpr apart.not_straddled

/--
A number sign at the cut begins no colour where the second value goes on with a
hyphen.
-/
theorem find_append_of_hyphen :
    Apart "#abc #".toList "-fff#0aF".toList ∧
      find ("#abc #" ++ "-fff#0aF") = find "#abc #" ++ find "-fff#0aF" := by
  have apart : Apart "#abc #".toList "-fff#0aF".toList :=
    .inr (.inr (.inr ⟨'-', rfl, by decide⟩))
  exact ⟨apart, find_append_of_apart apart⟩

end Color

namespace Quote

/--
What is left of a text stays when another is put behind it in which no quote
that is left occurs.  A string that is open where the text begins has to be
closed in it.
-/
theorem maskFrom_append
    {inside : Option Char}
    {front back : List Char}
    (closes : ∀ c ∈ inside, c ∈ front)
    (unanswered : ∀ c ∈ maskFrom inside front, isQuote c = true → c ∉ back) :
    maskFrom inside (front ++ back) =
      maskFrom inside front ++ maskFrom none back := by
  fun_induction maskFrom inside front with
  | case1 inside =>
      cases inside with
      | none =>
          rfl
      | some opened =>
          exact absurd (closes opened rfl) List.not_mem_nil
  | case2 opened front inductionHypothesis =>
      rw [List.cons_append, maskFrom_some_self,
        inductionHypothesis (by simp) unanswered]
  | case3 opened c front different inductionHypothesis =>
      have closesLater : opened ∈ front :=
        List.mem_of_ne_of_mem (Ne.symm different) (closes opened rfl)
      rw [List.cons_append, maskFrom_some_of_ne different,
        inductionHypothesis (by simpa using closesLater) unanswered]
  | case4 c front opens inductionHypothesis =>
      obtain ⟨quotes, again⟩ := opens_iff.mp opens
      have opensStill : Opens c (front ++ back) :=
        ⟨quotes, List.mem_append_left back again⟩
      rw [List.cons_append, maskFrom_none_of_opens opensStill,
        inductionHypothesis (by simpa using again) unanswered]
  | case5 c front kept inductionHypothesis =>
      obtain ⟨headUnanswered, unanswered⟩ := List.forall_mem_cons.mp unanswered
      have keptStill : ¬ Opens c (front ++ back) := by
        rintro ⟨quotes, again⟩
        rcases List.mem_append.mp again with inFront | inBack
        · exact kept (opens_iff.mpr ⟨quotes, inFront⟩)
        · exact headUnanswered quotes inBack
      rw [List.cons_append, maskFrom_none_of_not_opens keptStill,
        inductionHypothesis (by simp) unanswered, List.cons_append]

/--
Two values are masked one by one if no quote that is left of the first occurs in
the second.
-/
theorem mask_append
    {front back : String}
    (unanswered :
      ∀ c ∈ (mask front).toList, isQuote c = true → c ∉ back.toList) :
    mask (front ++ back) = mask front ++ mask back := by
  have chars :
      maskFrom none (front.toList ++ back.toList) =
        maskFrom none front.toList ++ maskFrom none back.toList :=
    maskFrom_append (by simp) (by simpa [mask, maskChars] using unanswered)
  simp only [mask, maskChars, String.toList_append, chars, String.ofList_append]

/--
A single quote stays open in the first value, and double quotes make strings in
both.
-/
theorem mask_append_of_open_quote :
    (∀ c ∈ (mask "it's \"a\" ").toList, isQuote c = true →
      c ∉ "\"b\" \"".toList) ∧
      mask ("it's \"a\" " ++ "\"b\" \"") =
        mask "it's \"a\" " ++ mask "\"b\" \"" := by
  have unanswered :
      ∀ c ∈ (mask "it's \"a\" ").toList, isQuote c = true →
        c ∉ "\"b\" \"".toList := by
    simp [mask, maskChars, maskFrom, isQuote]
  exact ⟨unanswered, mask_append unanswered⟩

end Quote

end SheetLint
