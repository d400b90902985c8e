import SheetLint.Proofs.Value.Leftover
import SheetLint.Value.Report

namespace SheetLint

/-!
# Bodies of quoted strings

What stands between two quotes has no influence on what is left of a value, nor
on the colour report of it.  The text in front may leave a quote of the other
kind open; that quote may be closed behind the string and swallow it whole, or
stay alone.  Which of these happens does not depend on the body either, as long
as the body holds no quotes itself.
-/

namespace Quote

section

variable {quote : Char} {body other : List Char}

theorem not_mem_of_isQuote
    {c : Char}
    (plain : ∀ d ∈ body, isQuote d = false)
    (quotes : isQuote c = true) :
    c ∉ body := by
  intro member
  rw [plain c member] at quotes
  contradiction

/--
Whether a quote in front of a string opens one does not depend on the body.
-/
theorem opens_before_body_iff
    (bodyPlain : ∀ d ∈ body, isQuote d = false)
    (otherPlain : ∀ d ∈ other, isQuote d = false)
    {c : Char}
    {before after : List Char} :
    Opens c (before ++ quote :: (body ++ quote :: after)) ↔
      Opens c (before ++ quote :: (other ++ quote :: after)) := by
  unfold Opens
  rw [and_congr_right_iff]
  intro quotes
  have notInBody : c ∉ body := not_mem_of_isQuote bodyPlain quotes
  have notInOther : c ∉ other := not_mem_of_isQuote otherPlain quotes
  simp [notInBody, notInOther]

/--
An open string of the other kind that goes on behind a string swallows it.
-/
theorem maskFrom_some_body
    (plain : ∀ d ∈ body, isQuote d = false)
    {inside : Char}
    (quotes : isQuote inside = true)
    (different : inside ≠ quote)
    {before : List Char}
    (notClosed : inside ∉ before)
    (after : List Char) :
    maskFrom (some inside) (before ++ quote :: (body ++ quote :: after)) =
      maskFrom (some inside) after := by
  have notInBody : inside ∉ body := not_mem_of_isQuote plain quotes
  have swallowed : inside ∉ before ++ quote :: (body ++ [quote]) := by
    simp [notClosed, different, notInBody]
  have cut :
      before ++ quote :: (body ++ quote :: after) =
        (before ++ quote :: (body ++ [quote])) ++ after := by
    simp
  rw [cut, maskFrom_some_append swallowed]

theorem maskFrom_none_body
    (quotes : isQuote quote = true)
    (plain : ∀ d ∈ body, isQuote d = false)
    (after : List Char) :
    maskFrom none (quote :: (body ++ quote :: after)) =
      maskFrom none after := by
  have opens : Opens quote (body ++ quote :: after) :=
    ⟨quotes, by simp⟩
  rw [maskFrom_none_of_opens opens,
    maskFrom_some_of_split (not_mem_of_isQuote plain quotes)]

/--
A body without quotes can be exchanged.  Of the text in front it is asked that
no quote of this kind is left of it, and that a string of this kind which is
open where it begins is closed in it.  A quote of the other kind may stay open
there and be closed behind.
-/
theorem maskFrom_of_bodies
    (quotes : isQuote quote = true)
    (bodyPlain : ∀ d ∈ body, isQuote d = false)
    (otherPlain : ∀ d ∈ other, isQuote d = false)
    {inside : Option Char}
    {before : List Char}
    (closes : ∀ c ∈ inside, isQuote c = true ∧ (c = quote → quote ∈ before))
    (settled : quote ∉ maskFrom inside before)
    (after : List Char) :
    maskFrom inside (before ++ quote :: (body ++ quote :: after)) =
      maskFrom inside (before ++ quote :: (other ++ quote :: after)) := by
  fun_induction maskFrom inside before with
  | case1 inside =>
      cases inside with
      | none =>
          rw [List.nil_append, List.nil_append,
            maskFrom_none_body quotes bodyPlain,
            maskFrom_none_body quotes otherPlain]
      | some opened =>
          obtain ⟨openedQuotes, sameCloses⟩ := closes opened rfl
          have different : opened ≠ quote :=
            fun same => List.not_mem_nil (sameCloses same)
          rw [maskFrom_some_body bodyPlain openedQuotes different
              List.not_mem_nil,
            maskFrom_some_body otherPlain openedQuotes different
              List.not_mem_nil]
  | case2 opened before inductionHypothesis =>
      rw [List.cons_append, List.cons_append, maskFrom_some_self,
        maskFrom_some_self, inductionHypothesis (by simp) settled]
  | case3 opened c before different inductionHypothesis =>
      rw [List.cons_append, List.cons_append, maskFrom_some_of_ne different,
        maskFrom_some_of_ne different]
      apply inductionHypothesis _ settled
      rintro _ ⟨⟩
      obtain ⟨openedQuotes, sameCloses⟩ := closes opened rfl
      refine ⟨openedQuotes, fun same => ?_⟩
      exact (List.mem_cons.mp (sameCloses same)).resolve_left
        fun isHead => different (isHead.symm.trans same.symm)
  | case4 c before opens inductionHypothesis =>
      obtain ⟨cQuotes, again⟩ := opens_iff.mp opens
      have opensStill (back : List Char) : Opens c (before ++ back) :=
        ⟨cQuotes, List.mem_append_left back again⟩
      rw [List.cons_append, List.cons_append,
        maskFrom_none_of_opens (opensStill _),
        maskFrom_none_of_opens (opensStill _)]
      apply inductionHypothesis _ settled
      rintro _ ⟨⟩
      exact ⟨cQuotes, fun same => same ▸ again⟩
  | case5 c before kept inductionHypothesis =>
      obtain ⟨different, settled⟩ := not_or.mp (mt List.mem_cons.mpr settled)
      have sameOpens :
          Opens c (before ++ quote :: (body ++ quote :: after)) ↔
            Opens c (before ++ quote :: (other ++ quote :: after)) :=
        opens_before_body_iff bodyPlain otherPlain
      rw [List.cons_append, List.cons_append]
      by_cases opensLater :
          Opens c (before ++ quote :: (body ++ quote :: after))
      · have notClosed : c ∉ before :=
          fun again => kept (opens_iff.mpr ⟨opensLater.1, again⟩)
        rw [maskFrom_none_of_opens opensLater,
          maskFrom_none_of_opens (sameOpens.mp opensLater),
          maskFrom_some_body bodyPlain opensLater.1
            (Ne.symm different) notClosed,
          maskFrom_some_body otherPlain opensLater.1
            (Ne.symm different) notClosed]
      · rw [maskFrom_none_of_not_opens opensLater,
          maskFrom_none_of_not_opens (mt sameOpens.mpr opensLater),
          inductionHypothesis (by simp) settled]

end

/-- The text outside strings does not depend on what stands in a string. -/
theorem mask_of_bodies
    {quote : Char}
    (quotes : isQuote quote = true)
    {before body other : String}
    (settled : quote ∉ (mask before).toList)
    (bodyPlain : ∀ c ∈ body.toList, isQuote c = false)
    (otherPlain : ∀ c ∈ other.toList, isQuote c = false)
    (after : String) :
    mask (before ++ String.singleton quote ++ body ++
        String.singleton quote ++ after) =
      mask (before ++ String.singleton quote ++ other ++
        String.singleton quote ++ after) := by
  have settledChars : quote ∉ maskFrom none before.toList := by
    simpa [mask, maskChars] using settled
  have sameChars :=
    maskFrom_of_bodies quotes bodyPlain otherPlain
      (by simp) settledChars after.toList
  simp [mask, maskChars, sameChars]

end Quote

/--
The colour report of a value does not depend on what stands in a string without
further quotes, whatever surrounds the string, if the text in front leaves no
quote of its kind.
-/
theorem ColorReport.ofValue_of_bodies
    {quote : Char}
    (quotes : Quote.isQuote quote = true)
    {before body other : String}
    (settled : quote ∉ (Quote.mask before).toList)
    (bodyPlain : ∀ c ∈ body.toList, Quote.isQuote c = false)
    (otherPlain : ∀ c ∈ other.toList, Quote.isQuote c = false)
    (after : String) :
    ofValue (before ++ String.singleton quote ++ body ++
        String.singleton quote ++ after) =
      ofValue (before ++ String.singleton quote ++ other ++
        String.singleton quote ++ after) := by
  have sameMask :=
    Quote.mask_of_bodies quotes settled bodyPlain otherPlain after
  simp only [ofValue, sameMask]

/--
A single quote in front of the string is closed behind it and swallows it with
either body.
-/
theorem ColorReport.ofValue_of_swallowed_bodies :
    '"' ∉ (Quote.mask "a'b").toList ∧
      ofValue ("a'b" ++ String.singleton '"' ++ "#fff" ++
          String.singleton '"' ++ "' #FF0066") =
        ofValue ("a'b" ++ String.singleton '"' ++ "c" ++
          String.singleton '"' ++ "' #FF0066") :=
  ⟨by decide,
    ofValue_of_bodies (by decide) (by decide) (by simp [Quote.isQuote])
      (by simp [Quote.isQuote]) "' #FF0066"⟩

end SheetLint
