import Mathlib.Logic.ExistsUnique
import SheetLint.Proofs.Value.Leftover

namespace SheetLint.Quote

/-!
# Layouts

A value is written as plain segments with quoted strings between them.  When no
quote of a plain segment stands again anywhere behind it, there is one way to do
so, and the text outside quoted strings is what its plain segments hold.
-/

/--
A complete quoted string: a quote, a text without that quote, and the quote
again.
-/
structure Span where
  quote : Char
  body : List Char
  opening : isQuote quote = true
  closed : quote ∉ body

/-- The characters of a quoted string. -/
def Span.text (span : Span) : List Char :=
  span.quote :: (span.body ++ [span.quote])

/--
Plain segments with one quoted string between any two that follow each other.
-/
inductive Layout where
  | final (plain : List Char)
  | spanned (plain : List Char) (span : Span) (rest : Layout)

namespace Layout

/-- The text that a layout is written out as. -/
def text : Layout → List Char
  | final plain =>
      plain
  | spanned plain span rest =>
      plain ++ (span.text ++ rest.text)

/-- The plain segments in order. -/
def segments : Layout → List (List Char)
  | final plain =>
      [plain]
  | spanned plain _ rest =>
      plain :: rest.segments

/-- The text of the plain segments. -/
def outside (layout : Layout) : List Char :=
  layout.segments.flatten

/-- No quote of a plain segment stands again anywhere behind it. -/
def Settled : Layout → Prop
  | final plain =>
      Lone [] plain
  | spanned plain span rest =>
      Lone (span.text ++ rest.text) plain ∧ rest.Settled

/--
The layout is a way to write a text such that no quoted string is left in plain
segments.
-/
def Separates
    (layout : Layout)
    (text : List Char) : Prop :=
  layout.text = text ∧ layout.Settled

/-- The layout with one more character in front. -/
def cons (c : Char) : Layout → Layout
  | final plain =>
      final (c :: plain)
  | spanned plain span rest =>
      spanned (c :: plain) span rest

/-! A layout begins with a plain character or with a quoted string. -/

@[simp] theorem text_cons
    (c : Char)
    (layout : Layout) :
    (layout.cons c).text = c :: layout.text := by
  cases layout <;> rfl

@[simp] theorem settled_cons
    {c : Char}
    {layout : Layout} :
    (layout.cons c).Settled ↔
      ¬ Opens c layout.text ∧ layout.Settled := by
  cases layout with
  | final plain =>
      simp [cons, Settled, Lone, text]
  | spanned plain span rest =>
      simp [cons, Settled, Lone, text, and_assoc]

theorem opens_span
    (span : Span)
    (rest : List Char) :
    Opens span.quote (span.body ++ span.quote :: rest) :=
  ⟨span.opening, by simp⟩

theorem span_text_append
    (span : Span)
    (rest : List Char) :
    span.text ++ rest = span.quote :: (span.body ++ span.quote :: rest) := by
  simp [Span.text]

/--
Every text has a layout: a string at each quote that opens one, plain characters
elsewhere.
-/
theorem exists_separates
    (text : List Char) :
    ∃ layout : Layout, layout.Separates text := by
  induction size : text.length using Nat.strongRecOn generalizing text with
  | ind _ inductionHypothesis =>
      subst size
      cases text with
      | nil =>
          exact ⟨final [], rfl, trivial⟩
      | cons c rest =>
          by_cases opens : Opens c rest
          · obtain ⟨quotes, again⟩ := opens
            obtain ⟨body, after, rfl, closed⟩ :=
              List.eq_append_cons_of_mem again
            have shorter :
                after.length < (c :: (body ++ c :: after)).length := by
              simp
              omega
            obtain ⟨layout, sameText, settled⟩ :=
              inductionHypothesis after.length shorter after rfl
            refine ⟨spanned [] ⟨c, body, quotes, closed⟩ layout, ?_,
              trivial, settled⟩
            rw [Layout.text, span_text_append, sameText, List.nil_append]
          · obtain ⟨layout, sameText, settled⟩ :=
              inductionHypothesis rest.length (Nat.lt_succ_self _) rest rfl
            exact ⟨layout.cons c, by simp [sameText],
              settled_cons.mpr ⟨sameText ▸ opens, settled⟩⟩

theorem eq_final_of_text_eq_nil
    {layout : Layout}
    (empty : layout.text = []) :
    layout = final [] := by
  cases layout with
  | final plain =>
      rw [text] at empty
      rw [empty]
  | spanned plain span rest =>
      simp [text, Span.text] at empty

/-- Where a quote opens a string, a layout has that string. -/
theorem exists_span_of_opens
    {layout : Layout}
    {c : Char}
    {rest : List Char}
    (separates : layout.Separates (c :: rest))
    (opens : Opens c rest) :
    ∃ span after,
      layout = spanned [] span after ∧
        span.quote = c ∧
        span.body ++ c :: after.text = rest ∧
        after.Settled := by
  obtain ⟨shape, settled⟩ := separates
  cases layout with
  | final plain =>
      rw [text] at shape
      subst plain
      exact absurd (by simpa using opens) settled.1
  | spanned plain span after =>
      cases plain with
      | nil =>
          rw [text, List.nil_append, span_text_append] at shape
          obtain ⟨rfl, sameRest⟩ := List.cons.inj shape
          exact ⟨span, after, rfl, rfl, sameRest, settled.2⟩
      | cons d plain =>
          rw [text, List.cons_append] at shape
          obtain ⟨rfl, sameRest⟩ := List.cons.inj shape
          exact absurd (sameRest ▸ opens) settled.1.1

/-- Where no quote opens a string, a layout has a plain character. -/
theorem exists_cons_of_not_opens
    {layout : Layout}
    {c : Char}
    {rest : List Char}
    (separates : layout.Separates (c :: rest))
    (kept : ¬ Opens c rest) :
    ∃ shorter : Layout,
      layout = shorter.cons c ∧ shorter.Separates rest := by
  obtain ⟨shape, settled⟩ := separates
  cases layout with
  | final plain =>
      rw [text] at shape
      subst plain
      exact ⟨final rest, rfl, rfl, settled.2⟩
  | spanned plain span after =>
      cases plain with
      | nil =>
          rw [text, List.nil_append, span_text_append] at shape
          obtain ⟨rfl, sameRest⟩ := List.cons.inj shape
          exact absurd (sameRest ▸ opens_span span after.text) kept
      | cons d plain =>
          rw [text, List.cons_append] at shape
          obtain ⟨rfl, sameRest⟩ := List.cons.inj shape
          exact ⟨spanned plain span after, rfl, sameRest,
            settled.1.2, settled.2⟩

/-- The first occurrence of a character cuts a text in one way. -/
theorem split_unique
    {c : Char}
    {first second firstRest secondRest : List Char}
    (notFirst : c ∉ first)
    (notSecond : c ∉ second)
    (same : first ++ c :: firstRest = second ++ c :: secondRest) :
    first = second ∧ firstRest = secondRest := by
  have sameLength : first.length = second.length := by
    simpa [List.idxOf_append, notFirst, notSecond] using
      congrArg (List.idxOf c) same
  obtain ⟨sameFront, sameBack⟩ := List.append_inj same sameLength
  exact ⟨sameFront, (List.cons.inj sameBack).2⟩

/-- A text has no two layouts. -/
theorem Separates.unique
    {first second : Layout}
    {text : List Char}
    (firstSeparates : first.Separates text)
    (secondSeparates : second.Separates text) :
    first = second := by
  induction size : text.length using Nat.strongRecOn
    generalizing text first second with
  | ind _ inductionHypothesis =>
      subst size
      cases text with
      | nil =>
          rw [eq_final_of_text_eq_nil firstSeparates.1,
            eq_final_of_text_eq_nil secondSeparates.1]
      | cons c rest =>
          by_cases opens : Opens c rest
          · obtain ⟨span, after, rfl, spanQuote, spanRest, settled⟩ :=
              exists_span_of_opens firstSeparates opens
            obtain ⟨span', after', rfl, spanQuote', spanRest', settled'⟩ :=
              exists_span_of_opens secondSeparates opens
            obtain ⟨quote, body, opening, closed⟩ := span
            obtain ⟨quote', body', opening', closed'⟩ := span'
            subst spanQuote spanQuote'
            obtain ⟨rfl, sameText⟩ :=
              split_unique closed closed' (spanRest.trans spanRest'.symm)
            have shorter : after.text.length < (quote' :: rest).length := by
              simp [← spanRest]
              omega
            have sameAfter : after = after' :=
              inductionHypothesis _ shorter ⟨rfl, settled⟩
                ⟨sameText.symm, settled'⟩ rfl
            rw [sameAfter]
          · obtain ⟨shorter, rfl, separates⟩ :=
              exists_cons_of_not_opens firstSeparates opens
            obtain ⟨shorter', rfl, separates'⟩ :=
              exists_cons_of_not_opens secondSeparates opens
            rw [inductionHypothesis rest.length (Nat.lt_succ_self _)
              separates separates' rfl]

theorem maskFrom_none_span
    (span : Span)
    (rest : List Char) :
    maskFrom none (span.text ++ rest) = maskFrom none rest := by
  rw [span_text_append, maskFrom_none_of_opens (opens_span span rest),
    maskFrom_some_of_split span.closed]

/-- The plain segments of a layout are what is left of its text. -/
theorem Separates.maskChars
    {layout : Layout}
    {text : List Char}
    (separates : layout.Separates text) :
    maskChars text = layout.outside := by
  obtain ⟨rfl, settled⟩ := separates
  induction layout with
  | final plain =>
      rw [Layout.text, maskChars_of_lone settled]
      simp [outside, segments]
  | spanned plain span rest inductionHypothesis =>
      obtain ⟨lone, settled⟩ := settled
      calc
        Quote.maskChars (spanned plain span rest).text =
            plain ++ maskFrom none (span.text ++ rest.text) :=
          maskFrom_none_append lone
        _ = plain ++ Quote.maskChars rest.text := by
          rw [maskFrom_none_span, Quote.maskChars]
        _ = (spanned plain span rest).outside := by
          rw [inductionHypothesis settled]
          simp [outside, segments]

end Layout

/--
There is exactly one way to write a value as plain segments with quoted strings
between them such that no quote of a plain segment stands again anywhere behind
it, and the masked value is what the plain segments hold.
-/
theorem mask_unique_layout
    (value : String) :
    (∃! layout : Layout, layout.Separates value.toList) ∧
      ∀ layout : Layout,
        layout.Separates value.toList →
        mask value = String.ofList layout.outside := by
  constructor
  · obtain ⟨layout, separates⟩ := Layout.exists_separates value.toList
    exact ⟨layout, separates,
      fun other otherSeparates => otherSeparates.unique separates⟩
  · intro layout separates
    rw [mask, separates.maskChars]

end SheetLint.Quote
