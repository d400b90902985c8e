import SheetLint.Proofs.Value.Run

namespace SheetLint.Color

/-!
# Where colours stand

The search and the test of a whole text agree on what a colour is: a text is a
literal exactly if the search finds it and nothing else.  What is found in a
longer text stands in it piece by piece, each behind the one before.
-/

/--
The pieces stand in a text one behind another; none reaches into the next.
-/
inductive StandIn : List (List Char) → List Char → Prop where
  | done (text : List Char) :
      StandIn [] text
  | next (before piece : List Char) {pieces : List (List Char)}
      {after : List Char} :
      StandIn pieces after →
      StandIn (piece :: pieces) (before ++ (piece ++ after))

namespace StandIn

theorem cons
    {pieces : List (List Char)}
    {text : List Char}
    (c : Char)
    (stand : StandIn pieces text) :
    StandIn pieces (c :: text) := by
  cases stand with
  | done =>
      exact done (c :: text)
  | next before piece behind =>
      exact next (c :: before) piece behind

end StandIn

/--
A literal at the head of a text is a number sign and some of what stands behind
it.
-/
theorem exists_of_literalAt?
    {text literal : List Char}
    (found : literalAt? text = some literal) :
    ∃ run after, literal = '#' :: run ∧ text = '#' :: (run ++ after) := by
  cases text with
  | nil =>
      contradiction
  | cons c rest =>
      by_cases sign : c = '#'
      · obtain ⟨run, after, rfl, words, stops⟩ := exists_cut rest
        rw [sign, literalAt?_sign, headRun_of_cut words stops,
          Option.ite_none_right_eq_some] at found
        exact ⟨run, after, (Option.some.inj found.2).symm, by rw [sign]⟩
      · rw [literalAt?_of_ne_sign sign] at found
        contradiction

/--
The search goes on behind what it has found, so that no literal reaches into the
next.
-/
theorem standIn_literalsFrom
    (skipped : Nat)
    (text : List Char) :
    StandIn (literalsFrom skipped text) (text.drop skipped) := by
  induction text generalizing skipped with
  | nil =>
      cases skipped <;> exact .done []
  | cons c rest inductionHypothesis =>
      cases skipped with
      | succ skipped =>
          exact inductionHypothesis skipped
      | zero =>
          rw [literalsFrom, List.drop_zero]
          cases found : literalAt? (c :: rest) with
          | none =>
              exact (inductionHypothesis 0).cons c
          | some literal =>
              obtain ⟨run, after, rfl, shape⟩ := exists_of_literalAt? found
              obtain ⟨rfl, rfl⟩ := List.cons.inj shape
              have behind :
                  StandIn (literalsFrom run.length (run ++ after)) after := by
                simpa using inductionHypothesis run.length
              exact .next [] ('#' :: run) behind

/-- A literal alone is found whole. -/
theorem find_of_isLiteral
    {value : String}
    (literal : isLiteral value = true) :
    find value = [value] := by
  obtain ⟨run, shape, digits⟩ := isLiteralChars_iff.mp literal
  have words : ∀ c ∈ run, Unicode.isWord c = true :=
    fun c member => isWord_of_isHexDigit (digits.2 c member)
  have whole : headRun run = run := by
    simpa using headRun_of_cut words headRun_nil
  have nothingElse : colors [] run = [] := by
    rw [colors, runs_eq_nil_of_words words]
    rfl
  rw [find, literals_eq_colors, shape, colors_sign, List.append_nil, whole,
    if_pos digits, nothingElse, List.append_nil, ← shape, List.map_singleton,
    String.ofList_toList]

/--
A text is a literal exactly if the search finds just the text.  Each colour
found in any text is a literal, and the colours stand in the text one behind
another in the order in which they are found.
-/
theorem find_agrees_with_isLiteral (value : String) :
    (isLiteral value = true ↔ find value = [value]) ∧
      (∀ hex ∈ find value, isLiteral hex = true) ∧
      StandIn ((find value).map String.toList) value.toList := by
  refine ⟨⟨find_of_isLiteral, ?_⟩, fun hex => isLiteral_of_mem_find, ?_⟩
  · intro alone
    have member : value ∈ find value := by
      rw [alone]
      exact List.mem_singleton_self value
    exact isLiteral_of_mem_find member
  · have pieces :
        (find value).map String.toList = literalsFrom 0 value.toList := by
      simp [find, literals, Function.comp_def]
    rw [pieces]
    exact standIn_literalsFrom 0 value.toList

end SheetLint.Color
