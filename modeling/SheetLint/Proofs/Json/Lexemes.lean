import SheetLint.Json.Lexer

namespace SheetLint.Json

/-!
# Written lexemes are read back

A string is written one character at a time, and the lexer reads it the same
way: whatever escape a character gets, its code point is added to the units of
the string, and no character is half a surrogate pair.  All lexemes but numbers
show by themselves where they end, so that a text made of them is read as the
same lexemes.
-/

theorem hexDigit?_hexDigit
    {value : Nat}
    (isDigit : value < 16) :
    hexDigit? (hexDigit value) = some value := by
  revert value
  decide

/-- The digits of a four-digit escape are collected, the last one ends it. -/
theorem lexFrom_hex
    (units : List Nat)
    (left value : Nat)
    {digit : Nat}
    (isDigit : digit < 16)
    (rest : List Char) :
    lexFrom (.hex units left value) (hexDigit digit :: rest) =
      if left ≤ 1 then
        lexFrom (.body ((value * 16 + digit) :: units)) rest
      else
        lexFrom (.hex units (left - 1) (value * 16 + digit)) rest := by
  simp only [lexFrom, Stance.step, hexDigit?_hexDigit isDigit]
  split <;> rfl

/-- An escaped character gives the string the unit that is its code point. -/
theorem lexFrom_body_escaped
    (units : List Nat)
    (c : Char)
    (rest : List Char) :
    lexFrom (.body units) (escaped c ++ rest) =
      lexFrom (.body (c.toNat :: units)) rest := by
  unfold escaped
  iterate 7
    split
    · subst c
      rfl
  split
  · rename_i isControl
    have highDigit : c.toNat / 16 < 16 := by
      omega
    have lowDigit : c.toNat % 16 < 16 := by
      omega
    have joined : c.toNat / 16 * 16 + c.toNat % 16 = c.toNat := by
      omega
    have marks :
        lexFrom (.body units)
            ('\\' :: 'u' :: '0' :: '0' ::
              hexDigit (c.toNat / 16) :: hexDigit (c.toNat % 16) :: rest) =
          lexFrom (.hex units 2 0)
            (hexDigit (c.toNat / 16) :: hexDigit (c.toNat % 16) :: rest) :=
      rfl
    rw [List.cons_append, List.cons_append, List.cons_append, List.cons_append,
      List.cons_append, List.cons_append, List.nil_append, marks,
      lexFrom_hex units 2 0 highDigit]
    simp [lexFrom_hex, lowDigit, joined]
  · rename_i notQuote notBackslash _ _ _ _ _ notControl
    simp [lexFrom, Stance.step, notQuote, notBackslash, notControl]

/-- No character is half a surrogate pair. -/
theorem not_isSurrogate (c : Char) :
    isHighSurrogate c.toNat = false ∧ isLowSurrogate c.toNat = false := by
  have scalar : c.toNat < 0xD800 ∨ (0xDFFF < c.toNat ∧ c.toNat < 0x110000) :=
    c.valid
  simp only [isHighSurrogate, isLowSurrogate, Bool.and_eq_false_iff,
    decide_eq_false_iff_not]
  omega

/-- The code points of characters are joined to the same characters. -/
theorem joinUnits_toNat (text : List Char) :
    joinUnits (text.map Char.toNat) = some text := by
  induction text with
  | nil =>
      rfl
  | cons c rest inductionHypothesis =>
      obtain ⟨notHigh, notLow⟩ := not_isSurrogate c
      cases rest with
      | nil =>
          simp [joinUnits, notHigh, notLow]
      | cons next rest =>
          simp only [List.map_cons] at inductionHypothesis ⊢
          simp [joinUnits, notHigh, notLow, inductionHypothesis]

/-- A string between its quotes is read as that string. -/
theorem lexFrom_quoted
    (value : String)
    (rest : List Char) :
    lexFrom .gap (quoted value ++ rest) =
      .text (some value) :: lexFrom .gap rest := by
  have body (text : List Char) (units : List Nat) :
      lexFrom (.body units) (text.flatMap escaped ++ '"' :: rest) =
        .ofUnits ((text.map Char.toNat).reverse ++ units) ::
          lexFrom .gap rest := by
    induction text generalizing units with
    | nil =>
        rfl
    | cons c text inductionHypothesis =>
        rw [List.flatMap_cons, List.append_assoc, lexFrom_body_escaped,
          inductionHypothesis]
        simp
  have opened :
      lexFrom .gap (quoted value ++ rest) =
        lexFrom (.body []) (value.toList.flatMap escaped ++ '"' :: rest) := by
    simp [quoted, lexFrom, Stance.step, stepGap, isGap]
  rw [opened, body]
  simp [Lexeme.ofUnits, joinUnits_toNat]

namespace Lexeme

/-- Whether a lexeme can be written and shows where it ends. -/
def isClosed : Lexeme → Bool
  | .number _ | .text none | .bad => false
  | _ => true

end Lexeme

theorem lexFrom_write
    {lexeme : Lexeme}
    (closed : lexeme.isClosed = true)
    (rest : List Char) :
    lexFrom .gap (lexeme.write ++ rest) = lexeme :: lexFrom .gap rest := by
  cases lexeme with
  | number value =>
      contradiction
  | bad =>
      contradiction
  | bool value =>
      cases value <;>
        rfl
  | text value =>
      cases value with
      | none =>
          contradiction
      | some value =>
          exact lexFrom_quoted value rest
  | _ =>
      rfl

/-- A text made of closed lexemes is read as these lexemes. -/
theorem lex_flatMap_write
    {lexemes : List Lexeme}
    (closed : ∀ lexeme ∈ lexemes, lexeme.isClosed = true) :
    lex (lexemes.flatMap Lexeme.write) = lexemes := by
  induction lexemes with
  | nil =>
      rfl
  | cons lexeme rest inductionHypothesis =>
      obtain ⟨firstClosed, restClosed⟩ := List.forall_mem_cons.mp closed
      rw [lex, List.flatMap_cons, lexFrom_write firstClosed, ← lex,
        inductionHypothesis restClosed]

end SheetLint.Json
