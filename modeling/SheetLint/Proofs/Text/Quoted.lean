import SheetLint.Text.Quoted

namespace SheetLint.Text

/-!
# A literal tells its text

Each form of a character inside a literal shows where it ends: the character
itself and the escapes of two marks by their first character, the escape of a
code point by the brace behind its digits.  No two characters share a form, and
no form begins with a quote, so that the first quote that is no part of an
escape ends the literal.  A literal in front of other text is therefore one of a
single text, and it shows where the other text begins.
-/

/--
Two texts that begin with a run of characters of one kind and then stop are cut
alike.
-/
theorem append_inj_of_run
    {inRun : Char → Bool}
    {run other back otherBack : List Char}
    (run_inRun : ∀ c ∈ run, inRun c = true)
    (other_inRun : ∀ c ∈ other, inRun c = true)
    (stops : ∀ c ∈ back.head?, inRun c = false)
    (otherStops : ∀ c ∈ otherBack.head?, inRun c = false)
    (same : run ++ back = other ++ otherBack) :
    run = other ∧ back = otherBack := by
  have takeRun
      {front behind : List Char}
      (inside : ∀ c ∈ front, inRun c = true)
      (stop : ∀ c ∈ behind.head?, inRun c = false) :
      (front ++ behind).takeWhile inRun = front := by
    rw [List.takeWhile_append_of_pos inside]
    cases behind with
    | nil =>
        rw [List.takeWhile_nil, List.append_nil]
    | cons c rest =>
        rw [List.takeWhile_cons_of_neg (by simp [stop c rfl]), List.append_nil]
  have sameRun : run = other := by
    rw [← takeRun run_inRun stops, same, takeRun other_inRun otherStops]
  subst sameRun
  exact ⟨rfl, List.append_cancel_left same⟩

/-! ## Code points in hexadecimal digits -/

/-- The value of a hexadecimal digit with small letters. -/
def digitValue (digit : Char) : Nat :=
  if digit.isDigit then
    digit.toNat - '0'.toNat
  else
    digit.toNat - 'a'.toNat + 10

/-- The number that hexadecimal digits stand for. -/
def codeOf (digits : List Char) : Nat :=
  digits.foldl (fun value digit => value * 16 + digitValue digit) 0

theorem digitValue_digitChar
    {value : Nat}
    (isDigit : value < 16) :
    digitValue value.digitChar = value := by
  revert value
  decide

/--
What holds of a single digit and stays when a digit is put behind holds of all
numbers.
-/
theorem toDigits_induction
    {motive : Nat → List Char → Prop}
    (single : ∀ value < 16, motive value [value.digitChar])
    (behind :
      ∀ code digits,
        motive (code / 16) digits →
          motive code (digits ++ [(code % 16).digitChar]))
    (code : Nat) :
    motive code (Nat.toDigits 16 code) := by
  induction code using Nat.strongRecOn with
  | ind code inductionHypothesis =>
      by_cases oneDigit : code < 16
      · rw [Nat.toDigits_of_lt_base oneDigit]
        exact single code oneDigit
      · rw [Nat.toDigits_of_base_le (by omega) (by omega)]
        exact behind code _ (inductionHypothesis (code / 16) (by omega))

/-- A number is read back from its digits. -/
theorem codeOf_toDigits (code : Nat) :
    codeOf (Nat.toDigits 16 code) = code := by
  apply toDigits_induction (motive := fun code digits => codeOf digits = code)
  · intro value isDigit
    simp [codeOf, digitValue_digitChar isDigit]
  · intro code digits front
    have lastDigit : code % 16 < 16 := by
      omega
    rw [codeOf, List.foldl_append, ← codeOf, front, List.foldl_cons,
      List.foldl_nil, digitValue_digitChar lastDigit]
    omega

theorem exists_digitChar_of_mem_toDigits (code : Nat) :
    ∀ c ∈ Nat.toDigits 16 code, ∃ value : Nat, c = value.digitChar := by
  apply toDigits_induction
    (motive := fun _ digits => ∀ c ∈ digits, ∃ value : Nat, c = value.digitChar)
  · intro value _ c member
    exact ⟨value, List.mem_singleton.mp member⟩
  · intro code digits front c member
    rcases List.mem_append.mp member with inFront | isLast
    · exact front c inFront
    · exact ⟨code % 16, List.mem_singleton.mp isLast⟩

/-- The escape of a code point ends at its brace. -/
theorem codeEscape_append_inj
    {c d : Char}
    {back otherBack : List Char}
    (same : codeEscape c ++ back = codeEscape d ++ otherBack) :
    c = d ∧ back = otherBack := by
  have digits (e : Char) :
      ∀ digit ∈ Nat.toDigits 16 e.toNat, (digit != '\x7d') = true := by
    intro digit member
    obtain ⟨value, rfl⟩ := exists_digitChar_of_mem_toDigits e.toNat digit member
    exact bne_iff_ne.mpr (Nat.digitChar_ne '\x7d' (by decide))
  have behindOpening :
      Nat.toDigits 16 c.toNat ++ '\x7d' :: back =
        Nat.toDigits 16 d.toNat ++ '\x7d' :: otherBack := by
    simpa [codeEscape] using same
  obtain ⟨sameDigits, sameBack⟩ :=
    append_inj_of_run (digits c) (digits d) (by simp) (by simp) behindOpening
  have sameCode : c.toNat = d.toNat := by
    rw [← codeOf_toDigits c.toNat, sameDigits, codeOf_toDigits]
  exact ⟨Char.toNat_inj.mp sameCode, List.tail_eq_of_cons_eq sameBack⟩

/-! ## Characters and texts -/

/--
The characters whose escape is one mark behind a backslash, each with this mark.
-/
def markedEscapes : List (Char × Char) :=
  [('\x00', '0'), ('\t', 't'), ('\n', 'n'), ('\r', 'r'), ('"', '"'),
    ('\\', '\\')]

/-- The forms that characters have inside a literal. -/
inductive ShownAs : Char → List Char → Prop where
  | plain
      {c : Char}
      (notQuote : c ≠ '"')
      (notBackslash : c ≠ '\\') :
      ShownAs c [c]
  | marked
      {c mark : Char}
      (listed : (c, mark) ∈ markedEscapes) :
      ShownAs c ['\\', mark]
  | coded (c : Char) :
      ShownAs c (codeEscape c)

theorem shownAs_literalChar (c : Char) :
    ShownAs c (literalChar c) := by
  unfold literalChar
  iterate 6
    split
    · subst c
      exact .marked (by decide)
  rename_i notQuote notBackslash
  split
  · exact .plain notQuote notBackslash
  · exact .coded c

/--
A mark belongs to one character, and none of the marks begins the escape of a
code point.
-/
theorem markedEscapes_inj
    {c d mark : Char}
    (first : (c, mark) ∈ markedEscapes)
    (second : (d, mark) ∈ markedEscapes) :
    c = d ∧ mark ≠ 'u' := by
  simp only [markedEscapes, List.mem_cons, Prod.mk.injEq, List.not_mem_nil,
    or_false] at first second
  grind

namespace ShownAs

theorem head_ne_quote
    {c : Char}
    {form : List Char}
    (shown : ShownAs c form) :
    ∃ first rest, form = first :: rest ∧ first ≠ '"' := by
  cases shown with
  | plain notQuote notBackslash =>
      exact ⟨c, [], rfl, notQuote⟩
  | marked listed =>
      exact ⟨'\\', _, rfl, by decide⟩
  | coded =>
      exact ⟨'\\', _, rfl, by decide⟩

/--
A form in front of other text is one of a single character, and shows where the
text begins.  Two forms of one kind are compared part by part; two of different
kinds differ in front.
-/
theorem append_inj
    {c d : Char}
    {form otherForm back otherBack : List Char}
    (shown : ShownAs c form)
    (otherShown : ShownAs d otherForm)
    (same : form ++ back = otherForm ++ otherBack) :
    c = d ∧ back = otherBack := by
  cases shown with
  | plain _ notBackslash =>
      cases otherShown with
      | plain =>
          exact List.cons.inj same
      | marked =>
          exact absurd (List.cons.inj same).1 notBackslash
      | coded =>
          exact absurd (List.cons.inj same).1 notBackslash
  | marked listed =>
      cases otherShown with
      | plain _ notBackslash =>
          exact absurd (List.cons.inj same).1.symm notBackslash
      | marked otherListed =>
          obtain ⟨sameMark, sameBack⟩ := List.cons.inj (List.cons.inj same).2
          subst sameMark
          exact ⟨(markedEscapes_inj listed otherListed).1, sameBack⟩
      | coded =>
          have isU := (List.cons.inj (List.cons.inj same).2).1
          exact absurd isU (markedEscapes_inj listed listed).2
  | coded =>
      cases otherShown with
      | plain _ notBackslash =>
          exact absurd (List.cons.inj same).1.symm notBackslash
      | marked listed =>
          have isU := (List.cons.inj (List.cons.inj same).2).1
          exact absurd isU.symm (markedEscapes_inj listed listed).2
      | coded =>
          exact codeEscape_append_inj same

end ShownAs

/--
A literal in front of other text is one of a single text, and shows where the
other begins.
-/
theorem literal_append_inj
    {text other back otherBack : List Char}
    (same : literal text ++ back = literal other ++ otherBack) :
    text = other ∧ back = otherBack := by
  have body :
      text.flatMap literalChar ++ '"' :: back =
        other.flatMap literalChar ++ '"' :: otherBack := by
    simpa [literal] using same
  clear same
  induction text generalizing other with
  | nil =>
      cases other with
      | nil =>
          exact ⟨rfl, List.tail_eq_of_cons_eq body⟩
      | cons d rest =>
          obtain ⟨first, _, form, notQuote⟩ :=
            (shownAs_literalChar d).head_ne_quote
          rw [List.flatMap_cons, form] at body
          exact absurd (List.cons.inj body).1.symm notQuote
  | cons c text inductionHypothesis =>
      cases other with
      | nil =>
          obtain ⟨first, _, form, notQuote⟩ :=
            (shownAs_literalChar c).head_ne_quote
          rw [List.flatMap_cons, form] at body
          exact absurd (List.cons.inj body).1 notQuote
      | cons d other =>
          rw [List.flatMap_cons, List.flatMap_cons, List.append_assoc,
            List.append_assoc] at body
          obtain ⟨sameChar, body⟩ :=
            (shownAs_literalChar c).append_inj (shownAs_literalChar d) body
          obtain ⟨sameRest, sameBack⟩ := inductionHypothesis body
          exact ⟨by rw [sameChar, sameRest], sameBack⟩

end SheetLint.Text
