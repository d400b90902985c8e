import Mathlib.Data.List.Basic
import Mathlib.Logic.Relation
import SheetLint.Selector.Words

namespace SheetLint.Selector

/-!
# Words and gaps

The literal text of a selector is a row of words with gaps of separators around
them.  There is one list of words for which it can be read so with no empty gap
between two words, and these are the words of the selector.  They depend on the
joined text alone: neither the interpolations in it nor the places where its
literals are cut matter.
-/

/-- A text that is not empty and has no separator. -/
structure IsWord (word : List Char) : Prop where
  notEmpty : word ≠ []
  unbroken : ∀ c ∈ word, isSeparator c = false

theorem IsWord.reverse
    {word : List Char}
    (isWord : IsWord word) :
    IsWord word.reverse where
  notEmpty := by
    simpa using isWord.notEmpty
  unbroken := by
    simpa using isWord.unbroken

/-! ## The scan -/

/--
A text without separators is one word, together with what has been read of it
before.
-/
theorem wordsAfter_unbroken
    {current word : List Char}
    (notEmpty : current.reverse ++ word ≠ [])
    (unbroken : ∀ c ∈ word, isSeparator c = false) :
    wordsAfter current word = [current.reverse ++ word] := by
  induction word generalizing current with
  | nil =>
      rw [List.append_nil] at notEmpty ⊢
      rw [wordsAfter, if_neg (by simpa using notEmpty)]
  | cons c word inductionHypothesis =>
      obtain ⟨goesOn, unbroken⟩ := List.forall_mem_cons.mp unbroken
      have later :
          wordsAfter (c :: current) word = [(c :: current).reverse ++ word] :=
        inductionHypothesis (by simp) unbroken
      rw [wordsAfter, if_neg (by simp [goesOn]), later, List.reverse_cons,
        List.append_assoc, List.singleton_append]

theorem wordsOf_word
    {word : List Char}
    (isWord : IsWord word) :
    wordsOf word = [word] :=
  wordsAfter_unbroken isWord.notEmpty isWord.unbroken

theorem wordsOf_cons_separator
    {c : Char}
    (separator : isSeparator c = true)
    (rest : List Char) :
    wordsOf (c :: rest) = wordsOf rest := by
  simp [wordsOf, wordsAfter, separator]

/--
A separator ends the word that is going on, and what stands behind it is read by
itself.
-/
theorem wordsAfter_append_separator
    {c : Char}
    (separator : isSeparator c = true)
    (current front back : List Char) :
    wordsAfter current (front ++ c :: back) =
      wordsAfter current front ++ wordsOf back := by
  fun_induction wordsAfter current front with
  | case1 current noWord =>
      simp [wordsAfter, wordsOf, separator, noWord]
  | case2 current word =>
      simp [wordsAfter, wordsOf, separator, word]
  | case3 current d front here noWord inductionHypothesis =>
      rw [List.cons_append, wordsAfter, if_pos here, if_pos noWord,
        inductionHypothesis]
  | case4 current d front here word inductionHypothesis =>
      rw [List.cons_append, wordsAfter, if_pos here, if_neg word,
        inductionHypothesis, List.cons_append]
  | case5 current d front goesOn inductionHypothesis =>
      rw [List.cons_append, wordsAfter, if_neg goesOn, inductionHypothesis]

/-- Words add up where the second text does not go on with a word. -/
theorem wordsOf_append_of_head
    {front back : List Char}
    (stops : ∀ c ∈ back.head?, isSeparator c = true) :
    wordsOf (front ++ back) = wordsOf front ++ wordsOf back := by
  cases back with
  | nil =>
      have nothing : wordsOf [] = [] :=
        rfl
      rw [List.append_nil, nothing, List.append_nil]
  | cons c back =>
      have separator : isSeparator c = true :=
        stops c rfl
      rw [wordsOf_cons_separator separator, wordsOf,
        wordsAfter_append_separator separator, ← wordsOf]

/-- Words add up where the first text does not end within a word. -/
theorem wordsOf_append_of_last
    {front back : List Char}
    (ends : ∀ c ∈ front.getLast?, isSeparator c = true) :
    wordsOf (front ++ back) = wordsOf front ++ wordsOf back := by
  rcases List.eq_nil_or_concat' front with rfl | ⟨front, c, rfl⟩
  · rfl
  · have separator : isSeparator c = true :=
      ends c (by simp)
    have split (behind : List Char) :
        wordsOf (front ++ c :: behind) = wordsOf front ++ wordsOf behind :=
      wordsAfter_append_separator separator [] front behind
    rw [List.append_assoc, List.singleton_append, split, split]
    simp [wordsOf, wordsAfter]

/-- A text of separators has no words. -/
theorem wordsOf_gap
    {gap : List Char}
    (separators : ∀ c ∈ gap, isSeparator c = true) :
    wordsOf gap = [] := by
  induction gap with
  | nil =>
      rfl
  | cons c gap inductionHypothesis =>
      obtain ⟨separator, separators⟩ := List.forall_mem_cons.mp separators
      rw [wordsOf_cons_separator separator, inductionHypothesis separators]

/-! ## Spacings -/

/-- Gaps, with a word between any two that follow each other. -/
inductive Spacing where
  | final (gap : List Char)
  | spaced (gap word : List Char) (rest : Spacing)

namespace Spacing

/-- The text that gaps and words make. -/
def text : Spacing → List Char
  | final gap =>
      gap
  | spaced gap word rest =>
      gap ++ (word ++ rest.text)

/-- The words in order. -/
def words : Spacing → List (List Char)
  | final _ =>
      []
  | spaced _ word rest =>
      word :: rest.words

/-- The gaps in order, one more than there are words. -/
def gaps : Spacing → List (List Char)
  | final gap =>
      [gap]
  | spaced gap _ rest =>
      gap :: rest.gaps

/--
The spacing is a way to read a text: its words are words, its gaps hold
separators only, and a gap that is neither the first nor the last is not empty.
-/
structure Divides (spacing : Spacing) (text : List Char) : Prop where
  sameText : spacing.text = text
  words : ∀ word ∈ spacing.words, IsWord word
  gaps : ∀ gap ∈ spacing.gaps, ∀ c ∈ gap, isSeparator c = true
  inner : ∀ gap ∈ spacing.gaps.tail.dropLast, gap ≠ []

/-- The spacing with one more separator in front. -/
def cons (c : Char) : Spacing → Spacing
  | final gap =>
      final (c :: gap)
  | spaced gap word rest =>
      spaced (c :: gap) word rest

theorem gaps_ne_nil
    (spacing : Spacing) :
    spacing.gaps ≠ [] := by
  cases spacing <;> simp [gaps]

@[simp] theorem words_cons
    (c : Char)
    (spacing : Spacing) :
    (spacing.cons c).words = spacing.words := by
  cases spacing <;> rfl

@[simp] theorem text_cons
    (c : Char)
    (spacing : Spacing) :
    (spacing.cons c).text = c :: spacing.text := by
  cases spacing <;> rfl

/--
A gap in front of the last one of a longer spacing is the longer first gap or
was inner.
-/
theorem ne_nil_of_mem_gaps_cons
    {c : Char}
    {spacing : Spacing}
    (inner : ∀ gap ∈ spacing.gaps.tail.dropLast, gap ≠ [])
    {gap : List Char}
    (member : gap ∈ (spacing.cons c).gaps.dropLast) :
    gap ≠ [] := by
  cases spacing with
  | final first =>
      simp [cons, gaps] at member
  | spaced first word rest =>
      rw [cons, gaps, List.dropLast_cons_of_ne_nil rest.gaps_ne_nil] at member
      rcases List.mem_cons.mp member with rfl | behind
      · exact List.cons_ne_nil c first
      · exact inner gap behind

namespace Divides

theorem final
    {gap : List Char}
    (separators : ∀ c ∈ gap, isSeparator c = true) :
    (Spacing.final gap).Divides gap where
  sameText := rfl
  words := by
    simp [Spacing.words]
  gaps := by
    simpa [Spacing.gaps] using separators
  inner := by
    simp [Spacing.gaps]

theorem cons
    {c : Char}
    {spacing : Spacing}
    {text : List Char}
    (separator : isSeparator c = true)
    (divides : spacing.Divides text) :
    (spacing.cons c).Divides (c :: text) := by
  obtain ⟨sameText, words, gaps, inner⟩ := divides
  refine ⟨by rw [text_cons, sameText], by simpa using words, ?_, ?_⟩
  · cases spacing <;> simpa [Spacing.cons, Spacing.gaps, separator] using gaps
  · cases spacing <;> exact inner

/-- A word can stand in front of what has no empty gap before its last one. -/
theorem word
    {word : List Char}
    {rest : Spacing}
    {text : List Char}
    (isWord : IsWord word)
    (divides : rest.Divides text)
    (parted : ∀ gap ∈ rest.gaps.dropLast, gap ≠ []) :
    (spaced [] word rest).Divides (word ++ text) where
  sameText := by
    simp [Spacing.text, divides.sameText]
  words :=
    List.forall_mem_cons.mpr ⟨isWord, divides.words⟩
  gaps :=
    List.forall_mem_cons.mpr ⟨by simp, divides.gaps⟩
  inner := parted

/-- What stands behind a word is a reading of the text that is left. -/
theorem rest
    {gap word : List Char}
    {rest : Spacing}
    {text : List Char}
    (divides : (spaced gap word rest).Divides text) :
    rest.Divides rest.text where
  sameText := rfl
  words :=
    (List.forall_mem_cons.mp divides.words).2
  gaps :=
    (List.forall_mem_cons.mp divides.gaps).2
  inner := by
    intro inner member
    rw [← List.tail_dropLast] at member
    exact divides.inner inner (List.mem_of_mem_tail member)

/-- Behind a word there is nothing or a separator. -/
theorem head_rest
    {gap word : List Char}
    {rest : Spacing}
    {text : List Char}
    (divides : (spaced gap word rest).Divides text) :
    ∀ c ∈ rest.text.head?, isSeparator c = true := by
  intro c first
  have gaps := (List.forall_mem_cons.mp divides.gaps).2
  cases rest with
  | final last =>
      exact gaps last List.mem_cons_self c (List.mem_of_head? first)
  | spaced second word rest =>
      have notEmpty : second ≠ [] := by
        apply divides.inner
        rw [Spacing.gaps, List.tail_cons, Spacing.gaps,
          List.dropLast_cons_of_ne_nil rest.gaps_ne_nil]
        exact List.mem_cons_self
      rw [Spacing.text, List.head?_append_of_ne_nil _ notEmpty] at first
      exact gaps second List.mem_cons_self c (List.mem_of_head? first)

/-- Whatever the spacing, its words are those that the scan finds. -/
theorem wordsOf_eq
    {spacing : Spacing}
    {text : List Char}
    (divides : spacing.Divides text) :
    wordsOf text = spacing.words := by
  induction spacing generalizing text with
  | final gap =>
      rw [← divides.sameText]
      exact wordsOf_gap (divides.gaps gap List.mem_cons_self)
  | spaced gap word rest inductionHypothesis =>
      have separators : ∀ c ∈ gap, isSeparator c = true :=
        divides.gaps gap List.mem_cons_self
      have isWord : IsWord word :=
        divides.words word List.mem_cons_self
      calc
        wordsOf text = wordsOf (gap ++ (word ++ rest.text)) := by
          rw [← divides.sameText, Spacing.text]
        _ = wordsOf (word ++ rest.text) := by
          rw [wordsOf_append_of_last fun c last =>
              separators c (List.mem_of_getLast? last),
            wordsOf_gap separators, List.nil_append]
        _ = word :: wordsOf rest.text := by
          rw [wordsOf_append_of_head divides.head_rest, wordsOf_word isWord,
            List.singleton_append]
        _ = word :: rest.words := by
          rw [inductionHypothesis divides.rest]

end Divides

/--
The scan yields the words of a spacing, whatever has been read of a word
already.
-/
theorem exists_divides_wordsAfter
    {current : List Char}
    (unbroken : ∀ c ∈ current, isSeparator c = false)
    (text : List Char) :
    ∃ spacing : Spacing,
      spacing.Divides (current.reverse ++ text) ∧
        spacing.words = wordsAfter current text := by
  fun_induction wordsAfter current text with
  | case1 current noWord =>
      rw [List.isEmpty_iff.mp noWord]
      exact ⟨.final [], .final (by simp), rfl⟩
  | case2 current goingOn =>
      have isWord : IsWord current :=
        ⟨by simpa using goingOn, unbroken⟩
      exact ⟨.spaced [] current.reverse (.final []),
        .word isWord.reverse (.final (by simp)) (by simp [gaps]), rfl⟩
  | case3 current c rest separator noWord inductionHypothesis =>
      obtain ⟨spacing, divides, sameWords⟩ := inductionHypothesis (by simp)
      rw [List.isEmpty_iff.mp noWord]
      exact ⟨spacing.cons c, divides.cons separator,
        by rw [words_cons, sameWords]⟩
  | case4 current c rest separator goingOn inductionHypothesis =>
      have isWord : IsWord current :=
        ⟨by simpa using goingOn, unbroken⟩
      obtain ⟨spacing, divides, sameWords⟩ := inductionHypothesis (by simp)
      refine ⟨.spaced [] current.reverse (spacing.cons c), ?_, ?_⟩
      · exact .word isWord.reverse (divides.cons separator)
          fun gap => ne_nil_of_mem_gaps_cons divides.inner
      · rw [words, words_cons, sameWords]
  | case5 current c rest goesOn inductionHypothesis =>
      have longer : ∀ d ∈ c :: current, isSeparator d = false :=
        List.forall_mem_cons.mpr ⟨by simpa using goesOn, unbroken⟩
      obtain ⟨spacing, divides, sameWords⟩ := inductionHypothesis longer
      rw [List.reverse_cons, List.append_assoc, List.singleton_append]
        at divides
      exact ⟨spacing, divides, sameWords⟩

end Spacing

/-! ## Tokens that write the same text -/

/-- An interpolation is put between two tokens, or a literal is cut in two. -/
inductive Recut : List Token → List Token → Prop where
  | interpolate (front back : List Token) :
      Recut (front ++ back) (front ++ .interpolation :: back)
  | cut (front back : List Token) (first second : String) :
      Recut (front ++ .literal (first ++ second) :: back)
        (front ++ .literal first :: .literal second :: back)

/--
One list of tokens comes from the other by putting in or taking out
interpolations and cuts.
-/
def SameButCuts : List Token → List Token → Prop :=
  Relation.EqvGen Recut

theorem Recut.text_eq
    {tokens other : List Token}
    (recut : Recut tokens other) :
    text tokens = text other := by
  cases recut with
  | interpolate front back =>
      simp [text, Token.chars]
  | cut front back first second =>
      simp [text, Token.chars]

theorem SameButCuts.text_eq
    {tokens other : List Token}
    (same : SameButCuts tokens other) :
    text tokens = text other := by
  induction same with
  | rel _ _ recut =>
      exact recut.text_eq
  | refl _ =>
      rfl
  | symm _ _ _ sameText =>
      exact sameText.symm
  | trans _ _ _ _ _ firstSame secondSame =>
      exact firstSame.trans secondSame

/--
The words of a selector are the only list of words that its literal text can be
divided into by gaps of separators, none of them empty between two words.
Interpolations and cuts of literals do not change them.
-/
theorem words_unique_spacing (tokens : List Token) :
    (∀ found : List String,
      found = words tokens ↔
        ∃ spacing : Spacing,
          spacing.Divides (text tokens) ∧
            found = spacing.words.map String.ofList) ∧
      ∀ other, SameButCuts tokens other → words other = words tokens := by
  refine ⟨fun found => ⟨?_, ?_⟩, fun other same => ?_⟩
  · rintro rfl
    obtain ⟨spacing, divides, sameWords⟩ :=
      Spacing.exists_divides_wordsAfter (List.forall_mem_nil _) (text tokens)
    exact ⟨spacing, divides, by rw [words, wordsOf, sameWords]⟩
  · rintro ⟨spacing, divides, rfl⟩
    rw [words, divides.wordsOf_eq]
  · rw [words, words, same.text_eq]

/-- A literal is cut in two, and an interpolation is put where it was cut. -/
theorem words_of_interpolated_gap :
    SameButCuts
        [.literal (".a" ++ " b\n")]
        [.literal ".a", .interpolation, .literal " b\n"] ∧
      words [.literal ".a", .interpolation, .literal " b\n"] =
        words [.literal (".a" ++ " b\n")] := by
  have same :
      SameButCuts
        [.literal (".a" ++ " b\n")]
        [.literal ".a", .interpolation, .literal " b\n"] :=
    .trans _ _ _
      (.rel _ _ (.cut [] [] ".a" " b\n"))
      (.rel _ _ (.interpolate [.literal ".a"] [.literal " b\n"]))
  exact ⟨same, (words_unique_spacing _).2 _ same⟩

example :
    words [.literal " .a\u00a0.b\n\t.c-", .interpolation, .literal "d "] =
      [".a\u00a0.b", ".c-d"] := by
  decide

end SheetLint.Selector
