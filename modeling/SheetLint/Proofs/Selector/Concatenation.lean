import Mathlib.Data.List.TakeWhile
import SheetLint.Proofs.Selector.Spacing

namespace SheetLint.Selector

/-!
# Selectors put together

When one list of tokens follows another, the words of the two add up, unless a
word of the first is still going on where its text ends and the second goes on
with it.  Then exactly these two words grow into one, and all others stay.
-/

/--
One of two texts is empty, the first ends with a separator, or the second begins
with one.
-/
def Apart (front back : List Char) : Prop :=
  front = [] ∨ back = [] ∨
    (∃ c ∈ front.getLast?, isSeparator c = true) ∨
    ∃ c ∈ back.head?, isSeparator c = true

/-- Two texts that are not apart meet within a word. -/
theorem meet_of_not_apart
    {front back : List Char}
    (notApart : ¬ Apart front back) :
    (∃ c ∈ front.getLast?, isSeparator c = false) ∧
      ∃ c ∈ back.head?, isSeparator c = false := by
  simp only [Apart, not_or, not_exists, not_and, Bool.not_eq_true] at notApart
  obtain ⟨frontNotEmpty, backNotEmpty, frontGoesOn, backGoesOn⟩ := notApart
  have last := List.getLast?_eq_some_getLast frontNotEmpty
  have first := List.head?_eq_some_head backNotEmpty
  exact ⟨⟨_, last, frontGoesOn _ last⟩, ⟨_, first, backGoesOn _ first⟩⟩

theorem wordsOf_append_of_apart
    {front back : List Char}
    (apart : Apart front back) :
    wordsOf (front ++ back) = wordsOf front ++ wordsOf back := by
  rcases apart with rfl | rfl | ⟨c, last, separator⟩ | ⟨c, first, separator⟩
  · exact wordsOf_append_of_last (by simp)
  · exact wordsOf_append_of_head (by simp)
  · apply wordsOf_append_of_last
    intro d lastToo
    rwa [← Option.mem_unique last lastToo]
  · apply wordsOf_append_of_head
    intro d firstToo
    rwa [← Option.mem_unique first firstToo]

theorem IsWord.append
    {first second : List Char}
    (firstIsWord : IsWord first)
    (secondIsWord : IsWord second) :
    IsWord (first ++ second) := by
  refine ⟨List.append_ne_nil_of_left_ne_nil firstIsWord.notEmpty second, ?_⟩
  intro c member
  rcases List.mem_append.mp member with inFirst | inSecond
  · exact firstIsWord.unbroken c inFirst
  · exact secondIsWord.unbroken c inSecond

/-- A text that begins within a word is cut where this word ends. -/
theorem exists_first_word
    {text : List Char}
    (within : ∃ c ∈ text.head?, isSeparator c = false) :
    ∃ word after,
      text = word ++ after ∧
        IsWord word ∧
        ∀ c ∈ after.head?, isSeparator c = true := by
  obtain ⟨c, first, unbroken⟩ := within
  obtain ⟨rest, rfl⟩ := List.head?_eq_some_iff.mp first
  refine ⟨c :: rest.takeWhile (!isSeparator ·), rest.dropWhile (!isSeparator ·),
    by simp, ⟨by simp, ?_⟩, ?_⟩
  · intro d member
    rcases List.mem_cons.mp member with rfl | behind
    · exact unbroken
    · simpa using List.mem_takeWhile_imp behind
  · intro d behind
    have stops := List.head?_dropWhile_not (!isSeparator ·) rest
    rw [behind] at stops
    simpa using stops

/-- A text that ends within a word is cut where this word begins. -/
theorem exists_last_word
    {text : List Char}
    (within : ∃ c ∈ text.getLast?, isSeparator c = false) :
    ∃ before word,
      text = before ++ word ∧
        IsWord word ∧
        ∀ c ∈ before.getLast?, isSeparator c = true := by
  have withinReversed : ∃ c ∈ text.reverse.head?, isSeparator c = false := by
    simpa using within
  obtain ⟨word, after, shape, isWord, ends⟩ := exists_first_word withinReversed
  refine ⟨after.reverse, word.reverse, ?_, isWord.reverse, by simpa using ends⟩
  rw [← List.reverse_append, ← shape, List.reverse_reverse]

/--
Where two texts meet within a word, the last word of the first goes on in the
second.
-/
theorem wordsOf_append_of_meet
    {front back : List Char}
    (frontWithin : ∃ c ∈ front.getLast?, isSeparator c = false)
    (backWithin : ∃ c ∈ back.head?, isSeparator c = false) :
    ∃ before last first after,
      wordsOf front = before ++ [last] ∧
        wordsOf back = first :: after ∧
        wordsOf (front ++ back) = before ++ (last ++ first) :: after := by
  obtain ⟨before, last, rfl, isLast, beforeEnds⟩ := exists_last_word frontWithin
  obtain ⟨first, after, rfl, isFirst, afterStops⟩ :=
    exists_first_word backWithin
  have grown : IsWord (last ++ first) :=
    isLast.append isFirst
  refine ⟨wordsOf before, last, first, wordsOf after, ?_, ?_, ?_⟩
  · rw [wordsOf_append_of_last beforeEnds, wordsOf_word isLast]
  · rw [wordsOf_append_of_head afterStops, wordsOf_word isFirst,
      List.singleton_append]
  · calc
      wordsOf (before ++ last ++ (first ++ after)) =
          wordsOf (before ++ ((last ++ first) ++ after)) := by
        simp
      _ = wordsOf before ++ wordsOf ((last ++ first) ++ after) :=
        wordsOf_append_of_last beforeEnds
      _ = wordsOf before ++ (last ++ first) :: wordsOf after := by
        rw [wordsOf_append_of_head afterStops, wordsOf_word grown,
          List.singleton_append]

/--
The words of two selectors add up if their texts are apart.  Otherwise both have
words, and the last word of the first and the first word of the second become
one.
-/
theorem words_append (front back : List Token) :
    (Apart (text front) (text back) →
      words (front ++ back) = words front ++ words back) ∧
      (¬ Apart (text front) (text back) →
        ∃ before last first after,
          words front = before ++ [last] ∧
            words back = first :: after ∧
            words (front ++ back) = before ++ (last ++ first) :: after) := by
  have joined : text (front ++ back) = text front ++ text back :=
    List.flatMap_append
  constructor
  · intro apart
    rw [words, words, words, joined, wordsOf_append_of_apart apart,
      List.map_append]
  · intro notApart
    obtain ⟨frontWithin, backWithin⟩ := meet_of_not_apart notApart
    obtain ⟨before, last, first, after, frontWords, backWords, allWords⟩ :=
      wordsOf_append_of_meet frontWithin backWithin
    refine ⟨before.map String.ofList, String.ofList last, String.ofList first,
      after.map String.ofList, ?_, ?_, ?_⟩
    · simp [words, frontWords]
    · simp [words, backWords]
    · simp [words, joined, allWords, String.ofList_append]

/-- A word ends in front of an interpolation, and another goes on behind one. -/
theorem words_append_around_interpolation :
    (Apart (text [.literal ".a "]) (text [.interpolation, .literal ".b"]) ∧
      words ([.literal ".a "] ++ [.interpolation, .literal ".b"]) =
        words [.literal ".a "] ++ words [.interpolation, .literal ".b"]) ∧
      ¬ Apart (text [.literal ".a .b-", .interpolation])
        (text [.literal "c .d"]) ∧
      ∃ before last first after,
        words [.literal ".a .b-", .interpolation] = before ++ [last] ∧
          words [.literal "c .d"] = first :: after ∧
          words ([.literal ".a .b-", .interpolation] ++ [.literal "c .d"]) =
            before ++ (last ++ first) :: after := by
  have apart :
      Apart (text [.literal ".a "]) (text [.interpolation, .literal ".b"]) := by
    simp [Apart, text, Token.chars, isSeparator]
  have notApart :
      ¬ Apart (text [.literal ".a .b-", .interpolation])
        (text [.literal "c .d"]) := by
    simp [Apart, text, Token.chars, isSeparator]
  exact ⟨⟨apart, (words_append _ _).1 apart⟩, notApart,
    (words_append _ _).2 notApart⟩

end SheetLint.Selector
