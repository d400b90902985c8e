import Mathlib.Data.List.TakeWhile
import SheetLint.Value.Color

namespace SheetLint.Color

/-!
# Word runs behind number signs

The search for colours tries six digits before three and goes on behind what it
has found.  What it finds can be told without the search: a colour stands
wherever the longest run of word characters behind a number sign consists of
three or six hexadecimal digits.
-/

/-- The longest run of word characters at the head of a text. -/
def headRun (text : List Char) : List Char :=
  text.takeWhile Unicode.isWord

/--
The run of word characters behind each number sign of a text that goes on with
`following`.
-/
def runs (following : List Char) : List Char → List (List Char)
  | [] =>
      []
  | c :: rest =>
      if c = '#' then
        headRun (rest ++ following) :: runs following rest
      else
        runs following rest

/--
A run makes a colour if it consists of three or of six hexadecimal digits.
-/
def IsDigits (run : List Char) : Prop :=
  (run.length = 3 ∨ run.length = 6) ∧ ∀ c ∈ run, isHexDigit c = true

instance : DecidablePred IsDigits :=
  fun run =>
    decidable_of_iff
      ((run.length = 3 ∨ run.length = 6) ∧ run.all isHexDigit = true)
      (by simp [IsDigits])

/--
The colours whose number signs stand in a text that goes on with `following`.
-/
def colors
    (following : List Char)
    (text : List Char) : List (List Char) :=
  ((runs following text).filter (IsDigits ·)).map ('#' :: ·)

/-! ## Runs -/

@[simp] theorem headRun_nil :
    headRun [] = [] :=
  rfl

theorem headRun_of_cut
    {run after : List Char}
    (words : ∀ c ∈ run, Unicode.isWord c = true)
    (stops : headRun after = []) :
    headRun (run ++ after) = run := by
  rw [headRun, List.takeWhile_append_of_pos words, ← headRun, stops,
    List.append_nil]

/-- Every text is cut where the run at its head ends. -/
theorem exists_cut
    (text : List Char) :
    ∃ run after,
      text = run ++ after ∧
        (∀ c ∈ run, Unicode.isWord c = true) ∧
        headRun after = [] := by
  refine ⟨text.takeWhile Unicode.isWord, text.dropWhile Unicode.isWord,
    List.takeWhile_append_dropWhile.symm, fun c => List.mem_takeWhile_imp, ?_⟩
  cases behind : text.dropWhile Unicode.isWord with
  | nil =>
      rfl
  | cons c after =>
      have stops : Unicode.isWord c = false := by
        simpa [behind] using List.head?_dropWhile_not Unicode.isWord text
      simp [headRun, stops]

theorem headRun_append_of_mem
    {text : List Char}
    {c : Char}
    (member : c ∈ text)
    (noWord : Unicode.isWord c = false)
    (following : List Char) :
    headRun (text ++ following) = headRun text := by
  obtain ⟨run, after, rfl, words, stops⟩ := exists_cut text
  cases after with
  | nil =>
      rw [List.append_nil] at member
      rw [words c member] at noWord
      contradiction
  | cons d after =>
      have stopsThere : headRun (d :: after ++ following) = [] := by
        simpa [headRun, List.takeWhile_cons] using stops
      rw [List.append_assoc, headRun_of_cut words stopsThere,
        headRun_of_cut words stops]

theorem endsWord_iff
    {text : List Char} :
    endsWord text = true ↔ headRun text = [] := by
  cases text with
  | nil =>
      simp [endsWord, headRun]
  | cons c rest =>
      simp [endsWord, headRun, List.takeWhile_cons]

theorem runs_append
    (following front back : List Char) :
    runs following (front ++ back) =
      runs (back ++ following) front ++ runs following back := by
  induction front with
  | nil =>
      rfl
  | cons c front inductionHypothesis =>
      by_cases sign : c = '#'
      · simp [runs, sign, inductionHypothesis]
      · simp [runs, sign, inductionHypothesis]

theorem colors_append
    (following front back : List Char) :
    colors following (front ++ back) =
      colors (back ++ following) front ++ colors following back := by
  simp [colors, runs_append]

theorem runs_eq_nil_of_words
    {text : List Char}
    (words : ∀ c ∈ text, Unicode.isWord c = true)
    (following : List Char) :
    runs following text = [] := by
  induction text with
  | nil =>
      rfl
  | cons c rest inductionHypothesis =>
      obtain ⟨word, words⟩ := List.forall_mem_cons.mp words
      have noSign : c ≠ '#' := by
        rintro rfl
        exact absurd word (by decide)
      rw [runs, if_neg noSign, inductionHypothesis words]

/-! ## The search -/

theorem isLiteralChars_iff
    {text : List Char} :
    isLiteralChars text = true ↔
      ∃ run, text = '#' :: run ∧ IsDigits run := by
  constructor
  · intro literal
    unfold isLiteralChars at literal
    split at literal
    · next run =>
        exact ⟨run, rfl, by simpa [IsDigits] using literal⟩
    · contradiction
  · rintro ⟨run, rfl, digits⟩
    simpa [isLiteralChars, IsDigits] using digits

/-- Digits that end with a word are the whole run. -/
theorem digitsAt?_eq_some_iff
    {count : Nat}
    {text digits : List Char} :
    digitsAt? count text = some digits ↔
      digits = headRun text ∧ digits.length = count ∧
        ∀ c ∈ digits, isHexDigit c = true := by
  constructor
  · intro found
    simp only [digitsAt?, Option.ite_none_right_eq_some, Bool.and_eq_true,
      beq_iff_eq, List.all_eq_true, endsWord_iff] at found
    obtain ⟨⟨⟨sameLength, hex⟩, stops⟩, same⟩ := found
    obtain rfl := Option.some.inj same
    refine ⟨?_, sameLength, hex⟩
    have words : ∀ c ∈ text.take count, Unicode.isWord c = true :=
      fun c member => isWord_of_isHexDigit (hex c member)
    calc
      text.take count = headRun (text.take count ++ text.drop count) :=
        (headRun_of_cut words stops).symm
      _ = headRun text := by
        rw [List.take_append_drop]
  · rintro ⟨same, rfl, hex⟩
    obtain ⟨run, after, rfl, words, stops⟩ := exists_cut text
    rw [headRun_of_cut words stops] at same
    subst digits
    simpa [digitsAt?, endsWord_iff.mpr stops] using hex

theorem digitsAt?_eq
    (count : Nat)
    (text : List Char) :
    digitsAt? count text =
      if (headRun text).length = count ∧
          (headRun text).all isHexDigit = true then
        some (headRun text)
      else
        none := by
  ext digits
  rw [digitsAt?_eq_some_iff, Option.ite_none_right_eq_some, Option.some_inj,
    List.all_eq_true]
  constructor
  · rintro ⟨rfl, holds⟩
    exact ⟨holds, rfl⟩
  · rintro ⟨holds, rfl⟩
    exact ⟨rfl, holds⟩

/--
A literal at a number sign takes the whole run behind it.  Where six digits fail
because the word goes on, three of them fail too.
-/
theorem literalAt?_sign
    (rest : List Char) :
    literalAt? ('#' :: rest) =
      if IsDigits (headRun rest) then some ('#' :: headRun rest) else none := by
  rw [literalAt?, digitsAt?_eq, digitsAt?_eq]
  by_cases digits : IsDigits (headRun rest)
  · rw [if_pos digits]
    obtain ⟨three | six, hex⟩ := digits
    · have notSix : (headRun rest).length ≠ 6 := by
        omega
      rw [if_neg (fun both => notSix both.1),
        if_pos ⟨three, List.all_eq_true.mpr hex⟩]
      rfl
    · rw [if_pos ⟨six, List.all_eq_true.mpr hex⟩]
      rfl
  · rw [if_neg digits,
      if_neg fun both => digits ⟨.inr both.1, List.all_eq_true.mp both.2⟩,
      if_neg fun both => digits ⟨.inl both.1, List.all_eq_true.mp both.2⟩]
    rfl

theorem literalAt?_of_ne_sign
    {c : Char}
    (noSign : c ≠ '#')
    (rest : List Char) :
    literalAt? (c :: rest) = none := by
  simp [literalAt?, noSign]

theorem colors_sign
    (following rest : List Char) :
    colors following ('#' :: rest) =
      (if IsDigits (headRun (rest ++ following)) then
        ['#' :: headRun (rest ++ following)]
      else
        []) ++ colors following rest := by
  by_cases digits : IsDigits (headRun (rest ++ following))
  · simp [colors, runs, digits]
  · simp [colors, runs, digits]

theorem colors_of_ne_sign
    {c : Char}
    (noSign : c ≠ '#')
    (following rest : List Char) :
    colors following (c :: rest) = colors following rest := by
  rw [colors, runs, if_neg noSign, ← colors]

/--
No number sign stands in a run, so that what stands behind it is all there is to
be found.
-/
theorem colors_drop_headRun
    (text : List Char) :
    colors [] (text.drop (headRun text).length) = colors [] text := by
  obtain ⟨run, after, rfl, words, stops⟩ := exists_cut text
  rw [headRun_of_cut words stops, List.drop_left, colors, colors, runs_append,
    runs_eq_nil_of_words words, List.nil_append]

/--
The search finds exactly the colours of a text behind what it has to skip.
-/
theorem literalsFrom_eq_colors
    (skipped : Nat)
    (text : List Char) :
    literalsFrom skipped text = colors [] (text.drop skipped) := by
  induction text generalizing skipped with
  | nil =>
      cases skipped <;> rfl
  | cons c rest inductionHypothesis =>
      cases skipped with
      | succ skipped =>
          rw [literalsFrom, inductionHypothesis, List.drop_succ_cons]
      | zero =>
          rw [literalsFrom, List.drop_zero]
          by_cases sign : c = '#'
          · subst c
            rw [literalAt?_sign, colors_sign, List.append_nil]
            by_cases digits : IsDigits (headRun rest)
            · have behind :
                  literalsFrom (headRun rest).length rest = colors [] rest := by
                rw [inductionHypothesis, colors_drop_headRun]
              simp [digits, behind]
            · simp [digits, inductionHypothesis]
          · rw [literalAt?_of_ne_sign sign, colors_of_ne_sign sign]
            simpa using inductionHypothesis 0

theorem literals_eq_colors
    (text : List Char) :
    literals text = colors [] text := by
  rw [literals, literalsFrom_eq_colors, List.drop_zero]

/-- Whatever is found is a literal by itself. -/
theorem isLiteral_of_mem_find
    {value hex : String}
    (found : hex ∈ find value) :
    isLiteral hex = true := by
  obtain ⟨text, member, rfl⟩ := List.mem_map.mp found
  rw [literals_eq_colors] at member
  obtain ⟨run, isRun, rfl⟩ := List.mem_map.mp member
  have digits : IsDigits run := by
    simpa using (List.mem_filter.mp isRun).2
  rw [isLiteral, String.toList_ofList]
  exact isLiteralChars_iff.mpr ⟨run, rfl, digits⟩

/--
The colours found in a value are the runs of word characters behind its number
signs that consist of three or six hexadecimal digits, each with its sign, in
order.
-/
theorem find_eq_runs
    (value : String) :
    find value =
      ((runs [] value.toList).filter (IsDigits ·)).map fun run =>
        String.ofList ('#' :: run) := by
  rw [find, literals_eq_colors, colors, List.map_map]
  rfl

example : find "##fff #abcd #123456é #a1b2c3" = ["#fff", "#a1b2c3"] := by
  decide

end SheetLint.Color
