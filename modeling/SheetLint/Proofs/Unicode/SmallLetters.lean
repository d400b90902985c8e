import Mathlib.Tactic.Push
import SheetLint.Unicode.Lowercase

namespace SheetLint.Unicode

/-!
# Small letters

No run of capital letters leads to a letter that is a capital itself, so that
lower case is reached in one step: a text without capitals stays as it is, and
the lower case of any text is one.  Only the dotted capital I makes a text
longer.
-/

theorem isUpper_iff
    {c : Char} :
    c.isUpper = true ↔ 65 ≤ c.toNat ∧ c.toNat ≤ 90 := by
  have bounds : c.isUpper = true ↔ 'A'.val ≤ c.val ∧ c.val ≤ 'Z'.val :=
    decide_eq_true_iff
  rw [bounds, UInt32.le_iff_toNat_le, UInt32.le_iff_toNat_le]
  rfl

theorem toNat_toLower
    (c : Char) :
    c.toLower.toNat =
      if 65 ≤ c.toNat ∧ c.toNat ≤ 90 then c.toNat + 32 else c.toNat := by
  by_cases capital : 'A'.val ≤ c.val ∧ c.val ≤ 'Z'.val
  · have bounds : 65 ≤ c.toNat ∧ c.toNat ≤ 90 :=
      isUpper_iff.mp (decide_eq_true capital)
    have shifted : c.toLower.val = c.val + 32 :=
      congrArg Char.val (dif_pos capital)
    have noOverflow : c.val.toNat + 32 < 2 ^ 32 := by
      change c.toNat + 32 < 2 ^ 32
      omega
    rw [if_pos bounds, ← Char.toNat_val, shifted, UInt32.toNat_add]
    exact Nat.mod_eq_of_lt noOverflow
  · have noBounds : ¬ (65 ≤ c.toNat ∧ c.toNat ≤ 90) := by
      intro bounds
      exact capital (of_decide_eq_true (isUpper_iff.mpr bounds))
    have same : c.toLower = c :=
      dif_neg capital
    rw [if_neg noBounds, same]

theorem isUpper_toLower
    (c : Char) :
    c.toLower.isUpper = false := by
  rw [Bool.eq_false_iff, ne_eq, isUpper_iff, toNat_toLower]
  split <;> omega

/-! ## Runs of capital letters -/

namespace CaseRun

/-- The code point of the first small letter of a run. -/
def firstSmall (run : CaseRun) : Nat :=
  (run.first + run.offset).toNat

/-- The code point of the last small letter of a run. -/
def lastSmall (run : CaseRun) : Nat :=
  (run.last + run.offset).toNat

/--
Whether the small letters of a run lie among the characters: below the
surrogates or above.
-/
def leadsToChars (run : CaseRun) : Bool :=
  0 ≤ run.first + run.offset &&
    (run.lastSmall.blt 0xD800 ||
      (Nat.blt 0xDFFF run.firstSmall && run.lastSmall.blt 0x110000))

/--
Whether the small letters of `run` and the capital letters of `other` lie apart.
Where both fill one stretch in turns, the ones are even and the others are odd.
-/
def avoids (run other : CaseRun) : Bool :=
  run.lastSmall.blt other.first || other.last.blt run.firstSmall ||
    ((run.step == 2 || run.first == run.last) && other.step == 2 &&
      run.firstSmall % 2 != other.first % 2)

theorem contains_iff
    {run : CaseRun}
    {c : Char} :
    run.contains c = true ↔
      run.first ≤ c.toNat ∧ c.toNat ≤ run.last ∧
        (c.toNat - run.first) % run.step = 0 := by
  simp [contains, and_assoc]

theorem toNat_lower
    {run : CaseRun}
    {c : Char}
    (leads : run.leadsToChars = true)
    (capital : run.contains c = true) :
    ((run.lower c).toNat : Int) = c.toNat + run.offset := by
  rw [contains_iff] at capital
  simp only [leadsToChars, Bool.and_eq_true, Bool.or_eq_true, decide_eq_true_eq,
    Nat.blt_eq] at leads
  unfold firstSmall lastSmall at leads
  have valid : (c.toNat + run.offset).toNat.isValidChar := by
    rw [Nat.isValidChar]
    omega
  have reached : (run.lower c).toNat = (c.toNat + run.offset).toNat := by
    rw [lower, Char.ofNat, dif_pos valid]
    rfl
  omega

theorem not_contains_lower
    {run other : CaseRun}
    {c : Char}
    (leads : run.leadsToChars = true)
    (apart : run.avoids other = true)
    (capital : run.contains c = true) :
    other.contains (run.lower c) = false := by
  have small := toNat_lower leads capital
  rw [Bool.eq_false_iff, ne_eq, contains_iff]
  rw [contains_iff] at capital
  simp only [leadsToChars, Bool.and_eq_true, decide_eq_true_eq] at leads
  simp only [avoids, Bool.and_eq_true, Bool.or_eq_true, Nat.blt_eq, beq_iff_eq,
    bne_iff_ne] at apart
  unfold firstSmall lastSmall at apart
  obtain (below | above) | ⟨⟨inSteps | single, steps⟩, parity⟩ := apart
  · omega
  · omega
  · rw [inSteps] at capital
    rw [steps]
    omega
  · rw [steps]
    omega

end CaseRun

/--
All capital letters: those of ASCII, the dotted capital I and the letters of the
table.
-/
def capitalRuns : List CaseRun :=
  ⟨0x0041, 0x005A, 1, 32⟩ :: ⟨0x0130, 0x0130, 1, -199⟩ :: caseRuns

/-- Whether `c` is a capital letter. -/
def isCapital (c : Char) : Bool :=
  capitalRuns.any (·.contains c)

/--
Every run of the table lies outside ASCII and leads to characters that are no
capitals.
-/
theorem caseRuns_lead_to_small
    {run : CaseRun}
    (inTable : run ∈ caseRuns) :
    128 ≤ run.first ∧ run.leadsToChars = true ∧
      ∀ other ∈ capitalRuns, run.avoids other = true := by
  have checked :
      (caseRuns.all fun run =>
        Nat.ble 128 run.first &&
          (run.leadsToChars && capitalRuns.all run.avoids)) = true := by
    decide +kernel
  simpa only [Bool.and_eq_true, Nat.ble_eq, List.all_eq_true] using
    List.all_eq_true.mp checked run inTable

theorem isCapital_iff
    {c : Char} :
    isCapital c = true ↔
      (65 ≤ c.toNat ∧ c.toNat ≤ 90) ∨ c = 'İ' ∨
        ∃ run ∈ caseRuns, run.contains c = true := by
  have dotted : 0x0130 ≤ c.toNat ∧ c.toNat ≤ 0x0130 ↔ c = 'İ' := by
    rw [← Char.toNat_inj, Nat.le_antisymm_iff, and_comm]
    rfl
  rw [isCapital, capitalRuns, List.any_cons, List.any_cons, Bool.or_eq_true,
    Bool.or_eq_true, List.any_eq_true, CaseRun.contains_iff,
    CaseRun.contains_iff]
  simp only [Nat.mod_one, and_true, dotted]

/-- A capital letter of ASCII is in no run of the table. -/
theorem isCapital_of_ascii
    {c : Char}
    (ascii : c.toNat < 128) :
    isCapital c = true ↔ 65 ≤ c.toNat ∧ c.toNat ≤ 90 := by
  rw [isCapital_iff]
  constructor
  · rintro (letter | rfl | ⟨run, inTable, capital⟩)
    · exact letter
    · exact absurd ascii (by decide)
    · have outside := (caseRuns_lead_to_small inTable).1
      rw [CaseRun.contains_iff] at capital
      omega
  · exact .inl

/-! ## Lower case -/

theorem lowerChar_of_not_capital
    {c : Char}
    (small : isCapital c = false) :
    lowerChar c = [c] := by
  rw [← Bool.not_eq_true, isCapital_iff] at small
  push Not at small
  obtain ⟨noLetter, notDotted, inNoRun⟩ := small
  have same : c.toNat < 128 → c.toLower = c := by
    intro ascii
    rw [← Char.toNat_inj, toNat_toLower]
    split <;> omega
  have notFound : caseRuns.find? (·.contains c) = none :=
    List.find?_eq_none.mpr inNoRun
  rw [lowerChar, if_neg notDotted, notFound]
  split
  · next ascii =>
      rw [same ascii]
  · rfl

/-- The lower case of a character holds no capital letter. -/
theorem not_capital_of_mem_lowerChar
    (c : Char) :
    ∀ d ∈ lowerChar c, isCapital d = false := by
  fun_cases lowerChar c with
  | case1 ascii =>
      rw [List.forall_mem_singleton]
      have bounds := toNat_toLower c
      rw [Bool.eq_false_iff, ne_eq, isCapital_of_ascii] <;>
        split at bounds <;>
        omega
  | case2 =>
      rw [List.forall_mem_cons, List.forall_mem_singleton]
      decide +kernel
  | case3 _ _ run found =>
      rw [List.forall_mem_singleton]
      have capital : run.contains c = true := by
        simpa using List.find?_some found
      obtain ⟨-, leads, apart⟩ :=
        caseRuns_lead_to_small (List.mem_of_find?_eq_some found)
      rw [isCapital, List.any_eq_false]
      intro other inRuns
      rw [Bool.not_eq_true]
      exact CaseRun.not_contains_lower leads (apart other inRuns) capital
  | case4 notAscii notDotted notFound =>
      rw [List.forall_mem_singleton, Bool.eq_false_iff, ne_eq, isCapital_iff]
      rintro (letter | dotted | ⟨run, inTable, capital⟩)
      · omega
      · exact notDotted dotted
      · exact List.find?_eq_none.mp notFound run inTable capital

theorem isCapital_sigma :
    isCapital capitalSigma = true := by
  decide +kernel

theorem lowerAfter_of_no_capitals
    (before : List Char)
    {text : List Char}
    (small : ∀ c ∈ text, isCapital c = false) :
    lowerAfter before text = text := by
  induction text generalizing before with
  | nil =>
      rfl
  | cons c rest inductionHypothesis =>
      obtain ⟨smallHead, smallRest⟩ := List.forall_mem_cons.mp small
      have noSigma : c ≠ capitalSigma := by
        rintro rfl
        rw [isCapital_sigma] at smallHead
        contradiction
      rw [lowerAfter, if_neg noSigma, lowerChar_of_not_capital smallHead,
        inductionHypothesis _ smallRest]
      rfl

/-- A text without capital letters is its own lower case. -/
theorem lower_of_no_capitals
    {text : List Char}
    (small : ∀ c ∈ text, isCapital c = false) :
    lower text = text :=
  lowerAfter_of_no_capitals [] small

theorem not_capital_lowerSigma
    (before after : List Char) :
    isCapital (lowerSigma before after) = false := by
  rw [lowerSigma]
  split <;> decide +kernel

theorem not_capital_of_mem_lowerAfter
    {before text : List Char}
    {d : Char}
    (member : d ∈ lowerAfter before text) :
    isCapital d = false := by
  induction text generalizing before with
  | nil =>
      contradiction
  | cons c rest inductionHypothesis =>
      rw [lowerAfter, List.mem_append] at member
      obtain inHead | inRest := member
      · split at inHead
        · obtain rfl := List.mem_singleton.mp inHead
          exact not_capital_lowerSigma before rest
        · exact not_capital_of_mem_lowerChar c d inHead
      · exact inductionHypothesis inRest

/--
The lower case of a text holds no capital letter, wherever its sigmas stand.
-/
theorem not_capital_of_mem_lower
    {text : List Char}
    {d : Char}
    (member : d ∈ lower text) :
    isCapital d = false :=
  not_capital_of_mem_lowerAfter member

/-! ## The length of the lower case -/

/--
A character becomes one character in lower case, or the small I and its dot.
-/
theorem lowerChar_eq_dotted_or_single
    (c : Char) :
    (c = 'İ' ∧ lowerChar c = ['i', '\u0307']) ∨
      (c ≠ 'İ' ∧ ∃ d, lowerChar c = [d]) := by
  by_cases dotted : c = 'İ'
  · exact .inl ⟨dotted, by rw [dotted]; rfl⟩
  · right
    refine ⟨dotted, ?_⟩
    rw [lowerChar, if_neg dotted]
    split
    · exact ⟨_, rfl⟩
    · split <;> exact ⟨_, rfl⟩

/--
The lower case of a text begins with the lower case of its first character.
-/
theorem exists_lowerAfter_cons
    (before : List Char)
    (c : Char)
    (rest : List Char) :
    ∃ head,
      lowerAfter before (c :: rest) = head ++ lowerAfter (c :: before) rest ∧
        ((c = 'İ' ∧ head = ['i', '\u0307']) ∨ (c ≠ 'İ' ∧ ∃ d, head = [d])) := by
  rw [lowerAfter]
  refine ⟨_, rfl, ?_⟩
  split
  · next sigma =>
      right
      refine ⟨?_, _, rfl⟩
      rw [sigma]
      decide
  · exact lowerChar_eq_dotted_or_single c

theorem length_lowerAfter
    (before text : List Char) :
    (lowerAfter before text).length = text.length + text.count 'İ' := by
  induction text generalizing before with
  | nil =>
      rfl
  | cons c rest inductionHypothesis =>
      obtain ⟨head, shape, ⟨rfl, rfl⟩ | ⟨notDotted, d, rfl⟩⟩ :=
        exists_lowerAfter_cons before c rest
      · rw [shape, List.length_append, inductionHypothesis,
          List.count_cons_self]
        simp only [List.length_cons, List.length_nil]
        omega
      · rw [shape, List.length_append, inductionHypothesis,
          List.count_cons_of_ne notDotted]
        simp only [List.length_cons, List.length_nil]
        omega

/-- A text grows in lower case by one character for each dotted capital I. -/
theorem length_lower
    (text : List Char) :
    (lower text).length = text.length + text.count 'İ' :=
  length_lowerAfter [] text

end SheetLint.Unicode
