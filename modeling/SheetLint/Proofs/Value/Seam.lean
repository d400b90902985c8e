import Mathlib.Data.List.Basic
import SheetLint.Proofs.Value.Layout
import SheetLint.Proofs.Value.Run

namespace SheetLint

/-!
# Seams

Where a quoted string is taken out of a value, the text in front of it meets the
text behind it, and a run of word characters may reach across such a seam.  Then
a colour can arise whose digits do not stand together in the value, or one that
stands outside every string can be lost.  Nowhere else does masking change what
is found in a plain segment.
-/

namespace Color

/--
The run behind the last number sign of a text goes on in `following`, and it
makes a colour in the text alone or with what it takes from there.
-/
def Straddled
    (following : List Char)
    (text : List Char) : Prop :=
  ∃ front run,
    text = front ++ '#' :: run ∧
      (∀ c ∈ run, Unicode.isWord c = true) ∧
      headRun following ≠ [] ∧
      (IsDigits run ∨ IsDigits (run ++ headRun following))

/-! ## What follows a text matters only to the last run -/

theorem straddled_sign_iff
    {rest : List Char}
    (words : ∀ c ∈ rest, Unicode.isWord c = true)
    (following : List Char) :
    Straddled following ('#' :: rest) ↔
      headRun following ≠ [] ∧
        (IsDigits rest ∨ IsDigits (rest ++ headRun following)) := by
  constructor
  · rintro ⟨front, run, shape, _, goesOn, digits⟩
    cases front with
    | nil =>
        obtain ⟨-, rfl⟩ := List.cons.inj shape
        exact ⟨goesOn, digits⟩
    | cons c front =>
        obtain ⟨-, rfl⟩ := List.cons.inj shape
        have signIsWord := words '#' (by simp)
        exact absurd signIsWord (by decide)
  · rintro ⟨goesOn, digits⟩
    exact ⟨[], rest, rfl, words, goesOn, digits⟩

theorem straddled_cons_iff
    {c : Char}
    {rest : List Char}
    (closed : c = '#' → ∃ d ∈ rest, Unicode.isWord d = false)
    (following : List Char) :
    Straddled following (c :: rest) ↔ Straddled following rest := by
  constructor
  · rintro ⟨front, run, shape, words, holds⟩
    cases front with
    | nil =>
        obtain ⟨rfl, rfl⟩ := List.cons.inj shape
        obtain ⟨d, member, noWord⟩ := closed rfl
        rw [words d member] at noWord
        contradiction
    | cons _ front =>
        obtain ⟨-, rfl⟩ := List.cons.inj shape
        exact ⟨front, run, rfl, words, holds⟩
  · rintro ⟨front, run, rfl, words, holds⟩
    exact ⟨c :: front, run, rfl, words, holds⟩

theorem colors_eq_iff_of_words
    {rest : List Char}
    (words : ∀ c ∈ rest, Unicode.isWord c = true)
    (following : List Char) :
    colors following ('#' :: rest) = colors [] ('#' :: rest) ↔
      ¬ Straddled following ('#' :: rest) := by
  have noMore (after : List Char) : colors after rest = [] := by
    rw [colors, runs_eq_nil_of_words words]
    rfl
  have here (after : List Char) :
      headRun (rest ++ after) = rest ++ headRun after :=
    List.takeWhile_append_of_pos words
  rw [straddled_sign_iff words, colors_sign, colors_sign, noMore, noMore, here,
    here]
  by_cases goesOn : headRun following = []
  · simp [goesOn]
  · by_cases alone : IsDigits rest <;>
      by_cases joined : IsDigits (rest ++ headRun following) <;>
      simp [goesOn, alone, joined]

/--
The text behind a seam changes what is found in front of it just where a run
straddles it.
-/
theorem colors_eq_iff
    (following text : List Char) :
    colors following text = colors [] text ↔ ¬ Straddled following text := by
  induction text with
  | nil =>
      simp [colors, runs, Straddled]
  | cons c rest inductionHypothesis =>
      by_cases sign : c = '#'
      · subst c
        by_cases words : ∀ c ∈ rest, Unicode.isWord c = true
        · exact colors_eq_iff_of_words words following
        · obtain ⟨d, member, noWord⟩ :
              ∃ d ∈ rest, Unicode.isWord d = false := by
            simpa using words
          rw [straddled_cons_iff (fun _ => ⟨d, member, noWord⟩), colors_sign,
            colors_sign, headRun_append_of_mem member noWord,
            headRun_append_of_mem member noWord, List.append_cancel_left_eq,
            inductionHypothesis]
      · rw [straddled_cons_iff (fun isSign => absurd isSign sign),
          colors_of_ne_sign sign, colors_of_ne_sign sign, inductionHypothesis]

end Color

namespace Quote

open Color

/-- A plain segment and the plain text of all segments behind it. -/
structure Layout.Part where
  plain : List Char
  following : List Char

/-- The plain segments in order, each with the plain text behind it. -/
def Layout.parts : Layout → List Layout.Part
  | final plain =>
      [⟨plain, []⟩]
  | spanned plain _ rest =>
      ⟨plain, rest.outside⟩ :: rest.parts

theorem Layout.map_plain_parts
    (layout : Layout) :
    layout.parts.map (·.plain) = layout.segments := by
  induction layout with
  | final plain =>
      rfl
  | spanned plain span rest inductionHypothesis =>
      rw [parts, segments, List.map_cons, inductionHypothesis]

/--
The colours of a masked value, by the segments that their number signs stand in.
-/
theorem Layout.literals_outside
    (layout : Layout) :
    literals layout.outside =
      layout.parts.flatMap fun part => colors part.following part.plain := by
  rw [literals_eq_colors]
  induction layout with
  | final plain =>
      simp [parts, outside, segments]
  | spanned plain span rest inductionHypothesis =>
      have shape :
          (spanned plain span rest).outside = plain ++ rest.outside := by
        simp [outside, segments]
      rw [shape, colors_append, List.append_nil, inductionHypothesis]
      rfl

/--
The colours found in a masked value are those of its plain segments, read on
across the seams.  A segment holds other colours than by itself just where a run
straddles the seam behind it, so that without such runs the colours are those of
the segments one by one.
-/
theorem find_mask_by_segments
    {value : String}
    {layout : Layout}
    (separates : layout.Separates value.toList) :
    find (mask value) =
        layout.parts.flatMap
          (fun part => (colors part.following part.plain).map String.ofList) ∧
      (∀ part ∈ layout.parts,
        (colors part.following part.plain).map String.ofList =
            find (String.ofList part.plain) ↔
          ¬ Straddled part.following part.plain) ∧
      ((∀ part ∈ layout.parts, ¬ Straddled part.following part.plain) →
        find (mask value) =
          (layout.segments.map String.ofList).flatMap find) := by
  have alone (text : List Char) :
      find (String.ofList text) = (colors [] text).map String.ofList := by
    rw [find, String.toList_ofList, literals_eq_colors]
  have bySegment :
      find (mask value) =
        layout.parts.flatMap
          (fun part =>
            (colors part.following part.plain).map String.ofList) := by
    rw [find, mask, String.toList_ofList, separates.maskChars,
      layout.literals_outside, List.map_flatMap]
  refine ⟨bySegment, ?_, ?_⟩
  · intro part _
    rw [alone, List.map_inj_right fun _ _ => String.ofList_injective,
      colors_eq_iff]
  · intro calm
    rw [bySegment, ← layout.map_plain_parts, List.map_map, List.flatMap_map]
    apply List.flatMap_congr
    intro part member
    rw [(colors_eq_iff _ _).mpr (calm part member), Function.comp_apply, alone]

/--
Four digits that become five across a seam are no colour on either side of the
change.
-/
theorem find_mask_of_calm_seam :
    ∃ layout : Layout,
      layout.Separates "#0af #ffff\"x\"f".toList ∧
        (∀ part ∈ layout.parts, ¬ Straddled part.following part.plain) ∧
        find (mask "#0af #ffff\"x\"f") =
          (layout.segments.map String.ofList).flatMap find := by
  let layout : Layout :=
    .spanned ['#', '0', 'a', 'f', ' ', '#', 'f', 'f', 'f', 'f']
      ⟨'"', ['x'], rfl, by decide⟩ (.final ['f'])
  have separates : layout.Separates "#0af #ffff\"x\"f".toList := by
    constructor
    · rfl
    · simp [layout, Layout.Settled, Lone, Opens, isQuote]
  have unchanged :
      ∀ part ∈ layout.parts,
        colors part.following part.plain = colors [] part.plain := by
    decide
  have calm : ∀ part ∈ layout.parts, ¬ Straddled part.following part.plain :=
    fun part member => (colors_eq_iff _ _).mp (unchanged part member)
  exact ⟨layout, separates, calm, (find_mask_by_segments separates).2.2 calm⟩

/--
Two digits and a third behind a string make a colour that stands in neither
segment.
-/
theorem masking_joins_digits :
    ¬ ∀ (value : String) (layout : Layout),
      layout.Separates value.toList →
      find (mask value) = (layout.segments.map String.ofList).flatMap find := by
  intro always
  have separates :
      Layout.Separates
        (.spanned ['#', 'f', 'f'] ⟨'"', ['x'], rfl, by decide⟩ (.final ['f']))
        "#ff\"x\"f".toList := by
    constructor
    · rfl
    · simp [Layout.Settled, Lone, Opens, isQuote]
  exact absurd (always _ _ separates) (by decide)

end Quote

end SheetLint
