import SheetLint.Text.Slice

namespace SheetLint.Text

/-!
# Slices lie between characters

Bytes can be taken off a text just where the text is cut into two, and the first
part has as many bytes.  A slice is therefore what stands between two such cuts,
and there is one exactly if both offsets are positions of characters, in order.
-/

theorem byteLength_eq_zero_iff
    {text : List Char} :
    byteLength text = 0 ↔ text = [] := by
  cases text with
  | nil =>
      simp [byteLength]
  | cons c rest =>
      have positive : 0 < c.utf8Size :=
        Char.utf8Size_pos c
      simp only [byteLength, reduceCtorEq, iff_false]
      omega

theorem takeBytes?_eq_some_iff
    {count : Nat}
    {text front : List Char} :
    takeBytes? count text = some front ↔
      ∃ back, text = front ++ back ∧ byteLength front = count := by
  constructor
  · intro taken
    fun_induction takeBytes? count text generalizing front with
    | case1 text =>
        obtain rfl := Option.some.inj taken
        exact ⟨text, rfl, rfl⟩
    | case2 =>
        contradiction
    | case3 count c rest fits inductionHypothesis =>
        obtain ⟨more, takenBehind, rfl⟩ := Option.map_eq_some_iff.mp taken
        obtain ⟨back, rfl, size⟩ := inductionHypothesis takenBehind
        refine ⟨back, rfl, ?_⟩
        rw [byteLength, size]
        omega
    | case4 =>
        contradiction
  · rintro ⟨back, rfl, rfl⟩
    exact takeBytes?_byteLength_append front back

theorem dropBytes?_eq_some_iff
    {count : Nat}
    {text back : List Char} :
    dropBytes? count text = some back ↔
      ∃ front, text = front ++ back ∧ byteLength front = count := by
  constructor
  · intro dropped
    fun_induction dropBytes? count text with
    | case1 text =>
        obtain rfl := Option.some.inj dropped
        exact ⟨[], rfl, rfl⟩
    | case2 =>
        contradiction
    | case3 count c rest fits inductionHypothesis =>
        obtain ⟨front, rfl, size⟩ := inductionHypothesis dropped
        refine ⟨c :: front, rfl, ?_⟩
        rw [byteLength, size]
        omega
    | case4 =>
        contradiction
  · rintro ⟨front, rfl, rfl⟩
    exact dropBytes?_byteLength_append front back

/-- A slice is the part of a text between two cuts. -/
theorem slice?_eq_some_iff
    {start stop : Nat}
    {text part : List Char} :
    slice? start stop text = some part ↔
      ∃ front back,
        text = front ++ (part ++ back) ∧
          byteLength front = start ∧
          byteLength (front ++ part) = stop := by
  constructor
  · intro sliced
    obtain ⟨-, sliced⟩ := Option.ite_none_right_eq_some.mp sliced
    obtain ⟨taken, takes, drops⟩ := Option.bind_eq_some_iff.mp sliced
    obtain ⟨back, rfl, size⟩ := takeBytes?_eq_some_iff.mp takes
    obtain ⟨front, rfl, start⟩ := dropBytes?_eq_some_iff.mp drops
    exact ⟨front, back, List.append_assoc front part back, start, size⟩
  · rintro ⟨front, back, rfl, rfl, rfl⟩
    have inOrder : byteLength front ≤ byteLength (front ++ part) := by
      rw [byteLength_append]
      omega
    rw [slice?, if_pos inOrder, ← List.append_assoc,
      takeBytes?_byteLength_append]
    exact dropBytes?_byteLength_append front part

/-- A position of a character cuts the text in two. -/
theorem isValid_iff_exists_cut
    {value : String}
    {offset : Nat} :
    String.Pos.Raw.IsValid value ⟨offset⟩ ↔
      ∃ front back, value.toList = front ++ back ∧
        byteLength front = offset := by
  rw [String.Pos.Raw.isValid_iff_exists_append]
  constructor
  · rintro ⟨front, back, rfl, isEnd⟩
    refine ⟨front.toList, back.toList, String.toList_append, ?_⟩
    rw [← utf8ByteSize_ofList, String.ofList_toList]
    exact (congrArg String.Pos.Raw.byteIdx isEnd).symm
  · rintro ⟨front, back, cut, rfl⟩
    refine ⟨String.ofList front, String.ofList back, ?_, ?_⟩
    · rw [← String.ofList_append, ← cut, String.ofList_toList]
    · exact String.Pos.Raw.ext (utf8ByteSize_ofList front).symm

/--
There is a slice exactly between two positions of characters that stand in
order.  The first cut of the two cannot lie behind the second, unless nothing is
between them.
-/
theorem exists_slice?_iff
    {value : String}
    {start stop : Nat} :
    (∃ part, slice? start stop value.toList = some part) ↔
      start ≤ stop ∧
        String.Pos.Raw.IsValid value ⟨start⟩ ∧
        String.Pos.Raw.IsValid value ⟨stop⟩ := by
  simp only [slice?_eq_some_iff, isValid_iff_exists_cut]
  constructor
  · rintro ⟨part, front, back, cut, rfl, rfl⟩
    have cutBehind : value.toList = front ++ part ++ back := by
      rw [cut, List.append_assoc]
    refine ⟨?_, ⟨front, part ++ back, cut, rfl⟩,
      ⟨front ++ part, back, cutBehind, rfl⟩⟩
    rw [byteLength_append]
    omega
  · rintro ⟨inOrder, ⟨front, behind, cut, rfl⟩, ⟨taken, back, otherCut, rfl⟩⟩
    rw [cut] at otherCut
    rcases List.append_eq_append_iff.mp otherCut with
      ⟨part, rfl, rfl⟩ | ⟨part, rfl, rfl⟩
    · exact ⟨part, front, back, cut, rfl, rfl⟩
    · have nothing : part = [] := by
        rw [byteLength_append] at inOrder
        exact byteLength_eq_zero_iff.mp (by omega)
      subst nothing
      exact ⟨[], taken, behind, by simpa using cut, by simp, by simp⟩

end SheetLint.Text
