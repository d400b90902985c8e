import Mathlib.Data.List.DropRight
import Mathlib.Data.List.Sort
import SheetLint.Monitoring.Environment
import SheetLint.Proofs.Text.Pieces

namespace SheetLint

/-- Nothing is left of a text by trimming exactly if it is blank. -/
theorem Unicode.trim_eq_nil_iff
    {text : List Char} :
    trim text = [] ↔ ∀ c ∈ text, isBlank c = true := by
  constructor
  · intro isEmpty
    have allBlank : ∀ c ∈ text.dropWhile isBlank, isBlank c = true := by
      simpa [trim, List.dropWhile_eq_nil_iff] using isEmpty
    rw [← List.dropWhile_eq_nil_iff, ← List.dropWhile_idempotent isBlank,
      List.dropWhile_eq_nil_iff]
    exact allBlank
  · intro blank
    rw [trim, List.dropWhile_eq_nil_iff.mpr blank]
    rfl

namespace Monitoring

/-!
# The modes that a list names

Items are read from left to right.  An empty one is passed over, one that names
a mode adds the mode unless it is there already, and the first other one ends
the reading.  So as long as all items are known, what has been collected are the
modes that the items so far name, each once and in the order in which they are
first named.
-/

/-- The item that asks for a mode. -/
def Mode.item : Mode → List Char
  | .stdout => "stdout".toList
  | .file _ => "file".toList

theorem Mode.item_ne_nil (mode : Mode) : mode.item ≠ [] := by
  cases mode <;>
    simp [item]

namespace Environment

/-- The modes that an item can ask for. -/
def Offers (environment : Environment) (mode : Mode) : Prop :=
  mode = .stdout ∨ mode = environment.fileMode

/--
The items of the variable; there are none if it is unset or its value is no
text.
-/
def items (environment : Environment) : List (List Char) :=
  match environment.modes.bind Text.text? with
  | some text => itemsOf text
  | none => []

/-- An item that a list may have. -/
def IsKnown (item : List Char) : Prop :=
  item = [] ∨ item = "stdout".toList ∨ item = "file".toList

instance : DecidablePred IsKnown :=
  fun item => inferInstanceAs
    (Decidable (item = [] ∨ item = "stdout".toList ∨ item = "file".toList))

/--
`modes` are those that `items` ask for, each once, in the order of the first
items for them.
-/
structure Lists (environment : Environment) (items : List (List Char))
    (modes : List Mode) : Prop where
  stdout_mem_iff :
    Mode.stdout ∈ modes ↔ "stdout".toList ∈ items
  fileMode_mem_iff :
    environment.fileMode ∈ modes ↔ "file".toList ∈ items
  offered :
    ∀ mode ∈ modes, environment.Offers mode
  nodup :
    modes.Nodup
  ordered :
    modes.Pairwise fun earlier later =>
      items.idxOf earlier.item < items.idxOf later.item

section

variable {environment : Environment} {items : List (List Char)}
  {modes : List Mode}

theorem modeOf?_eq_some_iff
    {item : List Char}
    {mode : Mode} :
    environment.modeOf? item = some mode ↔
      environment.Offers mode ∧ item = mode.item := by
  constructor
  · intro named
    unfold modeOf? at named
    split at named
    · obtain rfl := Option.some.inj named
      exact ⟨.inl rfl, ‹_›⟩
    · split at named
      · obtain rfl := Option.some.inj named
        exact ⟨.inr rfl, ‹_›⟩
      · contradiction
  · rintro ⟨rfl | rfl, rfl⟩ <;>
      rfl

theorem isKnown_iff
    (environment : Environment)
    {item : List Char} :
    IsKnown item ↔
      item = [] ∨ ∃ mode, environment.modeOf? item = some mode := by
  simp [IsKnown, modeOf?_eq_some_iff, Offers, or_and_right, exists_or,
    Mode.item, fileMode]

theorem Lists.mem_iff
    (lists : environment.Lists items modes)
    {mode : Mode} :
    mode ∈ modes ↔ environment.Offers mode ∧ mode.item ∈ items := by
  constructor
  · intro listed
    refine ⟨lists.offered mode listed, ?_⟩
    rcases lists.offered mode listed with rfl | rfl
    · exact lists.stdout_mem_iff.mp listed
    · exact lists.fileMode_mem_iff.mp listed
  · rintro ⟨rfl | rfl, stands⟩
    · exact lists.stdout_mem_iff.mpr stands
    · exact lists.fileMode_mem_iff.mpr stands

theorem Lists.of_mem_iff
    (memIff :
      ∀ mode, mode ∈ modes ↔ environment.Offers mode ∧ mode.item ∈ items)
    (ordered :
      modes.Pairwise fun earlier later =>
        items.idxOf earlier.item < items.idxOf later.item) :
    environment.Lists items modes where
  stdout_mem_iff := by
    simp [memIff, Offers, Mode.item]
  fileMode_mem_iff := by
    simp [memIff, Offers, Mode.item, fileMode]
  offered mode listed :=
    ((memIff mode).mp listed).1
  nodup :=
    ordered.imp fun before same => (same ▸ before).false
  ordered :=
    ordered

/-- Items ask for one list of modes only. -/
theorem Lists.unique
    {others : List Mode}
    (first : environment.Lists items modes)
    (second : environment.Lists items others) :
    modes = others := by
  have asymmetric :
      Std.Asymm fun earlier later : Mode =>
        items.idxOf earlier.item < items.idxOf later.item :=
    ⟨fun _ _ => Nat.lt_asymm⟩
  apply List.Pairwise.eq_of_mem_iff first.ordered second.ordered
  intro mode
  rw [first.mem_iff, second.mem_iff]

/-! ## One item -/

theorem Offers.same_iff
    {first second : Mode}
    (firstOffered : environment.Offers first)
    (secondOffered : environment.Offers second) :
    first.same second = true ↔ first = second := by
  rcases firstOffered with rfl | rfl <;> rcases secondOffered with rfl | rfl <;>
    simp [Mode.same, Path.same, fileMode]

theorem Offers.item_inj
    {first second : Mode}
    (firstOffered : environment.Offers first)
    (secondOffered : environment.Offers second)
    (sameItem : first.item = second.item) :
    first = second := by
  have named := modeOf?_eq_some_iff.mpr ⟨firstOffered, rfl⟩
  rw [modeOf?_eq_some_iff.mpr ⟨secondOffered, sameItem⟩] at named
  exact (Option.some.inj named).symm

/--
Among modes that can be asked for, to be there already is to lead where one of
them leads.
-/
theorem Lists.any_same_iff
    (lists : environment.Lists items modes)
    {mode : Mode}
    (offered : environment.Offers mode) :
    modes.any (mode.same ·) = true ↔ mode ∈ modes := by
  rw [List.any_eq_true]
  constructor
  · rintro ⟨other, listed, same⟩
    rwa [(offered.same_iff (lists.offered other listed)).mp same]
  · intro listed
    exact ⟨mode, listed, (offered.same_iff offered).mpr rfl⟩

/-- Items behind those that were read leave the order as it is. -/
theorem Lists.ordered_append
    (lists : environment.Lists items modes)
    (rest : List (List Char)) :
    modes.Pairwise fun earlier later =>
      (items ++ rest).idxOf earlier.item <
        (items ++ rest).idxOf later.item := by
  apply lists.ordered.imp_of_mem
  intro earlier later earlierListed laterListed before
  rwa [List.idxOf_append_of_mem (lists.mem_iff.mp earlierListed).2,
    List.idxOf_append_of_mem (lists.mem_iff.mp laterListed).2]

/-- An item that asks for nothing new. -/
theorem Lists.passOver
    (lists : environment.Lists items modes)
    {item : List Char}
    (nothingNew : ∀ mode, environment.modeOf? item = some mode → mode ∈ modes) :
    environment.Lists (items ++ [item]) modes := by
  apply Lists.of_mem_iff _ (lists.ordered_append [item])
  intro mode
  rw [lists.mem_iff, List.mem_append, List.mem_singleton]
  constructor
  · rintro ⟨offered, stands⟩
    exact ⟨offered, .inl stands⟩
  · rintro ⟨offered, stands | asks⟩
    · exact ⟨offered, stands⟩
    · exact lists.mem_iff.mp
        (nothingNew mode (modeOf?_eq_some_iff.mpr ⟨offered, asks.symm⟩))

/-- An item that asks for a mode that is not there yet. -/
theorem Lists.add
    (lists : environment.Lists items modes)
    {mode : Mode}
    (offered : environment.Offers mode)
    (isNew : mode ∉ modes) :
    environment.Lists (items ++ [mode.item]) (modes ++ [mode]) := by
  have itemIsNew : mode.item ∉ items := by
    intro stands
    exact isNew (lists.mem_iff.mpr ⟨offered, stands⟩)
  apply Lists.of_mem_iff
  · intro other
    rw [List.mem_append, List.mem_append, List.mem_singleton,
      List.mem_singleton, lists.mem_iff]
    constructor
    · rintro (⟨otherOffered, stands⟩ | rfl)
      · exact ⟨otherOffered, .inl stands⟩
      · exact ⟨offered, .inr rfl⟩
    · rintro ⟨otherOffered, stands | sameItem⟩
      · exact .inl ⟨otherOffered, stands⟩
      · exact .inr (otherOffered.item_inj offered sameItem)
  · rw [List.pairwise_append]
    refine ⟨lists.ordered_append [mode.item], List.pairwise_singleton _ _, ?_⟩
    intro earlier listed later isLast
    have stands : earlier.item ∈ items :=
      (lists.mem_iff.mp listed).2
    obtain rfl := List.mem_singleton.mp isLast
    rw [List.idxOf_append_of_mem stands, List.idxOf_append_of_notMem itemIsNew]
    exact Nat.lt_add_right _ (List.idxOf_lt_length_of_mem stands)

/--
After a known item the reading goes on with the modes that the items so far ask
for.
-/
theorem addItems_cons_of_isKnown
    (lists : environment.Lists items modes)
    {item : List Char}
    (known : IsKnown item) :
    ∃ next,
      environment.Lists (items ++ [item]) next ∧
        ∀ rest, environment.addItems modes (item :: rest) =
          environment.addItems next rest := by
  rcases (isKnown_iff environment).mp known with rfl | ⟨mode, named⟩
  · refine ⟨modes, lists.passOver ?_, fun rest => rfl⟩
    intro mode named
    exact absurd (modeOf?_eq_some_iff.mp named).2.symm mode.item_ne_nil
  · obtain ⟨offered, rfl⟩ := modeOf?_eq_some_iff.mp named
    by_cases listed : mode ∈ modes
    · refine ⟨modes, lists.passOver ?_, fun rest => ?_⟩
      · intro other otherNamed
        rw [named] at otherNamed
        rwa [← Option.some.inj otherNamed]
      · simp [addItems, mode.item_ne_nil, named,
          (lists.any_same_iff offered).mpr listed]
    · refine ⟨modes ++ [mode], lists.add offered listed, fun rest => ?_⟩
      have notSame : ¬ modes.any (mode.same ·) = true := by
        rwa [lists.any_same_iff offered]
      rw [addItems, if_neg mode.item_ne_nil, named]
      exact if_neg notSame

theorem addItems_cons_of_not_isKnown
    {item : List Char}
    (unknown : ¬ IsKnown item)
    (listed : List Mode)
    (rest : List (List Char)) :
    environment.addItems listed (item :: rest) =
      .error ⟨String.ofList item⟩ := by
  rw [isKnown_iff environment, not_or, not_exists] at unknown
  rw [addItems, if_neg unknown.1,
    Option.eq_none_iff_forall_ne_some.mpr unknown.2]

/-! ## All items -/

/-- Known items are read to their end, with the modes that they ask for. -/
theorem exists_addItems_append
    (lists : environment.Lists items modes)
    {more : List (List Char)}
    (known : ∀ item ∈ more, IsKnown item) :
    ∃ next,
      environment.Lists (items ++ more) next ∧
        ∀ rest, environment.addItems modes (more ++ rest) =
          environment.addItems next rest := by
  induction more generalizing items modes with
  | nil =>
      exact ⟨modes, by rwa [List.append_nil], fun rest => rfl⟩
  | cons item more inductionHypothesis =>
      obtain ⟨itemKnown, moreKnown⟩ := List.forall_mem_cons.mp known
      obtain ⟨between, betweenLists, first⟩ :=
        addItems_cons_of_isKnown lists itemKnown
      obtain ⟨next, nextLists, others⟩ :=
        inductionHypothesis betweenLists moreKnown
      refine ⟨next, by rwa [List.append_cons], fun rest => ?_⟩
      rw [List.cons_append, first, others]

theorem lists_nil (environment : Environment) : environment.Lists [] [] := by
  apply Lists.of_mem_iff <;>
    simp

theorem exists_addItems_of_isKnown
    (environment : Environment)
    (known : ∀ item ∈ items, IsKnown item) :
    ∃ modes, environment.Lists items modes ∧
      environment.addItems [] items = .ok modes := by
  obtain ⟨modes, lists, read⟩ :=
    exists_addItems_append environment.lists_nil known
  refine ⟨modes, lists, ?_⟩
  rw [← List.append_nil items, read, addItems]

theorem addItems_of_find?
    (environment : Environment)
    {item : List Char}
    (found : items.find? (¬ IsKnown ·) = some item) :
    environment.addItems [] items = .error ⟨String.ofList item⟩ := by
  obtain ⟨unknown, before, behind, rfl, known⟩ :=
    List.find?_eq_some_iff_append.mp found
  obtain ⟨modes, -, read⟩ :=
    exists_addItems_append environment.lists_nil (by simpa using known)
  rw [read, addItems_cons_of_not_isKnown (by simpa using unknown)]

/-- A list that is blank altogether has one item, and this one is empty. -/
theorem itemsOf_of_trim_eq_nil
    {text : List Char}
    (blank : Unicode.trim text = []) :
    itemsOf text = [[]] := by
  have noComma : ',' ∉ text := by
    intro stands
    have commaIsBlank := Unicode.trim_eq_nil_iff.mp blank ',' stands
    contradiction
  rw [itemsOf, Text.pieces_of_not_mem noComma, List.map_singleton, blank]

/-- To count a blank value as unset makes no difference. -/
theorem readModes_eq (environment : Environment) :
    environment.readModes = environment.addItems [] environment.items := by
  unfold readModes list? items
  cases environment.modes.bind Text.text? with
  | none =>
      rfl
  | some text =>
      by_cases blank : Unicode.trim text = []
      · simp [Option.filter, blank, itemsOf_of_trim_eq_nil, addItems]
      · simp [Option.filter, blank]

theorem readModes_eq_ok_iff :
    environment.readModes = .ok modes ↔
      (∀ item ∈ environment.items, IsKnown item) ∧
        environment.Lists environment.items modes := by
  rw [readModes_eq]
  constructor
  · intro read
    cases found : environment.items.find? (¬ IsKnown ·) with
    | none =>
        have known : ∀ item ∈ environment.items, IsKnown item := by
          simpa using found
        obtain ⟨listed, lists, listedRead⟩ :=
          environment.exists_addItems_of_isKnown known
        obtain rfl := Except.ok.inj (listedRead.symm.trans read)
        exact ⟨known, lists⟩
    | some item =>
        rw [environment.addItems_of_find? found] at read
        contradiction
  · rintro ⟨known, lists⟩
    obtain ⟨listed, others, read⟩ :=
      environment.exists_addItems_of_isKnown known
    rw [read, others.unique lists]

theorem readModes_eq_error_iff
    {unknown : UnknownMode} :
    environment.readModes = .error unknown ↔
      ∃ item,
        environment.items.find? (¬ IsKnown ·) = some item ∧
          unknown = ⟨String.ofList item⟩ := by
  rw [readModes_eq]
  constructor
  · intro refused
    cases found : environment.items.find? (¬ IsKnown ·) with
    | none =>
        obtain ⟨listed, -, read⟩ :=
          environment.exists_addItems_of_isKnown (by simpa using found)
        rw [read] at refused
        contradiction
    | some item =>
        rw [environment.addItems_of_find? found] at refused
        exact ⟨item, rfl, (Except.error.inj refused).symm⟩
  · rintro ⟨item, found, rfl⟩
    exact environment.addItems_of_find? found

/--
The environment is read exactly if every item is empty or names a mode.  The
modes are then those that the items name, each once and in the order in which
they are first named.  Otherwise the leftmost other item is reported.
-/
theorem readModes_exact (environment : Environment) :
    ((∃ modes, environment.readModes = .ok modes) ↔
        ∀ item ∈ environment.items, IsKnown item) ∧
      (∀ modes,
        environment.readModes = .ok modes ↔
          (∀ item ∈ environment.items, IsKnown item) ∧
            environment.Lists environment.items modes) ∧
      ∀ unknown,
        environment.readModes = .error unknown ↔
          ∃ item,
            environment.items.find? (¬ IsKnown ·) = some item ∧
              unknown = ⟨String.ofList item⟩ ∧
              unknown.message =
                "Invalid value for SCSS_LINT_TRACING_MODE: Invalid value: " ++
                  String.ofList item := by
  refine ⟨⟨?_, fun known => ?_⟩, fun modes => readModes_eq_ok_iff,
    fun unknown => ?_⟩
  · rintro ⟨modes, read⟩
    exact (readModes_eq_ok_iff.mp read).1
  · obtain ⟨modes, lists, -⟩ := environment.exists_addItems_of_isKnown known
    exact ⟨modes, readModes_eq_ok_iff.mpr ⟨known, lists⟩⟩
  · rw [readModes_eq_error_iff]
    constructor
    · rintro ⟨item, found, rfl⟩
      exact ⟨item, found, rfl, rfl⟩
    · rintro ⟨item, found, named, -⟩
      exact ⟨item, found, named⟩

end

example :
    let read (value : String) :=
      readModes ⟨some (Text.encode value.toList), some []⟩
    read "file,, stdout ,file" =
      .ok [.file (.ofText "scss_lint_trace".toList), .stdout] ∧
      read "stdout, ,chrome, zipkin" = .error ⟨"chrome"⟩ := by
  decide +kernel

end Environment

end Monitoring

end SheetLint
