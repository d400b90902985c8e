import SheetLint.Tree.Arena

namespace SheetLint

/-!
# Growth of an arena

A request either fits, and the arena grows by one node, or it names a parent
that is no node, and nothing changes.  What the nodes of the grown arena read is
given here by what they read before.  Everything else about arenas follows from
these equations and from one induction over requests.
-/

namespace Creation

variable {α : Type}

/-- The data of the node that is asked for. -/
def data : Creation α → α
  | .root data => data
  | .child _ data => data

/-- The parent of the node that is asked for, unless it is a root. -/
def parent? : Creation α → Option NodeId
  | .root _ => none
  | .child parent _ => some parent

/-- The parent that is asked for, if any, is a node of the arena. -/
def Fits (arena : Arena α) (creation : Creation α) : Prop :=
  ∀ parent, creation.parent? = some parent → parent.index < arena.size

end Creation

namespace Arena

variable {α : Type}

/-- The arena with one more node, which its parent lists last. -/
def grow (arena : Arena α) (creation : Creation α) : Arena α :=
  let entries := arena.entries.push ⟨creation.data, creation.parent?, []⟩
  match creation.parent? with
  | none =>
      ⟨entries⟩
  | some parent =>
      ⟨entries.modify parent.index fun entry =>
        { entry with children := entry.children ++ [arena.next] }⟩

/-- A request that fits makes the next node. -/
theorem create_of_fits
    {arena : Arena α}
    {creation : Creation α}
    (fits : creation.Fits arena) :
    arena.create creation = (.ok arena.next, arena.grow creation) := by
  cases creation with
  | root data =>
      rfl
  | child parent data =>
      have known : parent.index < arena.size :=
        fits parent rfl
      simp [create, appendChild, known, grow, Creation.parent?, Creation.data]

/-- A request that does not fit is refused and changes nothing. -/
theorem create_of_not_fits
    {arena : Arena α}
    {creation : Creation α}
    (misfit : ¬ creation.Fits arena) :
    ∃ parent,
      creation.parent? = some parent ∧
        arena.create creation = (.error ⟨parent⟩, arena) := by
  cases creation with
  | root data =>
      exact (misfit (by simp [Creation.Fits, Creation.parent?])).elim
  | child parent data =>
      have unknown : ¬ parent.index < arena.size := by
        intro known
        apply misfit
        rintro _ ⟨⟩
        exact known
      exact ⟨parent, rfl, by simp [create, appendChild, unknown]⟩

/--
The stored entries of a grown arena: a new one, and the parent's with one more
child.
-/
theorem getElem?_entries_grow
    {arena : Arena α}
    {creation : Creation α}
    (fits : creation.Fits arena)
    (index : Nat) :
    (arena.grow creation).entries[index]? =
      if index = arena.size then
        some ⟨creation.data, creation.parent?, []⟩
      else
        arena.entries[index]?.map fun entry =>
          if creation.parent? = some ⟨index⟩ then
            { entry with children := entry.children ++ [arena.next] }
          else
            entry := by
  have stored : arena.entries.size = arena.size :=
    rfl
  cases named : creation.parent? with
  | none =>
      simp [grow, named, Array.getElem?_push, stored]
  | some parent =>
      have known : parent.index < arena.size :=
        fits parent named
      have sameIndex : parent = ⟨index⟩ ↔ parent.index = index := by
        cases parent
        simp
      by_cases isNew : index = arena.size
      · have notParent : parent.index ≠ index := by
          omega
        simp only [grow, named]
        rw [Array.getElem?_modify, if_neg notParent, Array.getElem?_push,
          stored, if_pos isNew, if_pos isNew]
      · by_cases isParent : parent.index = index <;>
          simp [grow, named, Array.getElem?_modify, Array.getElem?_push, stored,
            isNew, isParent, sameIndex]

@[simp] theorem size_grow
    (arena : Arena α)
    (creation : Creation α) :
    (arena.grow creation).size = arena.size + 1 := by
  cases creation <;>
    simp [grow, Creation.parent?, size]

/--
What is read of an entry without its children: at the new node what was
requested, at every other node what was there.
-/
theorem bind_entries_grow
    {β : Type}
    {arena : Arena α}
    {creation : Creation α}
    (fits : creation.Fits arena)
    {read : ArenaEntry α → Option β}
    (ignoresChildren :
      ∀ entry children,
        read { entry with children := children } = read entry)
    (node : NodeId) :
    (arena.grow creation).entries[node.index]?.bind read =
      if node = arena.next then
        read ⟨creation.data, creation.parent?, []⟩
      else
        arena.entries[node.index]?.bind read := by
  have isNext : node = arena.next ↔ node.index = arena.size := by
    cases node
    simp [next]
  simp only [getElem?_entries_grow fits, isNext]
  split
  · rfl
  · cases arena.entries[node.index]? with
    | none =>
        rfl
    | some entry =>
        simp only [Option.map_some, Option.bind_some]
        split
        · exact ignoresChildren entry _
        · rfl

/-- The new node has the requested data, every other node the data it had. -/
theorem get?_grow
    {arena : Arena α}
    {creation : Creation α}
    (fits : creation.Fits arena)
    (node : NodeId) :
    (arena.grow creation).get? node =
      if node = arena.next then some creation.data else arena.get? node := by
  rw [get?, get?, Option.map_eq_bind, Option.map_eq_bind]
  exact bind_entries_grow fits (fun _ _ => rfl) node

/--
The new node has the requested parent, every other node the parent it had.
-/
theorem parent_grow
    {arena : Arena α}
    {creation : Creation α}
    (fits : creation.Fits arena)
    (node : NodeId) :
    (arena.grow creation).parent node =
      if node = arena.next then creation.parent? else arena.parent node :=
  bind_entries_grow fits (fun _ _ => rfl) node

/--
The requested parent lists the new node last, every other node lists what it
listed.
-/
theorem children_grow
    {arena : Arena α}
    {creation : Creation α}
    (fits : creation.Fits arena)
    (node : NodeId) :
    (arena.grow creation).children node =
      if creation.parent? = some node then
        arena.children node ++ [arena.next]
      else
        arena.children node := by
  simp only [children, getElem?_entries_grow fits]
  by_cases isNew : node.index = arena.size
  · have notParent : creation.parent? ≠ some node := by
      intro named
      exact absurd (fits node named) (by omega)
    have absent : arena.entries[arena.size]? = none :=
      Array.getElem?_size
    simp [isNew, notParent, absent]
  · by_cases isParent : creation.parent? = some node
    · have known : node.index < arena.entries.size :=
        fits node isParent
      simp [isNew, isParent, known]
    · cases entry : arena.entries[node.index]? <;>
        simp [isNew, isParent]

/--
What every request that fits preserves holds after any sequence of requests; the
refused ones in between change nothing.
-/
theorem createAll_preserves
    {motive : Arena α → Prop}
    (step :
      ∀ {arena creation},
        creation.Fits arena →
        motive arena →
        motive (arena.grow creation))
    (creations : List (Creation α))
    {arena : Arena α}
    (initial : motive arena) :
    motive (arena.createAll creations).2 := by
  induction creations generalizing arena with
  | nil =>
      exact initial
  | cons creation rest inductionHypothesis =>
      by_cases fits : creation.Fits arena
      · simp only [createAll, create_of_fits fits]
        exact inductionHypothesis (step fits initial)
      · obtain ⟨_, _, refused⟩ := create_of_not_fits fits
        simp only [createAll, refused]
        exact inductionHypothesis initial

end Arena

end SheetLint
