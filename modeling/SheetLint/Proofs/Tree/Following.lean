import SheetLint.Proofs.Tree.History
import SheetLint.Proofs.Tree.Previous

namespace SheetLint

/-!
# What a node stands before

The search for what stands before a node leads from a first child to its parent
and from any other child to the sibling in front.  Read backwards, a node stands
before its first child and before its next sibling.  In a forest it stands
before nothing else, because a node is listed at one place, and these two are
different, because no node is its own parent.  What is left are the roots, which
have nothing before them.
-/

namespace Tree

variable {ι : Type}

/-- The first child of a node. -/
def firstChild?
    (tree : Tree ι)
    (node : ι) : Option ι :=
  (tree.children node).head?

/-- The child behind a node in the list of its parent. -/
def nextSibling?
    [DecidableEq ι]
    (tree : Tree ι)
    (node : ι) : Option ι :=
  (tree.parent node).bind fun parent =>
    (tree.children parent)[(tree.children parent).idxOf node + 1]?

theorem isSome_firstChild?_iff
    {tree : Tree ι}
    {node : ι} :
    (tree.firstChild? node).isSome ↔ tree.children node ≠ [] := by
  simp [firstChild?]

theorem nextSibling?_of_split
    [DecidableEq ι]
    {tree : Tree ι}
    {node parent : ι}
    {earlier later : List ι}
    (isChild : tree.parent node = some parent)
    (listed : tree.children parent = earlier ++ node :: later)
    (first : node ∉ earlier) :
    tree.nextSibling? node = later.head? := by
  have position : (tree.children parent).idxOf node = earlier.length := by
    simp [listed, List.idxOf_append, first]
  rw [nextSibling?, isChild, Option.bind_some, position, listed,
    List.getElem?_append_right (Nat.le_succ _)]
  simp [List.head?_eq_getElem?]

end Tree

namespace Arena

variable {α : Type}

namespace Forest

variable
  {arena : Arena α}
  (forest : arena.Forest)

include forest

theorem parent_of_firstChild?
    {node first : NodeId}
    (isFirst : arena.toTree.firstChild? node = some first) :
    arena.parent first = some node :=
  forest.childParent (List.mem_of_head? isFirst)

/-- A next sibling stands right behind the node in the list of their parent. -/
theorem exists_split_of_nextSibling?
    {node next : NodeId}
    (isNext : arena.toTree.nextSibling? node = some next) :
    ∃ parent front later,
      arena.parent node = some parent ∧
        arena.parent next = some parent ∧
        arena.children parent = front ++ node :: next :: later := by
  cases isChild : arena.parent node with
  | none =>
      rw [Tree.nextSibling?, show arena.toTree.parent node = none from isChild]
        at isNext
      contradiction
  | some parent =>
      obtain ⟨front, behind, listed, first⟩ :=
        forest.exists_earlier isChild
      rw [Tree.nextSibling?_of_split isChild listed first,
        List.head?_eq_some_iff] at isNext
      obtain ⟨later, rfl⟩ := isNext
      exact ⟨parent, front, later, rfl,
        forest.childParent (listed ▸ by simp), listed⟩

/--
A node stands before its first child and before its next sibling, and before no
other node.
-/
theorem previous_eq_some_iff
    {node follower : NodeId} :
    (arena.toTree.previous (some follower)).value = .ok (some node) ↔
      arena.toTree.firstChild? node = some follower ∨
        arena.toTree.nextSibling? node = some follower := by
  constructor
  · intro isBefore
    cases isChild : arena.parent follower with
    | none =>
        rw [Tree.value_previous_of_root isChild] at isBefore
        cases isBefore
    | some parent =>
        obtain ⟨earlier, later, listed, first⟩ :=
          forest.exists_earlier isChild
        rw [Tree.value_previous_of_split isChild listed first] at isBefore
        obtain rfl : earlier.getLastD parent = node :=
          Option.some.inj (Except.ok.inj isBefore)
        rcases List.eq_nil_or_concat earlier with rfl | ⟨front, sibling, rfl⟩
        · left
          exact List.head?_eq_some_iff.mpr ⟨later, listed⟩
        · right
          rw [List.concat_append] at listed
          rw [List.concat_eq_append, List.getLastD_concat]
          have siblingIsChild : arena.toTree.parent sibling = some parent :=
            forest.childParent (listed ▸ by simp)
          rw [Tree.nextSibling?_of_split siblingIsChild listed
              (forest.first_of_split listed)]
          rfl
  · rintro (isFirst | isNext)
    · obtain ⟨later, listed⟩ := List.head?_eq_some_iff.mp isFirst
      have split : arena.toTree.children node = [] ++ follower :: later :=
        listed
      exact Tree.value_previous_of_split
        (forest.parent_of_firstChild? isFirst) split List.not_mem_nil
    · obtain ⟨parent, front, later, -, isChild, listed⟩ :=
        forest.exists_split_of_nextSibling? isNext
      have split :
          arena.children parent = (front ++ [node]) ++ follower :: later := by
        simp [listed]
      rw [Tree.value_previous_of_split isChild split
          (forest.first_of_split split),
        List.getLastD_concat]

theorem previous_eq_none_iff
    {node : NodeId} :
    (arena.toTree.previous (some node)).value = .ok none ↔
      arena.parent node = none := by
  constructor
  · intro nothing
    cases isChild : arena.parent node with
    | none =>
        rfl
    | some parent =>
        obtain ⟨earlier, later, listed, first⟩ :=
          forest.exists_earlier isChild
        rw [Tree.value_previous_of_split isChild listed first] at nothing
        cases nothing
  · intro isTop
    exact Tree.value_previous_of_root isTop

theorem firstChild?_ne_nextSibling?
    {node follower : NodeId}
    (isFirst : arena.toTree.firstChild? node = some follower) :
    arena.toTree.nextSibling? node ≠ some follower := by
  intro isNext
  obtain ⟨parent, _, _, isChild, sameParent, -⟩ :=
    forest.exists_split_of_nextSibling? isNext
  obtain rfl : node = parent :=
    Option.some.inj
      ((forest.parent_of_firstChild? isFirst).symm.trans sameParent)
  exact Nat.lt_irrefl _ (forest.parentOlder isChild)

theorem isSome_nextSibling?_iff
    {node : NodeId} :
    (arena.toTree.nextSibling? node).isSome ↔
      ∃ parent,
        arena.parent node = some parent ∧
          (arena.children parent).getLast? ≠ some node := by
  cases isChild : arena.parent node with
  | none =>
      simp [Tree.nextSibling?,
        show arena.toTree.parent node = none from isChild]
  | some parent =>
      obtain ⟨earlier, later, listed, first⟩ :=
        forest.exists_earlier isChild
      rw [Tree.nextSibling?_of_split isChild listed first]
      cases later with
      | nil =>
          simp [listed]
      | cons next rest =>
          have notLater : node ∉ next :: rest := by
            have noDuplicates := forest.nodup_children parent
            rw [listed, List.nodup_append, List.nodup_cons] at noDuplicates
            exact noDuplicates.2.1.1
          have notLast : (arena.children parent).getLast? ≠ some node := by
            intro isLast
            have isLater : (next :: rest).getLast? = some node := by
              simpa [listed] using isLast
            exact notLater (List.mem_of_getLast? isLater)
          simp [notLast]

end Forest

namespace Records

variable
  {arena : Arena α}
  {log : List (Creation α × NodeId)}
  (records : arena.Records log)

include records

theorem node_of_getElem?
    {index : Nat}
    {entry : Creation α × NodeId}
    (logged : log[index]? = some entry) :
    entry.2 = ⟨index⟩ := by
  have inLog : index < log.length :=
    (List.getElem?_eq_some_iff.mp logged).1
  have sameNode :
      (log.map (·.2))[index]? =
        ((List.range log.length).map NodeId.mk)[index]? := by
    rw [records.numbered]
  rw [List.getElem?_map, logged, List.getElem?_map, List.getElem?_range inLog]
    at sameNode
  exact Option.some.inj sameNode

/-- The nodes that were made as roots are those without a parent. -/
theorem exists_root_iff
    {node : NodeId} :
    (∃ data, (.root data, node) ∈ log) ↔
      arena.parent node = none ∧ node.index < arena.size := by
  rw [records.size_eq, records.parent_eq node.index]
  constructor
  · rintro ⟨data, isLogged⟩
    obtain ⟨index, logged⟩ := List.mem_iff_getElem?.mp isLogged
    obtain rfl : node = ⟨index⟩ :=
      records.node_of_getElem? logged
    exact ⟨by simp [logged, Creation.parent?],
      (List.getElem?_eq_some_iff.mp logged).1⟩
  · rintro ⟨isTop, inLog⟩
    have logged : log[node.index]? = some log[node.index] :=
      List.getElem?_eq_getElem inLog
    rw [logged, Option.bind_some] at isTop
    have sameNode := records.node_of_getElem? logged
    cases entry : log[node.index] with
    | mk creation made =>
        rw [entry] at logged isTop sameNode
        obtain rfl : made = node :=
          sameNode
        cases creation with
        | root data =>
            exact ⟨data, List.mem_of_getElem? logged⟩
        | child parent data =>
            contradiction

end Records

/--
In an arena that requests have built, the nodes that a node stands before are
its first child and its next sibling.  It has a first child if it has children,
and a next sibling if it has a parent and is not its last child, and these are
different nodes.  Nothing stands before a node exactly if it was made as a root.
-/
theorem createAll_inverts_previous (creations : List (Creation α)) :
    let arena := (empty.createAll creations).2
    let tree := arena.toTree
    (∀ node follower,
      (tree.previous (some follower)).value = .ok (some node) ↔
        tree.firstChild? node = some follower ∨
          tree.nextSibling? node = some follower) ∧
      (∀ node follower,
        ¬ (tree.firstChild? node = some follower ∧
          tree.nextSibling? node = some follower)) ∧
      (∀ node, (tree.firstChild? node).isSome ↔ tree.children node ≠ []) ∧
      (∀ node,
        (tree.nextSibling? node).isSome ↔
          ∃ parent,
            tree.parent node = some parent ∧
              (tree.children parent).getLast? ≠ some node) ∧
      ∀ node,
        (tree.previous (some node)).value = .ok none ∧ node.index < arena.size ↔
          ∃ data, (.root data, node) ∈ granted creations := by
  intro arena tree
  have forest : arena.Forest :=
    Forest.createAll creations
  refine ⟨fun _ _ => forest.previous_eq_some_iff,
    fun _ _ both => forest.firstChild?_ne_nextSibling? both.1 both.2,
    fun _ => Tree.isSome_firstChild?_iff,
    fun _ => forest.isSome_nextSibling?_iff, ?_⟩
  intro node
  rw [(Records.createAll creations).exists_root_iff,
    forest.previous_eq_none_iff]

end Arena

end SheetLint
