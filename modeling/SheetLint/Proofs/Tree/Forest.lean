import Mathlib.Logic.ExistsUnique
import SheetLint.Proofs.Tree.Growth

namespace SheetLint.Arena

/-!
# Arenas are forests

An arena stores the relation between parents and children twice: a node has the
identity of its parent, and a node has the list of its children.  The two agree
in every arena that requests can build.  The order of creation makes this
inductive: a parent is older than its children, and a new child is younger than
its siblings.
-/

variable {α : Type}

/--
Parents and lists of children agree, and both follow the order of creation.
-/
structure Forest (arena : Arena α) : Prop where
  parentOlder :
    ∀ {node parent},
      arena.parent node = some parent →
      parent.index < node.index
  listedOnce :
    ∀ {node parent},
      arena.parent node = some parent →
      (arena.children parent).count node = 1
  childKnown :
    ∀ {parent child},
      child ∈ arena.children parent →
      child.index < arena.size
  childParent :
    ∀ {parent child},
      child ∈ arena.children parent →
      arena.parent child = some parent
  ordered :
    ∀ parent,
      (arena.children parent).Pairwise (·.index < ·.index)

/-- `child` has the parent `parent`. -/
def IsChild
    (arena : Arena α)
    (child parent : NodeId) : Prop :=
  arena.parent child = some parent

namespace Forest

theorem empty : (empty : Arena α).Forest where
  parentOlder isChild := by
    simp [Arena.parent, Arena.empty] at isChild
  listedOnce isChild := by
    simp [Arena.parent, Arena.empty] at isChild
  childKnown listed := by
    simp [children, Arena.empty] at listed
  childParent listed := by
    simp [children, Arena.empty] at listed
  ordered parent := by
    simp [children, Arena.empty]

/-- A list of children holds the nodes with that parent. -/
theorem mem_children_iff
    {arena : Arena α}
    (forest : arena.Forest)
    {child parent : NodeId} :
    child ∈ arena.children parent ↔ arena.parent child = some parent := by
  constructor
  · exact forest.childParent
  · intro isChild
    have once := forest.listedOnce isChild
    exact List.count_pos_iff.mp (by omega)

theorem next_not_mem_children
    {arena : Arena α}
    (forest : arena.Forest)
    (parent : NodeId) :
    arena.next ∉ arena.children parent := by
  intro listed
  exact Nat.lt_irrefl arena.size (forest.childKnown listed)

/-- A request that fits keeps a forest a forest. -/
theorem grow
    {arena : Arena α}
    {creation : Creation α}
    (fits : creation.Fits arena)
    (forest : arena.Forest) :
    (arena.grow creation).Forest where
  parentOlder := by
    intro node parent isChild
    rw [parent_grow fits] at isChild
    split at isChild
    · subst node
      exact fits parent isChild
    · exact forest.parentOlder isChild
  listedOnce := by
    intro node parent isChild
    rw [parent_grow fits] at isChild
    rw [children_grow fits]
    split at isChild
    · subst node
      rw [if_pos isChild, List.count_append,
        List.count_eq_zero.mpr (forest.next_not_mem_children parent)]
      simp
    · rename_i isOld
      split
      · rw [List.count_append, forest.listedOnce isChild]
        simp [Ne.symm isOld]
      · exact forest.listedOnce isChild
  childKnown := by
    intro parent child listed
    rw [children_grow fits] at listed
    rw [size_grow]
    split at listed
    · rcases List.mem_append.mp listed with isOld | isNew
      · exact Nat.lt_succ_of_lt (forest.childKnown isOld)
      · rw [List.mem_singleton.mp isNew]
        exact Nat.lt_succ_self arena.size
    · exact Nat.lt_succ_of_lt (forest.childKnown listed)
  childParent := by
    intro parent child listed
    rw [children_grow fits] at listed
    rw [parent_grow fits]
    have oldParent (isOld : child ∈ arena.children parent) :
        (if child = arena.next then creation.parent? else arena.parent child) =
          some parent := by
      have notNext : child ≠ arena.next := by
        rintro rfl
        exact forest.next_not_mem_children parent isOld
      rw [if_neg notNext]
      exact forest.childParent isOld
    split at listed
    · rcases List.mem_append.mp listed with isOld | isNew
      · exact oldParent isOld
      · rw [if_pos (List.mem_singleton.mp isNew)]
        assumption
    · exact oldParent listed
  ordered := by
    intro parent
    rw [children_grow fits]
    split
    · rw [List.pairwise_append]
      refine ⟨forest.ordered parent, List.pairwise_singleton _ _, ?_⟩
      intro sibling isOld child isNew
      rw [List.mem_singleton.mp isNew]
      exact forest.childKnown isOld
    · exact forest.ordered parent

/-- Requests of any kind build a forest. -/
theorem createAll
    (creations : List (Creation α)) :
    (Arena.empty.createAll creations).2.Forest :=
  createAll_preserves grow creations empty

theorem nodup_children
    {arena : Arena α}
    (forest : arena.Forest)
    (parent : NodeId) :
    (arena.children parent).Nodup := by
  refine (forest.ordered parent).imp ?_
  rintro older younger isOlder rfl
  exact Nat.lt_irrefl _ isOlder

/--
A node with a parent stands in one list of children, and there at one position.
-/
theorem existsUnique_place
    {arena : Arena α}
    (forest : arena.Forest)
    {node parent : NodeId}
    (isChild : arena.parent node = some parent) :
    ∃! place : NodeId × Nat,
      (arena.children place.1)[place.2]? = some node := by
  obtain ⟨index, found⟩ :=
    List.mem_iff_getElem?.mp (forest.mem_children_iff.mpr isChild)
  refine ⟨(parent, index), found, ?_⟩
  rintro ⟨otherParent, otherIndex⟩ otherFound
  have otherIsChild : arena.parent node = some otherParent :=
    forest.childParent (List.mem_of_getElem? otherFound)
  obtain rfl : parent = otherParent :=
    Option.some.inj (isChild.symm.trans otherIsChild)
  have sameIndex : index = otherIndex :=
    (List.getElem?_inj (List.getElem?_eq_some_iff.mp found).1
      (forest.nodup_children parent)).mp (found.trans otherFound.symm)
  rw [sameIndex]

theorem ancestorOlder
    {arena : Arena α}
    (forest : arena.Forest)
    {node ancestor : NodeId}
    (above : Relation.TransGen arena.IsChild node ancestor) :
    ancestor.index < node.index := by
  induction above with
  | single isChild =>
      exact forest.parentOlder isChild
  | tail _ isChild inductionHypothesis =>
      exact Nat.lt_trans (forest.parentOlder isChild) inductionHypothesis

end Forest

/--
The arena after any sequence of requests, refused ones included, is a forest:
every node with a parent stands at one place among all lists of children, a node
without a parent at none, and no node is above itself.
-/
theorem createAll_builds_forest
    (creations : List (Creation α)) :
    let arena := (empty.createAll creations).2
    arena.Forest ∧
      (∀ node parent,
        arena.parent node = some parent →
        ∃! place : NodeId × Nat,
          (arena.children place.1)[place.2]? = some node) ∧
      (∀ root,
        arena.parent root = none →
        ∀ parent, root ∉ arena.children parent) ∧
      ∀ node, ¬ Relation.TransGen arena.IsChild node node := by
  intro arena
  have forest : arena.Forest :=
    Forest.createAll creations
  refine ⟨forest, ?_, ?_, ?_⟩
  · intro node parent isChild
    exact forest.existsUnique_place isChild
  · intro root isRoot parent listed
    have isChild := forest.childParent listed
    rw [isRoot] at isChild
    contradiction
  · intro node cycle
    exact Nat.lt_irrefl node.index (forest.ancestorOlder cycle)

end SheetLint.Arena
