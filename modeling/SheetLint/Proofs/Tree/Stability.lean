import SheetLint.Proofs.Tree.Previous

namespace SheetLint

/-!
# Stability under growth

Requests only add to an arena.  What it says of a node that it has, it says
after any further requests as well; the lists of children become longer, but
only at their end.  In a forest the parent of a node is older than the node and
lists it, so that a walk from a node never comes to a place where the arena has
changed.
-/

namespace Tree

variable {ι : Type} [DecidableEq ι] [NodeLabel ι]

/--
What stands before a listed node stays when children are added behind the list.
-/
theorem previous_of_extended
    {tree extended : Tree ι}
    {node : ι}
    (sameParent : extended.parent node = tree.parent node)
    (listed :
      ∀ parent,
        tree.parent node = some parent →
        node ∈ tree.children parent ∧
          tree.children parent <+: extended.children parent) :
    extended.previous (some node) = tree.previous (some node) := by
  cases isChild : tree.parent node with
  | none =>
      simp [previous, sameParent, isChild]
  | some parent =>
      obtain ⟨isListed, more, longer⟩ := listed parent isChild
      cases position : (tree.children parent).findIdx? (· == node) with
      | none =>
          have notNode := List.findIdx?_eq_none_iff.mp position node isListed
          simp at notNode
      | some index =>
          have samePosition :
              (extended.children parent).findIdx? (· == node) = some index := by
            rw [← longer, List.findIdx?_append, position, Option.some_or]
          have inList : index < (tree.children parent).length :=
            (List.findIdx?_eq_some_iff_findIdx_eq.mp position).1
          cases index with
          | zero =>
              simp only [previous, sameParent, isChild, position, samePosition]
          | succ before =>
              have sameSibling :
                  (extended.children parent)[before]? =
                    (tree.children parent)[before]? := by
                rw [← longer,
                  List.getElem?_append_left (Nat.lt_of_succ_lt inList)]
              simp only [previous, sameParent, isChild, position, samePosition,
                sameSibling]

end Tree

namespace Arena

variable {α : Type}

/--
`grown` says of the nodes of `arena` what `arena` says; only more children may
be listed.
-/
structure Extends (arena grown : Arena α) : Prop where
  size_le :
    arena.size ≤ grown.size
  get?_eq :
    ∀ {node : NodeId},
      node.index < arena.size →
      grown.get? node = arena.get? node
  parent_eq :
    ∀ {node : NodeId},
      node.index < arena.size →
      grown.parent node = arena.parent node
  children_extended :
    ∀ node,
      arena.children node <+: grown.children node

namespace Extends

theorem refl (arena : Arena α) : arena.Extends arena where
  size_le := Nat.le_refl _
  get?_eq _ := rfl
  parent_eq _ := rfl
  children_extended _ := List.prefix_rfl

/-- The node that is made next is none of the nodes that were there. -/
theorem ne_next
    {arena grown : Arena α}
    (added : arena.Extends grown)
    {node : NodeId}
    (known : node.index < arena.size) :
    node ≠ grown.next := by
  rintro rfl
  exact Nat.not_lt.mpr added.size_le known

/-- A request that fits adds to what was added before. -/
theorem grow
    {arena grown : Arena α}
    {creation : Creation α}
    (fits : creation.Fits grown)
    (added : arena.Extends grown) :
    arena.Extends (grown.grow creation) where
  size_le := by
    rw [size_grow]
    exact Nat.le_succ_of_le added.size_le
  get?_eq := by
    intro node known
    rw [get?_grow fits, if_neg (added.ne_next known)]
    exact added.get?_eq known
  parent_eq := by
    intro node known
    rw [parent_grow fits, if_neg (added.ne_next known)]
    exact added.parent_eq known
  children_extended := by
    intro node
    rw [children_grow fits]
    split
    · exact (added.children_extended node).trans (List.prefix_append _ _)
    · exact added.children_extended node

/-- Requests of any kind only add to an arena. -/
theorem createAll
    (arena : Arena α)
    (creations : List (Creation α)) :
    arena.Extends (arena.createAll creations).2 :=
  createAll_preserves grow creations (refl arena)

section

variable
  {arena grown : Arena α}
  (added : arena.Extends grown)
  (forest : arena.Forest)
  {node : NodeId}
  (known : node.index < arena.size)

include added forest known

theorem previous_eq :
    grown.toTree.previous (some node) = arena.toTree.previous (some node) := by
  apply Tree.previous_of_extended (added.parent_eq known)
  intro parent isChild
  exact ⟨forest.mem_children_iff.mpr isChild, added.children_extended parent⟩

theorem ancestor_eq (levels : Nat) :
    grown.toTree.ancestor node levels = arena.toTree.ancestor node levels := by
  induction levels generalizing node with
  | zero =>
      rfl
  | succ levels inductionHypothesis =>
      have sameParent : grown.toTree.parent node = arena.toTree.parent node :=
        added.parent_eq known
      cases isChild : arena.toTree.parent node with
      | none =>
          simp only [Tree.ancestor, sameParent, isChild]
      | some parent =>
          have older : parent.index < node.index :=
            forest.parentOlder isChild
          simp only [Tree.ancestor, sameParent, isChild]
          exact inductionHypothesis (Nat.lt_trans older known)

end

end Extends

/--
What an arena that requests have built says of a node stays after any further
requests: its data, its parent, what stands before it and its ancestors.  Its
children stay the first of its children.
-/
theorem createAll_keeps_nodes
    (earlier later : List (Creation α))
    {node : NodeId}
    (known : node.index < (empty.createAll earlier).2.size) :
    let arena := (empty.createAll earlier).2
    let grown := (arena.createAll later).2
    grown.get? node = arena.get? node ∧
      grown.parent node = arena.parent node ∧
      grown.toTree.previous (some node) = arena.toTree.previous (some node) ∧
      (∀ levels,
        grown.toTree.ancestor node levels = arena.toTree.ancestor node levels) ∧
      arena.children node <+: grown.children node := by
  intro arena grown
  have forest : arena.Forest :=
    Forest.createAll earlier
  have added : arena.Extends grown :=
    Extends.createAll arena later
  exact ⟨added.get?_eq known, added.parent_eq known,
    added.previous_eq forest known,
    added.ancestor_eq forest known, added.children_extended node⟩

/--
A second child has its sibling before it, also when the parent gets a third one.
-/
theorem createAll_keeps_second_child :
    let arena :=
      (empty.createAll
        [.root "rule", .child ⟨0⟩ "color", .child ⟨0⟩ "margin"]).2
    let grown :=
      (arena.createAll
        [.child ⟨7⟩ "lost", .child ⟨0⟩ "padding", .root "other"]).2
    2 < arena.size ∧
      grown.children ⟨0⟩ = [⟨1⟩, ⟨2⟩, ⟨3⟩] ∧
      (grown.toTree.previous (some ⟨2⟩)).value = .ok (some ⟨1⟩) ∧
      grown.toTree.previous (some ⟨2⟩) = arena.toTree.previous (some ⟨2⟩) := by
  intro arena grown
  have known : (⟨2⟩ : NodeId).index < arena.size := by
    decide
  obtain ⟨-, -, samePrevious, -, -⟩ :=
    createAll_keeps_nodes
      [.root "rule", .child ⟨0⟩ "color", .child ⟨0⟩ "margin"]
      [.child ⟨7⟩ "lost", .child ⟨0⟩ "padding", .root "other"] known
  exact ⟨known, by decide, rfl, samePrevious⟩

end Arena

end SheetLint
