import SheetLint.Proofs.Tree.Forest

namespace SheetLint

/-!
# What stands before a node

In any tree, a node without a parent has nothing before it, and a node that its
parent lists has the sibling in front of its first occurrence before it, or the
parent where there is none.  In a forest every node with a parent is listed, so
that the search always succeeds.
-/

namespace Tree

variable {ι : Type}

/--
The nodes that are `first` and `second` levels apart are `first + second` levels
apart.
-/
theorem ancestor_add
    (tree : Tree ι)
    (node : ι)
    (first second : Nat) :
    tree.ancestor node (first + second) =
      (tree.ancestor node first).bind fun middle =>
        tree.ancestor middle second := by
  induction first generalizing node with
  | zero =>
      simp [ancestor]
  | succ first inductionHypothesis =>
      rw [Nat.succ_add]
      cases isChild : tree.parent node with
      | none =>
          simp [ancestor, isChild]
      | some parent =>
          simp [ancestor, isChild, inductionHypothesis]

theorem ancestor_eq_none_of_lt
    {tree : Tree ι}
    {node top : ι}
    {levels higher : Nat}
    (above : tree.ancestor node levels = some top)
    (isTop : tree.parent top = none)
    (isHigher : levels < higher) :
    tree.ancestor node higher = none := by
  obtain ⟨more, rfl⟩ := Nat.exists_eq_add_of_lt isHigher
  rw [Nat.add_assoc, ancestor_add, above]
  simp [ancestor, isTop]

variable [DecidableEq ι] [NodeLabel ι]

theorem value_previous_of_root
    {tree : Tree ι}
    {node : ι}
    (isRoot : tree.parent node = none) :
    (tree.previous (some node)).value = .ok none := by
  simp [previous, isRoot, Traced.silent]

/--
The last of the earlier siblings stands before a node, or its parent if there
are none.
-/
theorem value_previous_of_split
    {tree : Tree ι}
    {node parent : ι}
    {earlier later : List ι}
    (isChild : tree.parent node = some parent)
    (listed : tree.children parent = earlier ++ node :: later)
    (first : node ∉ earlier) :
    (tree.previous (some node)).value =
      .ok (some (earlier.getLastD parent)) := by
  have notEarlier :
      earlier.findIdx? (· == node) = none := by
    rw [List.findIdx?_eq_none_iff]
    intro sibling isEarlier
    exact beq_eq_false_iff_ne.mpr fun same => first (same ▸ isEarlier)
  have position :
      (earlier ++ node :: later).findIdx? (· == node) =
        some earlier.length := by
    simp [List.findIdx?_append, notEarlier, List.findIdx?_cons]
  rcases List.eq_nil_or_concat earlier with rfl | ⟨front, sibling, rfl⟩
  · simp only [previous, isChild, listed, position]
    rfl
  · simp only [previous, isChild, listed, position]
    simp

end Tree

namespace Arena.Forest

variable {α : Type}

/-- The list that a node with a parent stands in, cut at the node. -/
theorem exists_earlier
    {arena : Arena α}
    (forest : arena.Forest)
    {node parent : NodeId}
    (isChild : arena.parent node = some parent) :
    ∃ earlier later,
      arena.children parent = earlier ++ node :: later ∧
        node ∉ earlier :=
  List.eq_append_cons_of_mem (forest.mem_children_iff.mpr isChild)

theorem older_of_split
    {arena : Arena α}
    (forest : arena.Forest)
    {parent sibling node : NodeId}
    {front later : List NodeId}
    (listed : arena.children parent = front ++ sibling :: node :: later) :
    sibling.index < node.index := by
  have ordered := forest.ordered parent
  rw [listed, List.pairwise_append] at ordered
  exact (List.pairwise_cons.mp ordered.2.1).1 node List.mem_cons_self

theorem first_of_split
    {arena : Arena α}
    (forest : arena.Forest)
    {parent node : NodeId}
    {earlier later : List NodeId}
    (listed : arena.children parent = earlier ++ node :: later) :
    node ∉ earlier := by
  have noDuplicates := forest.nodup_children parent
  rw [listed, List.nodup_append] at noDuplicates
  intro isEarlier
  exact noDuplicates.2.2 node isEarlier node List.mem_cons_self rfl

/-- In a forest the search for what stands before a node never fails. -/
theorem previous_ok
    {arena : Arena α}
    (forest : arena.Forest)
    (node : NodeId) :
    ∃ before,
      (arena.toTree.previous (some node)).value = .ok before := by
  cases isChild : arena.parent node with
  | none =>
      exact ⟨none, Tree.value_previous_of_root isChild⟩
  | some parent =>
      obtain ⟨earlier, later, listed, first⟩ :=
        forest.exists_earlier isChild
      exact ⟨_, Tree.value_previous_of_split isChild listed first⟩

end Arena.Forest

end SheetLint
