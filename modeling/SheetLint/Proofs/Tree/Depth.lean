import SheetLint.Proofs.Tree.Previous

namespace SheetLint

/-!
# How deep a node stands

The ancestors of a node either end, and then at a node without a parent, or they
go on for ever.  Where they end, the number of levels up to that node is the
depth: as many ancestors exist and no more.  In a forest every ancestor is older
than the one below it, so that the ancestors end at the latest when the
identities do.
-/

namespace Tree

variable {ι : Type}

/--
The ancestors of a node end `depth` levels above it, at a node without a parent.
-/
def HasDepth
    (tree : Tree ι)
    (node : ι)
    (depth : Nat) : Prop :=
  ∃ top, tree.ancestor node depth = some top ∧ tree.parent top = none

theorem ancestor_one
    (tree : Tree ι)
    (node : ι) :
    tree.ancestor node 1 = tree.parent node := by
  cases isChild : tree.parent node <;>
    simp [ancestor, isChild]

/-- The next ancestor is the parent of the last one. -/
theorem ancestor_succ
    (tree : Tree ι)
    (node : ι)
    (levels : Nat) :
    tree.ancestor node (levels + 1) =
      (tree.ancestor node levels).bind tree.parent := by
  simp only [ancestor_add, ancestor_one]

/-- Below an ancestor there is one at every level. -/
theorem isSome_ancestor_of_le
    {tree : Tree ι}
    {node : ι}
    {lower higher : Nat}
    (isLower : lower ≤ higher)
    (above : (tree.ancestor node higher).isSome) :
    (tree.ancestor node lower).isSome := by
  obtain ⟨more, rfl⟩ := Nat.exists_eq_add_of_le isLower
  rw [ancestor_add] at above
  exact Option.isSome_of_isSome_bind above

theorem HasDepth.isSome_ancestor_iff
    {tree : Tree ι}
    {node : ι}
    {depth levels : Nat}
    (hasDepth : tree.HasDepth node depth) :
    (tree.ancestor node levels).isSome ↔ levels ≤ depth := by
  obtain ⟨top, above, isTop⟩ := hasDepth
  constructor
  · intro reached
    apply Nat.le_of_not_lt
    intro isHigher
    rw [ancestor_eq_none_of_lt above isTop isHigher] at reached
    contradiction
  · intro isLower
    exact isSome_ancestor_of_le isLower (by simp [above])

/-- Ancestors that are missing at some level have ended below it. -/
theorem exists_hasDepth
    {tree : Tree ι}
    {node : ι}
    {bound : Nat}
    (ended : tree.ancestor node (bound + 1) = none) :
    ∃ depth ≤ bound, tree.HasDepth node depth := by
  induction bound with
  | zero =>
      rw [ancestor_one] at ended
      exact ⟨0, Nat.le_refl 0, node, rfl, ended⟩
  | succ bound inductionHypothesis =>
      cases last : tree.ancestor node (bound + 1) with
      | none =>
          obtain ⟨depth, isBelow, hasDepth⟩ := inductionHypothesis last
          exact ⟨depth, Nat.le_succ_of_le isBelow, hasDepth⟩
      | some top =>
          rw [ancestor_succ, last] at ended
          exact ⟨bound + 1, Nat.le_refl _, top, last, ended⟩

end Tree

namespace Arena

variable {α : Type}

/-- An identity that no node has yet has no parent. -/
theorem parent_of_unknown
    {arena : Arena α}
    {node : NodeId}
    (unknown : arena.size ≤ node.index) :
    arena.parent node = none := by
  have absent : arena.entries[node.index]? = none :=
    Array.getElem?_eq_none unknown
  simp [parent, absent]

namespace Forest

variable
  {arena : Arena α}
  (forest : arena.Forest)

include forest

/-- An ancestor is older than a node by at least the levels between them. -/
theorem index_add_le
    {node ancestor : NodeId}
    {levels : Nat}
    (above : arena.toTree.ancestor node levels = some ancestor) :
    ancestor.index + levels ≤ node.index := by
  induction levels generalizing ancestor with
  | zero =>
      obtain rfl : node = ancestor :=
        Option.some.inj above
      exact Nat.le_refl _
  | succ levels inductionHypothesis =>
      rw [Tree.ancestor_succ, Option.bind_eq_some_iff] at above
      obtain ⟨child, below, isChild⟩ := above
      have older : ancestor.index < child.index :=
        forest.parentOlder isChild
      have childOlder := inductionHypothesis below
      omega

theorem ancestor_lt
    {node lowerAncestor higherAncestor : NodeId}
    {lower higher : Nat}
    (isLower : lower < higher)
    (atLower : arena.toTree.ancestor node lower = some lowerAncestor)
    (atHigher : arena.toTree.ancestor node higher = some higherAncestor) :
    higherAncestor.index < lowerAncestor.index := by
  obtain ⟨more, rfl⟩ := Nat.exists_eq_add_of_lt isLower
  rw [Nat.add_assoc, Tree.ancestor_add, atLower, Option.bind_some] at atHigher
  have older := forest.index_add_le atHigher
  omega

theorem exists_depth (node : NodeId) :
    ∃ depth ≤ node.index, arena.toTree.HasDepth node depth := by
  apply Tree.exists_hasDepth
  cases above : arena.toTree.ancestor node (node.index + 1) with
  | none =>
      rfl
  | some ancestor =>
      have older := forest.index_add_le above
      omega

end Forest

/--
In an arena that requests have built every node has a depth, which is not above
its identity and is zero for an identity that no node has.  It has an ancestor
at each level up to its depth and at none above.  These ancestors are different
nodes, a higher one is older than a lower one, and the highest one has no
parent.
-/
theorem createAll_bounds_depth (creations : List (Creation α)) :
    let arena := (empty.createAll creations).2
    let tree := arena.toTree
    ∀ node, ∃ depth ≤ node.index,
      (arena.size ≤ node.index → depth = 0) ∧
        (∀ levels, (tree.ancestor node levels).isSome ↔ levels ≤ depth) ∧
        (∀ lower higher,
          lower < higher →
          higher ≤ depth →
          ∃ younger older,
            tree.ancestor node lower = some younger ∧
              tree.ancestor node higher = some older ∧
              older ≠ younger ∧
              older.index < younger.index) ∧
        ∃ top, tree.ancestor node depth = some top ∧
          tree.parent top = none := by
  intro arena tree node
  have forest : arena.Forest :=
    Forest.createAll creations
  obtain ⟨depth, isBound, hasDepth⟩ := forest.exists_depth node
  refine ⟨depth, isBound, ?_, fun _ => hasDepth.isSome_ancestor_iff,
    ?_, hasDepth⟩
  · intro unknown
    have isTop : tree.parent node = none :=
      parent_of_unknown unknown
    have reached := hasDepth.isSome_ancestor_iff.mpr (Nat.le_refl depth)
    have same : tree.HasDepth node 0 :=
      ⟨node, rfl, isTop⟩
    exact Nat.le_zero.mp (same.isSome_ancestor_iff.mp reached)
  · intro lower higher isLower inDepth
    obtain ⟨older, atHigher⟩ :=
      Option.isSome_iff_exists.mp (hasDepth.isSome_ancestor_iff.mpr inDepth)
    obtain ⟨younger, atLower⟩ :=
      Option.isSome_iff_exists.mp
        (Tree.isSome_ancestor_of_le (Nat.le_of_lt isLower)
          (Option.isSome_of_eq_some atHigher))
    have isOlder : older.index < younger.index :=
      forest.ancestor_lt isLower atLower atHigher
    refine ⟨younger, older, atLower, atHigher, ?_, isOlder⟩
    rintro rfl
    exact Nat.lt_irrefl _ isOlder

/--
A grandchild stands two levels deep; its ancestor there is older than itself.
-/
theorem createAll_bounds_depth_of_grandchild :
    let tree :=
      (empty.createAll
        [.root "sheet", .child ⟨0⟩ "rule", .child ⟨7⟩ "lost",
          .child ⟨1⟩ "color"]).2.toTree
    ∃ depth, depth = 2 ∧
      (∀ levels, (tree.ancestor ⟨2⟩ levels).isSome ↔ levels ≤ depth) ∧
      ∃ younger older,
        tree.ancestor ⟨2⟩ 0 = some younger ∧
          tree.ancestor ⟨2⟩ 2 = some older ∧
          older ≠ younger ∧
          older.index < younger.index := by
  intro tree
  obtain ⟨depth, isBound, -, reached, falling, -⟩ :=
    createAll_bounds_depth
      [.root "sheet", .child ⟨0⟩ "rule", .child ⟨7⟩ "lost", .child ⟨1⟩ "color"]
      ⟨2⟩
  have twoLevels : 2 ≤ depth :=
    (reached 2).mp (by decide)
  exact ⟨depth, Nat.le_antisymm isBound twoLevels, reached,
    falling 0 2 (by decide) twoLevels⟩

end Arena

end SheetLint
