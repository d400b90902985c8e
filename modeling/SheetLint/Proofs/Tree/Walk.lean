import Mathlib.Algebra.Ring.Nat
import SheetLint.Proofs.Tree.Previous

namespace SheetLint

/-!
# Walking backwards

A walk takes again and again what stands before a node.  In a forest it passes
the earlier siblings of a node, then its parent and the earlier siblings of
that, and so on, until it stands at the top of the tree; every node on the way
is older than the one it was reached from.
-/

namespace Tree

variable {ι : Type}

/-- The node and its ancestors up to `levels` above it. -/
def lineage
    (tree : Tree ι)
    (node : ι)
    (levels : Nat) : List ι :=
  (List.range (levels + 1)).filterMap (tree.ancestor node)

theorem lineage_of_parent
    {tree : Tree ι}
    {node parent : ι}
    (isChild : tree.parent node = some parent)
    (levels : Nat) :
    tree.lineage node (levels + 1) =
      node :: tree.lineage parent levels := by
  have above (level : Nat) :
      tree.ancestor node (level + 1) = tree.ancestor parent level := by
    simp [ancestor, isChild]
  have self : tree.ancestor node 0 = some node :=
    rfl
  rw [lineage, List.range_succ_eq_map, List.filterMap_cons, self,
    List.filterMap_map]
  simp only [Function.comp_def, Nat.succ_eq_add_one, above, lineage]

variable [DecidableEq ι]

/--
How far a node is from its parent: one step, and one for every earlier sibling.
A node without a parent has no way to go.
-/
def stepsToParent
    (tree : Tree ι)
    (node : ι) : Nat :=
  match tree.parent node with
  | none => 0
  | some parent => (tree.children parent).idxOf node + 1

/-- How far a node is from its ancestor `levels` above it. -/
def stepsToAncestor
    (tree : Tree ι)
    (node : ι)
    (levels : Nat) : Nat :=
  ((tree.lineage node levels).map tree.stepsToParent).sum

theorem stepsToParent_of_split
    {tree : Tree ι}
    {node parent : ι}
    {earlier later : List ι}
    (isChild : tree.parent node = some parent)
    (listed : tree.children parent = earlier ++ node :: later)
    (first : node ∉ earlier) :
    tree.stepsToParent node = earlier.length + 1 := by
  simp [stepsToParent, isChild, listed, List.idxOf_append, first]

/-- The way to an ancestor leads over the parent. -/
theorem stepsToAncestor_of_parent
    {tree : Tree ι}
    {node parent : ι}
    (isChild : tree.parent node = some parent)
    (levels : Nat) :
    tree.stepsToAncestor node (levels + 1) =
      tree.stepsToParent node + tree.stepsToAncestor parent levels := by
  simp [stepsToAncestor, lineage_of_parent isChild]

variable [NodeLabel ι]

/-- Where a walk of so many steps backwards from a node ends. -/
def walkBack
    (tree : Tree ι)
    (node : ι) : Nat → Except Misplaced (Option ι)
  | 0 =>
      .ok (some node)
  | steps + 1 =>
      (tree.walkBack node steps).bind fun current =>
        (tree.previous current).value

theorem walkBack_succ_of_previous
    {tree : Tree ι}
    {node before : ι}
    (back : (tree.previous (some node)).value = .ok (some before))
    (steps : Nat) :
    tree.walkBack node (steps + 1) = tree.walkBack before steps := by
  induction steps with
  | zero =>
      exact back
  | succ steps inductionHypothesis =>
      rw [walkBack, inductionHypothesis, ← walkBack]

/--
A walk of `steps` steps leads from `node` to `top`, at each step to an older
node.
-/
def Descends
    (tree : Tree NodeId)
    (node top : NodeId)
    (steps : Nat) : Prop :=
  tree.walkBack node steps = .ok (some top) ∧
    ∀ step < steps,
      ∃ current before,
        tree.walkBack node step = .ok (some current) ∧
          tree.walkBack node (step + 1) = .ok (some before) ∧
          before.index < current.index

theorem Descends.cons
    {tree : Tree NodeId}
    {node before top : NodeId}
    {steps : Nat}
    (back : (tree.previous (some node)).value = .ok (some before))
    (older : before.index < node.index)
    (descends : tree.Descends before top steps) :
    tree.Descends node top (steps + 1) := by
  obtain ⟨arrives, eachOlder⟩ := descends
  constructor
  · rw [walkBack_succ_of_previous back]
    exact arrives
  · intro step inWalk
    cases step with
    | zero =>
        exact ⟨node, before, rfl, walkBack_succ_of_previous back 0, older⟩
    | succ step =>
        simp only [walkBack_succ_of_previous back]
        exact eachOlder step (Nat.lt_of_succ_lt_succ inWalk)

/--
A walk from `node` descends to its topmost ancestor in as many steps as that is
away.
-/
def ReachesTop
    (tree : Tree NodeId)
    (node : NodeId) : Prop :=
  ∃ levels top,
    tree.ancestor node levels = some top ∧
      tree.parent top = none ∧
      tree.Descends node top (tree.stepsToAncestor node levels)

namespace ReachesTop

theorem root
    {tree : Tree NodeId}
    {node : NodeId}
    (isRoot : tree.parent node = none) :
    tree.ReachesTop node := by
  have noStep : tree.stepsToAncestor node 0 = 0 := by
    simp [stepsToAncestor, lineage, ancestor, stepsToParent, isRoot]
  refine ⟨0, node, rfl, isRoot, ?_⟩
  rw [noStep]
  exact ⟨rfl, by simp⟩

/-- A walk goes from a first child to its parent, one level up. -/
theorem firstChild
    {tree : Tree NodeId}
    {node parent : NodeId}
    {later : List NodeId}
    (isChild : tree.parent node = some parent)
    (listed : tree.children parent = node :: later)
    (older : parent.index < node.index)
    (fromParent : tree.ReachesTop parent) :
    tree.ReachesTop node := by
  obtain ⟨levels, top, above, isTop, descends⟩ := fromParent
  have split : tree.children parent = [] ++ node :: later :=
    listed
  have back := value_previous_of_split isChild split List.not_mem_nil
  have oneStep := stepsToParent_of_split isChild split List.not_mem_nil
  refine ⟨levels + 1, top, ?_, isTop, ?_⟩
  · simpa [ancestor, isChild] using above
  · rw [stepsToAncestor_of_parent isChild, oneStep, Nat.add_comm]
    exact descends.cons back older

/--
A walk goes from any other child to the sibling in front of it, which has the
same lineage.
-/
theorem laterChild
    {tree : Tree NodeId}
    {node sibling parent : NodeId}
    {front later : List NodeId}
    (isChild : tree.parent node = some parent)
    (siblingIsChild : tree.parent sibling = some parent)
    (listed : tree.children parent = front ++ sibling :: node :: later)
    (first : node ∉ front ++ [sibling])
    (siblingFirst : sibling ∉ front)
    (older : sibling.index < node.index)
    (fromSibling : tree.ReachesTop sibling) :
    tree.ReachesTop node := by
  obtain ⟨levels, top, above, isTop, descends⟩ := fromSibling
  have split :
      tree.children parent = (front ++ [sibling]) ++ node :: later := by
    simpa using listed
  have back : (tree.previous (some node)).value = .ok (some sibling) := by
    simpa using value_previous_of_split isChild split first
  have steps := stepsToParent_of_split isChild split first
  have siblingSteps := stepsToParent_of_split siblingIsChild listed siblingFirst
  cases levels with
  | zero =>
      cases above
      exact absurd (siblingIsChild.symm.trans isTop) (by simp)
  | succ levels =>
      have oneMore :
          tree.stepsToAncestor node (levels + 1) =
            tree.stepsToAncestor sibling (levels + 1) + 1 := by
        rw [stepsToAncestor_of_parent isChild,
          stepsToAncestor_of_parent siblingIsChild, steps, siblingSteps,
          List.length_append, List.length_singleton]
        omega
      refine ⟨levels + 1, top, ?_, isTop, ?_⟩
      · simpa [ancestor, isChild, siblingIsChild] using above
      · rw [oneMore]
        exact descends.cons back older

end ReachesTop

end Tree

namespace Arena

variable {α : Type}

/--
In a forest a walk from any node reaches the top, for the sibling or the parent
that a step leads to is older than the node.
-/
theorem Forest.reachesTop
    {arena : Arena α}
    (forest : arena.Forest)
    (node : NodeId) :
    arena.toTree.ReachesTop node := by
  induction age : node.index using Nat.strongRecOn generalizing node with
  | ind _ inductionHypothesis =>
      subst age
      cases isChild : arena.toTree.parent node with
      | none =>
          exact .root isChild
      | some parent =>
          obtain ⟨earlier, later, listed, first⟩ :=
            forest.exists_earlier isChild
          rcases List.eq_nil_or_concat earlier with rfl | ⟨front, sibling, rfl⟩
          · have older := forest.parentOlder isChild
            exact .firstChild isChild listed older
              (inductionHypothesis parent.index older parent rfl)
          · rw [List.concat_append] at listed
            rw [List.concat_eq_append] at first
            have older := forest.older_of_split listed
            have siblingIsChild : arena.toTree.parent sibling = some parent :=
              forest.childParent (listed ▸ by simp)
            exact .laterChild isChild siblingIsChild listed first
              (forest.first_of_split listed) older
              (inductionHypothesis sibling.index older sibling rfl)

/--
In an arena that requests have built, what stands before a node is always found.
A walk backwards from any node passes ever older nodes and ends at the topmost
ancestor, after one step for the node and each of its ancestors that has a
parent and one more for each of their earlier siblings.
-/
theorem walkBack_ends_at_top
    (creations : List (Creation α)) :
    let tree := (empty.createAll creations).2.toTree
    (∀ node, ∃ before, (tree.previous (some node)).value = .ok before) ∧
      ∀ node, ∃ levels top,
        tree.ancestor node levels = some top ∧
          (∀ higher, levels < higher → tree.ancestor node higher = none) ∧
          (tree.previous (some top)).value = .ok none ∧
          tree.Descends node top (tree.stepsToAncestor node levels) := by
  intro tree
  have forest : (empty.createAll creations).2.Forest :=
    Forest.createAll creations
  refine ⟨forest.previous_ok, ?_⟩
  intro node
  obtain ⟨levels, top, above, isTop, descends⟩ := forest.reachesTop node
  exact ⟨levels, top, above,
    fun _ isHigher => Tree.ancestor_eq_none_of_lt above isTop isHigher,
    Tree.value_previous_of_root isTop, descends⟩

end Arena

end SheetLint
