import Mathlib.Data.Finset.Card
import Mathlib.Data.Finset.Range
import SheetLint.Proofs.Tree.Depth
import SheetLint.Tree.Table

namespace SheetLint

/-!
# Ancestors that lead in a circle

In a tree that is given by tables only finitely many nodes have a parent.  A
node with more ancestors than that has one of them twice, and from there on its
ancestors repeat; so a tree in which they go on for ever is one in which they
lead in a circle.  Whether they do is known at the first level above the number
of those nodes.
-/

namespace Tree

variable {ι : Type}

/--
From `start` on the ancestors of a node come again after every `period` levels.
-/
structure Circles
    (tree : Tree ι)
    (node : ι)
    (start period : Nat) : Prop where
  positive :
    0 < period
  repeats :
    ∀ levels,
      start ≤ levels →
      tree.ancestor node (levels + period) = tree.ancestor node levels

/-- An ancestor that comes a second time starts a circle. -/
theorem circles_of_same_ancestor
    {tree : Tree ι}
    {node : ι}
    {start period : Nat}
    (positive : 0 < period)
    (same : tree.ancestor node (start + period) = tree.ancestor node start) :
    tree.Circles node start period where
  positive := positive
  repeats := by
    intro levels behind
    obtain ⟨more, rfl⟩ := Nat.exists_eq_add_of_le behind
    calc
      tree.ancestor node (start + more + period)
          = tree.ancestor node (start + period + more) := by
            rw [Nat.add_right_comm]
      _ = tree.ancestor node (start + more) := by
            rw [ancestor_add, same, ← ancestor_add]

namespace Circles

variable
  {tree : Tree ι}
  {node : ι}
  {start period : Nat}
  (circles : tree.Circles node start period)

include circles

/-- Any number of rounds leads back to the same ancestor. -/
theorem ancestor_add_mul (rounds : Nat) :
    tree.ancestor node (start + rounds * period) =
      tree.ancestor node start := by
  induction rounds with
  | zero =>
      rw [Nat.zero_mul, Nat.add_zero]
  | succ rounds inductionHypothesis =>
      rw [Nat.succ_mul, ← Nat.add_assoc,
        circles.repeats _ (Nat.le_add_right start _), inductionHypothesis]

/-- A circle of ancestors has no end. -/
theorem isSome_ancestor
    (entered : (tree.ancestor node start).isSome)
    (levels : Nat) :
    (tree.ancestor node levels).isSome := by
  have isBelow : levels ≤ start + levels * period := by
    have enoughRounds := Nat.le_mul_of_pos_right levels circles.positive
    omega
  apply isSome_ancestor_of_le isBelow
  rw [circles.ancestor_add_mul levels]
  exact entered

end Circles

/--
If the ancestors of a node reach a level above the number of nodes that have a
parent, two of those below are the same node.
-/
theorem exists_same_ancestor
    {tree : Tree ι}
    {node : ι}
    {parented : Finset ι}
    (hasParent : ∀ child, (tree.parent child).isSome → child ∈ parented)
    (reached : (tree.ancestor node (parented.card + 1)).isSome) :
    ∃ lower higher,
      lower < higher ∧
        higher ≤ parented.card ∧
        tree.ancestor node lower = tree.ancestor node higher := by
  have isParented :
      ∀ level ∈ Finset.range (parented.card + 1),
        tree.ancestor node level ∈ parented.map .some := by
    intro level inRange
    have isBelow : level + 1 ≤ parented.card + 1 :=
      Finset.mem_range.mp inRange
    have goesOn := isSome_ancestor_of_le isBelow reached
    rw [ancestor_succ] at goesOn
    cases atLevel : tree.ancestor node level with
    | none =>
        rw [atLevel] at goesOn
        contradiction
    | some child =>
        rw [atLevel] at goesOn
        exact Finset.mem_map_of_mem _ (hasParent child goesOn)
  have moreLevels :
      (parented.map (.some : ι ↪ Option ι)).card <
        (Finset.range (parented.card + 1)).card := by
    rw [Finset.card_map, Finset.card_range]
    exact Nat.lt_succ_self _
  obtain ⟨first, firstInRange, second, secondInRange, differ, same⟩ :=
    Finset.exists_ne_map_eq_of_card_lt_of_maps_to moreLevels isParented
  rw [Finset.mem_range] at firstInRange secondInRange
  rcases Nat.lt_or_gt_of_ne differ with isLower | isHigher
  · exact ⟨first, second, isLower, Nat.le_of_lt_succ secondInRange, same⟩
  · exact ⟨second, first, isHigher, Nat.le_of_lt_succ firstInRange, same.symm⟩

end Tree

namespace TreeTable

variable {ι : Type} [DecidableEq ι]

/-- The nodes that the table has a parent for. -/
def parented (table : TreeTable ι) : Finset ι :=
  (table.parents.map (·.1)).toFinset

theorem mem_parented_iff
    {table : TreeTable ι}
    {node : ι} :
    node ∈ table.parented ↔ (table.toTree.parent node).isSome := by
  simp [parented, toTree, last?]

/--
In a tree that is given by tables the ancestor at `first + second` levels is the
one at `second` levels above the one at `first`.  If a node has an ancestor at
the level above the number of nodes with a parent, it has one at every level,
and they repeat after at most as many levels as there are such nodes; if it has
none there, it has none at any level above that number.
-/
theorem ancestors_end_or_circle
    (table : TreeTable ι)
    (node : ι) :
    let tree := table.toTree
    let bound := table.parented.card
    (∀ first second,
      tree.ancestor node (first + second) =
        (tree.ancestor node first).bind fun middle =>
          tree.ancestor middle second) ∧
      ((tree.ancestor node (bound + 1)).isSome ↔
        (∀ levels, (tree.ancestor node levels).isSome) ∧
          ∃ start period,
            start + period ≤ bound ∧ tree.Circles node start period) ∧
      (tree.ancestor node (bound + 1) = none ↔
        ∀ levels, bound < levels → tree.ancestor node levels = none) := by
  intro tree bound
  refine ⟨tree.ancestor_add node, ?_, ?_⟩
  · constructor
    · intro reached
      obtain ⟨start, higher, isLower, inBound, same⟩ :=
        Tree.exists_same_ancestor (fun _ => mem_parented_iff.mpr) reached
      obtain ⟨period, rfl⟩ := Nat.exists_eq_add_of_le (Nat.le_of_lt isLower)
      have circles : tree.Circles node start period :=
        Tree.circles_of_same_ancestor (by omega) same.symm
      have entered : (tree.ancestor node start).isSome :=
        Tree.isSome_ancestor_of_le (by omega) reached
      exact ⟨circles.isSome_ancestor entered, start, period, inBound, circles⟩
    · rintro ⟨everywhere, -⟩
      exact everywhere (bound + 1)
  · constructor
    · intro ended levels isAbove
      rw [← Option.not_isSome_iff_eq_none] at ended ⊢
      intro reached
      exact ended (Tree.isSome_ancestor_of_le isAbove reached)
    · intro noneAbove
      exact noneAbove (bound + 1) (Nat.lt_succ_self bound)

end TreeTable

end SheetLint
