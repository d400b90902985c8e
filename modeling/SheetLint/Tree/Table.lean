import SheetLint.Tree.Basic

namespace SheetLint

/-!
# Trees given by tables

A tree can be given by two finite tables, one of parents and one of children.  A
later entry for the same node replaces the earlier one; a node without an entry
has no parent or no children.
-/

/-- The entries of the two tables in order. -/
structure TreeTable (ι : Type) where
  parents : List (ι × ι)
  children : List (ι × List ι)
  deriving Repr, DecidableEq

namespace TreeTable

/-- The last entry under a key. -/
def last? {ι α : Type} [DecidableEq ι] (entries : List (ι × α)) (key : ι) :
    Option α :=
  (entries.reverse.find? fun entry => entry.1 == key).map (·.2)

/-- The tree of the tables. -/
def toTree {ι : Type} [DecidableEq ι] (table : TreeTable ι) : Tree ι where
  parent node := last? table.parents node
  children node := (last? table.children node).getD []

end TreeTable

end SheetLint
