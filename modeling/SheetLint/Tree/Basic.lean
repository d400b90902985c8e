import SheetLint.Text.Quoted
import SheetLint.Trace.Event

namespace SheetLint

/-!
# Syntax trees

A tree is read by two questions: which node is the parent of a node, and which
nodes, in order, are the children of a node.  Nothing makes the answers agree,
so a walk that relies on them reports where they do not.
-/

/-- Read access to a tree whose nodes have identities in `ι`. -/
structure Tree (ι : Type) where
  parent : ι → Option ι
  children : ι → List ι

/-- The text by which messages name a node. -/
class NodeLabel (ι : Type) where
  label : ι → List Char

/-- An integer is named by its decimal digits. -/
instance : NodeLabel Int where
  label number :=
    (if number < 0 then ['-'] else []) ++ (Nat.repr number.natAbs).toList

/-- A natural number is named by its decimal digits. -/
instance : NodeLabel Nat where
  label number := (Nat.repr number).toList

/-- A string is named by its literal. -/
instance : NodeLabel String where
  label text := Text.literal text.toList

/-- A pair is named by the names of its parts in parentheses. -/
instance {α β : Type} [NodeLabel α] [NodeLabel β] : NodeLabel (α × β) where
  label pair :=
    '(' ::
      (NodeLabel.label pair.1 ++ ',' :: ' ' :: NodeLabel.label pair.2 ++ [')'])

/-- A node whose parent does not list it; both are given by their names. -/
structure Misplaced where
  node : String
  parent : String
  deriving Repr, DecidableEq

namespace Misplaced

/-- The report for a node and its parent. -/
def of {ι : Type} [NodeLabel ι] (node parent : ι) : Misplaced :=
  ⟨String.ofList (NodeLabel.label node), String.ofList (NodeLabel.label parent)⟩

/-- The message of the report. -/
def message (misplaced : Misplaced) : String :=
  "node " ++ misplaced.node ++ " is not among the children of its parent " ++
    misplaced.parent

end Misplaced

namespace Tree

variable {ι : Type}

/--
What stands before a node: its previous sibling, or its parent if it is the
first child.  Without a node, or for a node without a parent, there is nothing.
-/
def previous [DecidableEq ι] [NodeLabel ι] (tree : Tree ι) :
    Option ι → Traced (Except Misplaced (Option ι))
  | none =>
      .silent (.ok none)
  | some node =>
      match tree.parent node with
      | none =>
          .silent (.ok none)
      | some parent =>
          let name := String.ofList (NodeLabel.label node)
          match (tree.children parent).findIdx? (· == node) with
          | none =>
              ⟨.error (.of node parent),
                [.misplaced name (String.ofList (NodeLabel.label parent))]⟩
          | some 0 =>
              ⟨.ok (some parent), [.located name 0]⟩
          | some (before + 1) =>
              ⟨.ok (tree.children parent)[before]?,
                [.located name (before + 1)]⟩

/-- The node `levels` parents above a node; the node itself for zero levels. -/
def ancestor (tree : Tree ι) (node : ι) : Nat → Option ι
  | 0 =>
      some node
  | levels + 1 =>
      match tree.parent node with
      | none =>
          none
      | some parent =>
          tree.ancestor parent levels

end Tree

end SheetLint
