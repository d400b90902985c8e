import SheetLint.Tree.Basic

namespace SheetLint

/-!
# Arenas

An arena owns the nodes of a forest and names them by the order of their
creation.  A node is made as a root or as the last child of a node that exists,
so that parents and children agree.  An identity that no node has yet names
nothing: it has no data, no parent and no children.
-/

/-- The identity of a node: how many nodes its arena had before it. -/
structure NodeId where
  index : Nat
  deriving Repr, DecidableEq

/-- Identities are ordered by creation. -/
instance : Ord NodeId where
  compare first second := compare first.index second.index

/-- An identity shows its number. -/
def NodeId.label (node : NodeId) : List Char :=
  "NodeId(".toList ++ (Nat.repr node.index).toList ++ [')']

/-- An identity is named by its number. -/
instance : NodeLabel NodeId where
  label := NodeId.label

/-- A node with its data, its parent and its children in order. -/
structure ArenaEntry (α : Type) where
  data : α
  parent : Option NodeId
  children : List NodeId
  deriving Repr, DecidableEq

/-- The nodes of a forest in the order of their creation. -/
structure Arena (α : Type) where
  entries : Array (ArenaEntry α)
  deriving Repr, DecidableEq

/-- A parent that is no node of the arena. -/
structure UnknownParent where
  parent : NodeId
  deriving Repr, DecidableEq

/-- The message about a parent that is no node of the arena. -/
def UnknownParent.message (unknown : UnknownParent) : String :=
  String.ofList unknown.parent.label ++ " does not belong to this arena"

namespace Arena

variable {α : Type}

/-- The arena without nodes. -/
def empty : Arena α :=
  ⟨#[]⟩

/-- The number of nodes. -/
def size (arena : Arena α) : Nat :=
  arena.entries.size

/-- Whether there are no nodes. -/
def isEmpty (arena : Arena α) : Bool :=
  arena.entries.isEmpty

/-- The data of a node. -/
def get? (arena : Arena α) (node : NodeId) : Option α :=
  arena.entries[node.index]?.map (·.data)

/-- The parent of a node. -/
def parent (arena : Arena α) (node : NodeId) : Option NodeId :=
  arena.entries[node.index]?.bind (·.parent)

/-- The children of a node in the order of their creation. -/
def children (arena : Arena α) (node : NodeId) : List NodeId :=
  (arena.entries[node.index]?.map (·.children)).getD []

/-- The arena as a tree to walk. -/
def toTree (arena : Arena α) : Tree NodeId where
  parent := arena.parent
  children := arena.children

/-- The identity of the node that is made next. -/
def next (arena : Arena α) : NodeId :=
  ⟨arena.size⟩

/-- Add a node without a parent. -/
def addRoot (arena : Arena α) (data : α) : NodeId × Arena α :=
  (arena.next, ⟨arena.entries.push ⟨data, none, []⟩⟩)

/-- Add a node as the last child of a node that exists. -/
def appendChild (arena : Arena α) (parent : NodeId) (data : α) :
    Except UnknownParent (NodeId × Arena α) :=
  if parent.index < arena.size then
    let child := arena.next
    .ok (child,
      ⟨(arena.entries.push ⟨data, some parent, []⟩).modify parent.index
        fun entry => { entry with children := entry.children ++ [child] }⟩)
  else
    .error ⟨parent⟩

/-- A child is refused exactly where its parent is no node. -/
theorem appendChild_eq_error_iff
    {arena : Arena α} {parent : NodeId} {data : α} {unknown : UnknownParent} :
    arena.appendChild parent data = .error unknown ↔
      arena.size ≤ parent.index ∧ unknown = ⟨parent⟩ := by
  unfold appendChild
  by_cases known : parent.index < arena.size
  · simp [known, Nat.not_le.mpr known]
  · simp [known, Nat.le_of_not_lt known, eq_comm]

end Arena

/-- One request to make a node. -/
inductive Creation (α : Type) where
  | root (data : α)
  | child (parent : NodeId) (data : α)
  deriving Repr, DecidableEq

namespace Arena

variable {α : Type}

/-- Make one node; without its parent nothing changes. -/
def create (arena : Arena α) :
    Creation α → Except UnknownParent NodeId × Arena α
  | .root data =>
      (.ok (arena.addRoot data).1, (arena.addRoot data).2)
  | .child parent data =>
      match arena.appendChild parent data with
      | .ok (node, grown) =>
          (.ok node, grown)
      | .error unknown =>
          (.error unknown, arena)

/-- The arena after a sequence of requests, and the answer to each. -/
def createAll (arena : Arena α) :
    List (Creation α) → List (Except UnknownParent NodeId) × Arena α
  | [] =>
      ([], arena)
  | creation :: rest =>
      let (answer, grown) := arena.create creation
      let (answers, final) := grown.createAll rest
      (answer :: answers, final)

/-- The texts of a list, separated by commas, in brackets. -/
def bracketed (texts : List (List Char)) : List Char :=
  '[' :: ((texts.intersperse [',', ' ']).flatten ++ [']'])

/-- The text of a parent that may be missing. -/
def parentText : Option NodeId → List Char
  | none => "None".toList
  | some parent => "Some(".toList ++ parent.label ++ [')']

/-- The text of a node with all that is stored for it. -/
def entryText (entry : ArenaEntry String) : List Char :=
  "NodeEntry \x7b data: ".toList ++ Text.literal entry.data.toList ++
    ", parent: ".toList ++ parentText entry.parent ++
    ", children: ".toList ++ bracketed (entry.children.map NodeId.label) ++
      " \x7d".toList

/-- The text of an arena with all that is stored in it. -/
def text (arena : Arena String) : List Char :=
  "NodeArena \x7b nodes: ".toList ++
    bracketed (arena.entries.toList.map entryText) ++ " \x7d".toList

end Arena

end SheetLint
