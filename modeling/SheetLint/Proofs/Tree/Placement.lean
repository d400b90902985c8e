import SheetLint.Tree.Basic

namespace SheetLint.Tree

/-!
# What stands before a node of any tree

Nothing makes the two questions to a tree agree.  Parents may lead in circles,
and a list of children may repeat a node, hold the child of another node or
leave a child out.  The search for what stands before a node has an answer in
all these trees.  The answer and the event that tells it depend on the parent of
the node and on the first place of the node in the list of that parent; the
rules below say how, and they are all that the search does.
-/

variable {ι : Type}

/-- `index` is the first place of `node` in `nodes`. -/
def FirstAt
    (nodes : List ι)
    (node : ι)
    (index : Nat) : Prop :=
  nodes[index]? = some node ∧
    ∀ earlier < index, nodes[earlier]? ≠ some node

/-- In front of a place that is not the first there is another node. -/
theorem FirstAt.exists_in_front
    {nodes : List ι}
    {node : ι}
    {before : Nat}
    (place : FirstAt nodes node (before + 1)) :
    ∃ sibling, nodes[before]? = some sibling ∧ sibling ≠ node := by
  have inList : before + 1 < nodes.length :=
    (List.getElem?_eq_some_iff.mp place.1).1
  have inFront : nodes[before]? = some nodes[before] :=
    List.getElem?_eq_getElem (Nat.lt_of_succ_lt inList)
  refine ⟨nodes[before], inFront, ?_⟩
  intro same
  exact place.2 before (Nat.lt_succ_self before) (same ▸ inFront)

theorem findIdx?_eq_some_iff_firstAt
    [DecidableEq ι]
    {nodes : List ι}
    {node : ι}
    {index : Nat} :
    nodes.findIdx? (· == node) = some index ↔
      FirstAt nodes node index := by
  rw [List.findIdx?_eq_some_iff_getElem, FirstAt]
  constructor
  · rintro ⟨inList, found, notEarlier⟩
    refine ⟨List.getElem?_eq_some_iff.mpr ⟨inList, eq_of_beq found⟩, ?_⟩
    intro earlier isEarlier same
    obtain ⟨_, same⟩ := List.getElem?_eq_some_iff.mp same
    exact notEarlier earlier isEarlier (beq_iff_eq.mpr same)
  · rintro ⟨found, notEarlier⟩
    obtain ⟨inList, found⟩ := List.getElem?_eq_some_iff.mp found
    refine ⟨inList, beq_iff_eq.mpr found, ?_⟩
    intro earlier isEarlier same
    apply notEarlier earlier isEarlier
    exact List.getElem?_eq_some_iff.mpr
      ⟨Nat.lt_trans isEarlier inList, eq_of_beq same⟩

theorem findIdx?_eq_none_iff_not_mem
    [DecidableEq ι]
    {nodes : List ι}
    {node : ι} :
    nodes.findIdx? (· == node) = none ↔ node ∉ nodes := by
  rw [List.findIdx?_eq_none_iff]
  constructor
  · intro differs listed
    exact absurd (differs node listed) (by simp)
  · intro unlisted sibling isSibling
    exact beq_eq_false_iff_ne.mpr fun same => unlisted (same ▸ isSibling)

variable [NodeLabel ι]

/-- The rules for what stands before a node and for the event that tells it. -/
inductive Answers (tree : Tree ι) :
    Option ι → Traced (Except Misplaced (Option ι)) → Prop where
  | noNode :
      Answers tree none (.silent (.ok none))
  | top
      {node : ι}
      (isTop : tree.parent node = none) :
      Answers tree (some node) (.silent (.ok none))
  | unlisted
      {node parent : ι}
      (isChild : tree.parent node = some parent)
      (unlisted : node ∉ tree.children parent) :
      Answers tree (some node)
        ⟨.error (.of node parent),
          [.misplaced (Misplaced.of node parent).node
            (Misplaced.of node parent).parent]⟩
  | firstChild
      {node parent : ι}
      (isChild : tree.parent node = some parent)
      (place : FirstAt (tree.children parent) node 0) :
      Answers tree (some node)
        ⟨.ok (some parent), [.located (String.ofList (NodeLabel.label node)) 0]⟩
  | laterChild
      {node parent sibling : ι}
      {before : Nat}
      (isChild : tree.parent node = some parent)
      (place : FirstAt (tree.children parent) node (before + 1))
      (inFront : (tree.children parent)[before]? = some sibling) :
      Answers tree (some node)
        ⟨.ok (some sibling),
          [.located (String.ofList (NodeLabel.label node)) (before + 1)]⟩

variable [DecidableEq ι]

/-- The search keeps to the rules, in whatever tree. -/
theorem answers_previous
    (tree : Tree ι)
    (query : Option ι) :
    tree.Answers query (tree.previous query) := by
  cases query with
  | none =>
      exact .noNode
  | some node =>
      cases isChild : tree.parent node with
      | none =>
          simp only [previous, isChild]
          exact .top isChild
      | some parent =>
          cases position : (tree.children parent).findIdx? (· == node) with
          | none =>
              simp only [previous, isChild, position]
              exact .unlisted isChild (findIdx?_eq_none_iff_not_mem.mp position)
          | some index =>
              have place := findIdx?_eq_some_iff_firstAt.mp position
              cases index with
              | zero =>
                  simp only [previous, isChild, position]
                  exact .firstChild isChild place
              | succ before =>
                  obtain ⟨sibling, inFront, -⟩ := place.exists_in_front
                  simp only [previous, isChild, position, inFront]
                  exact .laterChild isChild place inFront

/--
The rules leave no choice: what they allow is what the search answers and tells.
-/
theorem previous_eq_iff
    {tree : Tree ι}
    {query : Option ι}
    {answer : Traced (Except Misplaced (Option ι))} :
    tree.previous query = answer ↔ tree.Answers query answer := by
  constructor
  · rintro rfl
    exact answers_previous tree query
  · intro rule
    cases rule with
    | noNode =>
        rfl
    | top isTop =>
        simp only [previous, isTop]
    | unlisted isChild unlisted =>
        have position := findIdx?_eq_none_iff_not_mem.mpr unlisted
        simp only [previous, isChild, position]
        rfl
    | firstChild isChild place =>
        have position := findIdx?_eq_some_iff_firstAt.mpr place
        simp only [previous, isChild, position]
    | laterChild isChild place inFront =>
        have position := findIdx?_eq_some_iff_firstAt.mpr place
        simp only [previous, isChild, position, inFront]

/-- An error says that the parent of a node does not list it. -/
theorem previous_eq_error_iff
    {tree : Tree ι}
    {query : Option ι}
    {report : Misplaced}
    {events : List Trace.Event} :
    tree.previous query = ⟨.error report, events⟩ ↔
      ∃ node parent,
        query = some node ∧
          tree.parent node = some parent ∧
          node ∉ tree.children parent ∧
          report = .of node parent ∧
          events = [.misplaced report.node report.parent] := by
  rw [previous_eq_iff]
  constructor
  · intro rule
    cases rule with
    | unlisted isChild unlisted =>
        exact ⟨_, _, rfl, isChild, unlisted, rfl, rfl⟩
  · rintro ⟨node, parent, rfl, isChild, unlisted, rfl, rfl⟩
    exact .unlisted isChild unlisted

/--
Nothing stands before a node without a parent, and nothing is told about it.
-/
theorem previous_eq_nothing_iff
    {tree : Tree ι}
    {query : Option ι}
    {events : List Trace.Event} :
    tree.previous query = ⟨.ok none, events⟩ ↔
      query.bind tree.parent = none ∧ events = [] := by
  rw [previous_eq_iff]
  constructor
  · intro rule
    cases rule with
    | noNode =>
        exact ⟨rfl, rfl⟩
    | top isTop =>
        exact ⟨isTop, rfl⟩
  · rintro ⟨noParent, rfl⟩
    cases query with
    | none =>
        exact .noNode
    | some node =>
        exact .top noParent

/--
The parent stands before a node in the first place, and else the sibling in
front of it.
-/
theorem previous_eq_node_iff
    {tree : Tree ι}
    {query : Option ι}
    {before : ι}
    {events : List Trace.Event} :
    tree.previous query = ⟨.ok (some before), events⟩ ↔
      ∃ node parent index,
        query = some node ∧
          tree.parent node = some parent ∧
          FirstAt (tree.children parent) node index ∧
          events = [.located (String.ofList (NodeLabel.label node)) index] ∧
          (index = 0 ∧ before = parent ∨
            0 < index ∧
              (tree.children parent)[index - 1]? = some before ∧
              before ≠ node) := by
  rw [previous_eq_iff]
  constructor
  · intro rule
    cases rule with
    | firstChild isChild place =>
        exact ⟨_, _, 0, rfl, isChild, place, rfl, .inl ⟨rfl, rfl⟩⟩
    | laterChild isChild place inFront =>
        obtain ⟨sibling, alsoInFront, differs⟩ := place.exists_in_front
        obtain rfl : before = sibling :=
          Option.some.inj (inFront.symm.trans alsoInFront)
        exact ⟨_, _, _, rfl, isChild, place, rfl,
          .inr ⟨Nat.succ_pos _, inFront, differs⟩⟩
  · rintro ⟨node, parent, index, rfl, isChild, place, rfl, isFirst | isLater⟩
    · obtain ⟨rfl, rfl⟩ := isFirst
      exact .firstChild isChild place
    · obtain ⟨notFirst, inFront, -⟩ := isLater
      cases index with
      | zero =>
          exact absurd notFirst (Nat.lt_irrefl 0)
      | succ front =>
          exact .laterChild isChild place inFront

/-- The levels at which an answer is told. -/
def levelsTold : Except Misplaced (Option ι) → List Trace.Level
  | .error _ => [.debug]
  | .ok none => []
  | .ok (some _) => [.trace]

/--
No node of a tree is reported exactly if every node with a parent is listed by
it.
-/
theorem never_misplaced_iff
    {tree : Tree ι} :
    (∀ node report, (tree.previous (some node)).value ≠ .error report) ↔
      ∀ node parent,
        tree.parent node = some parent →
        node ∈ tree.children parent := by
  constructor
  · intro neverReported node parent isChild
    apply Classical.byContradiction
    intro unlisted
    have reported := previous_eq_iff.mpr (Answers.unlisted isChild unlisted)
    exact neverReported node _ (congrArg Traced.value reported)
  · intro allListed node report reported
    cases answer : tree.previous (some node) with
    | mk value events =>
        obtain rfl : value = .error report := by
          rwa [answer] at reported
        obtain ⟨_, parent, ⟨⟩, isChild, unlisted, -⟩ :=
          previous_eq_error_iff.mp answer
        exact unlisted (allListed node parent isChild)

/--
In any tree the search for what stands before a node has one of three results.
It is an error, told by one event with both names, exactly if the node has a
parent that does not list it.  It is nothing, and nothing is told, exactly if
there is no node or the node has no parent.  In all other cases one event
carries the first place of the node among the children of its parent, and the
result is the parent at the first place and the child in front, which exists and
is another node, at any later one.  No node of the tree gets an error exactly if
every node with a parent is listed by it.
-/
theorem previous_of_any_tree (tree : Tree ι) :
    (∀ query report events,
      tree.previous query = ⟨.error report, events⟩ ↔
        ∃ node parent,
          query = some node ∧
            tree.parent node = some parent ∧
            node ∉ tree.children parent ∧
            report = .of node parent ∧
            events = [.misplaced report.node report.parent]) ∧
      (∀ query events,
        tree.previous query = ⟨.ok none, events⟩ ↔
          query.bind tree.parent = none ∧ events = []) ∧
      (∀ query before events,
        tree.previous query = ⟨.ok (some before), events⟩ ↔
          ∃ node parent index,
            query = some node ∧
              tree.parent node = some parent ∧
              FirstAt (tree.children parent) node index ∧
              events = [.located (String.ofList (NodeLabel.label node)) index] ∧
              (index = 0 ∧ before = parent ∨
                0 < index ∧
                  (tree.children parent)[index - 1]? = some before ∧
                  before ≠ node)) ∧
      (∀ query,
        (tree.previous query).events.map (·.level) =
          levelsTold (tree.previous query).value) ∧
      ((∀ node report, (tree.previous (some node)).value ≠ .error report) ↔
        ∀ node parent,
          tree.parent node = some parent →
          node ∈ tree.children parent) := by
  refine ⟨fun _ _ _ => previous_eq_error_iff,
    fun _ _ => previous_eq_nothing_iff,
    fun _ _ _ => previous_eq_node_iff, ?_, never_misplaced_iff⟩
  intro query
  have rule := answers_previous tree query
  generalize tree.previous query = answer at rule ⊢
  cases rule <;>
    rfl

end SheetLint.Tree
