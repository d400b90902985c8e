import Mathlib.Data.List.Induction
import SheetLint.Proofs.Tree.Growth

namespace SheetLint.Arena

/-!
# An arena is the history of its granted requests

Requests are answered one after the other.  The granted ones, each with the node
that it made, form a log, and what an arena stores can be read off this log: the
nodes are numbered by their places in it, and the children of a node are those
that were asked for with it as their parent, in the order of the log.  The
refused requests leave no trace, so that the log alone builds the same arena.
-/

variable {α : Type}

/-- Requests that follow each other are made one part after the other. -/
theorem createAll_append
    (arena : Arena α)
    (first second : List (Creation α)) :
    arena.createAll (first ++ second) =
      ((arena.createAll first).1 ++
          ((arena.createAll first).2.createAll second).1,
        ((arena.createAll first).2.createAll second).2) := by
  induction first generalizing arena with
  | nil =>
      rfl
  | cons creation rest inductionHypothesis =>
      simp only [List.cons_append, createAll, inductionHypothesis]

/-- Every request is answered. -/
theorem length_createAll
    (arena : Arena α)
    (creations : List (Creation α)) :
    (arena.createAll creations).1.length = creations.length := by
  induction creations generalizing arena with
  | nil =>
      rfl
  | cons creation rest inductionHypothesis =>
      simp only [createAll, List.length_cons, inductionHypothesis]

/--
A request is answered by the arena that the requests in front of it have built.
-/
theorem answer_of_split
    (arena : Arena α)
    (before : List (Creation α))
    (creation : Creation α)
    (later : List (Creation α)) :
    (arena.createAll (before ++ creation :: later)).1[before.length]? =
      some ((arena.createAll before).2.create creation).1 := by
  rw [createAll_append, ← length_createAll arena before,
    List.getElem?_append_right (Nat.le_refl _), Nat.sub_self]
  rfl

/-- A request is refused exactly if its parent is no node of the arena. -/
theorem create_eq_error_iff
    {arena : Arena α}
    {creation : Creation α}
    {unknown : UnknownParent} :
    (arena.create creation).1 = .error unknown ↔
      creation.parent? = some unknown.parent ∧
        arena.size ≤ unknown.parent.index := by
  cases creation with
  | root data =>
      simp [create, Creation.parent?]
  | child parent data =>
      have sameAnswer :
          (arena.create (.child parent data)).1 = .error unknown ↔
            arena.appendChild parent data = .error unknown := by
        simp only [create]
        cases arena.appendChild parent data <;>
          simp
      rw [sameAnswer, appendChild_eq_error_iff]
      constructor
      · rintro ⟨isUnknown, rfl⟩
        exact ⟨rfl, isUnknown⟩
      · rintro ⟨named, isUnknown⟩
        obtain rfl : parent = unknown.parent :=
          Option.some.inj named
        exact ⟨isUnknown, rfl⟩

theorem create_of_error
    {arena : Arena α}
    {creation : Creation α}
    {unknown : UnknownParent}
    (refused : (arena.create creation).1 = .error unknown) :
    (arena.create creation).2 = arena := by
  by_cases fits : creation.Fits arena
  · rw [create_of_fits fits] at refused
    contradiction
  · obtain ⟨_, _, unchanged⟩ := create_of_not_fits fits
    rw [unchanged]

/--
The granted requests of a sequence in order, each with the node that it made.
-/
def granted (creations : List (Creation α)) : List (Creation α × NodeId) :=
  (creations.zip (empty.createAll creations).1).filterMap
    fun (creation, answer) => answer.toOption.map (creation, ·)

/-- One more request is logged if it is granted. -/
theorem granted_concat
    (before : List (Creation α))
    (creation : Creation α) :
    granted (before ++ [creation]) =
      granted before ++
        ((((empty.createAll before).2.create creation).1.toOption).map
          (creation, ·)).toList := by
  have aligned : before.length = (empty.createAll before).1.length :=
    (length_createAll empty before).symm
  rw [granted, createAll_append, List.zip_append aligned, List.filterMap_append,
    ← granted]
  cases answer : ((empty.createAll before).2.create creation).1.toOption <;>
    simp [createAll, answer]

/--
An arena holds the nodes of a log and nothing else.  Their identities are their
places in the log, and what the log was asked for is what is stored.
-/
structure Records (arena : Arena α) (log : List (Creation α × NodeId)) :
    Prop where
  size_eq :
    arena.size = log.length
  numbered :
    log.map (·.2) = (List.range log.length).map NodeId.mk
  get?_eq :
    ∀ index,
      arena.get? ⟨index⟩ = log[index]?.map (·.1.data)
  parent_eq :
    ∀ index,
      arena.parent ⟨index⟩ = log[index]?.bind (·.1.parent?)
  children_eq :
    ∀ parent,
      arena.children parent = (log.filter (·.1.parent? = some parent)).map (·.2)
  replayed :
    empty.createAll (log.map (·.1)) = (log.map (.ok ·.2), arena)

namespace Records

theorem empty : (empty : Arena α).Records [] where
  size_eq := rfl
  numbered := rfl
  get?_eq index := by
    simp [get?, Arena.empty]
  parent_eq index := by
    simp [Arena.parent, Arena.empty]
  children_eq parent := by
    simp [children, Arena.empty]
  replayed := rfl

/-- The next node has the next place in the log. -/
theorem getElem?_concat
    {arena : Arena α}
    {log : List (Creation α × NodeId)}
    (records : arena.Records log)
    (entry : Creation α × NodeId)
    (index : Nat) :
    (log ++ [entry])[index]? =
      if (⟨index⟩ : NodeId) = arena.next then some entry else log[index]? := by
  simp only [next, NodeId.mk.injEq, records.size_eq]
  by_cases isNext : index = log.length
  · simp [isNext]
  · rw [if_neg isNext]
    by_cases isOld : index < log.length
    · rw [List.getElem?_append_left isOld]
    · have isBeyond : log.length < index := by
        omega
      have isBeyondBoth : (log ++ [entry]).length ≤ index := by
        rw [List.length_append, List.length_singleton]
        exact isBeyond
      rw [List.getElem?_eq_none isBeyondBoth,
        List.getElem?_eq_none (Nat.le_of_lt isBeyond)]

/-- A request that fits is logged with the next node. -/
theorem grow
    {arena : Arena α}
    {log : List (Creation α × NodeId)}
    {creation : Creation α}
    (fits : creation.Fits arena)
    (records : arena.Records log) :
    (arena.grow creation).Records (log ++ [(creation, arena.next)]) where
  size_eq := by
    simp [records.size_eq]
  numbered := by
    simp [records.numbered, List.range_succ, next, records.size_eq]
  get?_eq := by
    intro index
    rw [get?_grow fits, records.get?_eq, records.getElem?_concat]
    split <;> rfl
  parent_eq := by
    intro index
    rw [parent_grow fits, records.parent_eq, records.getElem?_concat]
    split <;> rfl
  children_eq := by
    intro parent
    rw [children_grow fits, records.children_eq, List.filter_append,
      List.map_append]
    by_cases named : creation.parent? = some parent <;>
      simp [named]
  replayed := by
    rw [List.map_append, createAll_append, records.replayed]
    simp [Arena.createAll, create_of_fits fits]

/--
The granted requests are a log of the arena that all requests together have
built.
-/
theorem createAll (creations : List (Creation α)) :
    (Arena.empty.createAll creations).2.Records (granted creations) := by
  induction creations using List.reverseRecOn with
  | nil =>
      exact empty
  | append_singleton before creation inductionHypothesis =>
      rw [granted_concat, createAll_append]
      by_cases fits : creation.Fits (Arena.empty.createAll before).2
      · simpa [Arena.createAll, create_of_fits fits, Except.toOption] using
          inductionHypothesis.grow fits
      · obtain ⟨_, _, refused⟩ := create_of_not_fits fits
        simpa [Arena.createAll, refused, Except.toOption] using
          inductionHypothesis

end Records

/--
Each request of a sequence is refused exactly if it names a parent whose
identity is not below the number of nodes that were made before, and then
nothing changes.  The arena in the end is the one that the log of the granted
requests describes and that they alone build.
-/
theorem createAll_is_history (creations : List (Creation α)) :
    (empty.createAll creations).2.Records (granted creations) ∧
      (empty.createAll creations).1.length = creations.length ∧
      ∀ before creation later,
        creations = before ++ creation :: later →
        ∃ answer,
          (empty.createAll creations).1[before.length]? = some answer ∧
            (∀ unknown,
              answer = .error unknown ↔
                creation.parent? = some unknown.parent ∧
                  (granted before).length ≤ unknown.parent.index) ∧
            (∀ unknown,
              answer = .error unknown →
              (empty.createAll (before ++ [creation])).2 =
                (empty.createAll before).2) := by
  refine ⟨Records.createAll creations, length_createAll empty creations, ?_⟩
  rintro before creation later rfl
  refine ⟨_, answer_of_split empty before creation later, ?_, ?_⟩
  · intro unknown
    rw [create_eq_error_iff, (Records.createAll before).size_eq]
  · intro unknown refused
    rw [createAll_append]
    exact create_of_error refused

end SheetLint.Arena
