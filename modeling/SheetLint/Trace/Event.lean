namespace SheetLint.Trace

/-!
# Events

Helpers tell about their decisions by events.  An event is a fact of the domain;
its level, its target, its message and its fields are how a log shows it.
-/

/-- How much an event matters. -/
inductive Level where
  | trace
  | debug
  | info
  | warn
  | error
  deriving Repr, DecidableEq

namespace Level

/-- The place of a level in the order of weight. -/
def weight : Level → Nat
  | .trace => 0
  | .debug => 1
  | .info => 2
  | .warn => 3
  | .error => 4

/-- The name of a level in a log. -/
def name : Level → String
  | .trace => "TRACE"
  | .debug => "DEBUG"
  | .info => "INFO"
  | .warn => "WARN"
  | .error => "ERROR"

end Level

/-- Something that a helper or the monitoring reports. -/
inductive Event where
  /--
  The colour `hex` was shortened to `short`, which is not lower-cased yet.
  -/
  | condensed (hex short : String)
  /-- The parent of `node` does not list it. -/
  | misplaced (node parent : String)
  /-- `node` stands at `index` among the children of its parent. -/
  | located (node : String) (index : Nat)
  /-- Monitoring was set up while it was set up already. -/
  | repeatedSetUp
  deriving Repr, DecidableEq

namespace Event

/-- The level of an event. -/
def level : Event → Level
  | .condensed _ _ => .trace
  | .misplaced _ _ => .debug
  | .located _ _ => .trace
  | .repeatedSetUp => .warn

/-- The part of the program that an event comes from. -/
def target : Event → String
  | .condensed _ _ => "scss_lint_utils::color"
  | .misplaced _ _ => "scss_lint_utils::tree"
  | .located _ _ => "scss_lint_utils::tree"
  | .repeatedSetUp => "scss_lint_monitoring"

/-- The message of an event. -/
def message : Event → String
  | .condensed _ _ => "Condensed hex color"
  | .misplaced _ _ => "Node is missing from its parent's children"
  | .located _ _ => "Found node among its siblings"
  | .repeatedSetUp => "Monitoring is getting set-up twice, this will no-op"

/-- The named values of an event, in order. -/
def fields : Event → List (String × String)
  | .condensed hex short => [("hex", hex), ("short", short)]
  | .misplaced node parent => [("node", node), ("parent", parent)]
  | .located node index => [("node", node), ("index", Nat.repr index)]
  | .repeatedSetUp => []

end Event

end SheetLint.Trace

namespace SheetLint

/-- A result together with the events on the way to it, in order. -/
structure Traced (α : Type) where
  value : α
  events : List Trace.Event
  deriving Repr, DecidableEq

namespace Traced

/-- A result without events. -/
def silent {α : Type} (value : α) : Traced α :=
  ⟨value, []⟩

/-- Change a result and keep its events. -/
def map {α β : Type} (change : α → β) (traced : Traced α) : Traced β :=
  ⟨change traced.value, traced.events⟩

/-- The results of a list of steps, with the events of all of them in order. -/
def collect {α : Type} (steps : List (Traced α)) : Traced (List α) :=
  ⟨steps.map (·.value), steps.flatMap (·.events)⟩

/-- The results of a list of steps stand in the order of the steps. -/
@[simp] theorem value_collect {α : Type} (steps : List (Traced α)) :
    (collect steps).value = steps.map (·.value) :=
  rfl

/-- The events of a list of steps follow each other. -/
@[simp] theorem events_collect {α : Type} (steps : List (Traced α)) :
    (collect steps).events = steps.flatMap (·.events) :=
  rfl

end Traced

end SheetLint
