import SheetLint.Monitoring.Environment
import SheetLint.Monitoring.Filter
import SheetLint.Monitoring.Line
import SheetLint.Monitoring.Sink

namespace SheetLint.Monitoring

/-!
# Monitoring sessions

A session is what one run of a program knows about its monitoring.  Setting it
up leaves a guard behind; with modes to log to, a tracer is built, its
subscriber is installed, and the guard keeps the writers of the tracer alive.  A
subscriber is installed once and for all, a guard may be released, and a lock
that was poisoned refuses every set-up from then on.
-/

/--
A tracer, told from others by its number, with its modes and the sinks opened
for them.
-/
structure Tracer where
  number : Nat
  modes : List Mode
  sinks : List Sink
  deriving Repr, DecidableEq

/-- The guard of a set-up monitoring; without modes there is no tracer in it. -/
structure Guard where
  tracer : Option Tracer
  deriving Repr, DecidableEq

/-- Why a set-up failed. -/
inductive SetUpFailure where
  | poisoned
  | unknownMode (unknown : UnknownMode)
  | noSink (failure : SinkFailure)
  | alreadySubscribed
  deriving Repr, DecidableEq

/-- The message about a failed set-up. -/
def SetUpFailure.message : SetUpFailure → String
  | .poisoned => "Monitoring guard is poisoned"
  | .unknownMode unknown => unknown.message
  | .noSink failure => failure.message
  | .alreadySubscribed =>
      "a global default trace dispatcher has already been set"

/--
What one run knows about its monitoring, and what it has left in directories and
logs.
-/
structure Session where
  filter : Filter
  /-- The files, with the directories that were made among them. -/
  tree : FileTree
  poisoned : Bool
  guard : Option Guard
  /-- The tracer whose subscriber is installed. -/
  subscriber : Option Tracer
  /-- How many tracers were begun. -/
  begun : Nat
  /-- The events that were logged, each with the sink it went to, in order. -/
  logged : List (Sink × Trace.Event)
  deriving Repr, DecidableEq

/-- What a look at the guard shows. -/
inductive GuardState where
  | absent
  | held
  | poisoned
  deriving Repr, DecidableEq

/-- Something that happens to a session. -/
inductive Step where
  | setUp (modes : List Mode)
  | setUpFrom (environment : Environment)
  | release
  | poison
  | report (event : Trace.Event)
  deriving Repr, DecidableEq

namespace Session

/-- A session before anything has happened. -/
def start (filter : Filter) (tree : FileTree) : Session :=
  ⟨filter, tree, false, none, none, 0, []⟩

/-- Whether the guard keeps the writers of a tracer alive. -/
def keepsAlive (session : Session) (tracer : Tracer) : Bool :=
  match session.guard with
  | some ⟨some held⟩ => held.number == tracer.number
  | _ => false

/--
Log an event in every sink of the subscriber, if its writers live and the filter
admits it.
-/
def report (session : Session) (event : Trace.Event) : Session :=
  match session.subscriber with
  | none =>
      session
  | some tracer =>
      if session.keepsAlive tracer && session.filter.admits event then
        { session with logged := session.logged ++ tracer.sinks.map (·, event) }
      else
        session

/-- Logging changes nothing but the log. -/
theorem report_eq (session : Session) (event : Trace.Event) :
    session.report event =
      { session with logged := (session.report event).logged } := by
  unfold report
  split
  · rfl
  · split <;> rfl

/-- Log a list of events. -/
def reportAll (session : Session) (events : List Trace.Event) : Session :=
  events.foldl report session

/-- Build a tracer for modes and install its subscriber. -/
def install (session : Session) (modes : List Mode) :
    Except SetUpFailure Unit × Session :=
  let (opened, tree) := openSinks session.tree modes
  let begun := { session with begun := session.begun + 1, tree }
  match opened with
  | .error failure =>
      (.error (.noSink failure), begun)
  | .ok sinks =>
      if session.subscriber.isSome then
        (.error .alreadySubscribed, begun)
      else
        let tracer : Tracer := ⟨session.begun, modes, sinks⟩
        (.ok (),
          { begun with guard := some ⟨some tracer⟩, subscriber := some tracer })

/--
Set monitoring up with the given modes.  A second set-up only leaves a warning.
-/
def setUp (session : Session) (modes : List Mode) :
    Except SetUpFailure Unit × Session :=
  if session.poisoned then
    (.error .poisoned, session)
  else if session.guard.isSome then
    (.ok (), session.report .repeatedSetUp)
  else if modes = [] then
    (.ok (), { session with guard := some ⟨none⟩ })
  else
    session.install modes

/-- Set monitoring up with the modes that the environment asks for. -/
def setUpFrom (session : Session) (environment : Environment) :
    Except SetUpFailure Unit × Session :=
  match environment.readModes with
  | .ok modes => session.setUp modes
  | .error unknown => (.error (.unknownMode unknown), session)

/-- Take the guard out, which ends the writers of its tracer. -/
def release (session : Session) : Session :=
  { session with guard := none }

/-- Poison the lock of the guard. -/
def poison (session : Session) : Session :=
  { session with poisoned := true }

/-- One step, with the outcome of a set-up. -/
def step (session : Session) : Step → Except SetUpFailure Unit × Session
  | .setUp modes => session.setUp modes
  | .setUpFrom environment => session.setUpFrom environment
  | .release => (.ok (), session.release)
  | .poison => (.ok (), session.poison)
  | .report event => (.ok (), session.report event)

/-- The session after a sequence of steps. -/
def run (session : Session) (steps : List Step) : Session :=
  steps.foldl (fun current next => (current.step next).2) session

/-- What a look at the guard shows. -/
def guardState (session : Session) : GuardState :=
  if session.poisoned then .poisoned
  else if session.guard.isSome then .held
  else .absent

/-- The events logged in a sink, in order. -/
def loggedIn (session : Session) (sink : Sink) : List Trace.Event :=
  (session.logged.filter (·.1 == sink)).map (·.2)

/-- The lines on the terminal, all at the given time. -/
def terminalLines (session : Session) (time : List Char) : List (List Char) :=
  Text.lines ((session.loggedIn .terminal).flatMap fun event =>
    styledLine time event ++ ['\n'])

/-- The lines of the files in a directory, all at the given time. -/
def fileLines (session : Session) (place : Place) (time : List Char) :
    List (List Char) :=
  Text.lines
    ((session.loggedIn (.folder place)).flatMap fun event =>
      plainLine time event ++ ['\n'])

end Session

end SheetLint.Monitoring
