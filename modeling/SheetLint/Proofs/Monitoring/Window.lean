import Mathlib.Data.List.Nodup
import SheetLint.Proofs.Monitoring.SetUp
import SheetLint.Proofs.Text.Pieces
import SheetLint.Value.Color

namespace SheetLint.Monitoring

/-!
# The window of a log

A session logs in one stretch of its run: from the step that builds a tracer up
to the next release or the end.  Before there is no subscriber, and behind it no
guard keeps the writers alive.  Within it each event that is emitted and
admitted goes to every sink of the tracer, so that all sinks show the same
events, in order and without a gap.
-/

/-- The event that a step logs, if it does nothing else. -/
def Step.event? : Step → Option Trace.Event
  | .report event => some event
  | .setUp _ | .setUpFrom _ | .release | .poison => none

/-- The events that a step emits, whether or not they are logged. -/
def Change.emitted (change : Change) : List Trace.Event :=
  match change.step.request?, change.outcome with
  | some _, .ok () =>
      if change.before.guard.isSome then [.repeatedSetUp] else []
  | some _, .error _ => []
  | none, _ => change.step.event?.toList

/--
What is observed between the step that builds a tracer and the next release.
-/
def window (observed : List Change) : List Change :=
  ((observed.dropWhile (·.built?.isNone)).drop 1).takeWhile (·.step ≠ .release)

/-- What events leave in a log with the given sinks. -/
def entries (sinks : List Sink) (events : List Trace.Event) :
    List (Sink × Trace.Event) :=
  events.flatMap fun event => sinks.map (·, event)

@[simp] theorem entries_nil (sinks : List Sink) : entries sinks [] = [] :=
  rfl

@[simp] theorem entries_of_no_sinks (events : List Trace.Event) :
    entries [] events = [] := by
  simp [entries]

@[simp] theorem entries_append
    (sinks : List Sink)
    (first second : List Trace.Event) :
    entries sinks (first ++ second) =
      entries sinks first ++ entries sinks second :=
  List.flatMap_append

/-- The line of an event in a sink. -/
def Sink.line (time : List Char) : Sink → Trace.Event → List Char
  | .terminal => styledLine time
  | .folder _ => plainLine time

namespace Session

/-- The sinks in which a session logs at present. -/
def liveSinks (session : Session) : List Sink :=
  match session.subscriber with
  | some tracer => if session.keepsAlive tracer then tracer.sinks else []
  | none => []

/-- The lines that a sink shows, all at the given time. -/
def linesIn (session : Session) (sink : Sink) (time : List Char) :
    List (List Char) :=
  match sink with
  | .terminal => session.terminalLines time
  | .folder place => session.fileLines place time

/--
A sink shows events if these were logged in it, in this order and each just
once.  Then its lines are those of the events, and each event has one line
unless a line feed stands in it.
-/
structure Shows (session : Session) (sink : Sink) (events : List Trace.Event) :
    Prop where
  loggedIn_eq :
    session.loggedIn sink = events
  linesIn_eq :
    ∀ time,
      session.linesIn sink time =
        events.flatMap fun event => Text.lines (sink.line time event ++ ['\n'])
  linesIn_eq_map :
    ∀ time,
      (∀ event ∈ events, '\n' ∉ sink.line time event) →
      session.linesIn sink time =
        events.map fun event => Text.withoutReturn (sink.line time event)

/-! ## Sinks that are alive -/

theorem liveSinks_of_free
    {session : Session}
    (free : session.subscriber = none) :
    session.liveSinks = [] := by
  rw [liveSinks, free]

theorem liveSinks_of_held
    {session : Session}
    {tracer : Tracer}
    (subscribed : session.subscriber = some tracer)
    (held : session.guard = some ⟨some tracer⟩) :
    session.liveSinks = tracer.sinks := by
  have alive : session.keepsAlive tracer = true := by
    simp [keepsAlive, held]
  simp only [liveSinks, subscribed, alive, if_true]

theorem liveSinks_of_not_held
    {session : Session}
    (notHeld : ∀ tracer, session.guard ≠ some ⟨some tracer⟩) :
    session.liveSinks = [] := by
  unfold liveSinks
  split
  · next tracer _ =>
      have dead : session.keepsAlive tracer = false := by
        unfold keepsAlive
        split
        · next held isHeld =>
            exact absurd isHeld (notHeld held)
        · rfl
      rw [dead, if_neg Bool.false_ne_true]
  · rfl

/-! ## One step -/

theorem logged_report
    (session : Session)
    (event : Trace.Event) :
    (session.report event).logged =
      session.logged ++
        entries session.liveSinks ([event].filter session.filter.admits) := by
  unfold report liveSinks
  cases subscribed : session.subscriber with
  | none =>
      simp [entries]
  | some tracer =>
      cases alive : session.keepsAlive tracer <;>
        cases admitted : session.filter.admits event <;>
        simp [entries, alive, admitted]

@[simp] theorem filter_report
    (session : Session)
    (event : Trace.Event) :
    (session.report event).filter = session.filter := by
  rw [report_eq]

section

variable {session after : Session} {step : Step}
  {outcome : Except SetUpFailure Unit}

theorem Moves.filter_eq (moves : session.Moves step outcome after) :
    after.filter = session.filter := by
  cases moves <;> simp [release, poison]

/--
A step logs what it emits and the filter admits, in the sinks that are alive
before it.
-/
theorem Moves.logged_eq (moves : session.Moves step outcome after) :
    after.logged =
      session.logged ++
        entries session.liveSinks
          ((Change.emitted ⟨session, step, outcome, after⟩).filter
            session.filter.admits) := by
  cases moves with
  | unread asked | refused asked | closed asked | taken asked =>
      simp [Change.emitted, asked, entries]
  | silent asked sane free | installed asked sane free =>
      simp [Change.emitted, asked, free, entries]
  | released | locked =>
      simp [Change.emitted, Step.request?, Step.event?, entries, release,
        poison]
  | repeated asked sane held =>
      simp only [Change.emitted, asked, held]
      exact logged_report session .repeatedSetUp
  | reported event =>
      exact logged_report session event

/-- Only a release takes a tracer out of the guard. -/
theorem Moves.stays_held
    (moves : session.Moves step outcome after)
    {tracer : Tracer}
    (held : session.guard = some ⟨some tracer⟩)
    (notReleased : step ≠ .release) :
    after.guard = some ⟨some tracer⟩ := by
  cases moves with
  | released =>
      contradiction
  | repeated =>
      exact (guard_report session _).trans held
  | reported event =>
      exact (guard_report session event).trans held
  | unread | refused | locked =>
      exact held
  | _ =>
      simp_all

end

/-! ## The three stretches of a run -/

/-- Without a tracer in the guard nothing is logged any more. -/
theorem logged_run_of_not_held
    (session : Session)
    {tracer : Tracer}
    (subscribed : session.subscriber = some tracer)
    (notHeld : ∀ held, session.guard ≠ some ⟨some held⟩)
    (steps : List Step) :
    (session.run steps).logged = session.logged := by
  induction steps generalizing session with
  | nil =>
      rfl
  | cons step rest inductionHypothesis =>
      have moves := session.step_moves step
      obtain ⟨sameSubscriber, heldBefore⟩ :=
        moves.of_built?_eq_none (built?_of_subscribed subscribed step)
      have logged := moves.logged_eq
      rw [liveSinks_of_not_held notHeld, entries_of_no_sinks, List.append_nil]
        at logged
      have later :=
        inductionHypothesis _ (sameSubscriber.trans subscribed)
          fun held isHeld => notHeld held (heldBefore held isHeld)
      exact later.trans logged

/-- While the guard holds the tracer, its sinks log up to the next release. -/
theorem logged_run_of_held
    {session : Session}
    {tracer : Tracer}
    (subscribed : session.subscriber = some tracer)
    (held : session.guard = some ⟨some tracer⟩)
    (steps : List Step) :
    (session.run steps).logged =
      session.logged ++
        entries tracer.sinks
          ((((session.history steps).takeWhile (·.step ≠ .release)).flatMap
              Change.emitted).filter session.filter.admits) := by
  induction steps generalizing session with
  | nil =>
      simp [run, history]
  | cons step rest inductionHypothesis =>
      have moves := session.step_moves step
      obtain ⟨sameSubscriber, heldBefore⟩ :=
        moves.of_built?_eq_none (built?_of_subscribed subscribed step)
      have logged := moves.logged_eq
      rw [liveSinks_of_held subscribed held] at logged
      by_cases released : step = .release
      · subst step
        have notHeld (other : Tracer) :
            session.release.guard ≠ some ⟨some other⟩ := by
          simp [release]
        have nothing :
            (session.history (.release :: rest)).takeWhile (·.step ≠ .release) =
              [] :=
          List.takeWhile_cons_of_neg (by simp [observe])
        rw [nothing, List.flatMap_nil, List.filter_nil, entries_nil,
          List.append_nil]
        exact logged_run_of_not_held session.release subscribed notHeld rest
      · have later :=
          inductionHypothesis (sameSubscriber.trans subscribed)
            (moves.stays_held held released)
        rw [moves.filter_eq, logged] at later
        have first :
            (session.history (step :: rest)).takeWhile (·.step ≠ .release) =
              session.observe step ::
                ((session.step step).2.history rest).takeWhile
                  (·.step ≠ .release) :=
          List.takeWhile_cons_of_pos (decide_eq_true released)
        rw [first, List.flatMap_cons, List.filter_append, entries_append,
          ← List.append_assoc]
        exact later

/-- Nothing is logged before a tracer is built. -/
theorem logged_run_of_free
    (session : Session)
    (free : session.subscriber = none)
    (steps : List Step) :
    (session.run steps).logged =
      session.logged ++
        entries ((session.run steps).subscriber.elim [] Tracer.sinks)
          (((window (session.history steps)).flatMap Change.emitted).filter
            session.filter.admits) := by
  induction steps generalizing session with
  | nil =>
      simp [run, history, window]
  | cons step rest inductionHypothesis =>
      have moves := session.step_moves step
      have logged := moves.logged_eq
      rw [liveSinks_of_free free, entries_of_no_sinks, List.append_nil]
        at logged
      cases built : (session.observe step).built? with
      | some tracer =>
          obtain ⟨-, -, -, subscribed, held⟩ := moves.of_built?_eq_some built
          have opened :
              window (session.history (step :: rest)) =
                ((session.step step).2.history rest).takeWhile
                  (·.step ≠ .release) := by
            rw [window, history, List.dropWhile_cons_of_neg (by simp [built])]
            rfl
          have final : (session.run (step :: rest)).subscriber = some tracer :=
            subscriber_run subscribed rest
          have later := logged_run_of_held subscribed held rest
          rw [logged, moves.filter_eq] at later
          rw [opened, final]
          exact later
      | none =>
          have skipped :
              window (session.history (step :: rest)) =
                window ((session.step step).2.history rest) := by
            rw [window, history, List.dropWhile_cons_of_pos (by simp [built])]
            rfl
          have later :=
            inductionHypothesis _ ((moves.of_built?_eq_none built).1.trans free)
          rw [logged, moves.filter_eq] at later
          rw [skipped]
          exact later

/--
The sinks of the subscriber are those of its modes, seen from the directory of
the start.
-/
theorem sinks_run
    (session : Session)
    (sound : session.tree.Sound)
    (free : session.subscriber = none)
    {steps : List Step}
    {tracer : Tracer}
    (subscribed : (session.run steps).subscriber = some tracer) :
    tracer.sinks = tracer.modes.map (·.sink session.tree.current) := by
  induction steps generalizing session with
  | nil =>
      have subscribed : session.subscriber = some tracer := subscribed
      rw [free] at subscribed
      contradiction
  | cons step rest inductionHypothesis =>
      have moves := session.step_moves step
      cases built : (session.observe step).built? with
      | some other =>
          obtain ⟨-, opening, -, installed, -⟩ := moves.of_built?_eq_some built
          have final : (session.run (step :: rest)).subscriber = some other :=
            subscriber_run installed rest
          obtain rfl := Option.some.inj (final.symm.trans subscribed)
          exact ((openSinks_eq_ok_iff sound).mp (congrArg Prod.fst opening)).2
      | none =>
          obtain ⟨places, grows⟩ := moves.grownBy sound
          rw [← grows.current_eq]
          exact inductionHypothesis _ grows.sound
            ((moves.of_built?_eq_none built).1.trans free) subscribed

/-! ## What a sink shows -/

theorem filter_entries
    (sinks : List Sink)
    (events : List Trace.Event)
    (sink : Sink) :
    ((entries sinks events).filter (·.1 == sink)).map (·.2) =
      events.flatMap (List.replicate (sinks.count sink)) := by
  have ofOne (event : Trace.Event) :
      ((sinks.map (·, event)).filter (·.1 == sink)).map (·.2) =
        List.replicate (sinks.count sink) event := by
    rw [List.filter_map, List.map_map]
    change (sinks.filter (· == sink)).map (fun _ => event) = _
    rw [List.filter_beq, List.map_replicate]
  rw [entries, List.filter_flatMap, List.map_flatMap]
  exact List.flatMap_congr fun event _ => ofOne event

theorem shows_of_loggedIn
    {session : Session}
    {sink : Sink}
    {events : List Trace.Event}
    (logged : session.loggedIn sink = events) :
    session.Shows sink events := by
  have lines (time : List Char) :
      session.linesIn sink time =
        events.flatMap fun event =>
          Text.lines (sink.line time event ++ ['\n']) := by
    cases sink with
    | terminal =>
        rw [linesIn, terminalLines, logged, Text.lines_flatMap]
        rfl
    | folder place =>
        rw [linesIn, fileLines, logged, Text.lines_flatMap]
        rfl
  refine ⟨logged, lines, fun time unbroken => ?_⟩
  rw [lines, List.map_eq_flatMap]
  exact List.flatMap_congr fun event member =>
    Text.lines_of_unbroken (unbroken event member)

/--
In every run each sink of the tracer shows the same log: the events emitted
between the step that builds the tracer and the next release, as far as the
filter admits them, also the warnings about set-ups that were repeated.  A sink
that stands for several modes has each event once for each.  No other sink shows
anything, so that a directory left by a failed set-up stays without lines.
-/
theorem run_logs_window
    {tree : FileTree}
    (sound : tree.Sound)
    (filter : Filter)
    (steps : List Step) :
    let session := (start filter tree).run steps
    let sinks :=
      session.subscriber.elim [] fun tracer =>
        tracer.modes.map (·.sink tree.current)
    let heard :=
      ((window ((start filter tree).history steps)).flatMap
        Change.emitted).filter filter.admits
    (∀ sink,
        session.loggedIn sink =
          heard.flatMap (List.replicate (sinks.count sink))) ∧
      (sinks.Nodup → ∀ sink ∈ sinks, session.Shows sink heard) ∧
      ∀ sink, sink ∉ sinks → session.Shows sink [] := by
  intro session sinks heard
  have sinksEq : session.subscriber.elim [] Tracer.sinks = sinks := by
    cases subscribed : session.subscriber with
    | none =>
        simp [sinks, subscribed]
    | some tracer =>
        have opened := sinks_run (start filter tree) sound rfl subscribed
        simp only [sinks, subscribed]
        exact opened
  have logged : session.logged = entries sinks heard := by
    have run := logged_run_of_free (start filter tree) rfl steps
    rw [← sinksEq]
    exact run
  have counted (sink : Sink) :
      session.loggedIn sink =
        heard.flatMap (List.replicate (sinks.count sink)) := by
    rw [loggedIn, logged, filter_entries]
  refine ⟨counted, fun distinct sink member => ?_, fun sink absent => ?_⟩
  · apply shows_of_loggedIn
    rw [counted, List.count_eq_one_of_mem distinct member]
    exact List.flatMap_singleton' heard
  · apply shows_of_loggedIn
    rw [counted, List.count_eq_zero_of_not_mem absent]
    simp

/--
A poisoned lock does not end the window, and the warning of a repeated set-up is
in it.
-/
theorem run_logs_window_of_poison :
    let filter : Filter := ⟨[⟨none, some .trace⟩]⟩
    let modes : List Mode := [.stdout, .file (.ofText "logs".toList)]
    let event (index : Nat) : Trace.Event := .located "b" index
    let steps : List Step :=
      [.report (event 0), .setUp modes, .report (event 1), .setUp [], .poison,
        .setUp [], .report (event 2), .release, .report (event 3)]
    let session := (start filter (.fresh [])).run steps
    let heard := [event 1, .repeatedSetUp, event 2]
    (FileTree.fresh []).Sound ∧
      session.Shows .terminal heard ∧
      session.Shows (.folder [Text.encode "logs".toList]) heard ∧
      session.Shows (.folder [Text.encode "other".toList]) [] := by
  intro filter modes event steps session heard
  have sound : (FileTree.fresh []).Sound :=
    FileTree.sound_fresh (by decide)
  obtain ⟨-, shown, others⟩ := run_logs_window sound filter steps
  have isHeard :
      ((window ((start filter (.fresh [])).history steps)).flatMap
          Change.emitted).filter filter.admits = heard := by
    decide +kernel
  rw [isHeard] at shown
  exact ⟨sound, shown (by decide +kernel) _ (by decide +kernel),
    shown (by decide +kernel) _ (by decide +kernel),
    others _ (by decide +kernel)⟩

/--
It is not so that each event has one line in each sink whenever the paths of the
directories differ.  A line feed inside a colour breaks the line of its event,
and two paths that differ in writing may lead to one directory, which has each
event twice then.
-/
theorem event_has_several_lines :
    let filter : Filter := ⟨[⟨none, some .trace⟩]⟩
    let condensing := (Color.shortestForm "#\n\naabb").events.map Step.report
    let broken :=
      (start filter (.fresh [])).run (.setUp [.stdout] :: condensing)
    let first := Path.ofText "a".toList
    let second := Path.ofText "a/../a".toList
    let doubled :=
      (start filter (.fresh [])).run
        [.setUp [.file first, .file second], .setUp []]
    (broken.loggedIn .terminal).length = 1 ∧
      (broken.terminalLines []).length = 4 ∧
      first.same second = false ∧
      doubled.loggedIn (.folder [Text.encode "a".toList]) =
        [.repeatedSetUp, .repeatedSetUp] := by
  decide +kernel

end Session

end SheetLint.Monitoring
