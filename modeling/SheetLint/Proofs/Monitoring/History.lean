import SheetLint.Monitoring.Session

namespace SheetLint.Monitoring

/-!
# The history of a session

A run is observed step by step: what was asked, the answer, and the session
before and after.  What a single step can do is said once, and whatever holds of
every run is derived from it.  A tracer is built at most once; its subscriber
stays for good, and a guard that holds a tracer holds that one.
-/

/-- The modes that a step asks for, if it sets monitoring up. -/
def Step.request? : Step → Option (Except UnknownMode (List Mode))
  | .setUp modes => some (.ok modes)
  | .setUpFrom environment => some environment.readModes
  | .release | .poison | .report _ => none

/-- One step of a run. -/
structure Change where
  before : Session
  step : Step
  outcome : Except SetUpFailure Unit
  after : Session

/--
The tracer that a step has built: a set-up succeeds where there was no guard and
leaves it there.
-/
def Change.built? (change : Change) : Option Tracer :=
  match change.step.request?, change.outcome, change.before.guard with
  | some _, .ok (), none => change.after.guard.bind (·.tracer)
  | _, _, _ => none

namespace Session

/-- What is observed of one step. -/
def observe (session : Session) (step : Step) : Change :=
  ⟨session, step, (session.step step).1, (session.step step).2⟩

/-- What is observed of a sequence of steps. -/
def history (session : Session) : List Step → List Change
  | [] =>
      []
  | step :: rest =>
      session.observe step :: (session.step step).2.history rest

/-! ## One step -/

/-- What a step can do to a session, and the answer it gives. -/
inductive Moves (session : Session) :
    Step → Except SetUpFailure Unit → Session → Prop where
  /-- The modes cannot be read. -/
  | unread {step : Step} {unknown : UnknownMode} :
      step.request? = some (.error unknown) →
      Moves session step (.error (.unknownMode unknown)) session
  /-- The lock is poisoned. -/
  | refused {step : Step} {modes : List Mode} :
      step.request? = some (.ok modes) →
      session.poisoned = true →
      Moves session step (.error .poisoned) session
  /-- There is a guard already. -/
  | repeated {step : Step} {modes : List Mode} :
      step.request? = some (.ok modes) →
      session.poisoned = false →
      session.guard.isSome = true →
      Moves session step (.ok ()) (session.report .repeatedSetUp)
  /-- Nothing is to be logged. -/
  | silent {step : Step} :
      step.request? = some (.ok []) →
      session.poisoned = false →
      session.guard = none →
      Moves session step (.ok ()) { session with guard := some ⟨none⟩ }
  /-- A sink cannot be opened. -/
  | closed {step : Step} {modes : List Mode} {failure : SinkFailure}
      {tree : FileTree} :
      step.request? = some (.ok modes) →
      session.poisoned = false →
      session.guard = none →
      modes ≠ [] →
      openSinks session.tree modes = (.error failure, tree) →
      Moves session step (.error (.noSink failure))
        { session with begun := session.begun + 1, tree }
  /-- There is a subscriber already. -/
  | taken {step : Step} {modes : List Mode} {sinks : List Sink}
      {tree : FileTree} :
      step.request? = some (.ok modes) →
      session.poisoned = false →
      session.guard = none →
      modes ≠ [] →
      openSinks session.tree modes = (.ok sinks, tree) →
      session.subscriber.isSome = true →
      Moves session step (.error .alreadySubscribed)
        { session with begun := session.begun + 1, tree }
  /-- A tracer is built and its subscriber installed. -/
  | installed {step : Step} {modes : List Mode} {sinks : List Sink}
      {tree : FileTree} :
      step.request? = some (.ok modes) →
      session.poisoned = false →
      session.guard = none →
      modes ≠ [] →
      openSinks session.tree modes = (.ok sinks, tree) →
      session.subscriber = none →
      Moves session step (.ok ())
        { session with
          begun := session.begun + 1
          tree
          guard := some ⟨some ⟨session.begun, modes, sinks⟩⟩
          subscriber := some ⟨session.begun, modes, sinks⟩ }
  | released :
      Moves session .release (.ok ()) session.release
  | locked :
      Moves session .poison (.ok ()) session.poison
  | reported (event : Trace.Event) :
      Moves session (.report event) (.ok ()) (session.report event)

theorem install_moves
    {session : Session}
    {step : Step}
    {modes : List Mode}
    (asked : step.request? = some (.ok modes))
    (sane : session.poisoned = false)
    (free : session.guard = none)
    (nonempty : modes ≠ []) :
    session.Moves step (session.install modes).1 (session.install modes).2 := by
  cases opening : openSinks session.tree modes with
  | mk opened tree =>
      cases opened with
      | error failure =>
          simp only [install, opening]
          exact .closed asked sane free nonempty opening
      | ok sinks =>
          simp only [install, opening]
          by_cases subscribed : session.subscriber.isSome = true
          · rw [if_pos subscribed]
            exact .taken asked sane free nonempty opening subscribed
          · rw [if_neg subscribed]
            exact .installed asked sane free nonempty opening
              (by simpa using subscribed)

theorem setUp_moves
    (session : Session)
    {step : Step}
    {modes : List Mode}
    (asked : step.request? = some (.ok modes)) :
    session.Moves step (session.setUp modes).1 (session.setUp modes).2 := by
  unfold setUp
  by_cases poisoned : session.poisoned = true
  · rw [if_pos poisoned]
    exact .refused asked poisoned
  · have sane : session.poisoned = false := by
      simpa using poisoned
    rw [if_neg poisoned]
    by_cases held : session.guard.isSome = true
    · rw [if_pos held]
      exact .repeated asked sane held
    · have free : session.guard = none := by
        simpa using held
      rw [if_neg held]
      by_cases isEmpty : modes = []
      · subst modes
        rw [if_pos rfl]
        exact .silent asked sane free
      · rw [if_neg isEmpty]
        exact install_moves asked sane free isEmpty

theorem step_moves
    (session : Session)
    (step : Step) :
    session.Moves step (session.step step).1 (session.step step).2 := by
  cases step with
  | setUp modes =>
      exact session.setUp_moves rfl
  | setUpFrom environment =>
      cases read : environment.readModes with
      | error unknown =>
          simp only [Session.step, setUpFrom, read]
          exact .unread (congrArg some read)
      | ok modes =>
          simp only [Session.step, setUpFrom, read]
          exact session.setUp_moves (congrArg some read)
  | release =>
      exact .released
  | poison =>
      exact .locked
  | report event =>
      exact .reported event

@[simp] theorem guard_report
    (session : Session)
    (event : Trace.Event) :
    (session.report event).guard = session.guard := by
  rw [report_eq]

@[simp] theorem subscriber_report
    (session : Session)
    (event : Trace.Event) :
    (session.report event).subscriber = session.subscriber := by
  rw [report_eq]

@[simp] theorem poisoned_report
    (session : Session)
    (event : Trace.Event) :
    (session.report event).poisoned = session.poisoned := by
  rw [report_eq]

section

variable {session after : Session} {step : Step}
  {outcome : Except SetUpFailure Unit}

/--
A tracer is built just where there is no subscriber, from the sinks of the modes
asked for.
-/
theorem Moves.of_built?_eq_some
    (moves : session.Moves step outcome after)
    {tracer : Tracer}
    (built : (⟨session, step, outcome, after⟩ : Change).built? = some tracer) :
    step.request? = some (.ok tracer.modes) ∧
      openSinks session.tree tracer.modes = (.ok tracer.sinks, after.tree) ∧
      session.subscriber = none ∧
      after.subscriber = some tracer ∧
      after.guard = some ⟨some tracer⟩ := by
  cases moves with
  | installed asked sane free nonempty opening notSubscribed =>
      obtain rfl : _ = tracer := by
        simpa [Change.built?, asked, free] using built
      exact ⟨asked, opening, notSubscribed, rfl, rfl⟩
  | repeated asked sane held =>
      obtain ⟨guard, held⟩ := Option.isSome_iff_exists.mp held
      simp [Change.built?, asked, held] at built
  | silent asked sane free =>
      simp [Change.built?, asked, free] at built
  | _ =>
      simp_all [Change.built?, Step.request?]

/--
A step that builds no tracer leaves the subscriber alone and puts no tracer into
the guard.
-/
theorem Moves.of_built?_eq_none
    (moves : session.Moves step outcome after)
    (notBuilt : (⟨session, step, outcome, after⟩ : Change).built? = none) :
    after.subscriber = session.subscriber ∧
      ∀ tracer,
        after.guard = some ⟨some tracer⟩ →
        session.guard = some ⟨some tracer⟩ := by
  cases moves with
  | installed asked sane free nonempty opening notSubscribed =>
      simp [Change.built?, asked, free] at notBuilt
  | repeated =>
      exact ⟨subscriber_report _ _,
        fun tracer held => guard_report session _ ▸ held⟩
  | reported event =>
      exact ⟨subscriber_report _ _,
        fun tracer held => guard_report session _ ▸ held⟩
  | silent =>
      exact ⟨rfl, fun tracer held => by simp at held⟩
  | released =>
      exact ⟨rfl, fun tracer held => by simp [release] at held⟩
  | unread | refused | closed | taken | locked =>
      exact ⟨rfl, fun tracer held => held⟩

/-- A poisoned lock stays poisoned. -/
theorem Moves.stays_poisoned
    (moves : session.Moves step outcome after)
    (poisoned : session.poisoned = true) :
    after.poisoned = true := by
  cases moves with
  | reported event =>
      exact (poisoned_report session event).trans poisoned
  | locked =>
      rfl
  | unread | refused | released =>
      exact poisoned
  | _ =>
      simp_all

/-- A set-up under a poisoned lock fails and changes nothing. -/
theorem Moves.refused_of_poisoned
    (moves : session.Moves step outcome after)
    (poisoned : session.poisoned = true)
    (asked : step.request?.isSome = true) :
    outcome ≠ .ok () ∧ after = session := by
  cases moves with
  | unread | refused =>
      exact ⟨by simp, rfl⟩
  | released | locked | reported =>
      contradiction
  | _ =>
      simp_all

end

/-! ## Runs -/

theorem run_append
    (session : Session)
    (first second : List Step) :
    session.run (first ++ second) = (session.run first).run second :=
  List.foldl_append

/-- Whatever is observed in a run is what one session does in one step. -/
theorem exists_of_mem_history
    {session : Session}
    {steps : List Step}
    {change : Change}
    (member : change ∈ session.history steps) :
    ∃ earlier step, change = observe earlier step := by
  induction steps generalizing session with
  | nil =>
      contradiction
  | cons step rest inductionHypothesis =>
      rcases List.mem_cons.mp member with isHead | inRest
      · exact ⟨session, step, isHead⟩
      · exact inductionHypothesis inRest

theorem poisoned_run
    {session : Session}
    {steps : List Step}
    (poisons : .poison ∈ steps) :
    (session.run steps).poisoned = true := by
  have stays (later : List Step) (current : Session)
    (poisoned : current.poisoned = true) :
      (current.run later).poisoned = true := by
    induction later generalizing current with
    | nil =>
        exact poisoned
    | cons step rest inductionHypothesis =>
        exact inductionHypothesis _
          ((current.step_moves step).stays_poisoned poisoned)
  obtain ⟨front, back, rfl⟩ := List.append_of_mem poisons
  rw [run_append]
  exact stays back _ rfl

/--
The guard and the subscriber agree with what was observed of a session so far.
-/
structure Agrees (session : Session) (observed : List Change) : Prop where
  built_eq :
    observed.filterMap Change.built? = session.subscriber.toList
  held_eq :
    ∀ tracer,
      session.guard = some ⟨some tracer⟩ →
      session.subscriber = some tracer

namespace Agrees

theorem start
    (filter : Filter)
    (tree : FileTree) :
    (start filter tree).Agrees [] where
  built_eq := rfl
  held_eq tracer held := by
    contradiction

/-- One more step is observed. -/
theorem step
    {session : Session}
    {observed : List Change}
    (agrees : session.Agrees observed)
    (next : Step) :
    (session.step next).2.Agrees (observed ++ [session.observe next]) := by
  cases built : (session.observe next).built? with
  | some tracer =>
      obtain ⟨-, -, free, subscribed, held⟩ :=
        (session.step_moves next).of_built?_eq_some built
      constructor
      · rw [List.filterMap_append, agrees.built_eq, free, subscribed]
        simp [built]
      · intro other otherHeld
        rw [held] at otherHeld
        simpa [subscribed] using otherHeld
  | none =>
      obtain ⟨sameSubscriber, heldBefore⟩ :=
        (session.step_moves next).of_built?_eq_none built
      constructor
      · rw [List.filterMap_append, agrees.built_eq, sameSubscriber]
        simp [built]
      · intro tracer held
        rw [sameSubscriber]
        exact agrees.held_eq tracer (heldBefore tracer held)

theorem run
    {session : Session}
    {observed : List Change}
    (agrees : session.Agrees observed)
    (steps : List Step) :
    (session.run steps).Agrees (observed ++ session.history steps) := by
  induction steps generalizing session observed with
  | nil =>
      rw [history, List.append_nil]
      exact agrees
  | cons step rest inductionHypothesis =>
      have later := inductionHypothesis (agrees.step step)
      rwa [List.append_assoc] at later

end Agrees

/-- No tracer is built where there is a subscriber. -/
theorem built?_of_subscribed
    {session : Session}
    {tracer : Tracer}
    (subscribed : session.subscriber = some tracer)
    (step : Step) :
    (session.observe step).built? = none := by
  rw [Option.eq_none_iff_forall_ne_some]
  intro other built
  obtain ⟨-, -, free, -⟩ := (session.step_moves step).of_built?_eq_some built
  rw [subscribed] at free
  contradiction

/-- An installed subscriber stays whatever happens. -/
theorem subscriber_run
    {session : Session}
    {tracer : Tracer}
    (subscribed : session.subscriber = some tracer)
    (steps : List Step) :
    (session.run steps).subscriber = some tracer := by
  induction steps generalizing session with
  | nil =>
      exact subscribed
  | cons step rest inductionHypothesis =>
      have notBuilt := built?_of_subscribed subscribed step
      exact inductionHypothesis
        (((session.step_moves step).of_built?_eq_none notBuilt).1.trans
          subscribed)

/--
In a run from the start at most one set-up builds a tracer, and its subscriber
is the one that is installed ever after, with the modes that were asked for.  A
guard that holds a tracer holds that one.  Once the lock is poisoned, no set-up
succeeds or changes anything.
-/
theorem run_subscribes_once
    (filter : Filter)
    (tree : FileTree)
    (steps : List Step) :
    let fresh := start filter tree
    let session := fresh.run steps
    let built := (fresh.history steps).filterMap Change.built?
    built.length ≤ 1 ∧
      built = session.subscriber.toList ∧
      (∀ tracer later,
        session.subscriber = some tracer →
        (session.run later).subscriber = some tracer) ∧
      (∀ tracer,
        session.guard = some ⟨some tracer⟩ →
        session.subscriber = some tracer) ∧
      (∀ change ∈ fresh.history steps,
        ∀ tracer,
          change.built? = some tracer →
          change.step.request? = some (.ok tracer.modes) ∧
            change.after.guard = some ⟨some tracer⟩ ∧
            change.after.subscriber = some tracer) ∧
      (.poison ∈ steps →
        ∀ request : Step,
          request.request?.isSome = true →
          (session.step request).1 ≠ .ok () ∧
            (session.step request).2 = session) := by
  intro fresh session built
  have agrees : session.Agrees (fresh.history steps) :=
    (Agrees.start filter tree).run steps
  have builtEq : built = session.subscriber.toList :=
    agrees.built_eq
  refine ⟨?_, builtEq, ?_, agrees.held_eq, ?_, ?_⟩
  · rw [builtEq]
    cases session.subscriber <;> simp
  · intro tracer later subscribed
    exact subscriber_run subscribed later
  · intro change member tracer isBuilt
    obtain ⟨earlier, step, rfl⟩ := exists_of_mem_history member
    obtain ⟨asked, -, -, subscribed, held⟩ :=
      (earlier.step_moves step).of_built?_eq_some isBuilt
    exact ⟨asked, held, subscribed⟩
  · intro poisons request asks
    exact (session.step_moves request).refused_of_poisoned
      (poisoned_run poisons) asks

end Session

end SheetLint.Monitoring
