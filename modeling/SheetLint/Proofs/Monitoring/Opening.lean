import SheetLint.Proofs.Monitoring.Way

namespace SheetLint.Monitoring

/-!
# Opening the sinks of modes

Modes are tried in order, up to the first whose sink cannot be opened: its
directory cannot be made, or the path of the log file in it is too long.
Whether a mode can be opened, and which sink it has, does not depend on the
modes in front of it.  The directories that are made are those on the ways of
the modes that are tried, also of the last one, as far as its way is free.
-/

namespace Mode

/-- The sink of a mode. -/
def sink (current : Place) : Mode → Sink
  | .stdout => .terminal
  | .file directory => .folder (directory.place current)

/-- Whether the sink of a mode can be opened. -/
def opens (tree : FileTree) : Mode → Bool
  | .stdout => true
  | .file directory =>
      tree.allows directory &&
        (directory.join logFileForm.toList).bytes.length < pathLimit

/-- The places that a mode enters when its sink is opened. -/
def passed (tree : FileTree) : Mode → List Place
  | .stdout => []
  | .file directory => tree.passed directory

end Mode

/--
Whether a failure is the one of a mode for a directory, and not of another kind.
-/
def SinkFailure.Explains (tree : FileTree) (directory : Path) :
    SinkFailure → Prop
  | .noDirectory _ => tree.allows directory = false
  | .noFile _ => tree.allows directory = true

/-- The modes that are tried. -/
def attempted (tree : FileTree) : List Mode → List Mode
  | [] =>
      []
  | mode :: rest =>
      if mode.opens tree then mode :: attempted tree rest else [mode]

variable {tree grown : FileTree} {places : List Place}

namespace FileTree.GrownBy

variable (grows : tree.GrownBy places grown)

include grows

theorem passed_eq (path : Path) : grown.passed path = tree.passed path := by
  rw [passed, grows.current_eq, funext grows.blocks_eq, passed]

theorem allows_eq (path : Path) : grown.allows path = tree.allows path := by
  rw [allows, grows.current_eq, funext grows.blocks_eq, allows]

theorem opens_eq (mode : Mode) : mode.opens grown = mode.opens tree := by
  cases mode with
  | stdout =>
      rfl
  | file directory =>
      rw [Mode.opens, grows.allows_eq, Mode.opens]

theorem modePassed_eq (mode : Mode) : mode.passed grown = mode.passed tree := by
  cases mode with
  | stdout =>
      rfl
  | file directory =>
      rw [Mode.passed, grows.passed_eq, Mode.passed]

theorem explains_iff (directory : Path) (failure : SinkFailure) :
    failure.Explains grown directory ↔ failure.Explains tree directory := by
  cases failure <;> simp only [SinkFailure.Explains, grows.allows_eq]

theorem attempted_eq (modes : List Mode) :
    attempted grown modes = attempted tree modes := by
  induction modes with
  | nil =>
      rfl
  | cons mode rest inductionHypothesis =>
      rw [attempted, grows.opens_eq, inductionHypothesis, attempted]

end FileTree.GrownBy

/-! ## One mode -/

theorem grownBy_openSink
    (sound : tree.Sound)
    (mode : Mode) :
    tree.GrownBy (mode.passed tree) (openSink tree mode).2 := by
  cases mode with
  | stdout =>
      exact .refl sound
  | file directory =>
      have grows := FileTree.grownBy_makeDirectory sound directory
      rw [openSink]
      split
      · next made =>
          rw [made] at grows
          exact grows
      · next made =>
          rw [made] at grows
          split <;> exact grows

theorem openSink_of_opens
    (sound : tree.Sound)
    {mode : Mode}
    (opens : mode.opens tree = true) :
    (openSink tree mode).1 = .ok (mode.sink tree.current) := by
  cases mode with
  | stdout =>
      rfl
  | file directory =>
      simp only [Mode.opens, Bool.and_eq_true, decide_eq_true_eq] at opens
      have reaches :=
        (FileTree.makeDirectory_eq_ok_iff sound).mpr ⟨opens.1, rfl⟩
      rw [openSink]
      split
      · next made =>
          rw [made] at reaches
          contradiction
      · next made =>
          rw [made] at reaches
          obtain rfl := Except.ok.inj reaches
          rw [if_neg (Nat.not_le.mpr opens.2)]
          rfl

theorem openSink_of_not_opens
    (sound : tree.Sound)
    {mode : Mode}
    (closed : mode.opens tree = false) :
    ∃ directory failure,
      mode = .file directory ∧
        (openSink tree mode).1 = .error failure ∧
        failure.Explains tree directory := by
  cases mode with
  | stdout =>
      contradiction
  | file directory =>
      refine ⟨directory, ?_⟩
      rw [openSink]
      split
      · next obstacle grown made =>
          have notAllowed : tree.allows directory = false := by
            rw [Bool.eq_false_iff]
            intro allowed
            have reaches :=
              (FileTree.makeDirectory_eq_ok_iff sound).mpr ⟨allowed, rfl⟩
            rw [made] at reaches
            contradiction
          exact ⟨.noDirectory obstacle, rfl, rfl, notAllowed⟩
      · next place grown made =>
          have allowed : tree.allows directory = true :=
            ((FileTree.makeDirectory_eq_ok_iff sound).mp
              (congrArg Prod.fst made)).1
          have tooLong :
              pathLimit ≤ (directory.join logFileForm.toList).bytes.length := by
            simpa [Mode.opens, allowed] using closed
          rw [if_pos tooLong]
          exact ⟨.noFile .tooLong, rfl, rfl, allowed⟩

/-! ## Modes in order -/

theorem openSinks_of_ok
    {mode : Mode}
    {sink : Sink}
    (opened : (openSink tree mode).1 = .ok sink)
    (rest : List Mode) :
    openSinks tree (mode :: rest) =
      ((openSinks (openSink tree mode).2 rest).1.map (sink :: ·),
        (openSinks (openSink tree mode).2 rest).2) := by
  rw [openSinks]
  split
  · next result =>
      rw [result] at opened
      contradiction
  · next result =>
      rw [result] at opened
      obtain rfl := Except.ok.inj opened
      rw [result]

theorem openSinks_of_error
    {mode : Mode}
    {failure : SinkFailure}
    (failed : (openSink tree mode).1 = .error failure)
    (rest : List Mode) :
    openSinks tree (mode :: rest) =
      (.error failure, (openSink tree mode).2) := by
  rw [openSinks]
  split
  · next result =>
      rw [result] at failed
      obtain rfl := Except.error.inj failed
      rw [result]
  · next result =>
      rw [result] at failed
      contradiction

/--
The ways of the modes that are tried are made directories, and nothing else is.
-/
theorem grownBy_openSinks
    (sound : tree.Sound)
    (modes : List Mode) :
    tree.GrownBy ((attempted tree modes).flatMap (·.passed tree))
      (openSinks tree modes).2 := by
  induction modes generalizing tree with
  | nil =>
      exact .refl sound
  | cons mode rest inductionHypothesis =>
      have grows := grownBy_openSink sound mode
      cases opens : mode.opens tree with
      | true =>
          have later := inductionHypothesis grows.sound
          rw [grows.attempted_eq, funext grows.modePassed_eq] at later
          rw [openSinks_of_ok (openSink_of_opens sound opens), attempted,
            if_pos opens, List.flatMap_cons]
          exact grows.trans later
      | false =>
          obtain ⟨_, _, _, failed, _⟩ := openSink_of_not_opens sound opens
          rw [openSinks_of_error failed, attempted,
            if_neg (Bool.eq_false_iff.mp opens), List.flatMap_singleton]
          exact grows

theorem grownBy_of_openSinks
    (sound : tree.Sound)
    {modes : List Mode}
    {opened : Except SinkFailure (List Sink)}
    (opening : openSinks tree modes = (opened, grown)) :
    tree.GrownBy ((attempted tree modes).flatMap (·.passed tree)) grown := by
  have grows := grownBy_openSinks sound modes
  rwa [opening] at grows

theorem openSinks_of_opens
    (sound : tree.Sound)
    {modes : List Mode}
    (opens : ∀ mode ∈ modes, mode.opens tree = true) :
    (openSinks tree modes).1 = .ok (modes.map (·.sink tree.current)) := by
  induction modes generalizing tree with
  | nil =>
      rfl
  | cons mode rest inductionHypothesis =>
      obtain ⟨first, others⟩ := List.forall_mem_cons.mp opens
      have grows := grownBy_openSink sound mode
      have later := inductionHypothesis grows.sound fun other member =>
        (grows.opens_eq other).trans (others other member)
      rw [grows.current_eq] at later
      rw [openSinks_of_ok (openSink_of_opens sound first), later]
      rfl

/--
The first mode that cannot be opened ends the attempt with its own failure.
-/
theorem openSinks_of_split
    (sound : tree.Sound)
    {before : List Mode}
    {failing : Mode}
    (opens : ∀ mode ∈ before, mode.opens tree = true)
    (closed : failing.opens tree = false)
    (rest : List Mode) :
    ∃ directory failure,
      failing = .file directory ∧
        (openSinks tree (before ++ failing :: rest)).1 = .error failure ∧
        failure.Explains tree directory := by
  induction before generalizing tree with
  | nil =>
      obtain ⟨directory, failure, isFile, failed, explains⟩ :=
        openSink_of_not_opens sound closed
      refine ⟨directory, failure, isFile, ?_, explains⟩
      rw [List.nil_append, openSinks_of_error failed]
  | cons mode before inductionHypothesis =>
      obtain ⟨first, others⟩ := List.forall_mem_cons.mp opens
      have grows := grownBy_openSink sound mode
      obtain ⟨directory, failure, isFile, failed, explains⟩ :=
        inductionHypothesis grows.sound
          (fun other member =>
            (grows.opens_eq other).trans (others other member))
          ((grows.opens_eq failing).trans closed)
      refine ⟨directory, failure, isFile, ?_,
        (grows.explains_iff directory failure).mp explains⟩
      rw [List.cons_append, openSinks_of_ok (openSink_of_opens sound first),
        failed]
      rfl

theorem exists_split_of_not_opens
    {modes : List Mode}
    (closed : ¬ ∀ mode ∈ modes, mode.opens tree = true) :
    ∃ before failing rest,
      modes = before ++ failing :: rest ∧
        (∀ mode ∈ before, mode.opens tree = true) ∧
        failing.opens tree = false := by
  have someClosed : (modes.find? (!·.opens tree)).isSome = true := by
    simpa using closed
  obtain ⟨failing, found⟩ := Option.isSome_iff_exists.mp someClosed
  obtain ⟨failingClosed, before, rest, shape, opens⟩ :=
    List.find?_eq_some_iff_append.mp found
  exact ⟨before, failing, rest, shape, by simpa using opens,
    by simpa using failingClosed⟩

/-- All sinks are opened exactly if each mode can be opened. -/
theorem openSinks_eq_ok_iff
    (sound : tree.Sound)
    {modes : List Mode}
    {sinks : List Sink} :
    (openSinks tree modes).1 = .ok sinks ↔
      (∀ mode ∈ modes, mode.opens tree = true) ∧
        sinks = modes.map (·.sink tree.current) := by
  constructor
  · intro opened
    by_cases opens : ∀ mode ∈ modes, mode.opens tree = true
    · rw [openSinks_of_opens sound opens] at opened
      exact ⟨opens, (Except.ok.inj opened).symm⟩
    · obtain ⟨before, failing, rest, rfl, othersOpen, closed⟩ :=
        exists_split_of_not_opens opens
      obtain ⟨_, _, _, failed, _⟩ :=
        openSinks_of_split sound othersOpen closed rest
      rw [failed] at opened
      contradiction
  · rintro ⟨opens, rfl⟩
    exact openSinks_of_opens sound opens

end SheetLint.Monitoring
