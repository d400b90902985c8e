import SheetLint.Proofs.Monitoring.Listing
import SheetLint.Proofs.Monitoring.Mode.Fields
import SheetLint.Proofs.Text.Utf8

namespace SheetLint.Monitoring

/-!
# Modes written and read back

A mode has a JSON form exactly if its directory is a text.  The form holds the
mode, with the bytes of the directory and not only the place that they name, so
the modes are read back from the text that is written for them.  The directory
that the environment asks for is made of the directory for temporary files and
of text behind it; it is a text exactly if the former is one.
-/

open Json (Draft)

namespace Mode

/-- Modes that can be written: the directory, if there is one, is a text. -/
def IsText : Mode → Prop
  | .stdout => True
  | .file directory => Text.IsText directory.bytes

/-- The JSON form of a mode. -/
inductive WrittenAs : Mode → Json → Prop where
  | stdout :
      WrittenAs .stdout (.object [(kindField, .text Kind.stdout.name)])
  | file (directory : String) :
      WrittenAs (.file (.ofText directory.toList))
        (.object [(kindField, .text Kind.file.name),
          (directoryField, .text directory)])

/-! ## Writing -/

theorem toJson?_eq_ok_iff
    {mode : Mode}
    {value : Json} :
    mode.toJson? = .ok value ↔ mode.WrittenAs value := by
  constructor
  · intro written
    cases mode with
    | stdout =>
        obtain rfl := Except.ok.inj written
        exact .stdout
    | file directory =>
        cases read : directory.text? with
        | none =>
            simp [toJson?, read] at written
        | some text =>
            obtain rfl : directory = .ofText text := by
              rw [Path.ofText, ← Text.text?_eq_some_iff.mp read]
            obtain rfl : _ = value := by
              simpa [toJson?, read] using written
            simpa using WrittenAs.file (String.ofList text)
  · intro writtenAs
    cases writtenAs with
    | stdout =>
        rfl
    | file directory =>
        have read :
            (Path.ofText directory.toList).text? = some directory.toList :=
          Text.text?_eq_some_iff.mpr rfl
        simp [toJson?, read]

theorem exists_writtenAs_iff
    {mode : Mode} :
    (∃ value, mode.WrittenAs value) ↔ mode.IsText := by
  constructor
  · rintro ⟨_, _ | directory⟩
    · trivial
    · exact ⟨directory.toList, rfl⟩
  · intro isText
    cases mode with
    | stdout =>
        exact ⟨_, .stdout⟩
    | file directory =>
        obtain ⟨text, bytes⟩ := isText
        obtain rfl : directory = .ofText (String.ofList text).toList := by
          rw [String.toList_ofList, Path.ofText, ← bytes]
        exact ⟨_, .file _⟩

theorem mapM_toJson?_eq_ok_iff
    {modes : List Mode}
    {values : List Json} :
    modes.mapM toJson? = .ok values ↔ List.Forall₂ WrittenAs modes values := by
  induction modes generalizing values with
  | nil =>
      simp [pure, Except.pure, eq_comm]
  | cons mode rest inductionHypothesis =>
      simp only [List.forall₂_cons_left_iff, ← toJson?_eq_ok_iff,
        ← inductionHypothesis, List.mapM_cons]
      cases mode.toJson? with
      | error refusal =>
          simp [bind, Except.bind]
      | ok value =>
          cases rest.mapM toJson? <;>
            simp [bind, Except.bind, pure, Except.pure, eq_comm]

theorem writeList?_eq_ok_iff
    {modes : List Mode}
    {text : List Char} :
    writeList? modes = .ok text ↔
      ∃ values, List.Forall₂ WrittenAs modes values ∧
        text = (Json.array values).write := by
  simp only [← mapM_toJson?_eq_ok_iff, writeList?]
  cases modes.mapM toJson? <;>
    simp [Except.map, eq_comm]

theorem exists_writeList?_iff
    {modes : List Mode} :
    (∃ text, writeList? modes = .ok text) ↔ ∀ mode ∈ modes, mode.IsText := by
  simp only [← exists_writtenAs_iff, ← Json.exists_forall₂_iff]
  constructor
  · rintro ⟨text, written⟩
    obtain ⟨values, each, -⟩ := writeList?_eq_ok_iff.mp written
    exact ⟨values, each.flip⟩
  · rintro ⟨values, each⟩
    exact ⟨_, writeList?_eq_ok_iff.mpr ⟨values, each.flip, rfl⟩⟩

theorem exists_write?_iff
    {mode : Mode} :
    (∃ text, mode.write? = .ok text) ↔ mode.IsText := by
  simp only [← exists_writtenAs_iff, ← toJson?_eq_ok_iff, write?]
  cases mode.toJson? <;>
    simp [Except.map]

/-! ## Reading back -/

namespace WrittenAs

variable {mode : Mode} {value : Json}

theorem depth_eq (written : mode.WrittenAs value) : value.depth = 1 := by
  cases written <;>
    rfl

theorem closed (written : mode.WrittenAs value) :
    ∀ lexeme ∈ value.lexemes, lexeme.isClosed = true := by
  cases written <;>
    simp [Json.lexemes, Json.fieldLexemes, Json.Lexeme.isClosed]

/-- The form of a mode holds it. -/
theorem ofDraft_eq (written : mode.WrittenAs value) :
    ofDraft (.ofValue value) = .ok mode := by
  have inLimit : value.depth < Json.nestingLimit := by
    rw [written.depth_eq]
    decide
  cases written with
  | stdout =>
      apply (ofDraft_ofValue_object_eq_ok_iff (by simp) inLimit).mpr
      exact .stdout (by simp)
  | file directory =>
      apply (ofDraft_ofValue_object_eq_ok_iff
        (by simp [kindField, directoryField]) inLimit).mpr
      exact .file (by simp) (by simp)

end WrittenAs

theorem readText_of_writtenAs
    {modes : List Mode}
    {values : List Json}
    (written : List.Forall₂ WrittenAs modes values) :
    readText (Json.array values).write = .ok modes := by
  have each (value : Json) (member : value ∈ values) :
      ∃ mode : Mode, mode.WrittenAs value :=
    Json.exists_forall₂_iff.mp ⟨modes, written⟩ value member
  have denotes :
      Json.read? (Json.array values).write = some (.array values) := by
    apply Json.read?_write_array
    · intro value member
      obtain ⟨mode, writtenAs⟩ := each value member
      exact writtenAs.closed
    · intro value member
      obtain ⟨mode, writtenAs⟩ := each value member
      rw [writtenAs.depth_eq]
      decide
  apply (Draft.readArrayText_eq_ok_iff denotes fun _ _ _ _ => Iff.rfl).mpr
  exact written.imp fun mode value => WrittenAs.ofDraft_eq

/-- Modes that are read back from the text that is written for them. -/
def RoundTrips (modes : List Mode) : Prop :=
  ∃ text, writeList? modes = .ok text ∧ readText text = .ok modes

/-- Whatever can be written is read back. -/
theorem roundTrips_iff
    {modes : List Mode} :
    RoundTrips modes ↔ ∀ mode ∈ modes, mode.IsText := by
  rw [← exists_writeList?_iff]
  constructor
  · rintro ⟨text, written, -⟩
    exact ⟨text, written⟩
  · rintro ⟨text, written⟩
    obtain ⟨values, each, rfl⟩ := writeList?_eq_ok_iff.mp written
    exact ⟨_, written, readText_of_writtenAs each⟩

end Mode

/-! ## Modes from the environment -/

/--
A component, which is a text, decides nothing about whether the path is one.
-/
theorem Path.isText_join_iff
    {path : Path}
    {component : List Char} :
    Text.IsText (path.join component).bytes ↔ Text.IsText path.bytes := by
  have shape :
      ∃ mark : List Char,
        (path.join component).bytes =
          path.bytes ++ Text.encode mark ++ Text.encode component := by
    unfold join
    split
    · exact ⟨[], rfl⟩
    · exact ⟨['/'], rfl⟩
  obtain ⟨mark, shape⟩ := shape
  rw [shape, Text.isText_append_encode_iff, Text.isText_append_encode_iff]

theorem Environment.isText_fileMode_iff
    {environment : Environment} :
    environment.fileMode.IsText ↔
      ∀ bytes, environment.tempDirectory = some bytes → Text.IsText bytes := by
  rw [fileMode, Mode.IsText, Path.isText_join_iff, temporary]
  cases environment.tempDirectory with
  | none =>
      simp [Text.IsText, Path.ofText]
  | some bytes =>
      simp

/--
Modes from the environment are read back if the file mode is not among them or
is a text.
-/
theorem Environment.roundTrips_iff
    {environment : Environment}
    {modes : List Mode}
    (read : environment.readModes = .ok modes) :
    Mode.RoundTrips modes ↔
      (∀ directory, .file directory ∉ modes) ∨ environment.fileMode.IsText := by
  obtain ⟨-, lists⟩ := readModes_eq_ok_iff.mp read
  rw [Mode.roundTrips_iff]
  constructor
  · intro isText
    by_cases listed : environment.fileMode ∈ modes
    · exact .inr (isText _ listed)
    · refine .inl fun directory member => ?_
      rcases lists.offered _ member with isStdout | isFile
      · contradiction
      · exact listed (isFile ▸ member)
  · intro noFileOrText mode member
    rcases lists.offered mode member with rfl | rfl
    · trivial
    · rcases noFileOrText with noFile | isText
      · exact absurd member (noFile _)
      · exact isText

/--
Modes whose directories are texts are read back from the text that is written
for them, with the bytes of every directory.  A file mode is written exactly if
its directory is a text.  So the modes that the environment asks for are read
back exactly if there is no file mode among them or the directory for temporary
files is a text.
-/
theorem Mode.roundTrips_of_isText :
    (∀ modes : List Mode,
      (∀ directory, .file directory ∈ modes → Text.IsText directory.bytes) →
      RoundTrips modes) ∧
    (∀ directory : Path,
      (∃ text, (Mode.file directory).write? = .ok text) ↔
        Text.IsText directory.bytes) ∧
    ∀ (environment : Environment) (modes : List Mode),
      environment.readModes = .ok modes →
      (RoundTrips modes ↔
        (∀ directory, .file directory ∉ modes) ∨
          ∀ bytes, environment.tempDirectory = some bytes →
            Text.IsText bytes) := by
  refine ⟨fun modes isText => ?_, fun directory => exists_write?_iff,
    fun environment modes read => ?_⟩
  · apply roundTrips_iff.mpr
    intro mode member
    cases mode with
    | stdout => trivial
    | file directory => exact isText directory member
  · rw [environment.roundTrips_iff read, Environment.isText_fileMode_iff]

/-- A directory with characters that are escaped, and one that no text names. -/
theorem Mode.roundTrips_of_escaped_directory :
    let environment : Environment :=
      ⟨some (Text.encode "file".toList), some [0xFF]⟩
    (RoundTrips [.file (.ofText "/a//\"\t".toList), .stdout] ∧
      ¬ ∃ text, (Mode.file ⟨[0xFF]⟩).write? = .ok text) ∧
    environment.readModes = .ok [environment.fileMode] ∧
      ¬ RoundTrips [environment.fileMode] := by
  intro environment
  obtain ⟨ofTexts, written, fromEnvironment⟩ := roundTrips_of_isText
  have noText : ¬ Text.IsText [0xFF] := by
    rintro ⟨text, encodes⟩
    have read := Text.text?_eq_some_iff.mpr encodes
    contradiction
  have read : environment.readModes = .ok [environment.fileMode] := by
    decide +kernel
  refine ⟨⟨ofTexts _ ?_, ?_⟩, read, ?_⟩
  · intro directory member
    obtain rfl : directory = .ofText "/a//\"\t".toList := by
      simpa using member
    exact ⟨_, rfl⟩
  · rwa [written]
  · rw [fromEnvironment environment _ read]
    rintro (noFile | isText)
    · exact noFile _ (List.mem_singleton.mpr rfl)
    · exact noText (isText _ rfl)

end SheetLint.Monitoring
