import SheetLint.Monitoring.Mode.Json
import SheetLint.Proofs.Json.Assembly
import SheetLint.Proofs.Json.Items
import SheetLint.Proofs.Json.Order

namespace SheetLint.Monitoring.Mode

/-!
# The fields that a mode is read from

An object gives a mode by the field of the kind and, for files, the field of the
directory.  The reader takes the fields in the order in which they are written
and keeps those that are not the kind; they are looked through once the object
is complete.  So neither their order nor the other fields count, as long as no
key stands twice.
-/

open Json (Draft)

theorem Kind.ofName_eq_ok_iff
    {name : String}
    {kind : Kind} :
    ofName name = .ok kind ↔ name = kind.name :=
  Json.Variants.read_eq_ok_iff

/--
From the draft of a value a kind is read exactly if the value is its name.
-/
theorem Kind.ofDraft_ofValue_eq_ok_iff
    {value : Json}
    {kind : Kind} :
    ofDraft (.ofValue value) = .ok kind ↔ value = .text kind.name := by
  cases value with
  | text name =>
      simp [Draft.ofValue, ofDraft, ofName_eq_ok_iff]
  | _ =>
      simp [Draft.ofValue, ofDraft, Draft.mistyped, Draft.found?, Json.mistyped]

theorem pathOfValue_eq_ok_iff
    {value : Json}
    {directory : Path} :
    pathOfValue value = .ok directory ↔
      ∃ text, value = .text text ∧ directory = .ofText text.toList := by
  cases value <;>
    simp [pathOfValue, Json.mistyped, eq_comm]

/-- Once the directory is found, the fields behind it change nothing. -/
theorem fileOfFields_some
    (directory : Path)
    {fields : List (String × Json)}
    (absent : directoryField ∉ fields.map (·.1)) :
    fileOfFields (some directory) fields = .ok (.file directory) := by
  induction fields with
  | nil =>
      rfl
  | cons field rest inductionHypothesis =>
      obtain ⟨key, value⟩ := field
      obtain ⟨differs, restAbsent⟩ := List.ne_and_not_mem_of_not_mem_cons absent
      simp only [fileOfFields, Ne.symm differs, ↓reduceIte,
        inductionHypothesis restAbsent]

/--
Fields give a file mode exactly if a text stands under the key of the directory.
-/
theorem fileOfFields_none_eq_ok_iff
    {fields : List (String × Json)}
    (keysDiffer : (fields.map (·.1)).Nodup)
    {mode : Mode} :
    fileOfFields none fields = .ok mode ↔
      ∃ text, (directoryField, .text text) ∈ fields ∧
        mode = .file (.ofText text.toList) := by
  induction fields with
  | nil =>
      simp [fileOfFields]
  | cons field rest inductionHypothesis =>
      obtain ⟨key, value⟩ := field
      obtain ⟨isNew, restDiffer⟩ := List.nodup_cons.mp keysDiffer
      by_cases isDirectory : key = directoryField
      · subst isDirectory
        have onlyHere (text : String) : (directoryField, .text text) ∉ rest :=
          Json.field_not_mem isNew (.text text)
        cases read : pathOfValue value with
        | error problem =>
            have noText (text : String) : value ≠ .text text := by
              rintro rfl
              contradiction
            simp [fileOfFields, read, onlyHere, eq_comm, noText]
        | ok directory =>
            obtain ⟨text, rfl, rfl⟩ := pathOfValue_eq_ok_iff.mp read
            simp [fileOfFields, read, onlyHere, fileOfFields_some _ isNew,
              eq_comm]
      · simp [fileOfFields, isDirectory, Ne.symm isDirectory,
          inductionHypothesis restDiffer]

/-- Behind the kind all fields are kept, and the kind decides about them. -/
theorem readFields_some_ofFields
    (kind : Kind)
    (others : List (String × Json))
    {fields : List (String × Json)}
    (noKind : kindField ∉ fields.map (·.1))
    (fits : Json.fieldsDepth fields ≤ innerRoom) :
    readFields (some kind) others (Draft.ofFields fields) true =
      ofKindAndFields kind (others.reverse ++ fields) := by
  induction fields generalizing others with
  | nil =>
      simp [Draft.ofFields, readFields]
  | cons field rest inductionHypothesis =>
      obtain ⟨key, value⟩ := field
      obtain ⟨differs, restNoKind⟩ := List.ne_and_not_mem_of_not_mem_cons noKind
      obtain ⟨valueFits, restFits⟩ := Nat.max_le.mp fits
      have kept : (Draft.ofValue value).value? innerRoom = some value :=
        (Draft.value?_eq_some_iff value).mpr ⟨rfl, valueFits⟩
      simp only [Draft.ofFields, readFields, Ne.symm differs, ↓reduceIte, kept]
      simp [inductionHypothesis _ restNoKind restFits]

/--
Wherever the kind stands, the fields beside it are kept in their order, and a
mode is read exactly if the kind makes it of them.
-/
theorem readFields_none_ofFields_eq_ok_iff
    (others : List (String × Json))
    {fields : List (String × Json)}
    (keysDiffer : (fields.map (·.1)).Nodup)
    (fits : Json.fieldsDepth fields ≤ innerRoom)
    {mode : Mode} :
    readFields none others (Draft.ofFields fields) true = .ok mode ↔
      ∃ kind : Kind,
        (kindField, .text kind.name) ∈ fields ∧
          ofKindAndFields kind
              (others.reverse ++ fields.filter (·.1 != kindField)) =
            .ok mode := by
  induction fields generalizing others with
  | nil =>
      simp [Draft.ofFields, readFields]
  | cons field rest inductionHypothesis =>
      obtain ⟨key, value⟩ := field
      obtain ⟨isNew, restDiffer⟩ := List.nodup_cons.mp keysDiffer
      obtain ⟨valueFits, restFits⟩ := Nat.max_le.mp fits
      by_cases isKind : key = kindField
      · subst isKind
        have onlyHere (kind : Kind) : (kindField, .text kind.name) ∉ rest :=
          Json.field_not_mem isNew (.text kind.name)
        have allKept : rest.filter (·.1 != kindField) = rest := by
          apply List.filter_eq_self.mpr
          intro later member
          apply bne_iff_ne.mpr
          intro isKind
          exact Json.field_not_mem isNew later.2 (isKind ▸ member)
        have unique (kind : Kind) :
            (kindField, .text kind.name) ∈ (kindField, value) :: rest ↔
              Kind.ofDraft (.ofValue value) = .ok kind := by
          rw [Kind.ofDraft_ofValue_eq_ok_iff]
          simp [onlyHere, eq_comm]
        simp only [unique]
        cases read : Kind.ofDraft (.ofValue value) with
        | error problem =>
            simp [Draft.ofFields, readFields, read]
        | ok kind =>
            simp [Draft.ofFields, readFields, read, allKept,
              readFields_some_ofFields kind others isNew restFits]
      · have kept : (Draft.ofValue value).value? innerRoom = some value :=
          (Draft.value?_eq_some_iff value).mpr ⟨rfl, valueFits⟩
        simp [Draft.ofFields, readFields, isKind, Ne.symm isKind, kept,
          inductionHypothesis _ restDiffer restFits]

/--
What a mode is read from: its kind, and for files the text of the directory.
-/
inductive HeldIn : Mode → List (String × Json) → Prop where
  | stdout {fields : List (String × Json)} :
      (kindField, .text Kind.stdout.name) ∈ fields →
      HeldIn .stdout fields
  | file {fields : List (String × Json)} {directory : String} :
      (kindField, .text Kind.file.name) ∈ fields →
      (directoryField, .text directory) ∈ fields →
      HeldIn (.file (.ofText directory.toList)) fields

/--
Fields hold a mode exactly if a kind stands among them that makes it of the
others.
-/
theorem heldIn_iff
    {fields : List (String × Json)}
    (keysDiffer : (fields.map (·.1)).Nodup)
    {mode : Mode} :
    mode.HeldIn fields ↔
      ∃ kind : Kind,
        (kindField, .text kind.name) ∈ fields ∧
          ofKindAndFields kind (fields.filter (·.1 != kindField)) =
            .ok mode := by
  have notKind : directoryField ≠ kindField := by
    decide
  have othersDiffer : ((fields.filter (·.1 != kindField)).map (·.1)).Nodup :=
    keysDiffer.sublist (List.filter_sublist.map _)
  have fileMade {mode : Mode} :
      ofKindAndFields .file (fields.filter (·.1 != kindField)) = .ok mode ↔
        ∃ text, (directoryField, .text text) ∈ fields ∧
          mode = .file (.ofText text.toList) := by
    simp [ofKindAndFields, fileOfFields_none_eq_ok_iff othersDiffer, notKind]
  constructor
  · intro held
    cases held with
    | stdout stands =>
        exact ⟨.stdout, stands, rfl⟩
    | file stands directory =>
        exact ⟨.file, stands, fileMade.mpr ⟨_, directory, rfl⟩⟩
  · rintro ⟨kind, stands, made⟩
    cases kind with
    | stdout =>
        cases made
        exact .stdout stands
    | file =>
        obtain ⟨text, directory, rfl⟩ := fileMade.mp made
        exact .file stands directory

theorem exists_heldIn_iff
    {fields : List (String × Json)} :
    (∃ mode : Mode, mode.HeldIn fields) ↔
      (kindField, .text Kind.stdout.name) ∈ fields ∨
        (kindField, .text Kind.file.name) ∈ fields ∧
          ∃ directory, (directoryField, .text directory) ∈ fields := by
  constructor
  · rintro ⟨_, held⟩
    cases held with
    | stdout stands =>
        exact .inl stands
    | file stands directory =>
        exact .inr ⟨stands, _, directory⟩
  · rintro (stands | ⟨stands, _, directory⟩)
    · exact ⟨_, .stdout stands⟩
    · exact ⟨_, .file stands directory⟩

/-- From the draft of an object a mode is read exactly if its fields hold it. -/
theorem ofDraft_ofValue_object_eq_ok_iff
    {fields : List (String × Json)}
    (keysDiffer : (fields.map (·.1)).Nodup)
    (inLimit : (Json.object fields).depth < Json.nestingLimit)
    {mode : Mode} :
    ofDraft (.ofValue (.object fields)) = .ok mode ↔ mode.HeldIn fields := by
  have fits : Json.fieldsDepth fields ≤ innerRoom :=
    Nat.le_of_lt_succ (Nat.lt_of_succ_lt_succ inLimit)
  rw [heldIn_iff keysDiffer]
  exact readFields_none_ofFields_eq_ok_iff [] keysDiffer fits

/--
From a text that denotes an array of objects, in each of which the keys differ,
modes are read exactly if every object names the standard output, or names files
and has a text for the directory.  They are then the modes that the objects
hold, in order.
-/
theorem readText_objects
    {text : List Char}
    {objects : List (List (String × Json))}
    (denotes : Json.read? text = some (.array (objects.map .object)))
    (keysDiffer : ∀ fields ∈ objects, (fields.map (·.1)).Nodup) :
    ((∃ modes, readText text = .ok modes) ↔
      ∀ fields ∈ objects,
        (kindField, .text Kind.stdout.name) ∈ fields ∨
          (kindField, .text Kind.file.name) ∈ fields ∧
            ∃ directory, (directoryField, .text directory) ∈ fields) ∧
      ∀ modes,
        readText text = .ok modes ↔ List.Forall₂ HeldIn modes objects := by
  have reads (modes : List Mode) :
      readText text = .ok modes ↔ List.Forall₂ HeldIn modes objects := by
    have each (item : Json) (member : item ∈ objects.map .object)
        (inLimit : item.depth < Json.nestingLimit) (mode : Mode) :
        ofDraft (.ofValue item) = .ok mode ↔
          ∃ fields, item = .object fields ∧ mode.HeldIn fields := by
      obtain ⟨fields, stands, rfl⟩ := List.mem_map.mp member
      simp [ofDraft_ofValue_object_eq_ok_iff (keysDiffer fields stands) inLimit]
    simp [readText, Draft.readArrayText_eq_ok_iff denotes each]
  refine ⟨?_, reads⟩
  simp only [reads, Json.exists_forall₂_iff, exists_heldIn_iff]

/--
The kind behind the directory and behind a field in which a key stands twice.
-/
theorem readText_objects_of_late_kind :
    let twice : Json := .object [("mode", .null), ("mode", .array [.bool true])]
    let objects : List (List (String × Json)) :=
      [[("directory", .text "/a//b"), ("x", twice), ("mode", .text "file")],
        [("mode", .text "stdout"), ("directory", .null)]]
    let text :=
      ("[\x7b\"directory\": \"/a//b\", " ++
        "\"x\": \x7b\"mode\": null, \"mode\": [true]\x7d, " ++
        "\"mode\": \"file\"\x7d, " ++
        "\x7b\"mode\": \"stdout\", \"directory\": null\x7d]").toList
    Json.read? text = some (.array (objects.map .object)) ∧
      (∀ fields ∈ objects, (fields.map (·.1)).Nodup) ∧
      readText text = .ok [.file (.ofText "/a//b".toList), .stdout] := by
  intro twice objects text
  have lexed : Json.lex text = (Json.array (objects.map .object)).lexemes := by
    decide +kernel
  have denotes : Json.read? text = some (.array (objects.map .object)) :=
    Json.read?_of_lex lexed (by decide)
  have keysDiffer : ∀ fields ∈ objects, (fields.map (·.1)).Nodup := by
    simp [objects]
  refine ⟨denotes, keysDiffer,
    ((readText_objects denotes keysDiffer).2 _).mpr ?_⟩
  refine .cons (.file ?_ ?_) (.cons (.stdout ?_) .nil) <;>
    simp [kindField, directoryField, Kind.name]

end SheetLint.Monitoring.Mode
