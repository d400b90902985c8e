import SheetLint.Json.Problem
import SheetLint.Json.Printer
import SheetLint.Monitoring.Mode

namespace SheetLint.Monitoring.Mode

/-!
# Modes in JSON

A mode is an object whose field `mode` names its kind; a file mode has its
directory in a second field.  The kind may stand anywhere among the fields, so
the other fields are kept until the object is complete.  An array with the kind
at its head is read as well.
-/

open SheetLint.Json (Draft Reading)

/-- The kinds of a mode. -/
inductive Kind where
  | stdout
  | file
  deriving Repr, DecidableEq

namespace Kind

/-- The name of a kind in JSON. -/
def name : Kind → String
  | .stdout => "stdout"
  | .file => "file"

/-- The kinds by their names. -/
def variants : Json.Variants Kind where
  all := [.stdout, .file]
  name := name
  mem_all kind := by
    cases kind <;> decide
  eq_of_name_eq first second := by
    cases first <;> cases second <;> decide

/-- The kind with the given name. -/
def ofName : String → Reading Kind :=
  variants.read

/-- The kind of a draft: its name. -/
def ofDraft : Draft → Reading Kind
  | .text (some name) => ofName name
  | draft => draft.mistyped "variant identifier"

end Kind

/-- The name of the field that holds the kind. -/
def kindField : String := "mode"

/-- The name of the field that holds the directory. -/
def directoryField : String := "directory"

/-- What a mode is read from, as messages call it. -/
def expectedMode : String := "internally tagged enum TracerMode"

/-- The JSON form of a mode; a directory that is no text has none. -/
def toJson? : Mode → Except Json.Refusal Json
  | .stdout =>
      .ok (.object [(kindField, .text Kind.stdout.name)])
  | .file directory =>
      match directory.text? with
      | some text =>
          .ok (.object
            [(kindField, .text Kind.file.name),
              (directoryField, .text (String.ofList text))])
      | none =>
          .error .pathNotText

/-- The compact JSON text of a mode. -/
def write? (mode : Mode) : Except Json.Refusal (List Char) :=
  mode.toJson?.map Json.write

/-- The compact JSON text of a list of modes. -/
def writeList? (modes : List Mode) : Except Json.Refusal (List Char) :=
  (modes.mapM toJson?).map fun values => (Json.array values).write

/-- The path that a complete value gives. -/
def pathOfValue : Json → Reading Path
  | .text text => .ok (.ofText text.toList)
  | value => Json.mistyped "path string" value.found

/--
The file mode with the given fields, where `found` is the directory met so far.
-/
def fileOfFields (found : Option Path) : List (String × Json) → Reading Mode
  | [] =>
      match found with
      | some directory => .ok (.file directory)
      | none => .error (.refused (.missingField directoryField))
  | (key, value) :: rest =>
      if key = directoryField then
        if found.isSome then
          .error (.refused (.duplicateField directoryField))
        else
          match pathOfValue value with
          | .error problem => .error problem
          | .ok directory => fileOfFields (some directory) rest
      else
        fileOfFields found rest

/-- The mode of a kind and the fields beside it. -/
def ofKindAndFields (kind : Kind) (fields : List (String × Json)) :
    Reading Mode :=
  match kind with
  | .stdout => .ok .stdout
  | .file => fileOfFields none fields

/-- The mode of a kind and the items behind it. -/
def ofKindAndItems (kind : Kind) (items : List Json) : Reading Mode :=
  match kind, items with
  | .stdout, [] =>
      .ok .stdout
  | .stdout, items =>
      .error (.refused (.wrongLength items.length "0 elements in sequence"))
  | .file, [] =>
      .error (.refused
        (.wrongLength 0 "struct variant TracerMode::File with 1 element"))
  | .file, first :: rest =>
      match pathOfValue first with
      | .error problem => .error problem
      | .ok directory =>
          if rest.isEmpty then .ok (.file directory)
          else
            .error (.refused
              (.wrongLength (rest.length + 1) "1 element in sequence"))

/-- The nesting that is left for a value inside a mode inside a list. -/
def innerRoom : Nat := Json.nestingLimit - 2

/--
The fields of a mode in text order, with the kind and the other fields met so
far.
-/
def readFields (kind : Option Kind) (others : List (String × Json)) :
    List (Option String × Draft) → Bool → Reading Mode
  | [], whole =>
      if whole then
        match kind with
        | none => .error (.refused (.missingField kindField))
        | some kind => ofKindAndFields kind others.reverse
      else
        .error .malformed
  | (none, _) :: _, _ =>
      .error .malformed
  | (some key, field) :: rest, whole =>
      if key = kindField then
        if kind.isSome then
          .error (.refused (.duplicateField kindField))
        else
          match Kind.ofDraft field with
          | .error problem => .error problem
          | .ok kind => readFields (some kind) others rest whole
      else
        match field.value? innerRoom with
        | none => .error .malformed
        | some value => readFields kind ((key, value) :: others) rest whole

/-- The items of a mode that is written as an array. -/
def readItems (items : List Draft) (whole : Bool) : Reading Mode :=
  match items with
  | [] =>
      if whole then
        .error (.refused (.missingField kindField))
      else
        .error .malformed
  | first :: rest =>
      match Kind.ofDraft first with
      | .error problem => .error problem
      | .ok kind =>
          match Draft.itemValues? rest innerRoom with
          | none => .error .malformed
          | some values =>
              if whole then ofKindAndItems kind values else .error .malformed

/-- The mode of a draft. -/
def ofDraft : Draft → Reading Mode
  | .object fields whole => readFields none [] fields whole
  | .array items whole => readItems items whole
  | draft => draft.mistyped expectedMode

/-- The modes that a JSON text denotes. -/
def readText (text : List Char) : Reading (List Mode) :=
  Draft.readArrayText ofDraft text

end SheetLint.Monitoring.Mode
