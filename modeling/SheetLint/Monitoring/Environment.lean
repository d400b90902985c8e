import SheetLint.Monitoring.Mode
import SheetLint.Unicode.Blank

namespace SheetLint.Monitoring

/-!
# Modes from the environment

One variable of the environment lists modes by name, separated by commas; the
directory of the file mode lies in the directory for temporary files.
-/

/-- The values of the two variables that count; a value is a byte string. -/
structure Environment where
  modes : Option (List UInt8)
  tempDirectory : Option (List UInt8)
  deriving Repr, DecidableEq

/-- The variable that lists the modes. -/
def modesVariable : String := "SCSS_LINT_TRACING_MODE"

/-- An item of the list that names no mode. -/
structure UnknownMode where
  item : String
  deriving Repr, DecidableEq

/-- The message about an item that names no mode. -/
def UnknownMode.message (unknown : UnknownMode) : String :=
  "Invalid value for " ++ modesVariable ++ ": Invalid value: " ++ unknown.item

namespace Environment

/-- The directory for temporary files. -/
def temporary (environment : Environment) : Path :=
  match environment.tempDirectory with
  | some bytes => ⟨bytes⟩
  | none => .ofText "/tmp".toList

/-- The file mode in the directory for temporary files. -/
def fileMode (environment : Environment) : Mode :=
  .file (environment.temporary.join "scss_lint_trace".toList)

/-- The list of modes; a value that is no text or blank counts as unset. -/
def list? (environment : Environment) : Option (List Char) :=
  (environment.modes.bind Text.text?).filter (Unicode.trim · ≠ [])

/-- The items of a list, trimmed. -/
def itemsOf (text : List Char) : List (List Char) :=
  (Text.pieces ',' text).map Unicode.trim

/-- The mode that an item names. -/
def modeOf? (environment : Environment) (item : List Char) : Option Mode :=
  if item = "stdout".toList then some .stdout
  else if item = "file".toList then some environment.fileMode
  else none

/--
Add the modes of the items to those listed so far.  An empty item and a repeated
mode add none.
-/
def addItems (environment : Environment) (listed : List Mode) :
    List (List Char) → Except UnknownMode (List Mode)
  | [] =>
      .ok listed
  | item :: rest =>
      if item = [] then
        environment.addItems listed rest
      else
        match environment.modeOf? item with
        | none =>
            .error ⟨String.ofList item⟩
        | some mode =>
            if listed.any (mode.same ·) then
              environment.addItems listed rest
            else
              environment.addItems (listed ++ [mode]) rest

/-- The modes that the environment asks for. -/
def readModes (environment : Environment) : Except UnknownMode (List Mode) :=
  match environment.list? with
  | none => .ok []
  | some text => environment.addItems [] (itemsOf text)

end Environment

end SheetLint.Monitoring
