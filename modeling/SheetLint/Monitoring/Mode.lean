import SheetLint.Monitoring.Path

namespace SheetLint.Monitoring

/-!
# Modes

A mode says where log lines go.
-/

/-- A place for log lines. -/
inductive Mode where
  | stdout
  /-- Files in a directory. -/
  | file (directory : Path)
  deriving Repr, DecidableEq

namespace Mode

/-- Whether two modes lead to the same place. -/
def same : Mode → Mode → Bool
  | .stdout, .stdout => true
  | .file first, .file second => first.same second
  | .stdout, .file _ | .file _, .stdout => false

/-- The text that shows a mode with all that belongs to it. -/
def literal : Mode → List Char
  | .stdout =>
      "Stdout".toList
  | .file directory =>
      "File \x7b directory: ".toList ++ directory.literal ++ " \x7d".toList

end Mode

end SheetLint.Monitoring
