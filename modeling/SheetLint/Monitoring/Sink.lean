import SheetLint.Monitoring.FileTree
import SheetLint.Monitoring.Mode

namespace SheetLint.Monitoring

/-!
# Sinks

A sink is what a tracer writes lines to: the terminal, or a log file in a
directory.  Two modes with paths that lead to one directory give two sinks that
are equal, and each takes every line.
-/

/-- Something that lines are written to. -/
inductive Sink where
  | terminal
  /-- The log file in a directory. -/
  | folder (place : Place)
  deriving Repr, DecidableEq

/-- Why no sink can be opened for a mode. -/
inductive SinkFailure where
  | noDirectory (obstacle : Obstacle)
  | noFile (obstacle : Obstacle)
  deriving Repr, DecidableEq

/-- The message about a sink that cannot be opened. -/
def SinkFailure.message : SinkFailure → String
  | .noDirectory obstacle =>
      "failed to create log directory: " ++ obstacle.message
  | .noFile obstacle => "failed to create log file: " ++ obstacle.message

/-- The form of the name of a log file, with its date and hour. -/
def logFileForm : String := "scss-lint-tracing.YYYY-MM-DD-HH"

/--
Open the sink of a mode; a directory is made where it is missing.

The log file is not entered among the files of the tree: its name tells the hour
of the clock, of which the tree knows nothing.  So it is not seen here that a
later mode fails whose path leads through this file, nor that the file cannot be
opened where a directory has its name already.
-/
def openSink (tree : FileTree) : Mode → Except SinkFailure Sink × FileTree
  | .stdout =>
      (.ok .terminal, tree)
  | .file directory =>
      match tree.makeDirectory directory with
      | (.error obstacle, grown) =>
          (.error (.noDirectory obstacle), grown)
      | (.ok place, grown) =>
          if pathLimit ≤ (directory.join logFileForm.toList).bytes.length then
            (.error (.noFile .tooLong), grown)
          else
            (.ok (.folder place), grown)

/-- Open the sinks of modes in order, up to the first that cannot be opened. -/
def openSinks (tree : FileTree) :
    List Mode → Except SinkFailure (List Sink) × FileTree
  | [] =>
      (.ok [], tree)
  | mode :: rest =>
      match openSink tree mode with
      | (.error failure, grown) =>
          (.error failure, grown)
      | (.ok sink, grown) =>
          let (sinks, final) := openSinks grown rest
          (sinks.map (sink :: ·), final)

end SheetLint.Monitoring
