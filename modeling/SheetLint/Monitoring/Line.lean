import SheetLint.Trace.Event

namespace SheetLint.Monitoring

/-!
# Log lines

A log line has the time, the level, the target, the message and the fields of an
event.  In a file it is plain; on a terminal its parts are set apart by styles.
-/

/-- The name of a level, set to the right in five columns. -/
def levelColumn (level : Trace.Level) : List Char :=
  List.replicate (5 - level.name.length) ' ' ++ level.name.toList

/-- The line of an event in a file. -/
def plainLine (time : List Char) (event : Trace.Event) : List Char :=
  time ++ ' ' :: levelColumn event.level ++ ' ' :: event.target.toList ++
    ':' :: ' ' :: event.message.toList ++
    event.fields.flatMap fun field =>
      ' ' :: field.1.toList ++ '=' :: field.2.toList

/-- The start of a style, or with the code zero the end of all. -/
def style (code : String) : List Char :=
  '\x1b' :: '[' :: (code.toList ++ ['m'])

/-- A text in a style. -/
def styled (code : String) (text : List Char) : List Char :=
  style code ++ text ++ style "0"

/-- The code of the faint style. -/
def faint : String := "2"

/-- The code of the italic style. -/
def italic : String := "3"

/-- The code of the colour of a level. -/
def levelStyle : Trace.Level → String
  | .trace => "35"
  | .debug => "34"
  | .info => "32"
  | .warn => "33"
  | .error => "31"

/-- The line of an event on a terminal. -/
def styledLine (time : List Char) (event : Trace.Event) : List Char :=
  styled faint time ++ ' ' ::
    styled (levelStyle event.level) (levelColumn event.level) ++ ' ' ::
    styled faint event.target.toList ++ styled faint [':'] ++ ' ' ::
    event.message.toList ++
    event.fields.flatMap fun field =>
      ' ' :: styled italic field.1.toList ++ styled faint ['='] ++
        field.2.toList

end SheetLint.Monitoring
