import SheetLint.Text.Pieces
import SheetLint.Trace.Event
import SheetLint.Unicode.Word

namespace SheetLint.Monitoring

/-!
# Filters

A filter is a list of directives, each of which sets the least level of the
events that are logged, for all targets or for those that begin with a given
text.  The longest such text decides, and of two directives for the same text
the later one.
-/

/-- The least level that is logged; none where nothing is. -/
abbrev Threshold : Type := Option Trace.Level

/-- A threshold for the targets that begin with the given text, or for all. -/
structure Directive where
  target : Option (List Char)
  threshold : Threshold
  deriving Repr, DecidableEq

/-- Whether events of a level are logged under a threshold. -/
def Threshold.admits (threshold : Threshold) (level : Trace.Level) : Bool :=
  match threshold with
  | some least => least.weight ≤ level.weight
  | none => false

/-- The number that decimal digits give, with a plus sign or without. -/
def number? (text : List Char) : Option Nat :=
  let digits := if text.head? = some '+' then text.drop 1 else text
  if digits.isEmpty || !digits.all Char.isDigit then
    none
  else
    some (digits.foldl
      (fun value digit => 10 * value + (digit.toNat - '0'.toNat)) 0)

/--
The threshold with the given name in letters of either case, or with the given
number.
-/
def threshold? (name : List Char) : Option Threshold :=
  let named (word : String) (number : Nat) : Bool :=
    name.map Char.toLower = word.toList || number? name = some number
  if named "off" 0 then some none
  else if named "error" 1 then some (some .error)
  else if named "warn" 2 then some (some .warn)
  else if named "info" 3 then some (some .info)
  else if named "debug" 4 then some (some .debug)
  else if named "trace" 5 then some (some .trace)
  else none

/-- Whether a directive may begin with `c`. -/
def startsDirective (c : Char) : Bool :=
  Unicode.isWord c || c == ':' || c == '-'

/--
The directive that a text gives: a threshold alone, or a target, which admits
everything unless a threshold follows it.
-/
def directive? (text : List Char) : Option Directive :=
  if !text.head?.any startsDirective || text.contains '[' then
    none
  else
    match threshold? text with
    | some threshold =>
        some ⟨none, threshold⟩
    | none =>
        let target := text.takeWhile (· ≠ '=')
        match text.drop (target.length + 1) with
        | [] =>
            some ⟨some target, some .trace⟩
        | name =>
            (threshold? name).map (⟨some target, ·⟩)

/-- The directives that decide which events are logged. -/
structure Filter where
  directives : List Directive
  deriving Repr, DecidableEq

namespace Filter

/--
The filter that a variable gives: its directives between commas, of which those
that cannot be read are left out.  Without any, errors are logged.
-/
def ofVariable (value : Option String) : Filter :=
  match (Text.pieces ',' (value.getD "").toList).filterMap directive? with
  | [] => ⟨[⟨none, some .error⟩]⟩
  | directives => ⟨directives⟩

/-- Whether a directive applies to a target. -/
def applies (target : List Char) (directive : Directive) : Bool :=
  match directive.target with
  | none => true
  | some text => text.isPrefixOf target

/-- How specific a directive is. -/
def specificity (directive : Directive) : Nat :=
  match directive.target with
  | none => 0
  | some text => text.length + 1

/--
The more specific of two directives, and the later of two that are equally so.
-/
def prefer (best : Option Directive) (directive : Directive) :
    Option Directive :=
  match best with
  | none => some directive
  | some other =>
      if specificity other ≤ specificity directive then
        some directive
      else
        some other

/-- The directive that decides about a target. -/
def decisive? (filter : Filter) (target : List Char) : Option Directive :=
  (filter.directives.filter (applies target)).foldl prefer none

/-- Whether an event is logged. -/
def admits (filter : Filter) (event : Trace.Event) : Bool :=
  match filter.decisive? event.target.toList with
  | some directive => directive.threshold.admits event.level
  | none => false

end Filter

end SheetLint.Monitoring
