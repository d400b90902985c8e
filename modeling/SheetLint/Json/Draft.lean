import SheetLint.Json.Lexer

namespace SheetLint.Json

/-!
# Drafts: what a text says before its first fault

A reader reports the first problem of a text, be it a fault of form or a value
of the wrong kind.  So that readers can walk over a tree all the same, a text is
read into a draft: the tree of all that stands before the first fault, in which
every array and object records whether its end was reached.  A reader that walks
a draft in text order meets the problems in the order in which the text has
them.

The draft is built by a machine that takes one lexeme at a time; the arrays and
objects that are open around the present place are its stack.
-/

/-- The kind of a value as a message names it. -/
inductive Found where
  | null
  | bool (value : Bool)
  | number (value : Number)
  | text (value : String)
  | sequence
  | map
  deriving Repr, DecidableEq

/-- A value as far as the text gives it. -/
inductive Draft where
  | null
  | bool (value : Bool)
  | number (value : Option Number)
  | text (value : Option String)
  | array (items : List Draft) (whole : Bool)
  | object (fields : List (Option String × Draft)) (whole : Bool)
  /-- The place where a value is due and none can be read. -/
  | missing
  deriving Repr, Inhabited

/-- An open array or object, with its items or fields so far in reverse. -/
inductive Frame where
  | items (before : List Draft)
  | fields (before : List (Option String × Draft)) (key : Option String)
  deriving Repr

/-- What may come next inside the innermost open array or object. -/
inductive Due where
  | value
  /-- The first item of an array, or its end. -/
  | firstItem
  /-- The first key of an object, or its end. -/
  | firstKey
  /-- A further key after a comma. -/
  | key (before : List (Option String × Draft))
  | colon (before : List (Option String × Draft)) (key : Option String)
  /-- A value has just been read; a comma or an end follows. -/
  | after (value : Draft)
  deriving Repr

/--
The reading of a value from lexemes: what is due, inside which open arrays and
objects.
-/
structure Assembly where
  due : Due
  around : List Frame
  deriving Repr

namespace Assembly

/-- The state after a lexeme that must begin a value. -/
def startValue (frames : List Frame) : Lexeme → Option Assembly
  | .null => some ⟨.after .null, frames⟩
  | .bool value => some ⟨.after (.bool value), frames⟩
  | .number value => some ⟨.after (.number value), frames⟩
  | .text value => some ⟨.after (.text value), frames⟩
  | .openArray => some ⟨.firstItem, frames⟩
  | .openObject => some ⟨.firstKey, frames⟩
  | .closeArray | .closeObject | .comma | .colon | .bad => none

/-- The state after one lexeme; none where the lexeme may not stand. -/
def step (assembly : Assembly) (lexeme : Lexeme) : Option Assembly :=
  match assembly.due, assembly.around, lexeme with
  | .value, frames, lexeme =>
      startValue frames lexeme
  | .firstItem, frames, .closeArray =>
      some ⟨.after (.array [] true), frames⟩
  | .firstItem, frames, lexeme =>
      startValue (.items [] :: frames) lexeme
  | .firstKey, frames, .closeObject =>
      some ⟨.after (.object [] true), frames⟩
  | .firstKey, frames, .text key =>
      some ⟨.colon [] key, frames⟩
  | .key before, frames, .text key =>
      some ⟨.colon before key, frames⟩
  | .colon before key, frames, .colon =>
      some ⟨.value, .fields before key :: frames⟩
  | .after value, .items before :: frames, .comma =>
      some ⟨.value, .items (value :: before) :: frames⟩
  | .after value, .items before :: frames, .closeArray =>
      some ⟨.after (.array (value :: before).reverse true), frames⟩
  | .after value, .fields before key :: frames, .comma =>
      some ⟨.key ((key, value) :: before), frames⟩
  | .after value, .fields before key :: frames, .closeObject =>
      some ⟨.after (.object ((key, value) :: before).reverse true), frames⟩
  | _, _, _ =>
      none

/-- The value that was read, once nothing is open around it. -/
def result? (assembly : Assembly) : Option Draft :=
  match assembly.due, assembly.around with
  | .after value, [] => some value
  | _, _ => none

/-- The draft of the innermost value when reading stops. -/
def innermost : Due → Draft
  | .value => .missing
  | .firstItem => .array [] false
  | .firstKey => .object [] false
  | .key before => .object before.reverse false
  | .colon before key => .object ((key, .missing) :: before).reverse false
  | .after value => value

/--
Put a value into the open arrays and objects around it and leave these
unfinished.
-/
def leaveOpen (value : Draft) : List Frame → Draft
  | [] =>
      value
  | .items before :: frames =>
      leaveOpen (.array (value :: before).reverse false) frames
  | .fields before key :: frames =>
      leaveOpen (.object ((key, value) :: before).reverse false) frames

/-- The draft when reading stops. -/
def abandon (assembly : Assembly) : Draft :=
  leaveOpen (innermost assembly.due) assembly.around

/-- Read one value; what follows it is left over. -/
def run (assembly : Assembly) (lexemes : List Lexeme) : Draft × List Lexeme :=
  match assembly.result? with
  | some value =>
      (value, lexemes)
  | none =>
      match lexemes with
      | [] =>
          (assembly.abandon, [])
      | lexeme :: rest =>
          match assembly.step lexeme with
          | some next =>
              next.run rest
          | none =>
              (assembly.abandon, lexeme :: rest)
termination_by structural lexemes

end Assembly

namespace Draft

/--
The draft of the first value of a list of lexemes, and the lexemes behind it.
-/
def ofLexemes (lexemes : List Lexeme) : Draft × List Lexeme :=
  Assembly.run ⟨.value, []⟩ lexemes

/-- Whether the text gives the value to its end. -/
def isWhole : Draft → Bool
  | .array _ whole | .object _ whole => whole
  | .missing => false
  | .null | .bool _ | .number _ | .text _ => true

/--
The kind of a value that can be told; an array or object shows its kind at its
first mark.
-/
def found? : Draft → Option Found
  | .null => some .null
  | .bool value => some (.bool value)
  | .number value => value.map .number
  | .text value => value.map .text
  | .array _ _ => some .sequence
  | .object _ _ => some .map
  | .missing => none

mutual

/--
The value of a draft that is whole, has no number out of range and no broken
string, and nests arrays and objects at most `room` deep.
-/
def value? : Draft → Nat → Option Json
  | .null, _ => some .null
  | .bool value, _ => some (.bool value)
  | .number value, _ => value.map .number
  | .text value, _ => value.map .text
  | .array items true, room + 1 => (itemValues? items room).map .array
  | .object fields true, room + 1 => (fieldValues? fields room).map .object
  | .array _ _, _ => none
  | .object _ _, _ => none
  | .missing, _ => none

/-- The values of the items of an array. -/
def itemValues? : List Draft → Nat → Option (List Json)
  | [], _ => some []
  | item :: rest, room =>
      match item.value? room, itemValues? rest room with
      | some value, some values => some (value :: values)
      | _, _ => none

/-- The values of the fields of an object. -/
def fieldValues? :
    List (Option String × Draft) → Nat → Option (List (String × Json))
  | [], _ => some []
  | (key, field) :: rest, room =>
      match key, field.value? room, fieldValues? rest room with
      | some key, some value, some values => some ((key, value) :: values)
      | _, _, _ => none

end

end Draft

/-- The value that a text denotes, if it is the text of one value. -/
def read? (text : List Char) : Option Json :=
  match Draft.ofLexemes (lex text) with
  | (draft, []) => draft.value? nestingLimit
  | (_, _ :: _) => none

end SheetLint.Json
