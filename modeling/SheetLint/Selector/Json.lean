import SheetLint.Json.Printer
import SheetLint.Json.Problem
import SheetLint.Selector.Token

namespace SheetLint.Selector

/-!
# Selector tokens in JSON

A token is an object with the field `type`, which names the kind of the token,
and the field `value`, which holds the text of a literal.  An array of the two
values in this order is read as well.  There are two readers: one for a text,
which stops at the first problem, and one for a value that is complete.
-/

open Json (Draft Reading)

/-- The kinds of a token. -/
inductive Kind where
  | literal
  | interpolation
  deriving Repr, DecidableEq

namespace Kind

/-- The name of a kind in JSON. -/
def name : Kind → String
  | .literal => "literal"
  | .interpolation => "interpolation"

/-- The kinds by their names. -/
def variants : Json.Variants Kind where
  all := [.literal, .interpolation]
  name := name
  mem_all kind := by
    cases kind <;> decide
  eq_of_name_eq first second := by
    cases first <;> cases second <;> decide

/-- The kind with the given name. -/
def ofName : String → Reading Kind :=
  variants.read

/--
The kind in the field of a draft: its name, or an object whose only field has
that name and holds null.
-/
def ofDraft : Draft → Reading Kind
  | .text (some name) =>
      ofName name
  | .object ((some name, field) :: rest) whole =>
      match ofName name, field with
      | .error problem, _ =>
          .error problem
      | .ok kind, .null =>
          if rest.isEmpty && whole then .ok kind else .error .malformed
      | .ok _, field =>
          field.mistyped "unit"
  | _ =>
      .error .malformed

/-- The kind in the field of a complete object, in one of the same two forms. -/
def ofValue : Json → Reading Kind
  | .text name =>
      ofName name
  | .object fields =>
      match Json.settled fields with
      | [(name, value)] =>
          match ofName name, value with
          | .error problem, _ =>
              .error problem
          | .ok kind, .null =>
              .ok kind
          | .ok _, value =>
              Json.mistyped "unit" value.found
      | _ =>
          .error (.refused (.wrongValue .map "map with a single key"))
  | value =>
      Json.mistyped "string or map" value.found

/-- The kind at the head of a draft array: its name. -/
def ofDraftItem : Draft → Reading Kind
  | .text (some name) =>
      ofName name
  | draft =>
      draft.mistyped "variant identifier"

/-- The kind at the head of a complete array: its name. -/
def ofItem : Json → Reading Kind
  | .text name =>
      ofName name
  | value =>
      Json.mistyped "variant identifier" value.found

end Kind

namespace Token

/-- The name of the field that holds the kind. -/
def kindField : String := "type"

/-- The name of the field that holds the text. -/
def textField : String := "value"

/-- What a token is read from, as messages call it. -/
def expected : String := "adjacently tagged enum SelectorToken"

/--
What stands in the place of a text beside an interpolation, as messages call it.
-/
def expectedNothing : String := "unit variant SelectorToken::Interpolation"

/-- The JSON form of a token. -/
def toJson : Token → Json
  | .literal text =>
      .object [(kindField, .text Kind.literal.name), (textField, .text text)]
  | .interpolation =>
      .object [(kindField, .text Kind.interpolation.name)]

/-- The compact JSON text of a list of tokens. -/
def writeList (tokens : List Token) : List Char :=
  (Json.array (tokens.map toJson)).write

/-- The token of a kind beside which no value stands. -/
def ofKind : Kind → Reading Token
  | .literal =>
      .error (.refused (.missingField textField))
  | .interpolation =>
      .ok .interpolation

/-- The token of a kind and the complete value beside it. -/
def ofKindAndValue : Kind → Json → Reading Token
  | .literal, .text text =>
      .ok (.literal text)
  | .literal, value =>
      Json.mistyped "a string" value.found
  | .interpolation, .null =>
      .ok .interpolation
  | .interpolation, value =>
      Json.mistyped expectedNothing value.found

/-- The token of a kind and the draft beside it. -/
def ofKindAndDraft : Kind → Draft → Reading Token
  | .literal, .text (some text) =>
      .ok (.literal text)
  | .literal, draft =>
      draft.mistyped "a string"
  | .interpolation, .null =>
      .ok .interpolation
  | .interpolation, draft =>
      draft.mistyped expectedNothing

/-! ## Reading from a text -/

/-- The fields behind the two that make up the token; neither may come again. -/
def afterBoth (token : Token) :
    List (Option String × Draft) → Bool → Reading Token
  | [], whole =>
      if whole then .ok token else .error .malformed
  | (none, _) :: _, _ =>
      .error .malformed
  | (some key, field) :: rest, whole =>
      if key = kindField || key = textField then
        .error (.refused (.duplicateField key))
      else if field.isWhole then
        afterBoth token rest whole
      else
        .error .malformed

/-- The fields behind the kind. -/
def afterKind (kind : Kind) :
    List (Option String × Draft) → Bool → Reading Token
  | [], whole =>
      if whole then ofKind kind else .error .malformed
  | (none, _) :: _, _ =>
      .error .malformed
  | (some key, field) :: rest, whole =>
      if key = kindField then
        .error (.refused (.duplicateField key))
      else if key = textField then
        match ofKindAndDraft kind field with
        | .error problem =>
            .error problem
        | .ok token =>
            afterBoth token rest whole
      else if field.isWhole then
        afterKind kind rest whole
      else
        .error .malformed

/-- The fields behind the value, which is kept until the kind is known. -/
def afterValue (value : Json) :
    List (Option String × Draft) → Bool → Reading Token
  | [], whole =>
      if whole then
        .error (.refused (.missingField kindField))
      else
        .error .malformed
  | (none, _) :: _, _ =>
      .error .malformed
  | (some key, field) :: rest, whole =>
      if key = textField then
        .error (.refused (.duplicateField key))
      else if key = kindField then
        match Kind.ofDraft field with
        | .error problem =>
            .error problem
        | .ok kind =>
            match ofKindAndValue kind value with
            | .error problem =>
                .error problem
            | .ok token =>
                afterBoth token rest whole
      else if field.isWhole then
        afterValue value rest whole
      else
        .error .malformed

/-- The nesting that is left for a value inside a token inside a list. -/
def innerRoom : Nat := Json.nestingLimit - 2

/-- The fields of a token in text order. -/
def ofDraftFields : List (Option String × Draft) → Bool → Reading Token
  | [], whole =>
      if whole then
        .error (.refused (.missingField kindField))
      else
        .error .malformed
  | (none, _) :: _, _ =>
      .error .malformed
  | (some key, field) :: rest, whole =>
      if key = kindField then
        match Kind.ofDraft field with
        | .error problem =>
            .error problem
        | .ok kind =>
            afterKind kind rest whole
      else if key = textField then
        match field.value? innerRoom with
        | none =>
            .error .malformed
        | some value =>
            afterValue value rest whole
      else if field.isWhole then
        ofDraftFields rest whole
      else
        .error .malformed

/-- Refuse a token that is written with too few items. -/
def tooShort (count : Nat) (whole : Bool) : Reading Token :=
  if whole then
    .error (.refused (.wrongLength count expected))
  else
    .error .malformed

/-- The items of a token that is written as an array, in text order. -/
def ofDraftItems (items : List Draft) (whole : Bool) : Reading Token :=
  match items with
  | [] =>
      tooShort 0 whole
  | first :: rest =>
      match Kind.ofDraftItem first, rest with
      | .error problem, _ =>
          .error problem
      | .ok _, [] =>
          tooShort 1 whole
      | .ok kind, second :: more =>
          match ofKindAndDraft kind second with
          | .error problem =>
              .error problem
          | .ok token =>
              if more.isEmpty && whole then .ok token else .error .malformed

/-- The token of a draft. -/
def ofDraft : Draft → Reading Token
  | .object fields whole =>
      ofDraftFields fields whole
  | .array items whole =>
      ofDraftItems items whole
  | draft =>
      draft.mistyped expected

/-- The tokens that a JSON text denotes. -/
def readText (text : List Char) : Reading (List Token) :=
  Draft.readArrayText ofDraft text

/-! ## Reading from a complete value -/

/-- The token of the fields of a complete object. -/
def ofFields (fields : List (String × Json)) : Reading Token :=
  match Json.lookup? kindField fields with
  | none =>
      .error (.refused (.missingField kindField))
  | some value =>
      match Kind.ofValue value, Json.lookup? textField fields with
      | .error problem, _ =>
          .error problem
      | .ok kind, none =>
          ofKind kind
      | .ok kind, some text =>
          ofKindAndValue kind text

/-- The token of the items of a complete array; a third item is one too many. -/
def ofItems (items : List Json) : Reading Token :=
  match items with
  | [] =>
      tooShort 0 true
  | first :: rest =>
      match Kind.ofItem first, rest with
      | .error problem, _ =>
          .error problem
      | .ok _, [] =>
          tooShort 1 true
      | .ok kind, second :: more =>
          match ofKindAndValue kind second with
          | .error problem =>
              .error problem
          | .ok token =>
              if more.isEmpty then
                .ok token
              else
                .error (.refused
                  (.wrongLength items.length "fewer elements in array"))

/-- The token of a complete value. -/
def ofJson : Json → Reading Token
  | .object fields =>
      ofFields fields
  | .array items =>
      ofItems items
  | value =>
      Json.mistyped expected value.found

/-- The tokens of a list of complete values, up to the first that is none. -/
def ofJsonList : List Json → Reading (List Token)
  | [] =>
      .ok []
  | item :: rest =>
      match ofJson item with
      | .error problem =>
          .error problem
      | .ok token =>
          match ofJsonList rest with
          | .error problem =>
              .error problem
          | .ok tokens =>
              .ok (token :: tokens)

/-- The tokens of a complete value. -/
def readValue : Json → Reading (List Token)
  | .array items =>
      ofJsonList items
  | value =>
      Json.mistyped "a sequence" value.found

end Token

end SheetLint.Selector
