import SheetLint.Json.Number

namespace SheetLint

/-!
# JSON values

The fields of an object keep their written order and may repeat a key; the last
field of a key is the one that counts.
-/

/-- A complete JSON value. -/
inductive Json where
  | null
  | bool (value : Bool)
  | number (value : Json.Number)
  | text (value : String)
  | array (items : List Json)
  | object (fields : List (String × Json))
  deriving Repr, Inhabited

namespace Json

/-- The fields that count: of each key the last one. -/
def settled : List (String × Json) → List (String × Json)
  | [] =>
      []
  | field :: rest =>
      if rest.any (·.1 == field.1) then
        settled rest
      else
        field :: settled rest

/-- The value that counts under `key`. -/
def lookup? (key : String) (fields : List (String × Json)) : Option Json :=
  ((settled fields).find? (·.1 == key)).map (·.2)

/-- The deepest nesting of arrays and objects that is read. -/
def nestingLimit : Nat := 127

end Json

end SheetLint
