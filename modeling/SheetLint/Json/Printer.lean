import SheetLint.Json.Lexeme

namespace SheetLint.Json

/-!
# Writing values

A value is written compactly, without gaps: its lexemes one after the other.
-/

mutual

/-- The lexemes of a value. -/
def lexemes : Json → List Lexeme
  | .null => [.null]
  | .bool value => [.bool value]
  | .number value => [.number (some value)]
  | .text value => [.text (some value)]
  | .array items => .openArray :: (itemLexemes items ++ [.closeArray])
  | .object fields => .openObject :: (fieldLexemes fields ++ [.closeObject])

/-- The lexemes of the items of an array, with the commas between them. -/
def itemLexemes : List Json → List Lexeme
  | [] => []
  | [item] => item.lexemes
  | item :: next :: rest => item.lexemes ++ .comma :: itemLexemes (next :: rest)

/-- The lexemes of the fields of an object, with the commas between them. -/
def fieldLexemes : List (String × Json) → List Lexeme
  | [] => []
  | [(key, value)] => .text (some key) :: .colon :: value.lexemes
  | (key, value) :: next :: rest =>
      .text (some key) :: .colon ::
        (value.lexemes ++ .comma :: fieldLexemes (next :: rest))

end

/-- The compact text of a value. -/
def write (value : Json) : List Char :=
  value.lexemes.flatMap Lexeme.write

end SheetLint.Json
