import SheetLint.Proofs.Selector.Agreement

namespace SheetLint.Selector.Token

/-!
# Tokens written and read back

The text that is written for a list of tokens denotes the array of their JSON
forms, and each form spells its token.  So the tokens are read back from the
text, whatever stands in their literals.
-/

/-- The JSON form of a token spells it. -/
theorem spelledBy_toJson (token : Token) : token.SpelledBy token.toJson := by
  cases token with
  | literal text =>
      exact .object (.intro .text (.literal text))
  | interpolation =>
      exact .object (.intro .text .interpolation)

theorem distinctKeys_toJson (token : Token) : token.toJson.DistinctKeys := by
  cases token <;>
    simp [toJson, kindField, textField]

theorem depth_toJson (token : Token) : token.toJson.depth = 1 := by
  cases token <;>
    rfl

theorem closed_toJson (token : Token) :
    ∀ lexeme ∈ token.toJson.lexemes, lexeme.isClosed = true := by
  cases token <;>
    simp [toJson, Json.lexemes, Json.fieldLexemes, Json.Lexeme.isClosed]

/-- The written text of tokens denotes the array of their JSON forms. -/
theorem read?_writeList (tokens : List Token) :
    Json.read? (writeList tokens) = some (.array (tokens.map toJson)) := by
  apply Json.read?_write_array
  · exact List.forall_mem_map.mpr fun token _ => closed_toJson token
  · refine List.forall_mem_map.mpr fun token _ => ?_
    rw [depth_toJson]
    decide

theorem allSpelledBy_map_toJson (tokens : List Token) :
    AllSpelledBy tokens (.array (tokens.map toJson)) := by
  rw [allSpelledBy_array_iff, List.forall₂_map_right_iff, List.forall₂_same]
  exact fun token _ => spelledBy_toJson token

/--
Tokens are read back from the text that is written for them, so that no two
lists of tokens have the same text.
-/
theorem readText_writeList (tokens : List Token) :
    readText (writeList tokens) = .ok tokens ∧
      ∀ others, writeList others = writeList tokens ↔ others = tokens := by
  have readBack (written : List Token) :
      readText (writeList written) = .ok written := by
    have distinct : (Json.array (written.map toJson)).DistinctKeys := by
      simp [distinctKeys_toJson]
    exact (readText_eq_ok_iff (read?_writeList written) distinct).mpr
      (allSpelledBy_map_toJson written)
  refine ⟨readBack tokens, fun others => ⟨fun same => ?_, fun same => ?_⟩⟩
  · have both : Except.ok others = Except.ok tokens :=
      calc
        Except.ok others = readText (writeList others) := (readBack others).symm
        _ = readText (writeList tokens) := by rw [same]
        _ = Except.ok tokens := readBack tokens
    exact Except.ok.inj both
  · rw [same]

end SheetLint.Selector.Token
