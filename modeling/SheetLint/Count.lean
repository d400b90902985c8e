namespace SheetLint

/-!
# Count phrases
-/

/-- A count and its noun, which takes an `s` unless the count is one. -/
def countPhrase (count : Int) (noun : String) : String :=
  let number := (if count < 0 then "-" else "") ++ Nat.repr count.natAbs
  if count = 1 then
    number ++ " " ++ noun
  else
    number ++ " " ++ noun ++ "s"

end SheetLint
