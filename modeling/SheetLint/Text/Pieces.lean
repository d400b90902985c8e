namespace SheetLint.Text

/-!
# Pieces between separators
-/

/--
The parts of a list between the occurrences of a separator; there is one more
than of these.
-/
def pieces {α : Type} [DecidableEq α] (separator : α) : List α → List (List α)
  | [] =>
      [[]]
  | item :: rest =>
      if item = separator then
        [] :: pieces separator rest
      else
        match pieces separator rest with
        | [] =>
            [[item]]
        | first :: more =>
            (item :: first) :: more

/-- There is always a piece, if an empty one. -/
theorem pieces_ne_nil {α : Type} [DecidableEq α] (separator : α)
    (items : List α) :
    pieces separator items ≠ [] := by
  induction items with
  | nil =>
      simp [pieces]
  | cons item rest inductionHypothesis =>
      rw [pieces]
      split
      · simp
      · split <;> simp

/--
The lines of a text; an end of line is a line feed with or without a carriage
return.
-/
def lines (text : List Char) : List (List Char) :=
  let parts := pieces '\n' text
  (parts.dropLast.map fun line =>
      if line.getLast? = some '\r' then line.dropLast else line) ++
    parts.getLast?.toList.filter (· ≠ [])

end SheetLint.Text
