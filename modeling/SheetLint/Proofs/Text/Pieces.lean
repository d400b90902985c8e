import SheetLint.Text.Pieces

namespace SheetLint.Text

/-!
# Pieces and lines of texts put together

A separator ends a piece whatever stands before and behind it.  For a log this
means that its lines are those of its records, one after the other, and that a
record is one line unless a line feed stands inside it.
-/

section

variable {α : Type} [DecidableEq α]

theorem pieces_append
    (separator : α)
    (first rest : List α) :
    pieces separator (first ++ separator :: rest) =
      pieces separator first ++ pieces separator rest := by
  induction first with
  | nil =>
      simp [pieces]
  | cons item items inductionHypothesis =>
      rw [List.cons_append, pieces, pieces, inductionHypothesis]
      by_cases separates : item = separator
      · rw [if_pos separates, if_pos separates, List.cons_append]
      · rw [if_neg separates, if_neg separates]
        cases shape : pieces separator items with
        | nil =>
            exact absurd shape (pieces_ne_nil separator items)
        | cons piece more =>
            rfl

theorem pieces_of_not_mem
    {separator : α}
    {items : List α}
    (absent : separator ∉ items) :
    pieces separator items = [items] := by
  induction items with
  | nil =>
      rfl
  | cons item rest inductionHypothesis =>
      obtain ⟨differs, absent⟩ := List.ne_and_not_mem_of_not_mem_cons absent
      rw [pieces, if_neg (Ne.symm differs), inductionHypothesis absent]

end

/-- A line as it is read, without the carriage return at its end. -/
def withoutReturn (line : List Char) : List Char :=
  if line.getLast? = some '\r' then line.dropLast else line

theorem lines_append_feed (first rest : List Char) :
    lines (first ++ '\n' :: rest) =
      (pieces '\n' first).map withoutReturn ++ lines rest := by
  have someRest : pieces '\n' rest ≠ [] :=
    pieces_ne_nil '\n' rest
  have last :
      (pieces '\n' first ++ pieces '\n' rest).getLast? =
        (pieces '\n' rest).getLast? := by
    rw [List.getLast?_append, List.getLast?_eq_some_getLast someRest,
      Option.some_or]
  simp only [lines, pieces_append, List.dropLast_append_of_ne_nil someRest,
    last, List.map_append, List.append_assoc]
  rfl

/-- A record that ends in a line feed gives its own lines. -/
theorem lines_record (record : List Char) :
    lines (record ++ ['\n']) = (pieces '\n' record).map withoutReturn := by
  rw [lines_append_feed]
  exact List.append_nil _

/-- The lines of records are those of each record, in order. -/
theorem lines_flatMap
    {α : Type}
    (record : α → List Char)
    (items : List α) :
    lines (items.flatMap fun item => record item ++ ['\n']) =
      items.flatMap fun item => lines (record item ++ ['\n']) := by
  induction items with
  | nil =>
      rfl
  | cons item rest inductionHypothesis =>
      rw [List.flatMap_cons, List.flatMap_cons, List.append_assoc,
        List.singleton_append, lines_append_feed, inductionHypothesis,
        lines_record]

/-- A record without a line feed inside is one line. -/
theorem lines_of_unbroken
    {record : List Char}
    (unbroken : '\n' ∉ record) :
    lines (record ++ ['\n']) = [withoutReturn record] := by
  rw [lines_record, pieces_of_not_mem unbroken, List.map_singleton]

end SheetLint.Text
