import Mathlib.Data.List.Forall2
import SheetLint.Proofs.Json.Whole

namespace SheetLint.Json

/-!
# Reading the items of an array

An array is read item by item.  Where each item is read exactly for what it
stands for, the array is read exactly for the list of what its items stand for,
and so is a text that denotes the array.
-/

/--
The items of a list stand for some list exactly if each of them stands for
something.
-/
theorem exists_forall₂_iff
    {α β : Type}
    {standsFor : α → β → Prop}
    {items : List β} :
    (∃ values, List.Forall₂ standsFor values items) ↔
      ∀ item ∈ items, ∃ value, standsFor value item := by
  induction items with
  | nil =>
      simp
  | cons item rest inductionHypothesis =>
      rw [List.forall_mem_cons, ← inductionHypothesis]
      constructor
      · rintro ⟨values, pairs⟩
        cases pairs with
        | cons first others =>
            exact ⟨⟨_, first⟩, _, others⟩
      · rintro ⟨⟨value, first⟩, values, others⟩
        exact ⟨value :: values, .cons first others⟩

namespace Draft

section

variable
  {α : Type}
  {readItem : Draft → Reading α}
  {standsFor : α → Json → Prop}
  {items : List Json}
  {values : List α}

theorem readItems_ofItems_eq_ok_iff
    (each :
      ∀ item ∈ items, ∀ value,
        readItem (.ofValue item) = .ok value ↔ standsFor value item) :
    readItems readItem (ofItems items) true = .ok values ↔
      List.Forall₂ standsFor values items := by
  induction items generalizing values with
  | nil =>
      simp [ofItems, readItems, eq_comm]
  | cons item rest inductionHypothesis =>
      obtain ⟨first, others⟩ := List.forall_mem_cons.mp each
      simp only [List.forall₂_cons_right_iff, ← first,
        ← inductionHypothesis others, ofItems, readItems]
      cases readItem (.ofValue item) with
      | error problem =>
          simp
      | ok value =>
          cases readItems readItem (ofItems rest) true <;>
            simp [eq_comm]

/--
A text that denotes an array is read as what the items of the array stand for.
-/
theorem readArrayText_eq_ok_iff
    {text : List Char}
    (denotes : read? text = some (.array items))
    (each :
      ∀ item ∈ items,
        item.depth < nestingLimit →
        ∀ value, readItem (.ofValue item) = .ok value ↔ standsFor value item) :
    readArrayText readItem text = .ok values ↔
      List.Forall₂ standsFor values items := by
  obtain ⟨read, fits⟩ := read?_eq_some_iff.mp denotes
  have inLimit (item : Json) (member : item ∈ items) :
      item.depth < nestingLimit := by
    have shallow : item.depth ≤ itemsDepth items :=
      itemsDepth_le_iff.mp (Nat.le_refl _) item member
    exact Nat.lt_of_le_of_lt shallow fits
  rw [← readItems_ofItems_eq_ok_iff fun item member =>
      each item member (inLimit item member),
    readArrayText, read]
  simp only [ofValue]
  cases readItems readItem (ofItems items) true <;>
    simp

end

end Draft

end SheetLint.Json
