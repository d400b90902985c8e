import Mathlib.Data.List.Forall2
import SheetLint.Proofs.Json.Whole

namespace SheetLint.Json

/-!
# The order of fields

An object says the same in whatever order its fields are written, as long as no
key is written twice.  `Reordered` relates values that differ in this order
only, at any depth.
-/

/-- In every object in the value, at any depth, the keys differ. -/
inductive DistinctKeys : Json → Prop where
  | null : DistinctKeys .null
  | bool (value : Bool) : DistinctKeys (.bool value)
  | number (value : Number) : DistinctKeys (.number value)
  | text (value : String) : DistinctKeys (.text value)
  | array {items : List Json} :
      (∀ item ∈ items, DistinctKeys item) →
      DistinctKeys (.array items)
  | object {fields : List (String × Json)} :
      (fields.map (·.1)).Nodup →
      (∀ field ∈ fields, DistinctKeys field.2) →
      DistinctKeys (.object fields)

@[simp] theorem distinctKeys_array_iff
    {items : List Json} :
    DistinctKeys (.array items) ↔ ∀ item ∈ items, DistinctKeys item := by
  constructor
  · intro distinct
    cases distinct with
    | array each =>
        exact each
  · exact .array

@[simp] theorem distinctKeys_object_iff
    {fields : List (String × Json)} :
    DistinctKeys (.object fields) ↔
      (fields.map (·.1)).Nodup ∧ ∀ field ∈ fields, DistinctKeys field.2 := by
  constructor
  · intro distinct
    cases distinct with
    | object keysDiffer each =>
        exact ⟨keysDiffer, each⟩
  · rintro ⟨keysDiffer, each⟩
    exact .object keysDiffer each

attribute [simp] DistinctKeys.null DistinctKeys.bool DistinctKeys.number
  DistinctKeys.text

/-- Two fields with one key and related values. -/
inductive SameKey (related : Json → Json → Prop) :
    String × Json → String × Json → Prop where
  | mk (key : String) {value other : Json} :
      related value other →
      SameKey related (key, value) (key, other)

/-- Two values that differ in the order of the fields of objects only. -/
inductive Reordered : Json → Json → Prop where
  | null : Reordered .null .null
  | bool (value : Bool) : Reordered (.bool value) (.bool value)
  | number (value : Number) : Reordered (.number value) (.number value)
  | text (value : String) : Reordered (.text value) (.text value)
  | array {items others : List Json} :
      List.Forall₂ Reordered items others →
      Reordered (.array items) (.array others)
  | object {fields inOrder others : List (String × Json)} :
      List.Forall₂ (SameKey Reordered) fields inOrder →
      inOrder.Perm others →
      Reordered (.object fields) (.object others)

/--
What stands in the first of two related lists has its counterpart in the second.
-/
theorem exists_counterpart
    {α : Type}
    {related : α → α → Prop}
    {items others : List α}
    (pairs : List.Forall₂ related items others)
    {item : α}
    (stands : item ∈ items) :
    ∃ other ∈ others, related item other := by
  induction pairs with
  | nil =>
      contradiction
  | cons first _ inductionHypothesis =>
      rcases List.mem_cons.mp stands with isFirst | isLater
      · exact ⟨_, List.mem_cons_self, isFirst ▸ first⟩
      · obtain ⟨other, stands, isRelated⟩ := inductionHypothesis isLater
        exact ⟨other, List.mem_cons_of_mem _ stands, isRelated⟩

theorem keys_eq_of_sameKey
    {related : Json → Json → Prop}
    {fields others : List (String × Json)}
    (pairs : List.Forall₂ (SameKey related) fields others) :
    fields.map (·.1) = others.map (·.1) := by
  induction pairs with
  | nil =>
      rfl
  | cons first _ inductionHypothesis =>
      cases first
      simp [inductionHypothesis]

/-- Under a key that does not stand there, no value does. -/
theorem field_not_mem
    {key : String}
    {fields : List (String × Json)}
    (absent : key ∉ fields.map (·.1))
    (value : Json) :
    (key, value) ∉ fields :=
  fun stands => absent (List.mem_map.mpr ⟨_, stands, rfl⟩)

/-- Where the keys differ, every field counts. -/
theorem settled_of_nodup
    {fields : List (String × Json)}
    (distinct : (fields.map (·.1)).Nodup) :
    settled fields = fields := by
  induction fields with
  | nil =>
      rfl
  | cons field rest inductionHypothesis =>
      obtain ⟨isNew, restDistinct⟩ := List.nodup_cons.mp distinct
      have notAgain : ¬ (rest.any (·.1 == field.1)) = true := by
        intro again
        obtain ⟨other, isLater, same⟩ := List.any_eq_true.mp again
        exact isNew (List.mem_map.mpr ⟨other, isLater, beq_iff_eq.mp same⟩)
      rw [settled, if_neg notAgain, inductionHypothesis restDistinct]

/-- Where the keys differ, looking up a key finds its field. -/
theorem lookup?_cons
    {key name : String}
    {value : Json}
    {rest : List (String × Json)}
    (distinct : (((name, value) :: rest).map (·.1)).Nodup) :
    lookup? key ((name, value) :: rest) =
      if name = key then some value else lookup? key rest := by
  have restDistinct : (rest.map (·.1)).Nodup :=
    (List.nodup_cons.mp distinct).2
  rw [lookup?, settled_of_nodup distinct, lookup?,
    settled_of_nodup restDistinct]
  by_cases same : name = key <;>
    simp [same]

/-- Where the keys differ, what counts under a key is what stands there. -/
theorem lookup?_eq_some_iff
    {key : String}
    {fields : List (String × Json)}
    (distinct : (fields.map (·.1)).Nodup)
    {value : Json} :
    lookup? key fields = some value ↔ (key, value) ∈ fields := by
  induction fields with
  | nil =>
      simp [lookup?, settled]
  | cons field rest inductionHypothesis =>
      obtain ⟨name, first⟩ := field
      obtain ⟨isNew, restDistinct⟩ := List.nodup_cons.mp distinct
      rw [lookup?_cons distinct, List.mem_cons, Prod.mk.injEq]
      by_cases same : name = key
      · subst same
        have notLater : (name, value) ∉ rest :=
          field_not_mem isNew value
        simp [notLater, eq_comm]
      · simp [same, Ne.symm same, inductionHypothesis restDistinct]

theorem lookup?_of_perm
    {fields others : List (String × Json)}
    (permuted : fields.Perm others)
    (distinct : (others.map (·.1)).Nodup)
    (key : String) :
    lookup? key fields = lookup? key others := by
  have fieldsDistinct : (fields.map (·.1)).Nodup :=
    ((permuted.map (·.1)).nodup_iff).mpr distinct
  ext value
  rw [lookup?_eq_some_iff fieldsDistinct, lookup?_eq_some_iff distinct,
    permuted.mem_iff]

theorem lookup?_of_sameKey
    {related : Json → Json → Prop}
    {fields others : List (String × Json)}
    (pairs : List.Forall₂ (SameKey related) fields others)
    (distinct : (fields.map (·.1)).Nodup)
    (key : String) :
    Option.Rel related (lookup? key fields) (lookup? key others) := by
  have othersDistinct : (others.map (·.1)).Nodup :=
    keys_eq_of_sameKey pairs ▸ distinct
  induction pairs with
  | nil =>
      exact .none
  | cons first pairs inductionHypothesis =>
      cases first with
      | mk name isRelated =>
          rw [lookup?_cons distinct, lookup?_cons othersDistinct]
          split
          · exact .some isRelated
          · exact inductionHypothesis (List.nodup_cons.mp distinct).2
              (List.nodup_cons.mp othersDistinct).2

/--
What counts under a key of a value with distinct keys has distinct keys itself.
-/
theorem DistinctKeys.of_lookup?
    {key : String}
    {fields : List (String × Json)}
    {value : Json}
    (distinct : DistinctKeys (.object fields))
    (found : lookup? key fields = some value) :
    DistinctKeys value := by
  cases distinct with
  | object keysDiffer each =>
      exact each (key, value) ((lookup?_eq_some_iff keysDiffer).mp found)

namespace Reordered

protected theorem refl (value : Json) : Reordered value value := by
  induction value with
  | null => exact .null
  | bool value => exact .bool value
  | number value => exact .number value
  | text value => exact .text value
  | array items inductionHypothesis =>
      exact .array (List.forall₂_same.mpr inductionHypothesis)
  | object fields inductionHypothesis =>
      refine .object (List.forall₂_same.mpr fun field stands => ?_) .rfl
      exact .mk field.1 (inductionHypothesis field stands)

/-- The fields of an object may be permuted. -/
theorem of_perm
    {fields others : List (String × Json)}
    (permuted : fields.Perm others) :
    Reordered (.object fields) (.object others) := by
  refine .object (List.forall₂_same.mpr fun field _ => ?_) permuted
  exact .mk field.1 (.refl field.2)

section

variable {value other : Json}

theorem eq_text_iff
    (reordered : Reordered value other)
    {content : String} :
    value = .text content ↔ other = .text content := by
  cases reordered <;>
    simp

/-- An object with one field that holds null can be written in one way only. -/
theorem eq_single_null_iff
    (reordered : Reordered value other)
    {key : String} :
    value = .object [(key, .null)] ↔ other = .object [(key, .null)] := by
  cases reordered with
  | object pairs permuted =>
      constructor
      · rintro ⟨⟩
        rcases pairs with _ | ⟨⟨_, ⟨⟩⟩, ⟨⟩⟩
        rw [← permuted.singleton_eq]
      · rintro ⟨⟩
        obtain rfl := List.perm_singleton.mp permuted
        rcases pairs with _ | ⟨⟨_, ⟨⟩⟩, ⟨⟩⟩
        rfl
  | _ =>
      simp

/-- Keys that differ in one order differ in every order. -/
theorem distinctKeys
    (reordered : Reordered value other)
    (distinct : DistinctKeys other) :
    DistinctKeys value := by
  induction value generalizing other with
  | array items inductionHypothesis =>
      cases reordered with
      | array pairs =>
          cases distinct with
          | array each =>
              refine .array fun item stands => ?_
              obtain ⟨counterpart, otherStands, related⟩ :=
                exists_counterpart pairs stands
              exact inductionHypothesis item stands related
                (each counterpart otherStands)
  | object fields inductionHypothesis =>
      cases reordered with
      | object pairs permuted =>
          cases distinct with
          | object keysDiffer each =>
              refine .object ?_ fun field stands => ?_
              · rw [keys_eq_of_sameKey pairs]
                exact ((permuted.map (·.1)).nodup_iff).mpr keysDiffer
              · obtain ⟨counterpart, otherStands, related⟩ :=
                  exists_counterpart pairs stands
                cases related with
                | mk key related =>
                    exact inductionHypothesis _ stands related
                      (each _ (permuted.mem_iff.mp otherStands))
  | _ =>
      cases reordered
      exact distinct

end

/-- The values that count under a key are reordered as well. -/
theorem lookup?_rel
    {fields others : List (String × Json)}
    (reordered : Reordered (.object fields) (.object others))
    (distinct : DistinctKeys (.object others))
    (key : String) :
    Option.Rel Reordered (Json.lookup? key fields)
      (Json.lookup? key others) := by
  cases reordered with
  | object pairs permuted =>
      cases distinct with
      | object keysDiffer _ =>
          rw [← lookup?_of_perm permuted keysDiffer]
          apply lookup?_of_sameKey pairs
          rw [keys_eq_of_sameKey pairs]
          exact ((permuted.map (·.1)).nodup_iff).mpr keysDiffer

end Reordered

end SheetLint.Json
