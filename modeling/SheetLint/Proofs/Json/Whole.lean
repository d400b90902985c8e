import SheetLint.Json.Problem

namespace SheetLint.Json

/-!
# Drafts of whole values

A value has one draft that gives it to its end, and this is the only draft that
has the value.  The nesting of the value decides how much room the draft needs
to have it.
-/

/--
What passes from the items and fields of a value to the value holds of all
values.
-/
@[elab_as_elim, induction_eliminator]
theorem inductionOnParts
    {motive : Json → Prop}
    (null : motive .null)
    (bool : ∀ value, motive (.bool value))
    (number : ∀ value, motive (.number value))
    (text : ∀ value, motive (.text value))
    (array :
      ∀ items,
        (∀ item ∈ items, motive item) →
        motive (.array items))
    (object :
      ∀ fields,
        (∀ field ∈ fields, motive field.2) →
        motive (.object fields))
    (value : Json) :
    motive value := by
  refine @Json.rec motive (fun items => ∀ item ∈ items, motive item)
    (fun fields => ∀ field ∈ fields, motive field.2)
    (fun field => motive field.2)
    null bool number text array object ?_ ?_ ?_ ?_ ?_ value
  · simp
  · intro item rest ofItem ofRest
    exact List.forall_mem_cons.mpr ⟨ofItem, ofRest⟩
  · simp
  · intro field rest ofField ofRest
    exact List.forall_mem_cons.mpr ⟨ofField, ofRest⟩
  · intro key value ofValue
    exact ofValue

mutual

/-- How deep arrays and objects stand in each other. -/
def depth : Json → Nat
  | .array items => itemsDepth items + 1
  | .object fields => fieldsDepth fields + 1
  | .null | .bool _ | .number _ | .text _ => 0

/-- The greatest depth of the items of an array. -/
def itemsDepth : List Json → Nat
  | [] => 0
  | item :: rest => max item.depth (itemsDepth rest)

/-- The greatest depth of the fields of an object. -/
def fieldsDepth : List (String × Json) → Nat
  | [] => 0
  | (_, value) :: rest => max value.depth (fieldsDepth rest)

end

theorem itemsDepth_le_iff
    {items : List Json}
    {room : Nat} :
    itemsDepth items ≤ room ↔ ∀ item ∈ items, item.depth ≤ room := by
  induction items with
  | nil =>
      simp [itemsDepth]
  | cons item rest inductionHypothesis =>
      simp only [itemsDepth, Nat.max_le, inductionHypothesis,
        List.forall_mem_cons]

namespace Draft

mutual

/-- The draft of a value that is given to its end. -/
def ofValue : Json → Draft
  | .null => .null
  | .bool value => .bool value
  | .number value => .number (some value)
  | .text value => .text (some value)
  | .array items => .array (ofItems items) true
  | .object fields => .object (ofFields fields) true

/-- The drafts of the items of an array. -/
def ofItems : List Json → List Draft
  | [] => []
  | item :: rest => ofValue item :: ofItems rest

/-- The drafts of the fields of an object, each with its key. -/
def ofFields : List (String × Json) → List (Option String × Draft)
  | [] => []
  | (key, value) :: rest => (some key, ofValue value) :: ofFields rest

end

@[simp] theorem isWhole_ofValue (value : Json) :
    (ofValue value).isWhole = true := by
  cases value <;>
    rfl

theorem value?_array_eq_some_iff
    {items : List Draft}
    {whole : Bool}
    {room : Nat}
    {value : Json} :
    (array items whole).value? room = some value ↔
      whole = true ∧ 0 < room ∧
        (itemValues? items (room - 1)).map .array = some value := by
  cases whole <;> cases room <;>
    simp [value?]

theorem value?_object_eq_some_iff
    {fields : List (Option String × Draft)}
    {whole : Bool}
    {room : Nat}
    {value : Json} :
    (object fields whole).value? room = some value ↔
      whole = true ∧ 0 < room ∧
        (fieldValues? fields (room - 1)).map .object = some value := by
  cases whole <;> cases room <;>
    simp [value?]

/--
The value has one draft only, and this has the value where there is room for its
depth.
-/
def IsOnly (value : Json) : Prop :=
  ∀ {draft : Draft} {room : Nat},
    draft.value? room = some value ↔ draft = ofValue value ∧ value.depth ≤ room

theorem itemValues?_eq_some_iff
    {values : List Json}
    (each : ∀ value ∈ values, IsOnly value)
    {items : List Draft}
    {room : Nat} :
    itemValues? items room = some values ↔
      items = ofItems values ∧ itemsDepth values ≤ room := by
  induction values generalizing items with
  | nil =>
      cases items with
      | nil =>
          simp [itemValues?, ofItems, itemsDepth]
      | cons item items =>
          simp only [itemValues?, ofItems]
          split <;> simp
  | cons value values inductionHypothesis =>
      obtain ⟨first, rest⟩ := List.forall_mem_cons.mp each
      cases items with
      | nil =>
          simp [itemValues?, ofItems]
      | cons item items =>
          have cut :
              itemValues? (item :: items) room = some (value :: values) ↔
                item.value? room = some value ∧
                  itemValues? items room = some values := by
            cases head : item.value? room <;>
              cases tail : itemValues? items room <;>
              simp [itemValues?, head, tail]
          rw [cut, first, inductionHypothesis rest, ofItems, List.cons.injEq,
            itemsDepth, Nat.max_le, and_and_and_comm]

theorem fieldValues?_eq_some_iff
    {values : List (String × Json)}
    (each : ∀ value ∈ values, IsOnly value.2)
    {fields : List (Option String × Draft)}
    {room : Nat} :
    fieldValues? fields room = some values ↔
      fields = ofFields values ∧ fieldsDepth values ≤ room := by
  induction values generalizing fields with
  | nil =>
      cases fields with
      | nil =>
          simp [fieldValues?, ofFields, fieldsDepth]
      | cons field fields =>
          simp only [fieldValues?, ofFields]
          split <;> simp
  | cons value values inductionHypothesis =>
      obtain ⟨first, rest⟩ := List.forall_mem_cons.mp each
      obtain ⟨name, value⟩ := value
      cases fields with
      | nil =>
          simp [fieldValues?, ofFields]
      | cons field fields =>
          obtain ⟨key, field⟩ := field
          have cut :
              fieldValues? ((key, field) :: fields) room =
                  some ((name, value) :: values) ↔
                (key = some name ∧ field.value? room = some value) ∧
                  fieldValues? fields room = some values := by
            cases key <;> cases head : field.value? room <;>
              cases tail : fieldValues? fields room <;>
                simp [fieldValues?, head, tail]
          rw [cut, first, inductionHypothesis rest, ofFields, fieldsDepth,
            Nat.max_le]
          constructor
          · rintro ⟨⟨rfl, rfl, fits⟩, rfl, restFits⟩
            exact ⟨rfl, fits, restFits⟩
          · rintro ⟨same, fits, restFits⟩
            cases same
            exact ⟨⟨rfl, rfl, fits⟩, rfl, restFits⟩

/--
A draft has a value exactly if it is the draft of this value, which fits into
the room.
-/
theorem value?_eq_some_iff (value : Json) : IsOnly value := by
  have inside {room depth : Nat} :
      depth + 1 ≤ room ↔ 0 < room ∧ depth ≤ room - 1 := by
    omega
  induction value with
  | array values inductionHypothesis =>
      intro draft room
      cases draft with
      | array items whole =>
          rw [value?_array_eq_some_iff, ofValue, array.injEq, depth, inside]
          simp only [Option.map_eq_some_iff, Json.array.injEq, exists_eq_right,
            itemValues?_eq_some_iff inductionHypothesis]
          constructor
          · rintro ⟨rfl, hasRoom, rfl, fits⟩
            exact ⟨⟨rfl, rfl⟩, hasRoom, fits⟩
          · rintro ⟨⟨rfl, rfl⟩, hasRoom, fits⟩
            exact ⟨rfl, hasRoom, rfl, fits⟩
      | object fields whole =>
          simp [value?_object_eq_some_iff, ofValue]
      | _ =>
          simp [value?, ofValue]
  | object values inductionHypothesis =>
      intro draft room
      cases draft with
      | object fields whole =>
          rw [value?_object_eq_some_iff, ofValue, object.injEq, depth, inside]
          simp only [Option.map_eq_some_iff, Json.object.injEq, exists_eq_right,
            fieldValues?_eq_some_iff inductionHypothesis]
          constructor
          · rintro ⟨rfl, hasRoom, rfl, fits⟩
            exact ⟨⟨rfl, rfl⟩, hasRoom, fits⟩
          · rintro ⟨⟨rfl, rfl⟩, hasRoom, fits⟩
            exact ⟨rfl, hasRoom, rfl, fits⟩
      | array items whole =>
          simp [value?_array_eq_some_iff, ofValue]
      | _ =>
          simp [value?, ofValue]
  | _ =>
      intro draft room
      cases draft with
      | array items whole =>
          simp [value?_array_eq_some_iff, ofValue]
      | object fields whole =>
          simp [value?_object_eq_some_iff, ofValue]
      | _ =>
          simp [value?, ofValue, depth]

end Draft

/--
A text denotes the value whose draft is read from it, if this nests within the
limit.
-/
theorem read?_eq_some_iff
    {text : List Char}
    {value : Json} :
    read? text = some value ↔
      Draft.ofLexemes (lex text) = (.ofValue value, []) ∧
        value.depth ≤ nestingLimit := by
  rw [read?]
  split
  case h_1 draft read =>
    rw [Draft.value?_eq_some_iff value, read, Prod.mk.injEq]
    simp
  case h_2 draft lexeme rest read =>
    simp [read]

end SheetLint.Json
