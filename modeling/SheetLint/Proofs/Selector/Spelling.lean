import SheetLint.Proofs.Json.Order
import SheetLint.Selector.Json

namespace SheetLint.Selector

/-!
# Which values spell a token

A value spells a token if it names the kind of the token and holds, beside the
kind, what this kind asks for.  The relation is given here without regard to any
reader.  Reading a complete value is then shown to succeed for the values that
spell a token, and with this token.  In which order the fields of objects are
written decides nothing.
-/

open Json (DistinctKeys Reordered)

namespace Kind

/--
The values that name a kind: its name, or an object with this name as its only
key.
-/
@[mk_iff]
inductive NamedBy (kind : Kind) : Json → Prop where
  | text : NamedBy kind (.text kind.name)
  | object : NamedBy kind (.object [(kind.name, .null)])

theorem ofName_eq_ok_iff
    {name : String}
    {kind : Kind} :
    ofName name = .ok kind ↔ name = kind.name :=
  Json.Variants.read_eq_ok_iff

theorem ofItem_eq_ok_iff
    {value : Json}
    {kind : Kind} :
    ofItem value = .ok kind ↔ value = .text kind.name := by
  cases value with
  | text name =>
      simp [ofItem, ofName_eq_ok_iff]
  | _ =>
      simp [ofItem, Json.mistyped]

/-- From a complete value a kind is read exactly if the value names it. -/
theorem ofValue_eq_ok_iff
    {value : Json}
    (distinct : DistinctKeys value)
    {kind : Kind} :
    ofValue value = .ok kind ↔ kind.NamedBy value := by
  cases distinct with
  | text name =>
      simp [ofValue, ofName_eq_ok_iff, namedBy_iff]
  | @object fields keysDiffer _ =>
      rw [ofValue, Json.settled_of_nodup keysDiffer]
      rcases fields with _ | ⟨⟨name, value⟩, rest⟩
      · constructor
        · intro read
          contradiction
        · rintro ⟨⟩
      · have names {kind : Kind} : ofName name = .ok kind ↔ name = kind.name :=
          ofName_eq_ok_iff
        cases named : ofName name <;> cases value <;> cases rest <;>
          simp [namedBy_iff, ← names, named, Json.mistyped]
  | _ =>
      constructor
      · intro read
        contradiction
      · rintro ⟨⟩

theorem namedBy_iff_of_reordered
    {value other : Json}
    (reordered : Reordered value other)
    {kind : Kind} :
    kind.NamedBy value ↔ kind.NamedBy other := by
  rw [namedBy_iff, namedBy_iff, reordered.eq_text_iff,
    reordered.eq_single_null_iff]

end Kind

namespace Token

/--
What a token asks for beside its kind: its text, or nothing or null for an
interpolation.
-/
inductive MadeOf : Token → Kind → Option Json → Prop where
  | literal (text : String) :
      MadeOf (.literal text) .literal (some (.text text))
  | interpolation : MadeOf .interpolation .interpolation none
  | null : MadeOf .interpolation .interpolation (some .null)

/--
A token is held by what names its kind and what it is made of; the second may be
absent.
-/
inductive HeldBy (token : Token) : Option Json → Option Json → Prop where
  | intro {kind : Kind} {named : Json} {content : Option Json} :
      kind.NamedBy named →
      token.MadeOf kind content →
      HeldBy token (some named) content

/--
The values that spell a token: an object that holds the two parts under their
keys, or an array of the name of the kind and what the token is made of.
-/
inductive SpelledBy (token : Token) : Json → Prop where
  | object {fields : List (String × Json)} :
      token.HeldBy (Json.lookup? kindField fields)
        (Json.lookup? textField fields) →
      SpelledBy token (.object fields)
  | array {kind : Kind} {value : Json} :
      token.MadeOf kind (some value) →
      SpelledBy token (.array [.text kind.name, value])

theorem ofKind_eq_ok_iff
    {kind : Kind}
    {token : Token} :
    ofKind kind = .ok token ↔ token.MadeOf kind none := by
  constructor
  · intro read
    cases kind with
    | literal =>
        contradiction
    | interpolation =>
        cases read
        exact .interpolation
  · rintro ⟨⟩
    rfl

theorem ofKindAndValue_eq_ok_iff
    {kind : Kind}
    {value : Json}
    {token : Token} :
    ofKindAndValue kind value = .ok token ↔ token.MadeOf kind (some value) := by
  constructor
  · intro read
    cases kind <;> cases value
    all_goals cases read
    · exact .literal _
    · exact .null
  · rintro ⟨⟩ <;>
      rfl

theorem madeOf_iff_of_reordered
    {value other : Option Json}
    (reordered : Option.Rel Reordered value other)
    {token : Token}
    {kind : Kind} :
    token.MadeOf kind value ↔ token.MadeOf kind other := by
  cases reordered with
  | none =>
      rfl
  | some related =>
      constructor
      · rintro ⟨⟩ <;> cases related
        · exact .literal _
        · exact .null
      · rintro ⟨⟩ <;> cases related
        · exact .literal _
        · exact .null

theorem heldBy_some_iff
    {token : Token}
    {named : Json}
    {content : Option Json} :
    token.HeldBy (some named) content ↔
      ∃ kind : Kind, kind.NamedBy named ∧ token.MadeOf kind content := by
  constructor
  · rintro ⟨names, made⟩
    exact ⟨_, names, made⟩
  · rintro ⟨_, names, made⟩
    exact .intro names made

theorem heldBy_iff_of_reordered
    {named otherNamed content otherContent : Option Json}
    (kinds : Option.Rel Reordered named otherNamed)
    (contents : Option.Rel Reordered content otherContent)
    {token : Token} :
    token.HeldBy named content ↔ token.HeldBy otherNamed otherContent := by
  cases kinds with
  | none =>
      constructor <;> rintro ⟨⟩
  | some related =>
      simp only [heldBy_some_iff, Kind.namedBy_iff_of_reordered related,
        madeOf_iff_of_reordered contents]

theorem spelledBy_object_iff
    {token : Token}
    {fields : List (String × Json)} :
    token.SpelledBy (.object fields) ↔
      token.HeldBy (Json.lookup? kindField fields)
        (Json.lookup? textField fields) := by
  constructor
  · rintro ⟨held⟩
    exact held
  · exact .object

theorem spelledBy_array_iff
    {token : Token}
    {items : List Json} :
    token.SpelledBy (.array items) ↔
      ∃ kind value,
        items = [.text kind.name, value] ∧ token.MadeOf kind (some value) := by
  constructor
  · rintro ⟨⟩
    exact ⟨_, _, rfl, ‹_›⟩
  · rintro ⟨_, _, rfl, made⟩
    exact .array made

theorem ofFields_eq_ok_iff
    {fields : List (String × Json)}
    (distinct : DistinctKeys (.object fields))
    {token : Token} :
    ofFields fields = .ok token ↔ token.SpelledBy (.object fields) := by
  rw [ofFields, spelledBy_object_iff]
  cases found : Json.lookup? kindField fields with
  | none =>
      constructor
      · intro read
        contradiction
      · rintro ⟨⟩
  | some value =>
      have names {kind : Kind} :
          Kind.ofValue value = .ok kind ↔ kind.NamedBy value :=
        Kind.ofValue_eq_ok_iff (distinct.of_lookup? found)
      rw [heldBy_some_iff]
      cases read : Kind.ofValue value with
      | error problem =>
          simp [← names, read]
      | ok kind =>
          cases beside : Json.lookup? textField fields <;>
            simp [← names, read, ofKind_eq_ok_iff, ofKindAndValue_eq_ok_iff]

theorem ofItems_eq_ok_iff
    {items : List Json}
    {token : Token} :
    ofItems items = .ok token ↔ token.SpelledBy (.array items) := by
  rw [spelledBy_array_iff]
  rcases items with _ | ⟨first, _ | ⟨second, more⟩⟩
  · simp [ofItems, tooShort]
  · cases read : Kind.ofItem first <;>
      simp [ofItems, read, tooShort]
  · have names {kind : Kind} :
        Kind.ofItem first = .ok kind ↔ first = .text kind.name :=
      Kind.ofItem_eq_ok_iff
    cases read : Kind.ofItem first with
    | error problem =>
        simp [ofItems, ← names, read]
    | ok kind =>
        cases made : ofKindAndValue kind second <;> cases more <;>
          simp [ofItems, ← names, read, ← ofKindAndValue_eq_ok_iff, made]

/-- From a complete value a token is read exactly if the value spells it. -/
theorem ofJson_eq_ok_iff
    {value : Json}
    (distinct : DistinctKeys value)
    {token : Token} :
    ofJson value = .ok token ↔ token.SpelledBy value := by
  cases value with
  | object fields =>
      exact ofFields_eq_ok_iff distinct
  | array items =>
      exact ofItems_eq_ok_iff
  | _ =>
      constructor
      · intro read
        contradiction
      · rintro ⟨⟩

theorem spelledBy_iff_of_reordered
    {value other : Json}
    (reordered : Reordered value other)
    (distinct : DistinctKeys other)
    {token : Token} :
    token.SpelledBy value ↔ token.SpelledBy other := by
  cases reordered with
  | array pairs =>
      rw [spelledBy_array_iff, spelledBy_array_iff]
      rcases pairs with _ | ⟨first, _ | ⟨second, _ | ⟨_, _⟩⟩⟩
      case cons.cons.nil =>
        simp only [List.cons.injEq, and_true]
        simp [first.eq_text_iff, madeOf_iff_of_reordered (.some second)]
      all_goals simp
  | object pairs permuted =>
      have sameUnder (key : String) :=
        Reordered.lookup?_rel (.object pairs permuted) distinct key
      rw [spelledBy_object_iff, spelledBy_object_iff]
      exact heldBy_iff_of_reordered (sameUnder kindField) (sameUnder textField)
  | _ =>
      rfl

/--
The values that spell a list of tokens: arrays of values that spell one token
each.
-/
inductive AllSpelledBy (tokens : List Token) : Json → Prop where
  | array {items : List Json} :
      List.Forall₂ SpelledBy tokens items →
      AllSpelledBy tokens (.array items)

theorem allSpelledBy_array_iff
    {tokens : List Token}
    {items : List Json} :
    AllSpelledBy tokens (.array items) ↔
      List.Forall₂ SpelledBy tokens items := by
  constructor
  · rintro ⟨spelled⟩
    exact spelled
  · exact .array

theorem ofJsonList_eq_ok_iff
    {items : List Json}
    (distinct : ∀ item ∈ items, DistinctKeys item)
    {tokens : List Token} :
    ofJsonList items = .ok tokens ↔ List.Forall₂ SpelledBy tokens items := by
  induction items generalizing tokens with
  | nil =>
      simp [ofJsonList, eq_comm]
  | cons item rest inductionHypothesis =>
      obtain ⟨firstDistinct, restDistinct⟩ := List.forall_mem_cons.mp distinct
      have first {token : Token} :
          ofJson item = .ok token ↔ token.SpelledBy item :=
        ofJson_eq_ok_iff firstDistinct
      rw [List.forall₂_cons_right_iff]
      simp only [← first, ← inductionHypothesis restDistinct, ofJsonList]
      cases ofJson item <;> cases ofJsonList rest <;>
        simp [eq_comm]

/-- From a complete value tokens are read exactly if the value spells them. -/
theorem readValue_eq_ok_iff
    {value : Json}
    (distinct : DistinctKeys value)
    {tokens : List Token} :
    readValue value = .ok tokens ↔ AllSpelledBy tokens value := by
  cases distinct with
  | @array items each =>
      rw [readValue, ofJsonList_eq_ok_iff each, allSpelledBy_array_iff]
  | _ =>
      constructor
      · intro read
        contradiction
      · rintro ⟨⟩

theorem forall₂_spelledBy_iff_of_reordered
    {items others : List Json}
    (pairs : List.Forall₂ Reordered items others)
    (distinct : ∀ other ∈ others, DistinctKeys other)
    {tokens : List Token} :
    List.Forall₂ SpelledBy tokens items ↔
      List.Forall₂ SpelledBy tokens others := by
  induction pairs generalizing tokens with
  | nil =>
      rfl
  | cons first pairs inductionHypothesis =>
      obtain ⟨firstDistinct, restDistinct⟩ := List.forall_mem_cons.mp distinct
      simp only [List.forall₂_cons_right_iff,
        spelledBy_iff_of_reordered first firstDistinct,
        inductionHypothesis restDistinct]

/-- The order of fields has no part in which tokens a value spells. -/
theorem allSpelledBy_iff_of_reordered
    {value other : Json}
    (reordered : Reordered value other)
    (distinct : DistinctKeys other)
    {tokens : List Token} :
    AllSpelledBy tokens value ↔ AllSpelledBy tokens other := by
  cases reordered with
  | array pairs =>
      cases distinct with
      | array each =>
          rw [allSpelledBy_array_iff, allSpelledBy_array_iff]
          exact forall₂_spelledBy_iff_of_reordered pairs each
  | object =>
      constructor <;> rintro ⟨⟩
  | _ =>
      rfl

end Token

end SheetLint.Selector
