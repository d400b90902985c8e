import SheetLint.Proofs.Json.Items
import SheetLint.Proofs.Selector.Agreement

namespace SheetLint.Selector

/-!
# The grammar of token lists

A list of tokens is read from an array whose items are objects and pairs, each
with a kind of token and what this kind asks for.  The grammar is told here by
the fields that stand in an object, since no key stands twice.  A kind is named
by its text or by an object with this text as its only key; at the head of a
pair only the text will do.
-/

open Json (DistinctKeys)

/-- The value is the name of the kind as a text. -/
def Kind.IsText (kind : Kind) (value : Json) : Prop :=
  value = .text kind.name

namespace Token

/--
The values that a token is written as.  Which values may stand for a kind at the
head of a pair is left to `heads`; under its key in an object a kind is whatever
names it.
-/
inductive WrittenAs (heads : Kind → Json → Prop) : Token → Json → Prop where
  | literal {fields : List (String × Json)} {named : Json} {text : String} :
      (kindField, named) ∈ fields →
      Kind.literal.NamedBy named →
      (textField, .text text) ∈ fields →
      WrittenAs heads (.literal text) (.object fields)
  | interpolation {fields : List (String × Json)} {named : Json} :
      (kindField, named) ∈ fields →
      Kind.interpolation.NamedBy named →
      (∀ value, (textField, value) ∈ fields → value = .null) →
      WrittenAs heads .interpolation (.object fields)
  | literalPair {head : Json} {text : String} :
      heads .literal head →
      WrittenAs heads (.literal text) (.array [head, .text text])
  | interpolationPair {head : Json} :
      heads .interpolation head →
      WrittenAs heads .interpolation (.array [head, .null])

/--
The values that a list of tokens is written as: arrays of written forms of the
tokens.
-/
def ListWrittenAs
    (heads : Kind → Json → Prop)
    (tokens : List Token)
    (value : Json) : Prop :=
  ∃ items,
    value = .array items ∧ List.Forall₂ (WrittenAs heads) tokens items

theorem heldBy_literal_iff
    {text : String}
    {named content : Option Json} :
    HeldBy (.literal text) named content ↔
      ∃ value,
        named = some value ∧
          Kind.literal.NamedBy value ∧
          content = some (.text text) := by
  constructor
  · rintro ⟨names, ⟨⟩⟩
    exact ⟨_, rfl, names, rfl⟩
  · rintro ⟨_, rfl, names, rfl⟩
    exact .intro names (.literal text)

/-- Beside the kind of an interpolation stands nothing but null, if anything. -/
theorem heldBy_interpolation_iff
    {named content : Option Json} :
    HeldBy .interpolation named content ↔
      ∃ value,
        named = some value ∧
          Kind.interpolation.NamedBy value ∧
          ∀ inside, content = some inside → inside = .null := by
  constructor
  · rintro ⟨names, ⟨⟩⟩
    · exact ⟨_, rfl, names, by simp⟩
    · exact ⟨_, rfl, names, by simp⟩
  · rintro ⟨_, rfl, names, isNull⟩
    cases content with
    | none =>
        exact .intro names .interpolation
    | some inside =>
        rw [isNull inside rfl]
        exact .intro names .null

/--
Where the keys differ, an object holds a token exactly if it is a written form
of it.
-/
theorem writtenAs_object_iff
    {heads : Kind → Json → Prop}
    {fields : List (String × Json)}
    (keysDiffer : (fields.map (·.1)).Nodup)
    {token : Token} :
    token.WrittenAs heads (.object fields) ↔
      token.SpelledBy (.object fields) := by
  have stands {key : String} {value : Json} :
      Json.lookup? key fields = some value ↔ (key, value) ∈ fields :=
    Json.lookup?_eq_some_iff keysDiffer
  rw [spelledBy_object_iff]
  cases token with
  | literal text =>
      simp only [heldBy_literal_iff, stands]
      constructor
      · intro written
        cases written with
        | literal kind names content =>
            exact ⟨_, kind, names, content⟩
      · rintro ⟨_, kind, names, content⟩
        exact .literal kind names content
  | interpolation =>
      simp only [heldBy_interpolation_iff, stands]
      constructor
      · intro written
        cases written with
        | interpolation kind names isNull =>
            exact ⟨_, kind, names, isNull⟩
      · rintro ⟨_, kind, names, isNull⟩
        exact .interpolation kind names isNull

theorem writtenAs_array_iff
    {items : List Json}
    {token : Token} :
    token.WrittenAs Kind.IsText (.array items) ↔
      token.SpelledBy (.array items) := by
  rw [spelledBy_array_iff]
  constructor
  · rintro ⟨⟩
    case literalPair text isText =>
      exact ⟨.literal, .text text, by rw [isText], .literal text⟩
    case interpolationPair isText =>
      exact ⟨.interpolation, .null, by rw [isText], .null⟩
  · rintro ⟨kind, value, rfl, made⟩
    cases made with
    | literal text =>
        exact .literalPair rfl
    | null =>
        exact .interpolationPair rfl

/--
Where no key stands twice, the written forms of a token are the values that
spell it.
-/
theorem writtenAs_iff_spelledBy
    {value : Json}
    (distinct : DistinctKeys value)
    {token : Token} :
    token.WrittenAs Kind.IsText value ↔ token.SpelledBy value := by
  cases distinct with
  | object keysDiffer _ =>
      exact writtenAs_object_iff keysDiffer
  | array =>
      exact writtenAs_array_iff
  | _ =>
      constructor <;> rintro ⟨⟩

/--
The items of an array are written forms of tokens exactly if they spell these.
-/
theorem forall₂_writtenAs_iff
    {items : List Json}
    (distinct : ∀ item ∈ items, DistinctKeys item)
    {tokens : List Token} :
    List.Forall₂ (WrittenAs Kind.IsText) tokens items ↔
      List.Forall₂ SpelledBy tokens items := by
  induction items generalizing tokens with
  | nil =>
      simp
  | cons item rest inductionHypothesis =>
      obtain ⟨firstDistinct, restDistinct⟩ := List.forall_mem_cons.mp distinct
      simp only [List.forall₂_cons_right_iff,
        writtenAs_iff_spelledBy firstDistinct, inductionHypothesis restDistinct]

theorem listWrittenAs_iff_allSpelledBy
    {value : Json}
    (distinct : DistinctKeys value)
    {tokens : List Token} :
    ListWrittenAs Kind.IsText tokens value ↔ AllSpelledBy tokens value := by
  cases distinct with
  | array each =>
      simp [ListWrittenAs, allSpelledBy_array_iff, forall₂_writtenAs_iff each]
  | _ =>
      constructor
      · rintro ⟨_, ⟨⟩, _⟩
      · rintro ⟨⟩

/--
From a value whose objects repeat no key, tokens are read exactly if it is an
array of written forms of tokens, and then they are the tokens of these forms in
order.  A text that denotes the value is read as the same tokens.
-/
theorem readValue_grammar
    {value : Json}
    (distinct : DistinctKeys value) :
    ((∃ tokens, readValue value = .ok tokens) ↔
      ∃ items,
        value = .array items ∧
          ∀ item ∈ items, ∃ token : Token, token.WrittenAs Kind.IsText item) ∧
      (∀ tokens,
        readValue value = .ok tokens ↔ ListWrittenAs Kind.IsText tokens value) ∧
      ∀ text,
        Json.read? text = some value →
        ∀ tokens,
          readText text = .ok tokens ↔
            ListWrittenAs Kind.IsText tokens value := by
  have reads (tokens : List Token) :
      readValue value = .ok tokens ↔ ListWrittenAs Kind.IsText tokens value :=
    (readValue_eq_ok_iff distinct).trans
      (listWrittenAs_iff_allSpelledBy distinct).symm
  refine ⟨?_, reads, fun text denotes tokens => ?_⟩
  · simp only [reads, ← Json.exists_forall₂_iff]
    constructor
    · rintro ⟨tokens, items, isArray, forms⟩
      exact ⟨items, isArray, tokens, forms⟩
    · rintro ⟨items, isArray, tokens, forms⟩
      exact ⟨tokens, items, isArray, forms⟩
  · exact (readText_eq_ok_iff denotes distinct).trans
      (listWrittenAs_iff_allSpelledBy distinct).symm

/--
The kind as the only key of an object, a null beside a kind, a pair, and keys
that are ignored.
-/
theorem readValue_grammar_of_four_forms :
    let value : Json :=
      .array
        [.object [("value", .text "a"), ("x", .bool true),
          ("type", .object [("literal", .null)])],
          .object [("type", .text "interpolation"), ("value", .null)],
          .array [.text "literal", .text "b"],
          .array [.text "interpolation", .null]]
    DistinctKeys value ∧
      readValue value =
        .ok [.literal "a", .interpolation, .literal "b", .interpolation] := by
  intro value
  have distinct : DistinctKeys value := by
    simp [value]
  refine ⟨distinct, ((readValue_grammar distinct).2.1 _).mpr ⟨_, rfl, ?_⟩⟩
  refine .cons ?_
    (.cons ?_ (.cons (.literalPair rfl) (.cons (.interpolationPair rfl) .nil)))
  · refine .literal ?_ .object ?_ <;>
      simp [kindField, textField, Kind.name]
  · refine .interpolation ?_ .text ?_ <;>
      simp [kindField, textField, Kind.name]

/--
A pair in which the kind is the only key of an object is refused, although under
its key in an object the kind may be given so.
-/
theorem pair_headed_by_object_is_refused :
    ¬ ∀ value,
      DistinctKeys value →
      ∀ tokens,
        readValue value = .ok tokens ↔
          ListWrittenAs Kind.NamedBy tokens value := by
  intro always
  let pair : Json := .array [.object [("literal", .null)], .text "a"]
  have distinct : DistinctKeys (.array [pair]) := by
    simp [pair]
  have written : WrittenAs Kind.NamedBy (.literal "a") pair :=
    .literalPair .object
  have refused :
      readValue (.array [pair]) =
        .error (.refused (.wrongType .map "variant identifier")) :=
    rfl
  have read : readValue (.array [pair]) = .ok [.literal "a"] :=
    (always _ distinct _).mpr ⟨_, rfl, .cons written .nil⟩
  rw [refused] at read
  contradiction

end Token

end SheetLint.Selector
