import SheetLint.Proofs.Json.Assembly
import SheetLint.Proofs.Json.Items
import SheetLint.Proofs.Selector.Spelling

namespace SheetLint.Selector

/-!
# Reading a text and reading a value

The reader of a text meets the fields of a token in the order in which they are
written: it skips the fields it does not know, and keeps what the token is made
of where the kind comes later.  On the draft of a value with distinct keys it
succeeds for the values that spell a token, as the reader of complete values
does.
-/

open Json (DistinctKeys Draft Reordered)

namespace Kind

theorem ofDraftItem_ofValue (value : Json) :
    ofDraftItem (.ofValue value) = ofItem value := by
  cases value <;>
    rfl

/-- From the draft of a value a kind is read exactly if the value names it. -/
theorem ofDraft_ofValue_eq_ok_iff
    {value : Json}
    {kind : Kind} :
    ofDraft (.ofValue value) = .ok kind ↔ kind.NamedBy value := by
  cases value with
  | text name =>
      simp [Draft.ofValue, ofDraft, ofName_eq_ok_iff, namedBy_iff]
  | object fields =>
      rcases fields with _ | ⟨⟨name, value⟩, rest⟩
      · constructor
        · intro read
          contradiction
        · rintro ⟨⟩
      · have names {kind : Kind} : ofName name = .ok kind ↔ name = kind.name :=
          ofName_eq_ok_iff
        cases named : ofName name <;> cases value <;> cases rest <;>
          simp [namedBy_iff, ← names, Draft.ofValue, Draft.ofFields, ofDraft,
            named, Draft.mistyped, Json.mistyped, Draft.found?]
  | _ =>
      constructor
      · intro read
        contradiction
      · rintro ⟨⟩

end Kind

namespace Token

theorem ofKindAndDraft_ofValue
    (kind : Kind)
    (value : Json) :
    ofKindAndDraft kind (.ofValue value) = ofKindAndValue kind value := by
  cases kind <;> cases value <;>
    rfl

/-- Behind the two parts of a token only fields with other keys may come. -/
theorem afterBoth_ofFields
    {token : Token}
    {fields : List (String × Json)}
    (noKind : kindField ∉ fields.map (·.1))
    (noText : textField ∉ fields.map (·.1)) :
    afterBoth token (Draft.ofFields fields) true = .ok token := by
  induction fields with
  | nil =>
      rfl
  | cons field rest inductionHypothesis =>
      obtain ⟨key, value⟩ := field
      simp only [List.map_cons, List.mem_cons, not_or] at noKind noText
      simp [Draft.ofFields, afterBoth, Ne.symm noKind.1, Ne.symm noText.1,
        inductionHypothesis noKind.2 noText.2]

theorem afterKind_ofFields_eq_ok_iff
    {kind : Kind}
    {fields : List (String × Json)}
    (keysDiffer : (fields.map (·.1)).Nodup)
    (noKind : kindField ∉ fields.map (·.1))
    {token : Token} :
    afterKind kind (Draft.ofFields fields) true = .ok token ↔
      token.MadeOf kind (Json.lookup? textField fields) := by
  induction fields with
  | nil =>
      exact ofKind_eq_ok_iff
  | cons field rest inductionHypothesis =>
      obtain ⟨key, value⟩ := field
      obtain ⟨isNew, restDiffer⟩ := List.nodup_cons.mp keysDiffer
      simp only [List.map_cons, List.mem_cons, not_or] at noKind
      obtain ⟨notKind, restNoKind⟩ := noKind
      rw [Draft.ofFields, afterKind, if_neg (Ne.symm notKind),
        Json.lookup?_cons keysDiffer, ofKindAndDraft_ofValue]
      split
      case isTrue isText =>
        subst isText
        rw [← ofKindAndValue_eq_ok_iff]
        cases made : ofKindAndValue kind value with
        | error problem =>
            simp
        | ok first =>
            simp [afterBoth_ofFields restNoKind isNew]
      case isFalse isOther =>
        rw [Draft.isWhole_ofValue, if_pos rfl,
          inductionHypothesis restDiffer restNoKind]

theorem afterValue_ofFields_eq_ok_iff
    {value : Json}
    {fields : List (String × Json)}
    (keysDiffer : (fields.map (·.1)).Nodup)
    (noText : textField ∉ fields.map (·.1))
    {token : Token} :
    afterValue value (Draft.ofFields fields) true = .ok token ↔
      token.HeldBy (Json.lookup? kindField fields) (some value) := by
  induction fields with
  | nil =>
      constructor
      · intro read
        contradiction
      · rintro ⟨⟩
  | cons field rest inductionHypothesis =>
      obtain ⟨key, named⟩ := field
      obtain ⟨isNew, restDiffer⟩ := List.nodup_cons.mp keysDiffer
      simp only [List.map_cons, List.mem_cons, not_or] at noText
      obtain ⟨notText, restNoText⟩ := noText
      rw [Draft.ofFields, afterValue, if_neg (Ne.symm notText),
        Json.lookup?_cons keysDiffer]
      split
      case isTrue isKind =>
        subst isKind
        simp only [heldBy_some_iff, ← Kind.ofDraft_ofValue_eq_ok_iff,
          ← ofKindAndValue_eq_ok_iff]
        cases read : Kind.ofDraft (.ofValue named) with
        | error problem =>
            simp
        | ok kind =>
            cases made : ofKindAndValue kind value with
            | error problem =>
                simp [made]
            | ok first =>
                simp [made, afterBoth_ofFields isNew restNoText]
      case isFalse isOther =>
        rw [Draft.isWhole_ofValue, if_pos rfl,
          inductionHypothesis restDiffer restNoText]

theorem ofDraftFields_ofFields_eq_ok_iff
    {fields : List (String × Json)}
    (keysDiffer : (fields.map (·.1)).Nodup)
    (fits : Json.fieldsDepth fields ≤ innerRoom)
    {token : Token} :
    ofDraftFields (Draft.ofFields fields) true = .ok token ↔
      token.HeldBy (Json.lookup? kindField fields)
        (Json.lookup? textField fields) := by
  have fieldsDiffer : kindField ≠ textField := by
    decide
  induction fields with
  | nil =>
      constructor
      · intro read
        contradiction
      · rintro ⟨⟩
  | cons field rest inductionHypothesis =>
      obtain ⟨key, value⟩ := field
      obtain ⟨isNew, restDiffer⟩ := List.nodup_cons.mp keysDiffer
      rw [Json.fieldsDepth, Nat.max_le] at fits
      obtain ⟨valueFits, restFits⟩ := fits
      rw [Draft.ofFields, ofDraftFields, Json.lookup?_cons keysDiffer,
        Json.lookup?_cons keysDiffer]
      split
      case isTrue isKind =>
        subst isKind
        rw [if_neg fieldsDiffer, heldBy_some_iff]
        simp only [← afterKind_ofFields_eq_ok_iff restDiffer isNew,
          ← Kind.ofDraft_ofValue_eq_ok_iff]
        cases read : Kind.ofDraft (.ofValue value) <;>
          simp
      case isFalse notKind =>
        split
        case isTrue isText =>
          subst isText
          rw [(Draft.value?_eq_some_iff value).mpr ⟨rfl, valueFits⟩]
          exact afterValue_ofFields_eq_ok_iff restDiffer isNew
        case isFalse notText =>
          rw [Draft.isWhole_ofValue, if_pos rfl]
          exact inductionHypothesis restDiffer restFits

theorem ofDraftItems_ofItems_eq_ok_iff
    {items : List Json}
    {token : Token} :
    ofDraftItems (Draft.ofItems items) true = .ok token ↔
      token.SpelledBy (.array items) := by
  rw [← ofItems_eq_ok_iff]
  rcases items with _ | ⟨first, _ | ⟨second, more⟩⟩
  · rfl
  · cases read : Kind.ofItem first <;>
      simp [Draft.ofItems, ofDraftItems, ofItems, Kind.ofDraftItem_ofValue,
        read]
  · cases read : Kind.ofItem first with
    | error problem =>
        simp [Draft.ofItems, ofDraftItems, ofItems, Kind.ofDraftItem_ofValue,
          read]
    | ok kind =>
        cases made : ofKindAndValue kind second <;> cases more <;>
          simp [Draft.ofItems, ofDraftItems, ofItems, Kind.ofDraftItem_ofValue,
            read, ofKindAndDraft_ofValue, made]

/-- From the draft of a value a token is read exactly if the value spells it. -/
theorem ofDraft_ofValue_eq_ok_iff
    {value : Json}
    (distinct : DistinctKeys value)
    (fits : value.depth ≤ innerRoom + 1)
    {token : Token} :
    ofDraft (.ofValue value) = .ok token ↔ token.SpelledBy value := by
  cases distinct with
  | object keysDiffer _ =>
      rw [spelledBy_object_iff]
      exact ofDraftFields_ofFields_eq_ok_iff keysDiffer
        (Nat.le_of_succ_le_succ fits)
  | array =>
      exact ofDraftItems_ofItems_eq_ok_iff
  | _ =>
      constructor
      · intro read
        contradiction
      · rintro ⟨⟩

/--
From a text tokens are read exactly if the value that the text denotes spells
them.
-/
theorem readText_eq_ok_iff
    {text : List Char}
    {value : Json}
    (denotes : Json.read? text = some value)
    (distinct : DistinctKeys value)
    {tokens : List Token} :
    readText text = .ok tokens ↔ AllSpelledBy tokens value := by
  cases distinct with
  | @array items each =>
      rw [allSpelledBy_array_iff]
      refine Draft.readArrayText_eq_ok_iff denotes
        fun item member inLimit token => ?_
      exact ofDraft_ofValue_eq_ok_iff (each item member)
        (Nat.le_of_lt_succ inLimit)
  | _ =>
      obtain ⟨read, -⟩ := Json.read?_eq_some_iff.mp denotes
      rw [readText, Draft.readArrayText, read]
      constructor
      · intro read
        contradiction
      · rintro ⟨⟩

/--
The two readers agree: a complete value gives tokens exactly if a text that
denotes it, with the fields of its objects in any order, gives these tokens.
-/
theorem readValue_iff_readText
    {value written : Json}
    {text : List Char}
    (distinct : DistinctKeys value)
    (denotes : Json.read? text = some written)
    (reordered : Reordered written value)
    (tokens : List Token) :
    readValue value = .ok tokens ↔ readText text = .ok tokens := by
  have writtenDistinct : DistinctKeys written :=
    reordered.distinctKeys distinct
  calc
    readValue value = .ok tokens ↔ AllSpelledBy tokens value :=
      readValue_eq_ok_iff distinct
    _ ↔ AllSpelledBy tokens written :=
      (allSpelledBy_iff_of_reordered reordered distinct).symm
    _ ↔ readText text = .ok tokens :=
      (readText_eq_ok_iff denotes writtenDistinct).symm

/--
The text of a literal stands in front of its kind, with an unknown field between
them.
-/
theorem readValue_iff_readText_of_kept_text :
    let named : Json := .object [("literal", .null)]
    let unknown : Json := .array [.bool true]
    let second : Json := .array [.text "interpolation", .null]
    let value : Json :=
      .array
        [.object [("type", named), ("value", .text "a"), ("x", unknown)],
          second]
    let written : Json :=
      .array
        [.object [("value", .text "a"), ("x", unknown), ("type", named)],
          second]
    let text :=
      ("[\x7b\"value\": \"a\", \"x\": [true], " ++
        "\"type\": \x7b\"literal\": null\x7d\x7d, " ++
        "[\"interpolation\", null]]").toList
    DistinctKeys value ∧
      Json.read? text = some written ∧
      Reordered written value ∧
      readText text = .ok [.literal "a", .interpolation] := by
  intro named unknown second value written text
  have distinct : DistinctKeys value := by
    simp [value, named, unknown, second]
  have lexed : Json.lex text = written.lexemes := by
    decide +kernel
  have denotes : Json.read? text = some written :=
    Json.read?_of_lex lexed (by decide)
  have first :
      Reordered
        (.object [("value", .text "a"), ("x", unknown), ("type", named)])
        (.object [("type", named), ("value", .text "a"), ("x", unknown)]) :=
    .of_perm (List.perm_append_singleton _ [_, _])
  have reordered : Reordered written value :=
    .array (.cons first (.cons (.refl second) .nil))
  exact ⟨distinct, denotes, reordered,
    (readValue_iff_readText distinct denotes reordered _).mp rfl⟩

end Token

end SheetLint.Selector
