import SheetLint.Json.Draft
import SheetLint.Text.Quoted

namespace SheetLint.Json

/-!
# What can be wrong with a JSON text

A text is either no JSON at all, or its values do not fit what the reader
expects.  Only the second kind is explained, by what was found and what was
expected.
-/

/-- A value that does not fit. -/
inductive Refusal where
  | wrongType (found : Found) (expected : String)
  | wrongValue (found : Found) (expected : String)
  | wrongLength (count : Nat) (expected : String)
  | missingField (name : String)
  | duplicateField (name : String)
  | unknownVariant (name : String) (known : List String)
  /-- A path that cannot be written because it is no text. -/
  | pathNotText
  deriving Repr, DecidableEq

/-- Why a text was not read. -/
inductive Problem where
  | malformed
  | refused (refusal : Refusal)
  deriving Repr, DecidableEq

/-- The kind of a complete value. -/
def found : Json → Found
  | .null => .null
  | .bool value => .bool value
  | .number value => .number value
  | .text value => .text value
  | .array _ => .sequence
  | .object _ => .map

/-- A name between grave accents. -/
def marked (name : String) : List Char :=
  '\x60' :: (name.toList ++ ['\x60'])

/-- The words for what was found. -/
def Found.describe : Found → List Char
  | .null => "null".toList
  | .bool value =>
      "boolean ".toList ++ marked (if value then "true" else "false")
  | .number (.whole value) =>
      "integer ".toList ++ marked (String.ofList (Number.whole value).text)
  | .number (.binary bits) =>
      "floating point ".toList ++
        marked (String.ofList (Number.binary bits).text)
  | .text value => "string ".toList ++ Text.literal value.toList
  | .sequence => "sequence".toList
  | .map => "map".toList

/--
The names of a choice: one name alone, two joined by `or`, more after `one of`.
-/
def choice : List String → List Char
  | [] => []
  | [only] => marked only
  | [first, second] => marked first ++ " or ".toList ++ marked second
  | names =>
      "one of ".toList ++ ((names.map marked).intersperse [',', ' ']).flatten

/-- The explanation of a refusal. -/
def Refusal.message (refusal : Refusal) : String :=
  String.ofList <|
    match refusal with
    | .wrongType found expected =>
        "invalid type: ".toList ++ found.describe ++ ", expected ".toList ++
          expected.toList
    | .wrongValue found expected =>
        "invalid value: ".toList ++ found.describe ++ ", expected ".toList ++
          expected.toList
    | .wrongLength count expected =>
        "invalid length ".toList ++ (Nat.repr count).toList ++
          ", expected ".toList ++ expected.toList
    | .missingField name => "missing field ".toList ++ marked name
    | .duplicateField name => "duplicate field ".toList ++ marked name
    | .unknownVariant name known =>
        "unknown variant ".toList ++ marked name ++ ", expected ".toList ++
          choice known
    | .pathNotText => "path contains invalid UTF-8 characters".toList

/-- The result of reading something from JSON. -/
abbrev Reading (α : Type) : Type := Except Problem α

/-- The variants of a choice in order, each with a name of its own. -/
structure Variants (κ : Type) where
  all : List κ
  name : κ → String
  mem_all : ∀ variant, variant ∈ all
  eq_of_name_eq : ∀ first second, name first = name second → first = second

/-- The variant with the given name. -/
def Variants.read {κ : Type} (variants : Variants κ) (name : String) :
    Reading κ :=
  match variants.all.find? (variants.name · = name) with
  | some variant => .ok variant
  | none =>
      .error (.refused (.unknownVariant name (variants.all.map variants.name)))

/-- A variant is read exactly from its own name. -/
theorem Variants.read_eq_ok_iff
    {κ : Type} {variants : Variants κ} {name : String} {variant : κ} :
    variants.read name = .ok variant ↔ name = variants.name variant := by
  rw [read]
  cases found : variants.all.find? (variants.name · = name) with
  | none =>
      have differs : variants.name variant ≠ name := by
        simpa using
          List.find?_eq_none.mp found variant (variants.mem_all variant)
      simp [differs.symm]
  | some other =>
      obtain rfl : variants.name other = name := by
        simpa using List.find?_some found
      simp only [Except.ok.injEq]
      constructor
      · rintro rfl
        rfl
      · exact variants.eq_of_name_eq other variant

/-- Refuse a value of the wrong kind. -/
def mistyped {α : Type} (expected : String) (found : Found) : Reading α :=
  .error (.refused (.wrongType found expected))

namespace Draft

/--
Refuse a draft as a value of the wrong kind; one whose kind cannot be told is
malformed.
-/
def mistyped {α : Type} (expected : String) (draft : Draft) : Reading α :=
  match draft.found? with
  | some found => Json.mistyped expected found
  | none => .error .malformed

/-- The items of an array that is read to its end. -/
def readItems {α : Type} (readItem : Draft → Reading α) :
    List Draft → Bool → Reading (List α)
  | [], true => .ok []
  | [], false => .error .malformed
  | item :: rest, whole =>
      match readItem item with
      | .error problem => .error problem
      | .ok value =>
          match readItems readItem rest whole with
          | .error problem => .error problem
          | .ok values => .ok (value :: values)

/-- A whole text that denotes an array, with each item read by `readItem`. -/
def readArrayText {α : Type} (readItem : Draft → Reading α) (text : List Char) :
    Reading (List α) :=
  match Draft.ofLexemes (lex text) with
  | (.array items whole, rest) =>
      match readItems readItem items whole with
      | .error problem => .error problem
      | .ok values => if rest.isEmpty then .ok values else .error .malformed
  | (draft, _) => draft.mistyped "a sequence"

end Draft

end SheetLint.Json
