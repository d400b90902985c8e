import SheetLint.Count
import SheetLint.Value.Color
import SheetLint.Value.Quote

namespace SheetLint

/-!
# Colour report of a property value

The colours of a value are looked for outside its quoted strings; each that has
a shorter form counts as one lint.
-/

/-- What is said about the colours of a value. -/
structure ColorReport where
  masked : String
  found : List String
  shortest : List String
  lints : Nat
  summary : String
  deriving Repr, DecidableEq

/-- How many forms take fewer bytes than the colours they stand for. -/
def ColorReport.countShorter (found shortest : List String) : Nat :=
  (found.zip shortest).countP fun pair =>
    pair.2.utf8ByteSize < pair.1.utf8ByteSize

/-- The colour report of `value`. -/
def ColorReport.ofValue (value : String) : Traced ColorReport :=
  let masked := Quote.mask value
  let found := Color.find masked
  (Traced.collect (found.map Color.shortestForm)).map fun shortest =>
    let lints := countShorter found shortest
    { masked, found, shortest, lints, summary := countPhrase lints "lint" }

end SheetLint
