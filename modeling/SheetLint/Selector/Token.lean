namespace SheetLint.Selector

/-!
# Selector tokens

A parsed selector is a sequence of literal texts and of interpolated
expressions.  What an interpolation inserts is not known, so it is kept as a
mark only.
-/

/-- One element of a parsed selector. -/
inductive Token where
  | literal (text : String)
  | interpolation
  deriving Repr, DecidableEq

namespace Token

/-- Whether the token is an interpolation. -/
def isInterpolation : Token → Bool
  | .literal _ => false
  | .interpolation => true

/-- The literal text of a token; an interpolation contributes nothing. -/
def chars : Token → List Char
  | .literal text => text.toList
  | .interpolation => []

end Token

/-- The literal text of a selector: that of its tokens, joined without a gap. -/
def text (tokens : List Token) : List Char :=
  tokens.flatMap Token.chars

end SheetLint.Selector
