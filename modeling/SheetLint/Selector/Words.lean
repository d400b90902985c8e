import SheetLint.Selector.Token

namespace SheetLint.Selector

/-!
# The words of a selector

With its interpolations left out, a selector is one text.  Its words are the
maximal runs of characters that are no separators; a word may begin in one
literal and end in another.
-/

/--
Whether `c` separates words: a space, a tabulator, or a character that ends a
line.
-/
def isSeparator (c : Char) : Bool :=
  c == ' ' || c == '\t' || c == '\n' || c == '\x0b' || c == '\x0c' || c == '\r'

/--
The words of a text before which the characters `current`, in reverse, already
stand.
-/
def wordsAfter (current : List Char) : List Char → List (List Char)
  | [] =>
      if current.isEmpty then [] else [current.reverse]
  | c :: rest =>
      if isSeparator c then
        if current.isEmpty then
          wordsAfter [] rest
        else
          current.reverse :: wordsAfter [] rest
      else
        wordsAfter (c :: current) rest

/-- The words of a text. -/
def wordsOf (text : List Char) : List (List Char) :=
  wordsAfter [] text

/-- The words of a selector with its interpolations left out. -/
def words (tokens : List Token) : List String :=
  (wordsOf (text tokens)).map String.ofList

end SheetLint.Selector
