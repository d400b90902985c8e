namespace SheetLint.Text

/-!
# Bytes that need not be text

Names of files and values of the environment are byte strings.  `decode` reads
one as UTF-8 as far as it goes: every character that is correctly encoded, and
by itself every byte that belongs to none.
-/

/--
A piece of a byte string: a character, or a byte that is part of no character.
-/
inductive Piece where
  | char (value : Char)
  | stray (byte : UInt8)
  deriving Repr, DecidableEq

/-- The six low bits of a continuation byte. -/
def continuation? (byte : UInt8) : Option Nat :=
  if 0x80 ≤ byte.toNat && byte.toNat < 0xC0 then
    some (byte.toNat - 0x80)
  else
    none

/--
The character of a code point that needs at least the given size and is no
surrogate.
-/
def scalar? (least code : Nat) : Option Char :=
  if least ≤ code && code.isValidChar then some (Char.ofNat code) else none

/-- The character of two bytes. -/
def decodeTwo? (first second : UInt8) : Option Char :=
  if 0xC0 ≤ first.toNat && first.toNat < 0xE0 then
    match continuation? second with
    | some low =>
        scalar? 0x80 ((first.toNat - 0xC0) * 0x40 + low)
    | none =>
        none
  else
    none

/-- The character of three bytes. -/
def decodeThree? (first second third : UInt8) : Option Char :=
  if 0xE0 ≤ first.toNat && first.toNat < 0xF0 then
    match continuation? second, continuation? third with
    | some middle, some low =>
        scalar? 0x800 ((first.toNat - 0xE0) * 0x1000 + middle * 0x40 + low)
    | _, _ =>
        none
  else
    none

/-- The character of four bytes. -/
def decodeFour? (first second third fourth : UInt8) : Option Char :=
  if 0xF0 ≤ first.toNat && first.toNat < 0xF8 then
    match continuation? second, continuation? third, continuation? fourth with
    | some high, some middle, some low =>
        scalar? 0x10000
          ((first.toNat - 0xF0) * 0x40000 + high * 0x1000 + middle * 0x40 + low)
    | _, _, _ =>
        none
  else
    none

/--
The character at the head of a byte string, with the number of bytes behind the
first that it takes.
-/
def decodeHead? : List UInt8 → Option (Char × Nat)
  | [] =>
      none
  | first :: rest =>
      if first.toNat < 0x80 then
        some (Char.ofNat first.toNat, 0)
      else
        match rest with
        | [] =>
            none
        | [second] =>
            (decodeTwo? first second).map (·, 1)
        | [second, third] =>
            (decodeTwo? first second).map (·, 1)
              <|> (decodeThree? first second third).map (·, 2)
        | second :: third :: fourth :: _ =>
            (decodeTwo? first second).map (·, 1)
              <|> (decodeThree? first second third).map (·, 2)
              <|> (decodeFour? first second third fourth).map (·, 3)

/--
The pieces of a byte string of which the first `skipped` bytes are already
accounted for.
-/
def decodeFrom : Nat → List UInt8 → List Piece
  | _, [] =>
      []
  | skipped + 1, _ :: rest =>
      decodeFrom skipped rest
  | 0, first :: rest =>
      match decodeHead? (first :: rest) with
      | some (c, more) =>
          .char c :: decodeFrom more rest
      | none =>
          .stray first :: decodeFrom 0 rest

/-- The pieces of a byte string. -/
def decode (bytes : List UInt8) : List Piece :=
  decodeFrom 0 bytes

/-- The character of a piece. -/
def Piece.char? : Piece → Option Char
  | .char value => some value
  | .stray _ => none

/-- The text of a byte string that is wholly UTF-8. -/
def text? (bytes : List UInt8) : Option (List Char) :=
  (decode bytes).mapM Piece.char?

/-- The bytes of a text. -/
def encode (text : List Char) : List UInt8 :=
  text.flatMap String.utf8EncodeChar

end SheetLint.Text
