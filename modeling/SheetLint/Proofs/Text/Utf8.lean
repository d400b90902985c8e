import SheetLint.Text.Utf8

namespace SheetLint.Text

/-!
# Encoding and decoding are inverse to each other

A byte string has a text exactly if it is the encoding of this text.  The bytes
of a character are given by division of its code point, so that what a decoder
of two, three or four bytes accepts is compared with the encoding in numbers.
The first byte of a character is never one that continues a character; for this
reason text behind a byte string cannot repair it.
-/

/-- The values of the bytes that encode a code point. -/
def byteValues (code : Nat) : List Nat :=
  if code < 0x80 then
    [code]
  else if code < 0x800 then
    [0xC0 + code / 0x40, 0x80 + code % 0x40]
  else if code < 0x10000 then
    [0xE0 + code / 0x1000, 0x80 + code / 0x40 % 0x40, 0x80 + code % 0x40]
  else
    [0xF0 + code / 0x40000, 0x80 + code / 0x1000 % 0x40,
      0x80 + code / 0x40 % 0x40, 0x80 + code % 0x40]

theorem map_toNat_utf8EncodeChar (c : Char) :
    (String.utf8EncodeChar c).map UInt8.toNat = byteValues c.toNat := by
  have scalar : c.toNat < 0xD800 ∨ (0xDFFF < c.toNat ∧ c.toNat < 0x110000) :=
    c.valid
  have code : c.val.toNat = c.toNat :=
    rfl
  simp only [String.utf8EncodeChar, byteValues, code]
  by_cases one : c.toNat ≤ 0x7F
  · rw [if_pos one, if_pos (show c.toNat < 0x80 by omega)]
    simp
    omega
  rw [if_neg one, if_neg (show ¬ c.toNat < 0x80 by omega)]
  by_cases two : c.toNat ≤ 0x7FF
  · rw [if_pos two, if_pos (show c.toNat < 0x800 by omega)]
    simp
    omega
  rw [if_neg two, if_neg (show ¬ c.toNat < 0x800 by omega)]
  by_cases three : c.toNat ≤ 0xFFFF
  · rw [if_pos three, if_pos (show c.toNat < 0x10000 by omega)]
    simp
    omega
  rw [if_neg three, if_neg (show ¬ c.toNat < 0x10000 by omega)]
  simp
  omega

/--
A byte string encodes a character exactly if its bytes have the values of the
code point.
-/
theorem eq_utf8EncodeChar_iff
    {bytes : List UInt8}
    {c : Char} :
    bytes = String.utf8EncodeChar c ↔
      bytes.map UInt8.toNat = byteValues c.toNat := by
  rw [← map_toNat_utf8EncodeChar,
    List.map_inj_right fun _ _ => UInt8.toNat_inj.mp]

theorem scalar?_eq_some_iff
    {least code : Nat}
    {c : Char} :
    scalar? least code = some c ↔ least ≤ code ∧ c.toNat = code := by
  unfold scalar?
  constructor
  · intro scalar
    split at scalar
    case isTrue fits =>
      simp only [Bool.and_eq_true, decide_eq_true_eq] at fits
      rw [← Option.some.inj scalar, Char.ofNat, dif_pos fits.2]
      exact ⟨fits.1, rfl⟩
    case isFalse =>
      contradiction
  · rintro ⟨large, rfl⟩
    have valid : c.toNat.isValidChar :=
      c.valid
    simp [large, valid]

theorem continuation?_eq_some_iff
    {byte : UInt8}
    {low : Nat} :
    continuation? byte = some low ↔ low < 0x40 ∧ byte.toNat = 0x80 + low := by
  unfold continuation?
  split <;> simp_all <;> omega

/-- The decoder of two bytes accepts the two bytes of a character. -/
theorem decodeTwo?_eq_some_iff
    {first second : UInt8}
    {c : Char} :
    decodeTwo? first second = some c ↔
      [first, second] = String.utf8EncodeChar c := by
  have parts :
      decodeTwo? first second = some c ↔
        (0xC0 ≤ first.toNat ∧ first.toNat < 0xE0) ∧
          ∃ low, continuation? second = some low ∧
            scalar? 0x80 ((first.toNat - 0xC0) * 0x40 + low) = some c := by
    unfold decodeTwo?
    cases continuation? second <;>
      simp
  simp only [parts, continuation?_eq_some_iff, scalar?_eq_some_iff]
  rw [eq_utf8EncodeChar_iff, byteValues]
  constructor
  · rintro ⟨lead, low, secondValue, least, code⟩
    rw [if_neg (show ¬ c.toNat < 0x80 by omega),
      if_pos (show c.toNat < 0x800 by omega)]
    simp
    omega
  · intro values
    repeat' split at values
    all_goals simp at values
    refine ⟨by omega, second.toNat - 0x80, by omega, by omega⟩

/-- The decoder of three bytes accepts the three bytes of a character. -/
theorem decodeThree?_eq_some_iff
    {first second third : UInt8}
    {c : Char} :
    decodeThree? first second third = some c ↔
      [first, second, third] = String.utf8EncodeChar c := by
  have parts :
      decodeThree? first second third = some c ↔
        (0xE0 ≤ first.toNat ∧ first.toNat < 0xF0) ∧
          ∃ middle, continuation? second = some middle ∧
            ∃ low, continuation? third = some low ∧
              scalar? 0x800
                  ((first.toNat - 0xE0) * 0x1000 + middle * 0x40 + low) =
                some c := by
    unfold decodeThree?
    cases continuation? second <;> cases continuation? third <;>
      simp
  simp only [parts, continuation?_eq_some_iff, scalar?_eq_some_iff]
  rw [eq_utf8EncodeChar_iff, byteValues]
  constructor
  · rintro ⟨lead, middle, secondValue, low, thirdValue, least, code⟩
    rw [if_neg (show ¬ c.toNat < 0x80 by omega),
      if_neg (show ¬ c.toNat < 0x800 by omega),
      if_pos (show c.toNat < 0x10000 by omega)]
    simp
    omega
  · intro values
    repeat' split at values
    all_goals simp at values
    refine ⟨by omega, second.toNat - 0x80, by omega, third.toNat - 0x80,
      by omega, by omega⟩

/-- The decoder of four bytes accepts the four bytes of a character. -/
theorem decodeFour?_eq_some_iff
    {first second third fourth : UInt8}
    {c : Char} :
    decodeFour? first second third fourth = some c ↔
      [first, second, third, fourth] = String.utf8EncodeChar c := by
  have parts :
      decodeFour? first second third fourth = some c ↔
        (0xF0 ≤ first.toNat ∧ first.toNat < 0xF8) ∧
          ∃ high, continuation? second = some high ∧
            ∃ middle, continuation? third = some middle ∧
              ∃ low, continuation? fourth = some low ∧
                scalar? 0x10000
                    ((first.toNat - 0xF0) * 0x40000 + high * 0x1000 +
                      middle * 0x40 + low) =
                  some c := by
    unfold decodeFour?
    cases continuation? second <;> cases continuation? third <;>
      cases continuation? fourth <;>
      simp
  have scalar : c.toNat < 0xD800 ∨ (0xDFFF < c.toNat ∧ c.toNat < 0x110000) :=
    c.valid
  simp only [parts, continuation?_eq_some_iff, scalar?_eq_some_iff]
  rw [eq_utf8EncodeChar_iff, byteValues]
  constructor
  · rintro ⟨lead, high, secondValue, middle, thirdValue, low, fourthValue,
      least, code⟩
    rw [if_neg (show ¬ c.toNat < 0x80 by omega),
      if_neg (show ¬ c.toNat < 0x800 by omega),
      if_neg (show ¬ c.toNat < 0x10000 by omega)]
    simp
    omega
  · intro values
    repeat' split at values
    all_goals simp at values
    refine ⟨by omega, second.toNat - 0x80, by omega, third.toNat - 0x80,
      by omega, fourth.toNat - 0x80, by omega, by omega⟩

/-- A byte below 0x80 is a character by itself. -/
theorem singleton_eq_utf8EncodeChar_iff
    {first : UInt8}
    {c : Char} :
    [first] = String.utf8EncodeChar c ↔
      first.toNat < 0x80 ∧ Char.ofNat first.toNat = c := by
  rw [eq_utf8EncodeChar_iff, byteValues]
  constructor
  · intro values
    repeat' split at values
    all_goals simp at values
    rw [values, Char.ofNat_toNat]
    exact ⟨‹_›, rfl⟩
  · rintro ⟨small, rfl⟩
    have valid : first.toNat.isValidChar :=
      .inl (by omega)
    have code : (Char.ofNat first.toNat).toNat = first.toNat := by
      rw [Char.ofNat, dif_pos valid]
      rfl
    rw [code, if_pos small]
    rfl

/-- The bytes of a character, by the range that the first of them lies in. -/
theorem utf8EncodeChar_cases (c : Char) :
    (∃ first,
      String.utf8EncodeChar c = [first] ∧ first.toNat < 0x80) ∨
    (∃ first second,
      String.utf8EncodeChar c = [first, second] ∧
        0xC0 ≤ first.toNat ∧ first.toNat < 0xE0) ∨
    (∃ first second third,
      String.utf8EncodeChar c = [first, second, third] ∧
        0xE0 ≤ first.toNat ∧ first.toNat < 0xF0) ∨
    ∃ first second third fourth,
      String.utf8EncodeChar c = [first, second, third, fourth] ∧
        0xF0 ≤ first.toNat := by
  have values := map_toNat_utf8EncodeChar c
  unfold byteValues at values
  repeat' split at values
  all_goals simp only [List.map_eq_cons_iff, List.map_eq_nil_iff] at values
  · obtain ⟨first, _, shape, value, rfl⟩ := values
    exact .inl ⟨first, shape, by omega⟩
  · obtain ⟨first, _, shape, value, second, _, rfl, -, rfl⟩ := values
    exact .inr (.inl ⟨first, second, shape, by omega⟩)
  · obtain ⟨first, _, shape, value, second, _, rfl, -, third, _, rfl, -, rfl⟩ :=
      values
    exact .inr (.inr (.inl ⟨first, second, third, shape, by omega⟩))
  · obtain ⟨first, _, shape, value, second, _, rfl, -, third, _, rfl, -,
      fourth, _, rfl, -, rfl⟩ := values
    exact .inr (.inr (.inr ⟨first, second, third, fourth, shape, by omega⟩))

theorem exists_cons_utf8EncodeChar (c : Char) :
    ∃ first rest, String.utf8EncodeChar c = first :: rest := by
  apply List.exists_cons_of_length_pos
  rw [String.length_utf8EncodeChar]
  exact c.utf8Size_pos

theorem decodeTwo?_of_large
    {first : UInt8}
    (large : 0xE0 ≤ first.toNat)
    (second : UInt8) :
    decodeTwo? first second = none := by
  have outside : ¬ (0xC0 ≤ first.toNat && first.toNat < 0xE0) = true := by
    simp
    omega
  rw [decodeTwo?, if_neg outside]

theorem decodeThree?_of_large
    {first : UInt8}
    (large : 0xF0 ≤ first.toNat)
    (second third : UInt8) :
    decodeThree? first second third = none := by
  have outside : ¬ (0xE0 ≤ first.toNat && first.toNat < 0xF0) = true := by
    simp
    omega
  rw [decodeThree?, if_neg outside]

/--
At the head of a byte string a character is decoded if its bytes stand there.
-/
theorem decodeHead?_utf8EncodeChar
    (c : Char)
    (rest : List UInt8) :
    decodeHead? (String.utf8EncodeChar c ++ rest) =
      some (c, (String.utf8EncodeChar c).length - 1) := by
  rcases utf8EncodeChar_cases c with
    ⟨first, shape, small⟩ | ⟨first, second, shape, lead, -⟩ |
      ⟨first, second, third, shape, lead, -⟩ |
        ⟨first, second, third, fourth, shape, lead⟩
  · have value := (singleton_eq_utf8EncodeChar_iff.mp shape.symm).2
    simp [shape, decodeHead?, small, value]
  · have decoded := decodeTwo?_eq_some_iff.mpr shape.symm
    have notSmall : ¬ first.toNat < 0x80 := by
      omega
    rcases rest with _ | ⟨third, _ | ⟨fourth, rest⟩⟩ <;>
      simp [shape, decodeHead?, notSmall, decoded]
  · have decoded := decodeThree?_eq_some_iff.mpr shape.symm
    have notSmall : ¬ first.toNat < 0x80 := by
      omega
    rcases rest with _ | ⟨fourth, rest⟩ <;>
      simp [shape, decodeHead?, notSmall, decodeTwo?_of_large lead, decoded]
  · have decoded := decodeFour?_eq_some_iff.mpr shape.symm
    have notSmall : ¬ first.toNat < 0x80 := by
      omega
    have notTwo : 0xE0 ≤ first.toNat := by
      omega
    simp [shape, decodeHead?, notSmall, decodeTwo?_of_large notTwo,
      decodeThree?_of_large lead, decoded]

/--
What is decoded at the head of a byte string is a character whose bytes stand
there.
-/
theorem exists_of_decodeHead?
    {bytes : List UInt8}
    {c : Char}
    {more : Nat}
    (decoded : decodeHead? bytes = some (c, more)) :
    ∃ rest,
      bytes = String.utf8EncodeChar c ++ rest ∧
        (String.utf8EncodeChar c).length = more + 1 := by
  have found {front : List UInt8}
      (encodes : front = String.utf8EncodeChar c)
      (rest : List UInt8) :
      ∃ behind,
        front ++ rest = String.utf8EncodeChar c ++ behind ∧
          (String.utf8EncodeChar c).length = front.length :=
    ⟨rest, by rw [encodes], by rw [encodes]⟩
  rcases bytes with _ | ⟨first, rest⟩
  · contradiction
  by_cases small : first.toNat < 0x80
  · simp only [decodeHead?, small, ↓reduceIte, Option.some.injEq, Prod.mk.injEq]
      at decoded
    obtain ⟨value, rfl⟩ := decoded
    exact found (singleton_eq_utf8EncodeChar_iff.mpr ⟨small, value⟩) rest
  rcases rest with _ | ⟨second, _ | ⟨third, _ | ⟨fourth, rest⟩⟩⟩ <;>
    simp only [decodeHead?, small, ↓reduceIte, reduceCtorEq,
      Option.orElse_eq_orElse, Option.orElse_eq_or, Option.or_eq_some_iff,
      Option.map_eq_some_iff, Prod.mk.injEq, decodeTwo?_eq_some_iff,
      decodeThree?_eq_some_iff, decodeFour?_eq_some_iff] at decoded
  · obtain ⟨_, encodes, rfl, rfl⟩ := decoded
    exact found encodes []
  · rcases decoded with ⟨_, encodes, rfl, rfl⟩ | ⟨-, _, encodes, rfl, rfl⟩
    · exact found encodes [third]
    · exact found encodes []
  · rcases decoded with
      ⟨_, encodes, rfl, rfl⟩ |
        ⟨-, ⟨_, encodes, rfl, rfl⟩ | ⟨-, _, encodes, rfl, rfl⟩⟩
    · exact found encodes (third :: fourth :: rest)
    · exact found encodes (fourth :: rest)
    · exact found encodes rest

/-! ## Texts -/

/-- Bytes that belong to the character in front of them are passed over. -/
theorem decodeFrom_length_append (front rest : List UInt8) :
    decodeFrom front.length (front ++ rest) = decode rest := by
  induction front with
  | nil =>
      rfl
  | cons first front inductionHypothesis =>
      exact inductionHypothesis

theorem decode_utf8EncodeChar_append
    (c : Char)
    (rest : List UInt8) :
    decode (String.utf8EncodeChar c ++ rest) = .char c :: decode rest := by
  have head := decodeHead?_utf8EncodeChar c rest
  obtain ⟨first, behind, shape⟩ := exists_cons_utf8EncodeChar c
  rw [shape, List.length_cons, Nat.add_sub_cancel] at head
  rw [shape, decode, List.cons_append, decodeFrom, ← List.cons_append, head]
  exact congrArg (List.cons _) (decodeFrom_length_append behind rest)

theorem text?_utf8EncodeChar_append
    (c : Char)
    (rest : List UInt8) :
    text? (String.utf8EncodeChar c ++ rest) = (text? rest).map (c :: ·) := by
  rw [text?, decode_utf8EncodeChar_append, List.mapM_cons, ← text?]
  cases text? rest <;>
    rfl

/--
A byte string with a text is empty, or its first character stands in front of
the others.
-/
theorem exists_of_text?_cons
    {first : UInt8}
    {rest : List UInt8}
    {text : List Char}
    (read : text? (first :: rest) = some text) :
    ∃ c others behind,
      text = c :: others ∧
        first :: rest = String.utf8EncodeChar c ++ behind ∧
        text? behind = some others := by
  cases head : decodeHead? (first :: rest) with
  | none =>
      simp [text?, decode, decodeFrom, head, Piece.char?] at read
  | some decoded =>
      obtain ⟨c, more⟩ := decoded
      obtain ⟨behind, shape, -⟩ := exists_of_decodeHead? head
      rw [shape, text?_utf8EncodeChar_append, Option.map_eq_some_iff] at read
      obtain ⟨others, read, rfl⟩ := read
      exact ⟨c, others, behind, rfl, shape, read⟩

/-- A byte string has a text exactly if it encodes this text. -/
theorem text?_eq_some_iff
    {bytes : List UInt8}
    {text : List Char} :
    text? bytes = some text ↔ bytes = encode text := by
  constructor
  · intro read
    induction text generalizing bytes with
    | nil =>
        cases bytes with
        | nil =>
            rfl
        | cons first rest =>
            obtain ⟨_, _, _, ⟨⟩, _⟩ := exists_of_text?_cons read
    | cons c text inductionHypothesis =>
        cases bytes with
        | nil =>
            cases read
        | cons first rest =>
            obtain ⟨_, _, behind, ⟨⟩, shape, read⟩ := exists_of_text?_cons read
            rw [shape, inductionHypothesis read]
            rfl
  · rintro rfl
    induction text with
    | nil =>
        rfl
    | cons c text inductionHypothesis =>
        rw [encode, List.flatMap_cons, text?_utf8EncodeChar_append, ← encode,
          inductionHypothesis]
        rfl

/-- A byte string that is wholly made of encoded characters. -/
def IsText (bytes : List UInt8) : Prop :=
  ∃ text, bytes = encode text

theorem encode_append (first second : List Char) :
    encode (first ++ second) = encode first ++ encode second :=
  List.flatMap_append

/--
The first byte of a character continues none, and each byte behind it continues
it.
-/
theorem bounds_of_utf8EncodeChar
    {c : Char}
    {first : UInt8}
    {rest : List UInt8}
    (shape : String.utf8EncodeChar c = first :: rest) :
    (first.toNat < 0x80 ∨ 0xC0 ≤ first.toNat) ∧
      ∀ byte ∈ rest, 0x80 ≤ byte.toNat ∧ byte.toNat < 0xC0 := by
  have values := map_toNat_utf8EncodeChar c
  rw [shape, List.map_cons, byteValues] at values
  repeat' split at values
  all_goals
    obtain ⟨value, others⟩ := List.cons.inj values
    have inside :
        ∀ value ∈ rest.map UInt8.toNat, 0x80 ≤ value ∧ value < 0xC0 := by
      rw [others]
      simp <;> omega
    exact ⟨by omega, fun byte member => inside _ (List.mem_map_of_mem member)⟩

/-- The first byte of an encoded text continues no character. -/
theorem bound_of_encode_eq_cons
    {text : List Char}
    {first : UInt8}
    {rest : List UInt8}
    (shape : encode text = first :: rest) :
    first.toNat < 0x80 ∨ 0xC0 ≤ first.toNat := by
  cases text with
  | nil =>
      contradiction
  | cons c text =>
      obtain ⟨head, behind, bytes⟩ := exists_cons_utf8EncodeChar c
      rw [encode, List.flatMap_cons, bytes] at shape
      cases shape
      exact (bounds_of_utf8EncodeChar bytes).1

/--
Where an encoded text is cut in front of an encoded text, what stands there is
one as well.  A cut inside a character would leave the text behind it with a
byte that continues one.
-/
theorem isText_of_encode_eq_append
    {text rest : List Char}
    {bytes : List UInt8}
    (same : encode text = bytes ++ encode rest) :
    IsText bytes := by
  induction text generalizing bytes with
  | nil =>
      have isEmpty : bytes = [] :=
        (List.append_eq_nil_iff.mp same.symm).1
      exact ⟨[], isEmpty⟩
  | cons c text inductionHypothesis =>
      rw [encode, List.flatMap_cons] at same
      rcases List.append_eq_append_iff.mp same with
        ⟨more, rfl, tail⟩ | ⟨more, shape, tail⟩
      · obtain ⟨front, rfl⟩ := inductionHypothesis tail
        exact ⟨c :: front, rfl⟩
      · cases bytes with
        | nil =>
            exact ⟨[], rfl⟩
        | cons first behind =>
            cases more with
            | nil =>
                exact ⟨[c], by simp [encode, shape]⟩
            | cons next more =>
                have continues : 0x80 ≤ next.toNat ∧ next.toNat < 0xC0 :=
                  (bounds_of_utf8EncodeChar shape).2 next (by simp)
                have starts : next.toNat < 0x80 ∨ 0xC0 ≤ next.toNat :=
                  bound_of_encode_eq_cons tail
                omega

/-- Text behind a byte string decides nothing about whether it is a text. -/
theorem isText_append_encode_iff
    {bytes : List UInt8}
    {rest : List Char} :
    IsText (bytes ++ encode rest) ↔ IsText bytes := by
  constructor
  · rintro ⟨text, same⟩
    exact isText_of_encode_eq_append same.symm
  · rintro ⟨text, rfl⟩
    exact ⟨text ++ rest, (encode_append text rest).symm⟩

end SheetLint.Text
