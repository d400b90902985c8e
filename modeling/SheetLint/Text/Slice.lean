namespace SheetLint.Text

/-!
# Slices by bytes

A text is stored as UTF-8, and a slice of it is given by two byte offsets.  An
offset that is out of range or falls inside a character gives no slice.
-/

/-- The number of bytes of a text in UTF-8. -/
def byteLength : List Char → Nat
  | [] =>
      0
  | c :: rest =>
      c.utf8Size + byteLength rest

/--
The first `count` bytes of a text; none where they are not whole characters of
it.
-/
def takeBytes? : Nat → List Char → Option (List Char)
  | 0, _ =>
      some []
  | _ + 1, [] =>
      none
  | count + 1, c :: rest =>
      if c.utf8Size ≤ count + 1 then
        (takeBytes? (count + 1 - c.utf8Size) rest).map (c :: ·)
      else
        none

/--
The text without its first `count` bytes; none where they are not whole
characters of it.
-/
def dropBytes? : Nat → List Char → Option (List Char)
  | 0, text =>
      some text
  | _ + 1, [] =>
      none
  | count + 1, c :: rest =>
      if c.utf8Size ≤ count + 1 then
        dropBytes? (count + 1 - c.utf8Size) rest
      else
        none

/-- The bytes of a text from offset `start` to offset `stop`. -/
def slice? (start stop : Nat) (text : List Char) : Option (List Char) :=
  if start ≤ stop then
    (takeBytes? stop text).bind (dropBytes? start)
  else
    none

/-- The bytes of two texts add up. -/
theorem byteLength_append (first second : List Char) :
    byteLength (first ++ second) = byteLength first + byteLength second := by
  induction first with
  | nil =>
      simp [byteLength]
  | cons c rest inductionHypothesis =>
      simp [byteLength, inductionHypothesis, Nat.add_assoc]

/--
A first character has at least one byte; without its bytes those of the rest are
left.
-/
theorem exists_byteLength_cons (c : Char) (rest : List Char) :
    ∃ count,
      byteLength (c :: rest) = count + 1 ∧
        c.utf8Size ≤ count + 1 ∧
        count + 1 - c.utf8Size = byteLength rest := by
  have positive : 0 < c.utf8Size :=
    Char.utf8Size_pos c
  refine ⟨c.utf8Size - 1 + byteLength rest, ?_⟩
  rw [byteLength]
  omega

/-- The bytes of the first of two texts can be dropped. -/
theorem dropBytes?_byteLength_append (first second : List Char) :
    dropBytes? (byteLength first) (first ++ second) = some second := by
  induction first with
  | nil =>
      cases second <;> rfl
  | cons c rest inductionHypothesis =>
      obtain ⟨count, size, fits, left⟩ := exists_byteLength_cons c rest
      rw [size, List.cons_append, dropBytes?, if_pos fits, left]
      exact inductionHypothesis

/-- The bytes of the first of two texts can be taken. -/
theorem takeBytes?_byteLength_append (first second : List Char) :
    takeBytes? (byteLength first) (first ++ second) = some first := by
  induction first with
  | nil =>
      cases second <;> rfl
  | cons c rest inductionHypothesis =>
      obtain ⟨count, size, fits, left⟩ := exists_byteLength_cons c rest
      rw [size, List.cons_append, takeBytes?, if_pos fits, left,
        inductionHypothesis]
      rfl

/-- An ASCII character takes one byte. -/
theorem byteLength_of_ascii {text : List Char}
    (ascii : ∀ c ∈ text, c.toNat < 128) :
    byteLength text = text.length := by
  induction text with
  | nil =>
      rfl
  | cons c rest inductionHypothesis =>
      obtain ⟨small, ascii⟩ := List.forall_mem_cons.mp ascii
      have oneByte : c.utf8Size = 1 := by
        rw [Char.utf8Size_eq_one_iff, UInt32.le_iff_toNat_le]
        change c.toNat ≤ 127
        omega
      rw [byteLength, oneByte, inductionHypothesis ascii, List.length_cons,
        Nat.add_comm]

/-- The bytes of a text are those of the string with its characters. -/
theorem utf8ByteSize_ofList (text : List Char) :
    (String.ofList text).utf8ByteSize = byteLength text := by
  induction text with
  | nil =>
      rfl
  | cons c rest inductionHypothesis =>
      rw [String.ofList_cons, String.utf8ByteSize_append, inductionHypothesis]
      simp [byteLength]

end SheetLint.Text
