import SheetLint.Json.Printer
import SheetLint.Proofs.Json.Lexemes
import SheetLint.Proofs.Json.Whole

namespace SheetLint.Json

/-!
# Reading the lexemes of a value

The lexemes of a value lead the reader from any state in which a value is due to
the state behind this value, whatever is open around it and whatever follows.
So a text whose lexemes are those of a value is read as the draft of the value.
-/

namespace Assembly

/-- Reading stops where a value is complete and nothing is open around it. -/
theorem run_after
    (value : Draft)
    (lexemes : List Lexeme) :
    run ⟨.after value, []⟩ lexemes = (value, lexemes) := by
  cases lexemes <;>
    rfl

theorem run_of_step
    {assembly next : Assembly}
    {lexeme : Lexeme}
    (unfinished : assembly.result? = none)
    (stepped : assembly.step lexeme = some next)
    (rest : List Lexeme) :
    assembly.run (lexeme :: rest) = next.run rest := by
  simp only [run, unfinished, stepped]

/--
A value is due inside `frames`, or the first item of the array that is the
innermost frame.
-/
structure AwaitsValue (assembly : Assembly) (frames : List Frame) : Prop where
  unfinished :
    assembly.result? = none
  step_eq :
    ∀ lexeme,
      lexeme ≠ .closeArray →
      assembly.step lexeme = startValue frames lexeme

theorem awaitsValue_value (frames : List Frame) :
    AwaitsValue ⟨.value, frames⟩ frames where
  unfinished := rfl
  step_eq _ _ := rfl

theorem awaitsValue_firstItem (frames : List Frame) :
    AwaitsValue ⟨.firstItem, frames⟩ (.items [] :: frames) where
  unfinished := rfl
  step_eq _ notClosed := by
    simp [step]

/-- A key is due behind the fields `before` of an object. -/
structure AwaitsKey
    (assembly : Assembly)
    (before : List (Option String × Draft))
    (frames : List Frame) : Prop where
  unfinished :
    assembly.result? = none
  step_eq :
    ∀ key,
      assembly.step (.text key) = some ⟨.colon before key, frames⟩

theorem awaitsKey_key
    (before : List (Option String × Draft))
    (frames : List Frame) :
    AwaitsKey ⟨.key before, frames⟩ before frames where
  unfinished := rfl
  step_eq _ := rfl

theorem awaitsKey_firstKey (frames : List Frame) :
    AwaitsKey ⟨.firstKey, frames⟩ [] frames where
  unfinished := rfl
  step_eq _ := rfl

/-- The lexemes of the value are read as its draft wherever a value is due. -/
def ReadsBack (value : Json) : Prop :=
  ∀ {assembly : Assembly} {frames : List Frame},
    assembly.AwaitsValue frames →
    ∀ rest,
      assembly.run (value.lexemes ++ rest) =
        run ⟨.after (.ofValue value), frames⟩ rest

theorem readsBack_of_start
    {value : Json}
    {lexeme : Lexeme}
    (single : value.lexemes = [lexeme])
    (notClosed : lexeme ≠ .closeArray)
    (start :
      ∀ frames,
        startValue frames lexeme = some ⟨.after (.ofValue value), frames⟩) :
    ReadsBack value := by
  intro assembly frames awaits rest
  rw [single, List.singleton_append]
  exact run_of_step awaits.unfinished
    ((awaits.step_eq lexeme notClosed).trans (start frames)) rest

/-- Items are read one by one behind those that were read before. -/
theorem run_itemLexemes
    {item : Json}
    {items : List Json}
    (each : ∀ value ∈ item :: items, ReadsBack value)
    {assembly : Assembly}
    {before : List Draft}
    {frames : List Frame}
    (awaits : assembly.AwaitsValue (.items before :: frames))
    (rest : List Lexeme) :
    assembly.run (itemLexemes (item :: items) ++ .closeArray :: rest) =
      run
        ⟨.after (.array (before.reverse ++ Draft.ofItems (item :: items)) true),
          frames⟩ rest := by
  induction items generalizing item assembly before with
  | nil =>
      have first : ReadsBack item :=
        each item List.mem_cons_self
      rw [itemLexemes, first awaits, run_of_step rfl rfl]
      simp [Draft.ofItems]
  | cons next items inductionHypothesis =>
      obtain ⟨first, others⟩ := List.forall_mem_cons.mp each
      rw [itemLexemes, List.append_assoc, List.cons_append, first awaits,
        run_of_step rfl rfl, inductionHypothesis others (awaitsValue_value _)]
      simp [Draft.ofItems]

/-- Fields are read one by one behind those that were read before. -/
theorem run_fieldLexemes
    {field : String × Json}
    {fields : List (String × Json)}
    (each : ∀ named ∈ field :: fields, ReadsBack named.2)
    {assembly : Assembly}
    {before : List (Option String × Draft)}
    {frames : List Frame}
    (awaits : assembly.AwaitsKey before frames)
    (rest : List Lexeme) :
    assembly.run (fieldLexemes (field :: fields) ++ .closeObject :: rest) =
      run
        ⟨.after
            (.object (before.reverse ++ Draft.ofFields (field :: fields)) true),
          frames⟩ rest := by
  induction fields generalizing field assembly before with
  | nil =>
      obtain ⟨key, value⟩ := field
      have first : ReadsBack value :=
        each (key, value) List.mem_cons_self
      rw [fieldLexemes, List.cons_append, List.cons_append,
        run_of_step awaits.unfinished (awaits.step_eq key), run_of_step rfl rfl,
        first (awaitsValue_value _), run_of_step rfl rfl]
      simp [Draft.ofFields]
  | cons next fields inductionHypothesis =>
      obtain ⟨key, value⟩ := field
      obtain ⟨first, others⟩ := List.forall_mem_cons.mp each
      rw [fieldLexemes, List.cons_append, List.cons_append, List.append_assoc,
        List.cons_append, run_of_step awaits.unfinished (awaits.step_eq key),
        run_of_step rfl rfl, first (awaitsValue_value _), run_of_step rfl rfl,
        inductionHypothesis others (awaitsKey_key _ _)]
      simp [Draft.ofFields]

/--
The lexemes of any value are read as its draft.  Behind its opening mark an
array or an object may end at once, which no later place allows, so that the
empty ones stand apart.
-/
theorem readsBack (value : Json) : ReadsBack value := by
  induction value with
  | array items inductionHypothesis =>
      intro assembly frames awaits rest
      have opened : assembly.step .openArray = some ⟨.firstItem, frames⟩ :=
        awaits.step_eq .openArray (by simp)
      rw [lexemes, List.cons_append, List.append_assoc, List.singleton_append,
        run_of_step awaits.unfinished opened]
      cases items with
      | nil =>
          exact run_of_step rfl rfl rest
      | cons item items =>
          exact run_itemLexemes inductionHypothesis
            (awaitsValue_firstItem frames) rest
  | object fields inductionHypothesis =>
      intro assembly frames awaits rest
      have opened : assembly.step .openObject = some ⟨.firstKey, frames⟩ :=
        awaits.step_eq .openObject (by simp)
      rw [lexemes, List.cons_append, List.append_assoc, List.singleton_append,
        run_of_step awaits.unfinished opened]
      cases fields with
      | nil =>
          exact run_of_step rfl rfl rest
      | cons field fields =>
          exact run_fieldLexemes inductionHypothesis
            (awaitsKey_firstKey frames) rest
  | _ =>
      refine readsBack_of_start rfl ?_ fun _ => rfl
      simp

end Assembly

namespace Draft

/-- The lexemes of a value are read as its draft; what follows is left over. -/
theorem ofLexemes_lexemes
    (value : Json)
    (rest : List Lexeme) :
    ofLexemes (value.lexemes ++ rest) = (ofValue value, rest) := by
  rw [ofLexemes, Assembly.readsBack value (Assembly.awaitsValue_value []),
    Assembly.run_after]

end Draft

/-- A text with the lexemes of a value denotes the value. -/
theorem read?_of_lex
    {text : List Char}
    {value : Json}
    (lexed : lex text = value.lexemes)
    (fits : value.depth ≤ nestingLimit) :
    read? text = some value := by
  refine read?_eq_some_iff.mpr ⟨?_, fits⟩
  rw [lexed, ← List.append_nil value.lexemes, Draft.ofLexemes_lexemes]

/-- The written text of a value denotes it, if every lexeme shows its end. -/
theorem read?_write
    {value : Json}
    (closed : ∀ lexeme ∈ value.lexemes, lexeme.isClosed = true)
    (fits : value.depth ≤ nestingLimit) :
    read? value.write = some value :=
  read?_of_lex (lex_flatMap_write closed) fits

theorem closed_itemLexemes
    {items : List Json}
    (each : ∀ item ∈ items, ∀ lexeme ∈ item.lexemes, lexeme.isClosed = true) :
    ∀ lexeme ∈ itemLexemes items, lexeme.isClosed = true := by
  induction items with
  | nil =>
      simp [itemLexemes]
  | cons item rest inductionHypothesis =>
      obtain ⟨first, others⟩ := List.forall_mem_cons.mp each
      cases rest with
      | nil =>
          exact first
      | cons next rest =>
          intro lexeme stands
          rcases List.mem_append.mp stands with inFirst | behind
          · exact first lexeme inFirst
          · rcases List.mem_cons.mp behind with rfl | later
            · rfl
            · exact inductionHypothesis others lexeme later

/-- Where the lexemes of every item show their end, those of the array do. -/
theorem closed_array
    {items : List Json}
    (each : ∀ item ∈ items, ∀ lexeme ∈ item.lexemes, lexeme.isClosed = true) :
    ∀ lexeme ∈ (Json.array items).lexemes, lexeme.isClosed = true := by
  intro lexeme stands
  rw [lexemes, List.mem_cons, List.mem_append, List.mem_singleton] at stands
  rcases stands with rfl | inItems | rfl
  · rfl
  · exact closed_itemLexemes each lexeme inItems
  · rfl

/-- The same for an array whose items are closed and not too deep. -/
theorem read?_write_array
    {items : List Json}
    (closed : ∀ item ∈ items, ∀ lexeme ∈ item.lexemes, lexeme.isClosed = true)
    (fits : ∀ item ∈ items, item.depth < nestingLimit) :
    read? (Json.array items).write = some (.array items) := by
  have inRoom : itemsDepth items ≤ nestingLimit - 1 :=
    itemsDepth_le_iff.mpr fun item member =>
      Nat.le_pred_of_lt (fits item member)
  exact read?_write (closed_array closed) (Nat.succ_le_succ inRoom)

end SheetLint.Json
