import Mathlib.Data.List.Forall2
import SheetLint.Proofs.Value.Rgb
import SheetLint.Value.Report

namespace SheetLint

/-!
# Condensations in a colour report

A report counts the forms that take fewer bytes than the colours they stand for.
Every colour that is found is a literal, hence ASCII, so that bytes are
characters and no letter changes its length in lower case; the count is then the
number of the colours that can be condensed.  Each of these leaves one event in
the trace, and of the others nothing but the case of their letters changes.
-/

namespace Color

/-- A literal takes one byte for each character. -/
theorem utf8ByteSize_of_isLiteral
    {hex : String}
    (literal : isLiteral hex = true) :
    hex.utf8ByteSize = hex.toList.length := by
  calc
    hex.utf8ByteSize = (String.ofList hex.toList).utf8ByteSize := by
      rw [String.ofList_toList]
    _ = Text.byteLength hex.toList := Text.utf8ByteSize_ofList hex.toList
    _ = hex.toList.length :=
      Text.byteLength_of_ascii (ascii_of_isLiteralChars literal)

theorem utf8ByteSize_lower_of_isLiteralChars
    {text : List Char}
    (literal : isLiteralChars text = true) :
    (String.ofList (Unicode.lower text)).utf8ByteSize = text.length := by
  have ascii : ∀ c ∈ text, c.toNat < 128 :=
    ascii_of_isLiteralChars literal
  have stillAscii : ∀ c ∈ text.map Char.toLower, c.toNat < 128 := by
    intro c member
    obtain ⟨d, original, rfl⟩ := List.mem_map.mp member
    have small := ascii d original
    rw [Unicode.toNat_toLower]
    split <;> omega
  rw [Text.utf8ByteSize_ofList, Unicode.lower_of_ascii ascii,
    Text.byteLength_of_ascii stillAscii, List.length_map]

/--
The shortest form of a literal takes fewer bytes exactly if the literal can be
condensed.
-/
theorem shortestForm_shorter_iff
    {hex : String}
    (literal : isLiteral hex = true) :
    (shortestForm hex).value.utf8ByteSize < hex.utf8ByteSize ↔
      isCondensable hex = true := by
  rw [value_shortestForm,
    utf8ByteSize_lower_of_isLiteralChars (isLiteralChars_kept literal),
    utf8ByteSize_of_isLiteral literal]
  exact (length_kept literal).2

theorem shortestForm_of_condensable
    {hex : String}
    (condensable : isCondensable hex = true) :
    shortestForm hex =
      ⟨String.ofList (Unicode.lower (condensed hex.toList)),
        [.condensed hex (String.ofList (condensed hex.toList))]⟩ := by
  rw [shortestForm, if_pos condensable]

theorem shortestForm_of_not_condensable
    {hex : String}
    (notCondensable : isCondensable hex = false) :
    shortestForm hex = .silent (String.ofList (Unicode.lower hex.toList)) := by
  rw [shortestForm, notCondensable, if_neg Bool.false_ne_true]

theorem message_of_mem_shortestForm
    {hex : String}
    {event : Trace.Event}
    (member : event ∈ (shortestForm hex).events) :
    event.message = "Condensed hex color" := by
  cases condensable : isCondensable hex with
  | false =>
      rw [shortestForm_of_not_condensable condensable] at member
      contradiction
  | true =>
      rw [shortestForm_of_condensable condensable] at member
      rw [List.mem_singleton.mp member]
      rfl

end Color

namespace ColorReport

/--
The event of a condensation tells the colour and, before it is lower-cased, the
short form.
-/
def TellsOf (event : Trace.Event) (colour : String × String) : Prop :=
  ∃ short,
    event = .condensed colour.1 short ∧
      colour.2 = String.ofList (Unicode.lower short.toList)

/--
The trace of a list of colours tells of those that can be condensed, in their
order.
-/
theorem forall₂_tellsOf
    (found : List String) :
    List.Forall₂ TellsOf
      (found.flatMap fun hex => (Color.shortestForm hex).events)
      ((found.map fun hex => (hex, (Color.shortestForm hex).value)).filter
        (Color.isCondensable ·.1)) := by
  induction found with
  | nil =>
      exact .nil
  | cons hex rest inductionHypothesis =>
      rw [List.flatMap_cons, List.map_cons, List.filter_cons]
      cases condensable : Color.isCondensable hex with
      | false =>
          rw [Color.shortestForm_of_not_condensable condensable]
          exact inductionHypothesis
      | true =>
          rw [Color.shortestForm_of_condensable condensable]
          have tells :
              TellsOf
                (.condensed hex (String.ofList (Color.condensed hex.toList)))
                (hex,
                  String.ofList (Unicode.lower (Color.condensed hex.toList))) :=
            ⟨_, rfl, by rw [String.toList_ofList]⟩
          exact .cons tells inductionHypothesis

theorem events_ofValue
    (value : String) :
    (ofValue value).events =
      (Color.find (Quote.mask value)).flatMap fun hex =>
        (Color.shortestForm hex).events := by
  simp only [ofValue, Traced.map, Traced.events_collect, List.flatMap_map]

theorem masked_ofValue
    (value : String) :
    (ofValue value).value.masked = Quote.mask value := by
  simp only [ofValue, Traced.map]

theorem found_ofValue
    (value : String) :
    (ofValue value).value.found = Color.find (Quote.mask value) := by
  simp only [ofValue, Traced.map]

theorem shortest_ofValue
    (value : String) :
    (ofValue value).value.shortest =
      (Color.find (Quote.mask value)).map fun hex =>
        (Color.shortestForm hex).value := by
  simp only [ofValue, Traced.map, Traced.value_collect, List.map_map]
  rfl

theorem lints_ofValue
    (value : String) :
    (ofValue value).value.lints =
      countShorter (ofValue value).value.found
        (ofValue value).value.shortest := by
  simp only [ofValue, Traced.map]

/--
Of the colours found, those whose forms take fewer bytes are those that can be
condensed.
-/
theorem countShorter_find
    (value : String) :
    countShorter (Color.find value)
        ((Color.find value).map fun hex => (Color.shortestForm hex).value) =
      (Color.find value).countP Color.isCondensable := by
  rw [countShorter, ← List.map_prod_left_eq_zip, List.countP_map]
  apply List.countP_congr
  intro hex found
  simpa using Color.shortestForm_shorter_iff (Color.isLiteral_of_mem_find found)

/--
The colours of a value whose forms take fewer bytes are as many as those that
can be condensed and as many as the events of the trace.  The events tell of
these colours in order, and every other form is its colour in lower case.
-/
theorem ofValue_counts_condensations (value : String) :
    let report := (ofValue value).value
    let events := (ofValue value).events
    let colours := report.found.zip report.shortest
    report.masked = Quote.mask value ∧
      report.found = Color.find report.masked ∧
      report.shortest =
        report.found.map (fun hex => (Color.shortestForm hex).value) ∧
      report.lints =
        colours.countP
          (fun colour => colour.2.utf8ByteSize < colour.1.utf8ByteSize) ∧
      report.lints = report.found.countP Color.isCondensable ∧
      report.lints = events.countP (·.message = "Condensed hex color") ∧
      List.Forall₂ TellsOf events (colours.filter (Color.isCondensable ·.1)) ∧
      ∀ colour ∈ colours,
        Color.isCondensable colour.1 = false →
        colour.2 = String.ofList (Unicode.lower colour.1.toList) := by
  intro report events colours
  have masked : report.masked = Quote.mask value := masked_ofValue value
  have found : report.found = Color.find (Quote.mask value) :=
    found_ofValue value
  have shortest :
      report.shortest =
        report.found.map fun hex => (Color.shortestForm hex).value := by
    rw [found]
    exact shortest_ofValue value
  have lints : report.lints = countShorter report.found report.shortest :=
    lints_ofValue value
  have traced :
      events =
        report.found.flatMap fun hex => (Color.shortestForm hex).events := by
    rw [found]
    exact events_ofValue value
  have pairs :
      colours =
        report.found.map fun hex => (hex, (Color.shortestForm hex).value) := by
    rw [List.map_prod_left_eq_zip, ← shortest]
  have tells :
      List.Forall₂ TellsOf events
        (colours.filter (Color.isCondensable ·.1)) := by
    rw [pairs, traced]
    exact forall₂_tellsOf report.found
  have counted : report.lints = report.found.countP Color.isCondensable := by
    rw [lints, shortest, found]
    exact countShorter_find (Quote.mask value)
  refine ⟨masked, by rw [found, masked], shortest, lints, counted,
    ?_, tells, ?_⟩
  · have allTell : ∀ event ∈ events, event.message = "Condensed hex color" := by
      intro event member
      rw [traced] at member
      obtain ⟨hex, -, inTrace⟩ := List.mem_flatMap.mp member
      exact Color.message_of_mem_shortestForm inTrace
    calc
      report.lints = report.found.countP Color.isCondensable := counted
      _ = (colours.filter (Color.isCondensable ·.1)).length := by
        rw [← List.countP_eq_length_filter, pairs, List.countP_map]
        rfl
      _ = events.length := tells.length_eq.symm
      _ = events.countP (·.message = "Condensed hex color") :=
        (List.countP_eq_length.mpr (by simpa using allTell)).symm
  · intro colour member notCondensable
    rw [pairs] at member
    obtain ⟨hex, -, rfl⟩ := List.mem_map.mp member
    rw [Color.shortestForm_of_not_condensable notCondensable]
    rfl

example :
    (ofValue "#AABBCC '#ffffff' #Ff0066").events =
      [.condensed "#AABBCC" "#ABC"] := by
  decide

end ColorReport

end SheetLint
