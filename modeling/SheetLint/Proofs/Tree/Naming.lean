import SheetLint.Proofs.Text.Quoted
import SheetLint.Proofs.Tree.Placement
import SheetLint.Tree.Arena

namespace SheetLint

/-!
# Messages that tell the nodes

The message about a node that its parent does not list holds the names of both
between fixed words.  A name may hold anything, these words included, so that
the words alone do not show where the names stand.  The names themselves do: a
number ends where its digits end, a string where its literal ends, a pair and a
node of an arena where the parenthesis closes.  The name of the node is
therefore taken off the front of the message in one way only, and what is left
is the name of the parent.
-/

/-- A text that does not go on with a digit. -/
def StopsDigits (text : List Char) : Prop :=
  ∀ c ∈ text.head?, c.isDigit = false

@[simp] theorem stopsDigits_nil :
    StopsDigits [] := by
  simp [StopsDigits]

@[simp] theorem stopsDigits_cons_iff
    {c : Char}
    {rest : List Char} :
    StopsDigits (c :: rest) ↔ c.isDigit = false := by
  simp [StopsDigits]

/--
Names that show where they end: in front of a text that does not go on with a
digit, they are those of a single node.
-/
class LawfulNodeLabel (ι : Type) [NodeLabel ι] : Prop where
  label_append_inj
    {node other : ι}
    {back otherBack : List Char}
    (stops : StopsDigits back)
    (otherStops : StopsDigits otherBack)
    (same : NodeLabel.label node ++ back = NodeLabel.label other ++ otherBack) :
    node = other ∧ back = otherBack

/-! ## Numbers -/

theorem isDigit_of_mem_repr
    {number : Nat}
    {c : Char}
    (member : c ∈ (Nat.repr number).toList) :
    c.isDigit = true := by
  rw [Nat.repr_eq_ofList_toDigits, String.toList_ofList] at member
  exact Nat.isDigit_of_mem_toDigits (by omega) (by omega) member

theorem repr_append_inj
    {number other : Nat}
    {back otherBack : List Char}
    (stops : StopsDigits back)
    (otherStops : StopsDigits otherBack)
    (same :
      (Nat.repr number).toList ++ back = (Nat.repr other).toList ++ otherBack) :
    number = other ∧ back = otherBack := by
  obtain ⟨sameDigits, sameBack⟩ :=
    Text.append_inj_of_run (fun _ => isDigit_of_mem_repr)
      (fun _ => isDigit_of_mem_repr) stops otherStops same
  have sameNumber :=
    congrArg (fun digits => Nat.ofDigitChars 10 digits 0) sameDigits
  simp only [Nat.repr_eq_ofList_toDigits, String.toList_ofList,
    Nat.ofDigitChars_ten_toDigits] at sameNumber
  exact ⟨sameNumber, sameBack⟩

/-- No number without a sign begins like one with a sign. -/
theorem repr_append_ne_sign
    (number : Nat)
    (back rest : List Char) :
    (Nat.repr number).toList ++ back ≠ '-' :: rest := by
  intro same
  cases digits : (Nat.repr number).toList with
  | nil =>
      exact Nat.repr_ne_empty (String.toList_eq_nil_iff.mp digits)
  | cons first more =>
      rw [digits] at same
      have isDigit : first.isDigit = true :=
        isDigit_of_mem_repr (digits ▸ List.mem_cons_self)
      rw [(List.cons.inj same).1] at isDigit
      contradiction

instance : LawfulNodeLabel Nat where
  label_append_inj :=
    repr_append_inj

instance : LawfulNodeLabel Int where
  label_append_inj := by
    intro number other back otherBack stops otherStops same
    simp only [NodeLabel.label, List.append_assoc] at same
    by_cases negative : number < 0 <;> by_cases otherNegative : other < 0
    · rw [if_pos negative, if_pos otherNegative] at same
      obtain ⟨sameSize, sameBack⟩ :=
        repr_append_inj stops otherStops (List.append_cancel_left same)
      exact ⟨by omega, sameBack⟩
    · rw [if_pos negative, if_neg otherNegative] at same
      exact absurd same.symm (repr_append_ne_sign _ _ _)
    · rw [if_neg negative, if_pos otherNegative] at same
      exact absurd same (repr_append_ne_sign _ _ _)
    · rw [if_neg negative, if_neg otherNegative] at same
      obtain ⟨sameSize, sameBack⟩ := repr_append_inj stops otherStops same
      exact ⟨by omega, sameBack⟩

/-! ## Strings, pairs and nodes of arenas -/

instance : LawfulNodeLabel String where
  label_append_inj := by
    intro text other back otherBack _ _ same
    obtain ⟨sameText, sameBack⟩ := Text.literal_append_inj same
    exact ⟨String.toList_injective sameText, sameBack⟩

instance {α β : Type} [NodeLabel α] [NodeLabel β] [LawfulNodeLabel α]
    [LawfulNodeLabel β] : LawfulNodeLabel (α × β) where
  label_append_inj := by
    rintro ⟨first, second⟩ ⟨otherFirst, otherSecond⟩ back otherBack - - same
    have parts :
        NodeLabel.label first ++ ',' :: ' ' ::
          (NodeLabel.label second ++ ')' :: back) =
          NodeLabel.label otherFirst ++
            ',' :: ' ' ::
              (NodeLabel.label otherSecond ++ ')' :: otherBack) := by
      simpa [NodeLabel.label] using same
    obtain ⟨rfl, behindFirst⟩ :=
      LawfulNodeLabel.label_append_inj (by simp) (by simp) parts
    have secondParts :
        NodeLabel.label second ++ ')' :: back =
          NodeLabel.label otherSecond ++ ')' :: otherBack :=
      (List.append_right_inj [',', ' ']).mp behindFirst
    obtain ⟨rfl, behindSecond⟩ :=
      LawfulNodeLabel.label_append_inj (by simp) (by simp) secondParts
    exact ⟨rfl, List.tail_eq_of_cons_eq behindSecond⟩

/-- The name of a node in an arena, its parts one behind another. -/
theorem label_nodeId (index : Nat) :
    NodeLabel.label (NodeId.mk index) =
      "NodeId(".toList ++ ((Nat.repr index).toList ++ [')']) :=
  List.append_assoc _ _ _

instance : LawfulNodeLabel NodeId where
  label_append_inj := by
    rintro ⟨index⟩ ⟨otherIndex⟩ back otherBack - - same
    have parts :
        (Nat.repr index).toList ++ ')' :: back =
          (Nat.repr otherIndex).toList ++ ')' :: otherBack := by
      apply (List.append_right_inj "NodeId(".toList).mp
      simpa only [label_nodeId, List.append_assoc, List.cons_append,
        List.nil_append] using same
    obtain ⟨rfl, behind⟩ := repr_append_inj (by simp) (by simp) parts
    exact ⟨rfl, List.tail_eq_of_cons_eq behind⟩

/-! ## Messages -/

namespace Misplaced

variable {ι : Type} [NodeLabel ι]

/--
Two messages are equal exactly if they are about the same node and the same
parent.
-/
theorem message_eq_iff
    [LawfulNodeLabel ι]
    {node parent other otherParent : ι} :
    (of node parent).message = (of other otherParent).message ↔
      node = other ∧ parent = otherParent := by
  constructor
  · intro same
    have parts :
        NodeLabel.label node ++
            (" is not among the children of its parent ".toList ++
              NodeLabel.label parent) =
          NodeLabel.label other ++
            (" is not among the children of its parent ".toList ++
              NodeLabel.label otherParent) := by
      apply (List.append_right_inj "node ".toList).mp
      simpa only [message, of, String.toList_append, String.toList_ofList,
        List.append_assoc] using
        congrArg String.toList same
    have words (behind : List Char) :
        StopsDigits
          (" is not among the children of its parent ".toList ++ behind) := by
      rintro c ⟨⟩
      rfl
    obtain ⟨rfl, behindNode⟩ :=
      LawfulNodeLabel.label_append_inj (words _) (words _) parts
    have parents :
        NodeLabel.label parent ++ [] = NodeLabel.label otherParent ++ [] := by
      rw [List.append_cancel_left behindNode]
    obtain ⟨rfl, -⟩ :=
      LawfulNodeLabel.label_append_inj stopsDigits_nil stopsDigits_nil parents
    exact ⟨rfl, rfl⟩
  · rintro ⟨rfl, rfl⟩
    rfl

/--
The messages about nodes of a kind tell which node and which parent they are
about.
-/
def TellsNodes (ι : Type) [NodeLabel ι] : Prop :=
  ∀ node parent other otherParent : ι,
    (of node parent).message = (of other otherParent).message ↔
      node = other ∧ parent = otherParent

theorem tellsNodes
    [LawfulNodeLabel ι] :
    TellsNodes ι :=
  fun _ _ _ _ => message_eq_iff

/--
Messages tell the nodes that they are about: integers of either kind, strings
with any text, pairs of an integer and a string, and nodes of arenas.
-/
theorem message_tells_nodes :
    TellsNodes Int ∧
      TellsNodes Nat ∧
      TellsNodes String ∧
      TellsNodes (Int × String) ∧
      TellsNodes (Nat × String) ∧
      TellsNodes NodeId :=
  ⟨tellsNodes, tellsNodes, tellsNodes, tellsNodes, tellsNodes, tellsNodes⟩

end Misplaced

/--
Two searches, in whatever trees, that end in errors with one message asked for
the same node and found the same parent of it.
-/
theorem Tree.query_eq_of_message_eq
    {ι : Type}
    [DecidableEq ι] [NodeLabel ι] [LawfulNodeLabel ι]
    {tree other : Tree ι}
    {query otherQuery : Option ι}
    {report otherReport : Misplaced}
    {events otherEvents : List Trace.Event}
    (reported : tree.previous query = ⟨.error report, events⟩)
    (otherReported :
      other.previous otherQuery = ⟨.error otherReport, otherEvents⟩)
    (same : report.message = otherReport.message) :
    query = otherQuery ∧
      query.bind tree.parent = otherQuery.bind other.parent := by
  obtain ⟨node, parent, rfl, isChild, -, rfl, -⟩ :=
    previous_eq_error_iff.mp reported
  obtain ⟨otherNode, otherParent, rfl, otherIsChild, -, rfl, -⟩ :=
    previous_eq_error_iff.mp otherReported
  obtain ⟨rfl, rfl⟩ := Misplaced.message_eq_iff.mp same
  exact ⟨rfl, isChild.trans otherIsChild.symm⟩

end SheetLint
