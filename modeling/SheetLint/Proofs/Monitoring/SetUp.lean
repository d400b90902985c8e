import Mathlib.Data.List.TakeWhile
import SheetLint.Proofs.Monitoring.History
import SheetLint.Proofs.Monitoring.Opening
import SheetLint.Proofs.Text.Pieces

namespace SheetLint.Monitoring.Session

/-!
# What a set-up does

The outcome of a set-up and all that it changes follow from the state it finds:
the lock, the guard, the modes, the way of each mode among the files, and the
subscriber, in this order.  Guard and subscriber are set together or not at all.
Directories are not undone: a set-up that fails leaves those that it had made,
also the ones on the way of the mode that stopped it.
-/

/-! ## Files during a run -/

@[simp] theorem tree_report
    (session : Session)
    (event : Trace.Event) :
    (session.report event).tree = session.tree := by
  rw [report_eq]

/-- A step only makes directories. -/
theorem Moves.grownBy
    {session after : Session}
    {step : Step}
    {outcome : Except SetUpFailure Unit}
    (moves : session.Moves step outcome after)
    (sound : session.tree.Sound) :
    ∃ places, session.tree.GrownBy places after.tree := by
  cases moves with
  | closed asked sane free nonempty opening =>
      exact ⟨_, grownBy_of_openSinks sound opening⟩
  | taken asked sane free nonempty opening =>
      exact ⟨_, grownBy_of_openSinks sound opening⟩
  | installed asked sane free nonempty opening =>
      exact ⟨_, grownBy_of_openSinks sound opening⟩
  | repeated =>
      exact ⟨[], (tree_report session _).symm ▸ .refl sound⟩
  | reported event =>
      exact ⟨[], (tree_report session event).symm ▸ .refl sound⟩
  | unread | refused | silent | released | locked =>
      exact ⟨[], .refl sound⟩

section

variable {session : Session} {modes : List Mode} {tree : FileTree}

end

section

variable {byte : UInt8} (isName : byte ≠ Path.slash) (count : Nat)

include isName

end

end SheetLint.Monitoring.Session
