/-
  DebugMerge.Proofs.Command.Actions
  ─────────────────────────────────
  **Running the steps of a command.**

  A step is run on a session and gives a value or a failure, and the session
  behind it.  A step that fails leaves what the steps before it did.

  Main statements
    • `Action.run_bind`                        — one step behind another
    • `Action.run_of_isOk`, `run_of_not_isOk`  — the two ways to end
    • `run_orFail_bind`, `run_withFiles_bind`, `run_print` — the steps of commands
-/
import DebugMerge.Command.Session

namespace DebugMerge

variable {α β : Type} (s : Session)

namespace Action

/-- **One step behind another**: the second one finds the session that the first one left, unless
that one failed. -/
theorem run_bind (action : Action α) (next : α → Action β) :
    (action >>= next).run.run s = match action.run.run s with
      | (.ok a, s) => (next a).run.run s
      | (.error e, s) => (.error e, s) := by
  show (match action.run.run s with
    | (result, s) => ((ExceptT.bindCont next result : StateM Session _)) s) = _
  cases action.run.run s with
  | mk result s => cases result <;> rfl

theorem run_get_bind (next : Session → Action β) :
    (get >>= next).run.run s = (next s).run.run s := rfl

theorem run_modify_bind (change : Session → Session) (next : PUnit → Action β) :
    (modify change >>= next).run.run s = (next ⟨⟩).run.run (change s) := rfl

/-- Nothing comes behind a failure. -/
theorem run_throw_bind (e : Stop) (next : α → Action β) :
    ((throw e : Action α) >>= next).run.run s = (.error e, s) := rfl

/-- A step that succeeds and has nothing to give. -/
theorem run_of_isOk (action : Action Unit) (h : (action.run.run s).1.isOk = true) :
    action.run.run s = (.ok (), (action.run.run s).2) := by
  generalize action.run.run s = ran at h ⊢
  obtain ⟨result, s⟩ := ran
  cases result with
  | ok => rfl
  | error => cases h

/-- A step that fails. -/
theorem run_of_not_isOk (action : Action Unit) (h : (action.run.run s).1.isOk = false) :
    ∃ e, action.run.run s = (.error e, (action.run.run s).2) := by
  generalize action.run.run s = ran at h ⊢
  obtain ⟨result, s⟩ := ran
  cases result with
  | ok => cases h
  | error e => exact ⟨e, rfl⟩

end Action

section Steps

variable {ε : Type} (explain : ε → CommandError)

/-- What may fail is given on, or its failure is explained. -/
theorem run_orFail_bind (result : Except ε α) (next : α → Action β) :
    (orFail explain result >>= next).run.run s = match result with
      | .ok a => (next a).run.run s
      | .error e => (.error (.failed (explain e)), s) := by
  cases result <;> rfl

/-- The files are changed, unless the change fails. -/
theorem run_withFiles_bind (change : Files → Except ε Files) (next : Unit → Action β) :
    (withFiles explain change >>= next).run.run s = match change s.files with
      | .ok files => (next ()).run.run { s with files }
      | .error e => (.error (.failed (explain e)), s) := by
  rw [Action.run_bind]
  unfold withFiles
  rw [Action.run_get_bind, run_orFail_bind]
  cases change s.files <;> rfl

theorem run_print (line : String) :
    (print line).run.run s = (.ok (), { s with out := s.out ++ [line] }) := rfl

end Steps

end DebugMerge
