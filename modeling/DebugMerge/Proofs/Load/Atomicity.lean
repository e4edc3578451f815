/-
  DebugMerge.Proofs.Load.Atomicity
  ────────────────────────────────
  **A load that does not apply anything changes nothing but its history.**

  A run changes the program's database in two places only: where the file's
  content is merged, which is behind the stage of applying, and where the run
  is entered in the load history.  Wherever a run fails, it fails before the
  first or forgets it again.

  Main statements
    • `Database.withRuns`, `LoadJob.recorded_eq` — what recording a run changes
    • `LoadJob.merging_harmless`, `LoadJob.verifying_harmless`
                                                 — what each stage changes
    • `LoadJob.run_unapplied`                    — the whole run
-/
import DebugMerge.Load.Run

namespace DebugMerge

/-! ## §1. The load history. -/

namespace Database

/-- The database with further runs in its history. -/
def withRuns (db : Database) (runs : List RunRow) : Database :=
  { db with loadRuns := db.loadRuns.map (· ++ runs) }

@[simp] theorem withRuns_nil (db : Database) : db.withRuns [] = db := by
  unfold withRuns
  cases db with
  | mk version programInfo memoryBlocks options dataTypes symbols comments lineNumbers loadRuns =>
    cases loadRuns <;> simp

/-! No reader but that of the history reads the history. -/

@[simp] theorem snapshot_withRuns (db : Database) (runs : List RunRow) :
    (db.withRuns runs).snapshot = db.snapshot := rfl

@[simp] theorem info_withRuns (db : Database) (runs : List RunRow) :
    (db.withRuns runs).info = db.info := rfl

@[simp] theorem blocks_withRuns (db : Database) (runs : List RunRow) :
    (db.withRuns runs).blocks = db.blocks := rfl

@[simp] theorem optionsIn_withRuns (db : Database) (runs : List RunRow) (category : String) :
    (db.withRuns runs).optionsIn category = db.optionsIn category := rfl

/-- Recording a run appends it, or there is no history. -/
theorem insertRun_eq (db : Database) (run : LoadRun) :
    db.insertRun run = match db.loadRuns with
      | some rows => .ok (db.withRuns [run.toRow], rows.length + 1)
      | none => .error (.missingTable .loadRuns) := by
  unfold insertRun rowsOf withRuns
  cases db.loadRuns with
  | none => rfl
  | some rows => rfl

end Database

namespace LoadJob

/-- **What recording a run changes**: its history gains at most one run, and none if the
operator declined. -/
theorem recorded_eq (job : LoadJob) (ending : RunEnding) (p : Progress) :
    ∃ runs, job.recorded ending p = p.db.withRuns runs ∧ runs.length ≤ 1
      ∧ (ending = .aborted → runs = []) := by
  have hnone : ∃ runs, p.db = p.db.withRuns runs ∧ runs.length ≤ 1
      ∧ (ending = .aborted → runs = []) :=
    ⟨[], (Database.withRuns_nil p.db).symm, Nat.zero_le 1, fun _ => rfl⟩
  unfold recorded
  split
  · split
    · exact hnone
    · next status hstatus =>
      rw [Database.insertRun_eq]
      cases p.db.loadRuns with
      | none => exact hnone
      | some rows =>
        -- a status was found, so the ending is not that of a declined run
        refine ⟨[(job.record status p.log.length).toRow], rfl, Nat.le_refl 1, ?_⟩
        intro haborted
        rw [haborted] at hstatus
        cases hstatus
  · exact hnone

/-! ## §2. The stages. -/

/-- The database is still `db`, or content was merged: then the stage of applying was
entered, and the run is going to be done. -/
def Harmless (db : Database) (r : Progress × RunEnding) : Prop :=
  r.1.db = db ∨ (.applying ∈ r.1.trace ∧ r.2.stage = .done)

theorem endWith_db (p : Progress) (cause : LoadError) : (p.endWith cause).1.db = p.db := by
  cases cause <;> rfl

theorem endWith_trace (p : Progress) (cause : LoadError) :
    (p.endWith cause).1.trace = p.trace := by
  cases cause <;> rfl

/-- What was entered stays entered. -/
theorem mem_enter {stage : Stage} {p : Progress} (h : stage ∈ p.trace) (next : Stage) :
    stage ∈ (p.enter next).trace :=
  List.mem_append_left _ h

theorem mem_enter_self (stage : Stage) (p : Progress) : stage ∈ (p.enter stage).trace :=
  List.mem_append_right _ (List.mem_singleton_self _)

/-- Naming symbols never fails a run. -/
theorem decorating_spec (job : LoadJob) (p : Progress) :
    (job.decorating p).1.trace = (p.enter .demangling).trace
      ∧ (job.decorating p).2.stage = .done := by
  unfold decorating
  dsimp only
  split
  · exact ⟨rfl, rfl⟩
  · split <;> exact ⟨rfl, rfl⟩

/-- Nothing is merged before merging began. -/
theorem merge_began {backend : Backend} {path : String} {applying : ApplyOptions}
    {reading : ReaderOptions} {setReading setApplying : Nat → Bool} {db : Database}
    {merged : Database × Applied}
    (h : (backend.merge path applying reading setReading setApplying db).result = .ok merged) :
    (backend.merge path applying reading setReading setApplying db).began = true := by
  unfold Backend.merge at h ⊢
  split at h
  · cases h
  · split <;> rfl

/-- Merging changes the database only if it succeeds. -/
theorem merging_harmless (job : LoadJob) (p : Progress) : Harmless p.db (job.merging p) := by
  unfold merging
  dsimp only
  split
  · refine .inl ?_
    rw [endWith_db]
    split <;> rfl
  · next db applied hmerged =>
    rw [merge_began hmerged]
    have happlying := mem_enter_self .applying (p.enter .parsing)
    split
    · exact .inr ⟨happlying, rfl⟩
    · refine .inr ⟨?_, (decorating_spec job _).2⟩
      rw [(decorating_spec job _).1]
      exact mem_enter happlying .demangling

theorem merging_trace (job : LoadJob) (p : Progress) {stage : Stage} (h : stage ∈ p.trace) :
    stage ∈ (job.merging p).1.trace := by
  have hparsing := mem_enter h .parsing
  have happlying := mem_enter hparsing .applying
  unfold merging
  dsimp only
  split
  · rw [endWith_trace]
    split
    · exact happlying
    · exact hparsing
  · next hmerged =>
    rw [merge_began hmerged]
    split
    · exact happlying
    · rw [(decorating_spec job _).1]
      exact mem_enter happlying .demangling

/-- Comparing identities changes nothing before the file is merged. -/
theorem verifying_harmless (job : LoadJob) (p : Progress) : Harmless p.db (job.verifying p) := by
  unfold verifying
  dsimp only
  split
  · exact .inl rfl
  · split
    · exact .inl (endWith_db _ _)
    · split
      · exact merging_harmless job (p.enter .verifying)
      · split
        · exact merging_harmless job ((p.enter .verifying).ask _)
        · exact .inl rfl

/-- Work begins by comparing identities. -/
theorem verifying_trace (job : LoadJob) (p : Progress) :
    .verifying ∈ (job.verifying p).1.trace := by
  have hverifying := mem_enter_self .verifying p
  unfold verifying
  dsimp only
  split
  · exact hverifying
  · split
    · rw [endWith_trace]
      exact hverifying
    · split
      · exact merging_trace job _ hverifying
      · have hasked : ∀ question, .verifying ∈ ((p.enter .verifying).ask question).trace :=
          fun _ => mem_enter hverifying .awaitingConfirmation
        split
        · exact merging_trace job _ (hasked _)
        · exact hasked _

/-- The work of a run: its trace ends with the stage of its ending, and it records itself
in what its stages left behind. -/
theorem work_eq (job : LoadJob) (db : Database) :
    (job.work db).trace
        = (job.verifying (.start db)).1.trace ++ [(job.verifying (.start db)).2.stage]
      ∧ (job.work db).db = job.recorded (job.verifying (.start db)).2
          ((job.verifying (.start db)).1.enter (job.verifying (.start db)).2.stage) :=
  ⟨rfl, rfl⟩

/-- The outcome of the work tells its ending. -/
theorem work_state (job : LoadJob) (db : Database) :
    ((job.work db).outcome job.backend.name).state = (job.verifying (.start db)).2.stage := by
  show (job.work db).trace.getLast?.getD .idle = _
  rw [(work_eq job db).1, List.getLast?_concat]
  rfl

/-! ## §3. The whole run. -/

section Leaving

variable {job : LoadJob} {program : Program} {ending : RunEnding} {p : Progress}
  {result : Except RunError Outcome}

/-- A run leaves behind what its work left behind, also one that goes on forever. -/
theorem leaving_db (job : LoadJob) (program : Program) (ending : RunEnding) (p : Progress) :
    (job.leaving program ending p).program.db = p.db := by
  cases ending <;> rfl

theorem leaving_questions (job : LoadJob) (program : Program) (ending : RunEnding)
    (p : Progress) : (job.leaving program ending p).questions = p.questions := by
  cases ending <;> rfl

/-- What ends gives the slot back and answers. -/
theorem leaving_of_ends (h : ending ≠ .endless) : job.leaving program ending p
    = ⟨program.returned p.db, some (.ok (p.outcome job.backend.name)), p.questions,
      reportsOf p⟩ := by
  cases ending with
  | endless => exact absurd rfl h
  | completed | cancelled | aborted | failed => rfl

/-- What goes on forever never answers. -/
theorem ends_of_leaving (h : (job.leaving program ending p).outcome = some result) :
    ending ≠ .endless := by
  rintro rfl
  cases h

theorem leaving_outcome (h : (job.leaving program ending p).outcome = some result) :
    .ok (p.outcome job.backend.name) = result := by
  rw [leaving_of_ends (ends_of_leaving h)] at h
  exact Option.some.inj h

/-- Work that is done gives the slot back and answers. -/
theorem leaving_of_done (program : Program) {db : Database}
    (h : ((job.work db).outcome job.backend.name).state = .done) :
    job.leaving program (job.verifying (.start db)).2 (job.work db)
      = ⟨program.returned (job.work db).db, some (.ok ((job.work db).outcome job.backend.name)),
        (job.work db).questions, reportsOf (job.work db)⟩ := by
  refine leaving_of_ends fun hending => ?_
  rw [work_state, hending] at h
  cases h

end Leaving

/-- The run has no outcome, it failed, it was declined, or it never applied anything. -/
def Unapplied : Except RunError Outcome → Prop
  | .error _ => True
  | .ok outcome => outcome.state = .failed ∨ outcome.state = .aborted ∨ .applying ∉ outcome.trace

/-- The run never held the slot, or it was declined. -/
def Unrecorded : Except RunError Outcome → Prop
  | .error _ => True
  | .ok outcome => outcome.state = .aborted ∨ .verifying ∉ outcome.trace

/-- Work that applied nothing records a run at most, and none if it was declined. -/
theorem work_unapplied (job : LoadJob) (db : Database)
    (h : Unapplied (.ok ((job.work db).outcome job.backend.name))) :
    ∃ runs, (job.work db).db = db.withRuns runs ∧ runs.length ≤ 1
      ∧ (((job.work db).outcome job.backend.name).state = .aborted → runs = []) := by
  obtain ⟨htrace, hdb⟩ := work_eq job db
  have hstate := work_state job db
  have hkept : (job.verifying (.start db)).1.db = db := by
    rcases verifying_harmless job (.start db) with hkept | ⟨happlying, hdone⟩
    · exact hkept
    · -- a run that applied something is done
      rcases h with hfailed | haborted | hunseen
      · rw [hstate, hdone] at hfailed
        cases hfailed
      · rw [hstate, hdone] at haborted
        cases haborted
      · refine absurd ?_ hunseen
        show .applying ∈ (job.work db).trace
        rw [htrace]
        exact List.mem_append_left _ happlying
  obtain ⟨runs, hrecorded, hlength, habort⟩ := recorded_eq job (job.verifying (.start db)).2
    ((job.verifying (.start db)).1.enter (job.verifying (.start db)).2.stage)
  refine ⟨runs, ?_, hlength, ?_⟩
  · rw [hdb, hrecorded]
    exact congrArg (Database.withRuns · runs) hkept
  · intro haborted
    rw [hstate] at haborted
    refine habort ?_
    cases hending : (job.verifying (.start db)).2 with
    | aborted => rfl
    | completed | cancelled | failed | endless =>
      rw [hending] at haborted
      cases haborted

/-- **A run that applies nothing changes nothing but its history.**  If it has no outcome,
fails, is declined or never applies anything, then every reader of the store, of the
attributes, of the memory and of the options answers what it answered before.  The history
gains at most one run, and none if the run was declined or never held the slot. -/
theorem run_unapplied (job : LoadJob) (shutDown : Bool) (before : Program)
    (result : Except RunError Outcome)
    (hresult : (job.run shutDown before).outcome = some result) (h : Unapplied result) :
    (job.run shutDown before).program.db.snapshot = before.db.snapshot
      ∧ (job.run shutDown before).program.db.info = before.db.info
      ∧ (job.run shutDown before).program.db.blocks = before.db.blocks
      ∧ (∀ category, (job.run shutDown before).program.db.optionsIn category
          = before.db.optionsIn category)
      ∧ ∃ runs, (job.run shutDown before).program.db = before.db.withRuns runs
          ∧ runs.length ≤ 1 ∧ (Unrecorded result → runs = []) := by
  -- every reader but that of the history follows from the last part
  suffices hruns : ∃ runs, (job.run shutDown before).program.db = before.db.withRuns runs
      ∧ runs.length ≤ 1 ∧ (Unrecorded result → runs = []) by
    obtain ⟨runs, heq, hlength, hnone⟩ := hruns
    rw [heq]
    exact ⟨Database.snapshot_withRuns before.db runs, Database.info_withRuns before.db runs,
      Database.blocks_withRuns before.db runs, Database.optionsIn_withRuns before.db runs,
      runs, rfl, hlength, hnone⟩
  have hsame : ∃ runs, before.db = before.db.withRuns runs
      ∧ runs.length ≤ 1 ∧ (Unrecorded result → runs = []) :=
    ⟨[], (Database.withRuns_nil before.db).symm, Nat.zero_le 1, fun _ => rfl⟩
  unfold run at hresult ⊢
  split at hresult
  · cases hresult
  · exact hsame
  · exact hsame
  · obtain rfl := leaving_outcome hresult
    obtain ⟨runs, heq, hlength, haborted⟩ := work_unapplied job before.db h
    rw [leaving_db]
    refine ⟨runs, heq, hlength, ?_⟩
    intro h
    rcases h with h | hunseen
    · exact haborted h
    · refine absurd ?_ hunseen
      show .verifying ∈ (job.work before.db).trace
      rw [(work_eq job before.db).1]
      exact List.mem_append_left _ (verifying_trace job _)

end LoadJob

/-- A backend that reads one content, unless it is told to stop at once. -/
def Backend.fixed (info : DebugInfo) : Backend where
  name := "fixed"
  version := none
  readIdentity path := .ok ((Identity.ofSignature 1 1).withFile path)
  readInfo _ _ isSet := if isSet 0 then .error .cancelled else .ok info

namespace LoadJob

/-- A load of one content with standard settings, whatever the operator is asked. -/
def ofInfo (info : DebugInfo) (plan : CancelPlan) : LoadJob :=
  ⟨.fixed info, "app.pdb", none, .standard, true, plan, "", ""⟩

/-- A program whose store holds one type. -/
def programWithNode : Program :=
  .ofDatabase "app" { Database.fresh with
    programInfo := some (some ⟨"app", 0, none, none, none, none⟩)
    dataTypes := some [⟨"Node", "struct", 8, "[]"⟩] }

/-- A new type and behind it a second definition of the stored one. -/
def leafAndNode : DebugInfo :=
  ⟨[⟨"Leaf", .struct, 4, []⟩, ⟨"Node", .struct, 16, []⟩], [], [], []⟩

/-- The conflict fails the run after the new type was merged, and the store is what it
was. -/
theorem run_unapplied_on_conflict :
    ∃ outcome,
      ((ofInfo leafAndNode .never).run false programWithNode).outcome = some (.ok outcome)
        ∧ outcome.state = .failed
        ∧ ((ofInfo leafAndNode .never).run false programWithNode).program.db.snapshot.toOption
          = some ⟨[⟨"Node", .struct, 8, []⟩], [], [], []⟩ := by
  refine ⟨_, rfl, rfl, ?_⟩
  rw [(run_unapplied (ofInfo leafAndNode .never) false programWithNode _ rfl (Or.inl rfl)).1]
  decide +kernel

end LoadJob

end DebugMerge
