/-
  DebugMerge.Proofs.Load.History
  ──────────────────────────────
  **The load history is an exact log.**

  A run enters itself in the history while it still holds the slot; what its
  outcome tells is put together later, when the slot is free again.  The two
  views of a run agree: its ending decides both the status of the entry and the
  last stage of the outcome, and nothing is logged behind the entry.  No stage
  of a run touches the history, so a merge that is taken back takes no entry
  with it.

  Main statements
    • `LoadRun.ofRow_toRow`, `Database.listRuns_withRuns` — entries read back
    • `LoadJob.recorded_eq_entries`      — what a run enters in the history
    • `LoadJob.verifying_tellsStop`      — when a run counts as stopped
    • `LoadRun.Tells`, `LoadJob.run_logged` — one run
    • `Program.history_afterRuns`        — sequences of runs of any loads
-/
import DebugMerge.Proofs.Load.Gate
import DebugMerge.Proofs.Load.Growth

namespace DebugMerge

/-! ## §1. Entries read back. -/

/-- The word of a status names it. -/
theorem RunStatus.parse_word (status : RunStatus) : RunStatus.parse status.word = .ok status := by
  cases status <;> decide +kernel

/-- A stored entry reads back. -/
theorem LoadRun.ofRow_toRow (run : LoadRun) : LoadRun.ofRow run.toRow = .ok run := by
  unfold LoadRun.ofRow LoadRun.toRow
  dsimp only
  rw [RunStatus.parse_word]
  simp

namespace Database

variable {db : Database} {history : List LoadRun}

/-- Entries behind a history that reads are read behind it. -/
theorem readRuns_append {rows : List RunRow} (h : readRuns rows = .ok history)
    (runs : List LoadRun) : readRuns (rows ++ runs.map LoadRun.toRow) = .ok (history ++ runs) := by
  induction rows generalizing history with
  | nil =>
    cases h
    induction runs with
    | nil => rfl
    | cons run runs ih =>
      refine bind_ok.mpr ⟨run, run.ofRow_toRow, ?_⟩
      exact bind_ok.mpr ⟨runs, ih, rfl⟩
  | cons row rows ih =>
    obtain ⟨first, hfirst, h⟩ := bind_ok.mp h
    obtain ⟨rest, hrest, h⟩ := bind_ok.mp h
    cases h
    refine bind_ok.mpr ⟨first, hfirst, ?_⟩
    exact bind_ok.mpr ⟨rest ++ runs, ih hrest, rfl⟩

/-- **A history that can be read grows by the entries that are made.** -/
theorem listRuns_withRuns (h : db.listRuns = .ok history) (runs : List LoadRun) :
    (db.withRuns (runs.map LoadRun.toRow)).listRuns = .ok (history ++ runs) := by
  unfold listRuns at h ⊢
  obtain ⟨rows, hrows, hread⟩ := bind_ok.mp h
  cases hruns : db.loadRuns with
  | none =>
    rw [hruns] at hrows
    cases hrows
  | some stored =>
    rw [hruns] at hrows
    cases hrows
    refine bind_ok.mpr ⟨rows ++ runs.map LoadRun.toRow, ?_, readRuns_append hread runs⟩
    unfold withRuns
    rw [hruns]
    rfl

end Database

/-! ## §2. What a run enters. -/

namespace LoadJob

variable (job : LoadJob)

/-- The entry that a run makes if it ends so, with so many messages. -/
def entry? (ending : RunEnding) (messages : Nat) : Option LoadRun :=
  if job.settings.recordRuns then ending.status?.map fun status => job.record status messages
  else none

theorem entry?_endless (messages : Nat) : job.entry? .endless messages = none := by
  unfold entry?
  split <;> rfl

/-- **What recording a run changes**: its entry is appended to the history, if there is a history
and the run makes an entry. -/
theorem recorded_eq_entries (ending : RunEnding) (p : Progress) :
    job.recorded ending p
      = p.db.withRuns ((job.entry? ending p.log.length).toList.map LoadRun.toRow) := by
  unfold recorded entry?
  by_cases hrecord : job.settings.recordRuns = true
  · rw [if_pos hrecord, if_pos hrecord]
    cases ending.status? with
    | none => exact (Database.withRuns_nil p.db).symm
    | some status =>
      dsimp only
      rw [Database.insertRun_eq]
      cases hruns : p.db.loadRuns with
      | some rows => rfl
      | none =>
        -- a history that is not there stays away
        dsimp only
        unfold Database.withRuns
        rw [hruns, Option.map_none, ← hruns]
  · rw [if_neg hrecord, if_neg hrecord]
    exact (Database.withRuns_nil p.db).symm

/-! ## §3. What the stages leave alone. -/

/-- A change of the store is no change of the history. -/
theorem loadRuns_of_changes {db db' : Database} (h : job.Changes db db') :
    db'.loadRuns = db.loadRuns := by
  obtain ⟨site, done, m, hmerges, ⟨rows', rfl, -⟩, -⟩ := merges_of_changes h
  rw [hmerges.others]
  rfl

/-- A run counts as stopped exactly if it ends so. -/
def TellsStop (r : Progress × RunEnding) : Prop :=
  r.1.cancelled = true ↔ r.2 = .cancelled

variable {job} {p : Progress}

theorem endWith_tellsStop (hp : p.cancelled = false) (cause : LoadError) :
    TellsStop (p.endWith cause) := by
  cases cause with
  | cancelled => exact iff_of_true rfl rfl
  | missingFile | io | malformed | typeConflict | toolUnavailable | store | endless =>
    refine iff_of_false ?_ nofun
    show ¬ p.cancelled = true
    rw [hp]
    exact Bool.false_ne_true

/-- A run that goes on is not stopped. -/
theorem tellsStop_of_running {ending : RunEnding} (hp : p.cancelled = false)
    (hending : ending ≠ .cancelled) : TellsStop (p, ending) :=
  iff_of_false (by rw [hp]; exact Bool.false_ne_true) hending

theorem decorating_tellsStop (hp : p.cancelled = false) : TellsStop (job.decorating p) := by
  unfold decorating
  dsimp only
  split
  · exact tellsStop_of_running hp nofun
  · split
    · exact iff_of_true rfl rfl
    · exact tellsStop_of_running hp nofun

theorem merging_tellsStop (hp : p.cancelled = false) : TellsStop (job.merging p) := by
  unfold merging
  dsimp only
  have hentered : ∀ began : Bool, (if began then (p.enter .parsing).enter .applying
      else p.enter .parsing).cancelled = false := by
    intro began
    cases began <;> exact hp
  split
  · refine endWith_tellsStop ?_ _
    exact hentered _
  · split
    · exact iff_of_true rfl rfl
    · refine decorating_tellsStop ?_
      exact hentered _

/-- **A run counts as stopped exactly if it ends so**, whichever stage it was stopped in. -/
theorem verifying_tellsStop (hp : p.cancelled = false) : TellsStop (job.verifying p) := by
  unfold verifying
  dsimp only
  split
  · exact tellsStop_of_running hp nofun
  · split
    · exact endWith_tellsStop (p := p.enter .verifying) hp _
    · split
      · exact merging_tellsStop (p := p.enter .verifying) hp
      · next details _ =>
        split
        · exact merging_tellsStop (p := (p.enter .verifying).ask (confirmation details)) hp
        · exact tellsStop_of_running hp nofun

end LoadJob

/-! ## §4. One run. -/

/-- The entry tells the load and its outcome.  The number of messages is cut to 32 bits. -/
structure LoadRun.Tells (entry : LoadRun) (job : LoadJob) (outcome : Outcome) : Prop where
  debugFile : entry.debugFile = job.file
  debugFileHash : entry.debugFileHash = job.hash
  backend : entry.backend = job.backend.name
  backendVersion : entry.backendVersion = job.backend.version
  succeeded : entry.status = .succeeded ↔ outcome.state = .done ∧ outcome.cancelled = false
  cancelled : entry.status = .cancelled ↔ outcome.state = .done ∧ outcome.cancelled = true
  failed : entry.status = .failed ↔ outcome.state = .failed
  messageCount : entry.messageCount.toNat = outcome.messages.length % UInt32.size
  startedAt : entry.startedAt = job.startedAt
  finishedAt : entry.finishedAt = job.finishedAt

/-- A run that is over: its load, the answer to its request for the slot, and its outcome. -/
structure FinishedRun where
  job : LoadJob
  answer : SlotAnswer
  outcome : Option (Except RunError Outcome)

namespace FinishedRun

/-- The operator declined the file. -/
def isAborted (run : FinishedRun) : Bool :=
  match run.outcome with
  | some (.ok outcome) => outcome.state == .aborted
  | _ => false

/-- The run got the slot, came to its end, was not declined, and is of a load that is recorded. -/
def isLogged (run : FinishedRun) : Bool :=
  run.answer == .granted && run.outcome.isSome && !run.isAborted && run.job.settings.recordRuns

theorem isLogged_of_not_granted {run : FinishedRun} (h : run.answer ≠ .granted) :
    run.isLogged = false := by
  unfold isLogged
  rw [beq_eq_false_iff_ne.mpr h]
  rfl

theorem isLogged_of_none {run : FinishedRun} (h : run.outcome = none) : run.isLogged = false := by
  unfold isLogged
  rw [h, Option.isSome_none, Bool.and_false]
  rfl

/-- The entry tells the run, which has an outcome. -/
def IsToldBy (run : FinishedRun) (entry : LoadRun) : Prop :=
  ∃ outcome, run.outcome = some (.ok outcome) ∧ entry.Tells run.job outcome

end FinishedRun

namespace LoadJob

variable {job : LoadJob} {shutDown : Bool} {program : Program} {history : List LoadRun}

/-- The run, when it is over. -/
def finished (job : LoadJob) (shutDown : Bool) (program : Program) : FinishedRun :=
  ⟨job, program.acquire (job.slotRequest shutDown), (job.run shutDown program).outcome⟩

/-- The entry of a run tells it: the ending decides the status and the last stage. -/
theorem record_tells {outcome : Outcome} {ending : RunEnding} {status : RunStatus}
    (hstatus : ending.status? = some status) (hstate : outcome.state = ending.stage)
    (hstop : outcome.cancelled = true ↔ ending = .cancelled) :
    (job.record status outcome.messages.length).Tells job outcome := by
  have hrunning : outcome.cancelled = false ↔ ending ≠ .cancelled := by
    rw [← Bool.not_eq_true, hstop]
  refine ⟨rfl, rfl, rfl, rfl, ?_, ?_, ?_, ?_, rfl, rfl⟩
  · rw [hstate, hrunning]
    cases ending <;> cases hstatus <;> simp [record, RunEnding.stage]
  · rw [hstate, hstop]
    cases ending <;> cases hstatus <;> simp [record, RunEnding.stage]
  · rw [hstate]
    cases ending <;> cases hstatus <;> simp [record, RunEnding.stage]
  · exact UInt32.toNat_ofNat'

/-- Of the runs that end, only a declined one has no status. -/
theorem status?_eq_none_iff {ending : RunEnding} (h : ending ≠ .endless) :
    ending.status? = none ↔ ending.stage = .aborted := by
  cases ending with
  | endless => exact absurd rfl h
  | completed | cancelled | aborted | failed => simp [RunEnding.status?, RunEnding.stage]

/-- **A run that held the slot enters what is logged**: one entry that tells it, unless it was
declined or is of a load that is not recorded. -/
theorem entry?_tells {run : FinishedRun} {outcome : Outcome} {ending : RunEnding}
    (hanswer : run.answer = .granted) (houtcome : run.outcome = some (.ok outcome))
    (hends : ending ≠ .endless) (hstate : outcome.state = ending.stage)
    (hstop : outcome.cancelled = true ↔ ending = .cancelled) :
    List.Forall₂ FinishedRun.IsToldBy ([run].filter FinishedRun.isLogged)
      (run.job.entry? ending outcome.messages.length).toList := by
  have hlogged : run.isLogged = (!(ending.stage == .aborted) && run.job.settings.recordRuns) := by
    unfold FinishedRun.isLogged FinishedRun.isAborted
    rw [hanswer, houtcome, ← hstate]
    rfl
  rw [List.filter_singleton, hlogged]
  unfold entry?
  cases hrecord : run.job.settings.recordRuns with
  | false =>
    rw [Bool.and_false]
    exact .nil
  | true =>
    cases hstatus : ending.status? with
    | none =>
      rw [(status?_eq_none_iff hends).mp hstatus]
      exact .nil
    | some status =>
      have hkept : ending.stage ≠ .aborted := fun haborted => by
        rw [(status?_eq_none_iff hends).mpr haborted] at hstatus
        cases hstatus
      rw [beq_eq_false_iff_ne.mpr hkept]
      exact .cons ⟨outcome, houtcome, record_tells hstatus hstate hstop⟩ .nil

/-- **One run**: the history gains one entry that tells the run, if the run is one that is
logged, and nothing otherwise. -/
theorem run_logged (job : LoadJob) (shutDown : Bool) (program : Program)
    (h : program.db.listRuns = .ok history) :
    ∃ entries, (job.run shutDown program).program.db.listRuns = .ok (history ++ entries)
      ∧ List.Forall₂ FinishedRun.IsToldBy
        ([job.finished shutDown program].filter FinishedRun.isLogged) entries := by
  by_cases hacquire : program.acquire (job.slotRequest shutDown) = .granted
  · have hleaves : job.run shutDown program
        = job.leaving program (job.verifying (.start program.db)).2 (job.work program.db) := by
      unfold run
      rw [hacquire]
    have hdb : (job.run shutDown program).program.db = (job.work program.db).db := by
      rw [hleaves, leaving_db]
    -- no stage touched the history, so the entry is made behind the earlier ones
    have hkept : (job.verifying (.start program.db)).1.db.listRuns = .ok history := by
      unfold Database.listRuns
      rw [loadRuns_of_changes job (verifying_changes job (.start program.db))]
      exact h
    refine ⟨(job.entry? (job.verifying (.start program.db)).2
      (job.work program.db).log.length).toList, ?_, ?_⟩
    · rw [hdb, (work_eq job program.db).2, recorded_eq_entries]
      exact Database.listRuns_withRuns hkept _
    · by_cases hends : (job.verifying (.start program.db)).2 = .endless
      · -- a run that goes on forever is not over, and makes no entry
        have hopen : (job.finished shutDown program).outcome = none := by
          show (job.run shutDown program).outcome = none
          rw [hleaves, hends]
          rfl
        rw [List.filter_singleton, FinishedRun.isLogged_of_none hopen, hends, entry?_endless]
        exact .nil
      · have houtcome : (job.finished shutDown program).outcome
            = some (.ok ((job.work program.db).outcome job.backend.name)) := by
          show (job.run shutDown program).outcome = _
          rw [hleaves, leaving_of_ends hends]
        exact entry?_tells (show (job.finished shutDown program).answer = .granted from hacquire)
          houtcome hends (work_state job program.db) (verifying_tellsStop rfl)
  · -- without the slot the database is what it was
    refine ⟨[], ?_, ?_⟩
    · rw [(run_of_not_granted hacquire).1, List.append_nil]
      exact h
    · rw [List.filter_singleton, FinishedRun.isLogged_of_not_granted hacquire]
      exact .nil

end LoadJob

/-! ## §5. Sequences of runs. -/

/-- The runs of a sequence, when they are over, in their order. -/
def Program.finishedRuns (program : Program) : List (LoadJob × Attempt) → List FinishedRun
  | [] => []
  | (job, attempt) :: runs =>
      (job.during attempt).finished attempt.shutDown { program with slot := attempt.slot }
        :: (attempt.run job program).program.finishedRuns runs

/-- **The load history is an exact log**, over any sequence of runs of any loads that may be
stopped anywhere and end in any way.  If the history can be read, then afterwards it is the
earlier one and behind it, in the order of the runs, one entry for each run that got the slot, was
not declined and is of a load that is recorded; and each entry tells its run. -/
theorem Program.history_afterRuns (program : Program) (runs : List (LoadJob × Attempt))
    (history : List LoadRun) (h : program.db.listRuns = .ok history) :
    ∃ entries, (program.afterRuns runs).db.listRuns = .ok (history ++ entries)
      ∧ List.Forall₂ FinishedRun.IsToldBy
        ((program.finishedRuns runs).filter FinishedRun.isLogged) entries := by
  -- by induction on the runs: each one finds the history that the ones before it left
  induction runs generalizing program history with
  | nil =>
    refine ⟨[], ?_, .nil⟩
    rw [List.append_nil]
    exact h
  | cons run runs ih =>
    obtain ⟨job, attempt⟩ := run
    obtain ⟨first, hfirst, htold⟩ := LoadJob.run_logged (job.during attempt)
      attempt.shutDown { program with slot := attempt.slot } h
    obtain ⟨rest, hrest, htolds⟩ := ih (attempt.run job program).program (history ++ first) hfirst
    refine ⟨first ++ rest, ?_, ?_⟩
    · rw [← List.append_assoc]
      exact hrest
    · rw [Program.finishedRuns, ← List.singleton_append, List.filter_append]
      exact List.rel_append htold htolds

/-- Six runs: stopped at a record, stopped while it waits, declined, done without being recorded,
failed at a conflict, and done. -/
def mixedRuns : List (LoadJob × Attempt) :=
  let watchful := LoadJob.watchful
  let whole := Attempt.undisturbed "" ""
  [(watchful, ⟨.whileApplying 2, .free, false, "", ""⟩),
    (watchful, ⟨.before, .held, false, "", ""⟩),
    ({ watchful with answer := false }, whole),
    ({ watchful with settings := { watchful.settings with recordRuns := false } }, whole),
    (LoadJob.ofInfo LoadJob.leafAndNode .never, whole),
    (watchful, whole)]

/-- Three of them are logged, and the history has their three entries. -/
theorem Program.history_afterRuns_mixed :
    LoadJob.programWithText.db.listRuns = .ok []
      ∧ ((LoadJob.programWithText.finishedRuns mixedRuns).map FinishedRun.isLogged
        = [true, false, false, false, true, true])
      ∧ ∃ entries, (LoadJob.programWithText.afterRuns mixedRuns).db.listRuns = .ok entries
        ∧ entries.length = 3 := by
  obtain ⟨entries, hentries, htold⟩ :=
    Program.history_afterRuns LoadJob.programWithText mixedRuns [] rfl
  refine ⟨rfl, by decide +kernel, entries, hentries, ?_⟩
  rw [← htold.length_eq]
  decide +kernel

end DebugMerge
