/-
  DebugMerge.Proofs.Load.Undisturbed
  ──────────────────────────────────
  **What a run that nobody stops reports and leaves behind.**

  A run that nobody stops is done exactly if it gets the slot, the identities
  match or the operator agrees, and the content of the file can be merged.  It
  then reports the counters of that merge and of the naming behind it, its
  messages are theirs, and it leaves the merged records with their names.

  Main statements
    • `LoadJob.Admits`               — the file passes the gate
    • `namingSummary`, `namingLog`   — what the naming of symbols reports
    • `undisturbed_of_done`          — what a run that is done went through
    • `run_undisturbed`              — what it reports and leaves behind
-/
import DebugMerge.Proofs.Load.Gate

namespace DebugMerge

/-! ## §1. Naming symbols. -/

/-- The counters of a pass that nobody stops; none if it is switched off or fails. -/
def namingSummary (db : Database) : Option DemangleSummary :=
  match decorate (fun _ => false) db with
  | .error _ => none
  | .ok (_, summary) => summary

/-- The messages of a pass that nobody stops. -/
def namingLog (db : Database) : Log :=
  match decorate (fun _ => false) db with
  | .error e => ["PDB Error: demangling failed: " ++ e.message]
  | .ok _ => []

namespace LoadJob

section Stages

variable {job : LoadJob} {identity : Identity} {info : DebugInfo} {site : Site} {p : Progress}
  {m : Database} {applied : Applied}

/-- What a run reports besides its stages. -/
structure Reports (p : Progress) (log : Log) (applied : Applied)
    (demangled : Option DemangleSummary) : Prop where
  log : p.log = log
  applied : p.applied = some applied
  demangled : p.demangled = demangled

/-- The naming of a run that nobody stops. -/
theorem decorating_reports (hplan : job.plan = .never) {log : Log}
    (hp : Reports p log applied none) :
    Reports (job.decorating p).1 (log ++ namingLog p.db) applied (namingSummary p.db) := by
  have hschedule : (fun n => CancelPlan.setDemangling (p.enter .demangling).asked n job.plan)
      = fun _ => false := by
    rw [hplan]
    rfl
  -- the run is not stopped here, which excludes one of the three ends below
  have hnever := (decorating_never hplan p).2
  unfold decorating at hnever ⊢
  dsimp only at hnever ⊢
  rw [show (fun n => CancelPlan.setDemangling _ n job.plan) = _ from hschedule] at hnever ⊢
  rw [show (p.enter .demangling).db = p.db from rfl] at hnever ⊢
  unfold namingLog namingSummary
  cases hresult : decorate (fun _ => false) p.db with
  | error e => exact ⟨congrArg (· ++ _) hp.log, hp.applied, hp.demangled⟩
  | ok r =>
    rw [hresult] at hnever
    dsimp only at hnever ⊢
    split at hnever
    · cases hnever
    · next hrunning =>
      rw [if_neg hrunning]
      exact ⟨hp.log.trans (List.append_nil _).symm, hp.applied, rfl⟩

/-! ## §2. Merging. -/

/-- The merge of a run that nobody stops. -/
def application (job : LoadJob) (info : DebugInfo) (site : Site) (db : Database) : ApplyResult :=
  apply job.settings.applying info site.imageBase (fun _ => false) db

/-- A run that nobody stops reads the content and merges it. -/
theorem merged_undisturbed (hplan : job.plan = .never) (hanswers : job.Answers identity info)
    (hsite : p.db.IsAt site) :
    job.merged p = ⟨true, (job.application info site p.db).log,
      (job.application info site p.db).result⟩ := by
  have hschedule : (fun n => CancelPlan.setApplying p.asked n job.plan) = fun _ => false := by
    rw [hplan]
    rfl
  unfold merged Backend.merge application
  rw [readInfo_never hplan hanswers, hschedule]
  dsimp only
  rw [hsite.1]

/-- A merge that nobody stops does not count as stopped. -/
theorem application_running (hsite : p.db.IsAt site)
    (h : (job.application info site p.db).result = .ok (m, applied)) :
    applied.cancelled = false :=
  apply_running hsite.2 (fun _ => rfl) h

/-- What is merged is merged by the tables. -/
theorem merges_of_application {db : Database} (hsite : db.IsAt site)
    (h : (job.application info site db).result = .ok (m, applied)) :
    Database.Merges site (job.records info) db m := by
  rw [← Database.mergeAll_iff]
  exact (apply_never hsite.2 fun _ => rfl).symm.trans (map_ok.mpr ⟨_, h, rfl⟩)

/-- The merging of a run that nobody stops. -/
theorem merging_reports (hplan : job.plan = .never) (hanswers : job.Answers identity info)
    (hsite : p.db.IsAt site) (hdemangled : p.demangled = none)
    (happly : (job.application info site p.db).result = .ok (m, applied)) :
    Reports (job.merging p).1
      (p.log ++ (job.application info site p.db).log ++ namingLog m) applied
      (namingSummary m) := by
  have hmerged := merged_undisturbed (p := p.enter .parsing) hplan hanswers hsite
  have hrunning := application_running hsite happly
  unfold merging
  dsimp only
  rw [show job.backend.merge _ _ _ _ _ _ = _ from hmerged]
  dsimp only
  rw [show (job.application info site (p.enter .parsing).db).result = _ from happly]
  dsimp only
  rw [if_neg (by rw [hrunning]; exact Bool.false_ne_true)]
  exact decorating_reports hplan ⟨rfl, rfl, hdemangled⟩

/-! ## §3. The gate. -/

/-- The file passes the gate: the program can say what it expects, and it expects the file's
identity, or the operator agrees. -/
def Admits (job : LoadJob) (db : Database) (identity : Identity) : Prop :=
  ∃ expected, job.Compares db expected identity ∧ (Meets expected identity ∨ job.answer = true)

/-- Behind the gate the run has the database and the messages that it came with. -/
theorem verifying_of_admits (hadmits : job.Admits p.db identity) :
    ∃ q, job.verifying p = job.merging q ∧ q.db = p.db ∧ q.log = p.log
      ∧ q.demangled = p.demangled := by
  obtain ⟨expected, hcompares, hpass⟩ := hadmits
  -- the gate compares the two identities that the load compares
  rcases job.gate_cases p with ⟨r, -, hnot, -⟩ | ⟨expected', candidate, hcompares', hway⟩
  · exact absurd ⟨expected, identity, hcompares⟩ hnot
  · obtain ⟨rfl, rfl⟩ := compares_unique hcompares hcompares'
    have hverifying : job.verifying p = job.gate job.merging p := rfl
    rw [hverifying]
    rcases hway with ⟨-, hbehind⟩ | ⟨hmeets, hbehind⟩
    · rw [hbehind]
      exact ⟨_, rfl, rfl, rfl, rfl⟩
    · rw [hbehind]
      dsimp only
      rw [if_pos (hpass.resolve_left hmeets)]
      exact ⟨_, rfl, rfl, rfl, rfl⟩

/-- A run that is done passed the gate. -/
theorem admits_of_done (hidentity : job.backend.readIdentity job.file = .ok identity)
    (hdone : (job.verifying p).2.stage = .done) : job.Admits p.db identity := by
  have hverifying : job.verifying p = job.gate job.merging p := rfl
  cases hexpected : p.db.expectedIdentity with
  | error e =>
    -- without an expectation the run fails at once
    unfold verifying at hdone
    dsimp only at hdone
    rw [show (p.enter .verifying).db.expectedIdentity = .error e from hexpected] at hdone
    cases hdone
  | ok expected =>
    refine ⟨expected, ⟨hexpected, hidentity⟩, ?_⟩
    rcases job.gate_cases p with ⟨r, -, hnot, -⟩ | ⟨expected', candidate, hcompares', hway⟩
    · exact absurd ⟨expected, identity, hexpected, hidentity⟩ hnot
    · obtain ⟨rfl, rfl⟩ := compares_unique ⟨hexpected, hidentity⟩ hcompares'
      rcases hway with ⟨hmeets, -⟩ | ⟨-, hbehind⟩
      · exact .inl hmeets
      · -- a declined run is aborted
        rw [hverifying, hbehind] at hdone
        dsimp only at hdone
        split at hdone
        · next hanswer => exact .inr hanswer
        · cases hdone

end Stages

/-! ## §4. The whole run. -/

section Run

variable {job : LoadJob} {identity : Identity} {info : DebugInfo} {site : Site}
  {program : Program} {shutDown : Bool} {m : Database} {applied : Applied}

/-- **What a run that is done went through**, if nobody stopped it: it got the slot, passed the
gate and merged the content. -/
theorem undisturbed_of_done {outcome : Outcome} (hplan : job.plan = .never)
    (hanswers : job.Answers identity info)
    (houtcome : (job.run shutDown program).outcome = some (.ok outcome))
    (hdone : outcome.state = .done) :
    program.acquire (job.slotRequest shutDown) = .granted ∧ job.Admits program.db identity
      ∧ ∃ site m applied, program.db.IsAt site
        ∧ (job.application info site program.db).result = .ok (m, applied) := by
  obtain ⟨hgranted, rfl, -⟩ := granted_of_never hplan houtcome
  rw [work_state] at hdone
  obtain ⟨-, site, m, -, hsite, hmerges⟩ := verifying_done hplan hanswers hdone
  have happly : (job.application info site program.db).result.map (·.1) = .ok m :=
    (apply_never hsite.2 fun _ => rfl).trans (Database.mergeAll_iff.mpr hmerges)
  obtain ⟨⟨m', applied⟩, happly, -⟩ := map_ok.mp happly
  exact ⟨hgranted, admits_of_done hanswers.identity hdone, site, m', applied, hsite, happly⟩

/-- **What a run that nobody stops reports and leaves behind**, if it gets the slot, passes the
gate and can merge the content. -/
theorem run_undisturbed (hplan : job.plan = .never) (hanswers : job.Answers identity info)
    (hgranted : program.acquire (job.slotRequest shutDown) = .granted)
    (hadmits : job.Admits program.db identity) (hsite : program.db.IsAt site)
    (happly : (job.application info site program.db).result = .ok (m, applied)) :
    ∃ outcome runs, (job.run shutDown program).outcome = some (.ok outcome)
      ∧ outcome.state = .done ∧ outcome.applied = some applied
      ∧ outcome.demangled = namingSummary m
      ∧ outcome.messages = (job.application info site program.db).log ++ namingLog m
      ∧ (job.run shutDown program).program
        = { program with db := m.decorated.withRuns runs, slot := .free } := by
  have hmerges := merges_of_application hsite happly
  -- behind the gate the run is as it came
  obtain ⟨q, hverifying, hdb, hlog, hdemangled⟩ :=
    verifying_of_admits (p := .start program.db) hadmits
  have hsite' : q.db.IsAt site := by
    rw [hdb]
    exact hsite
  have happly' : (job.application info site q.db).result = .ok (m, applied) := by
    rw [hdb]
    exact happly
  obtain ⟨hreportLog, hreportApplied, hreportNamed⟩ :=
    merging_reports hplan hanswers hsite' hdemangled happly'
  obtain ⟨hmdb, hending⟩ := merging_never hplan hsite' hanswers
    (show Database.Merges site (job.records info) q.db m by rw [hdb]; exact hmerges)
  rw [← hverifying] at hreportLog hreportApplied hreportNamed hmdb hending
  -- what is recorded of it goes to the history alone
  obtain ⟨runs, hrecorded, -, -⟩ := recorded_eq job (job.verifying (.start program.db)).2
    ((job.verifying (.start program.db)).1.enter (job.verifying (.start program.db)).2.stage)
  have hwork : (job.work program.db).db = m.decorated.withRuns runs :=
    ((work_eq job program.db).2.trans hrecorded).trans (congrArg (Database.withRuns · runs) hmdb)
  have hdone : ((job.work program.db).outcome job.backend.name).state = .done := by
    rw [work_state, hending]
    rfl
  unfold run
  rw [hgranted]
  dsimp only
  rw [leaving_of_done _ hdone]
  refine ⟨_, runs, rfl, hdone, hreportApplied, hreportNamed, ?_, ?_⟩
  · refine hreportLog.trans ?_
    rw [hlog, hdb]
    rfl
  · exact congrArg program.returned hwork

end Run

end LoadJob

end DebugMerge
