/-
  DebugMerge.Proofs.Load.Gate
  ───────────────────────────
  **Nothing is read or merged before the identities match or the operator agrees.**

  A run compares the identity of the file with the one that the program expects,
  and asks the operator if they differ.  What stands behind this gate is the
  backend's: most backends read the file and leave merging to the applicator,
  but a backend may merge in a way of its own, which can do anything to the
  database.  The gate does not depend on it.  So the statements are about runs
  with any merge behind the gate, of which the runs of the program are one kind.

  Main statements
    • `OwnMerge`, `LoadJob.runBy`        — runs with any merge behind the gate
    • `run_eq_runBy`                     — the runs of the program are such runs
    • `gate_cases`                       — the three ways through the gate
    • `LoadJob.IsGated`, `run_gated`     — the whole run
-/
import DebugMerge.Proofs.Identity.NormalForm
import DebugMerge.Proofs.Load.Stages

namespace DebugMerge

/-! ## §1. Runs with any merge behind the gate. -/

/-- What a backend does when it is told to read and merge a file. -/
structure OwnMerge where
  /-- How often it announces that the file is read. -/
  announced : Nat
  /-- The log that it leaves behind. -/
  log : Log
  /-- The database that it leaves behind, also if it fails. -/
  db : Database
  result : Except LoadError Applied

namespace LoadJob

/-- The stage of parsing, with any merge. -/
def mergingBy (job : LoadJob) (merge : Progress → OwnMerge) (p : Progress) :
    Progress × RunEnding :=
  let p := p.enter .parsing
  let merged := merge p
  let p := { p with
    trace := p.trace ++ List.replicate merged.announced Stage.applying
    log := merged.log
    db := merged.db }
  match merged.result with
  | .error e => p.endWith e
  | .ok applied =>
      let p := { p with applied := some applied }
      if applied.cancelled then p.cut job.file else job.decorating p

/-- The stage of verifying, with anything behind it. -/
def gate (job : LoadJob) (behind : Progress → Progress × RunEnding) (p : Progress) :
    Progress × RunEnding :=
  let p := p.enter .verifying
  match p.db.expectedIdentity with
  | .error e => (p.note ("PDB Error: " ++ e.message), .failed)
  | .ok expected =>
      match job.backend.readIdentity job.file with
      | .error e => p.endWith e
      | .ok candidate =>
          match verify expected candidate with
          | .match => behind p
          | .mismatch details =>
              let p := p.ask (confirmation details)
              if job.answer then behind p else (p, .aborted)

/-- The work done while the slot is held, with any merge. -/
def workBy (job : LoadJob) (merge : Progress → OwnMerge) (db : Database) : Progress :=
  let (p, ending) := job.gate (job.mergingBy merge) (.start db)
  let p := p.enter ending.stage
  { p with db := job.recorded ending p }

/-- A whole run, with any merge; without the slot nothing is merged. -/
def runBy (job : LoadJob) (merge : Progress → OwnMerge) (shutDown : Bool) (program : Program) :
    RunResult :=
  match program.acquire (job.slotRequest shutDown) with
  | .granted =>
      job.leaving program (job.gate (job.mergingBy merge) (.start program.db)).2
        (job.workBy merge program.db)
  | _ => job.run shutDown program

/-- The merge of a backend that leaves merging to the applicator. -/
def provided (job : LoadJob) (p : Progress) : OwnMerge where
  announced := if (job.merged p).began then 1 else 0
  log := p.log ++ (job.merged p).log
  db := match (job.merged p).result with
    | .ok (db, _) => db
    | .error _ => p.db
  result := (job.merged p).result.map (·.2)

variable (job : LoadJob)

theorem merging_eq (p : Progress) : job.merging p = job.mergingBy job.provided p := by
  unfold merging mergingBy provided
  dsimp only
  rcases job.merged_cases (p.enter .parsing)
    with ⟨e, hmerged⟩ | ⟨log, e, hmerged, -⟩ | ⟨log, db, applied, hmerged⟩
  · -- nothing is announced, and nothing is logged
    rw [hmerged, show job.backend.merge _ _ _ _ _ _ = _ from hmerged]
    rw [if_neg Bool.false_ne_true, if_neg Bool.false_ne_true, List.replicate_zero,
      List.append_nil, List.append_nil]
    rfl
  · rw [hmerged, show job.backend.merge _ _ _ _ _ _ = _ from hmerged]
    rfl
  · rw [hmerged, show job.backend.merge _ _ _ _ _ _ = _ from hmerged]
    rfl

/-- **The runs of the program** are runs with the merge that the applicator provides. -/
theorem run_eq_runBy (shutDown : Bool) (program : Program) :
    job.run shutDown program = job.runBy job.provided shutDown program := by
  have hmerging : job.mergingBy job.provided = job.merging :=
    funext fun p => (job.merging_eq p).symm
  unfold runBy workBy
  rw [hmerging]
  cases hacquire : program.acquire (job.slotRequest shutDown) with
  | granted =>
    unfold run
    rw [hacquire]
    rfl
  | refused cause => rfl
  | waiting => rfl

end LoadJob

/-! ## §2. The comparison of identities. -/

/-- An identity is expected, and the candidate has its id and its age. -/
def Meets (expected : Option Identity) (candidate : Identity) : Prop :=
  ∃ e, expected = some e ∧ candidate.uniqueId = e.uniqueId ∧ candidate.age = e.age

theorem verify_of_meets {expected : Option Identity} {candidate : Identity}
    (h : Meets expected candidate) : verify expected candidate = .match := by
  obtain ⟨e, rfl, hmatches⟩ := h
  exact if_pos (matches_iff.mpr hmatches)

/-- Without an expectation, or with one that is not met, the operator is told of both. -/
theorem verify_of_not_meets {expected : Option Identity} {candidate : Identity}
    (h : ¬ Meets expected candidate) :
    verify expected candidate = .mismatch ⟨expected, candidate⟩ := by
  cases expected with
  | none => rfl
  | some e => exact if_neg fun hmatches => h ⟨e, rfl, matches_iff.mp hmatches⟩

namespace LoadJob

variable (job : LoadJob)

/-- Both identities can be read: the one that the program expects, if it expects one, and the
one of the file. -/
structure Compares (db : Database) (expected : Option Identity) (candidate : Identity) :
    Prop where
  expects : db.expectedIdentity = .ok expected
  reads : job.backend.readIdentity job.file = .ok candidate

variable {job} in
theorem compares_unique {db : Database} {expected expected' : Option Identity}
    {candidate candidate' : Identity} (h : job.Compares db expected candidate)
    (h' : job.Compares db expected' candidate') :
    expected' = expected ∧ candidate' = candidate := by
  have hexpected := h'.expects.symm.trans h.expects
  have hcandidate := h'.reads.symm.trans h.reads
  cases hexpected
  cases hcandidate
  exact ⟨rfl, rfl⟩

/-- From `p` on, no question is asked, and the run does not count as declined. -/
def AsksNothing (p : Progress) (r : Progress × RunEnding) : Prop :=
  r.1.questions = p.questions ∧ r.2 ≠ .aborted

theorem endWith_asksNothing (p : Progress) (cause : LoadError) :
    AsksNothing p (p.endWith cause) := by
  cases cause <;> exact ⟨rfl, nofun⟩

/-- **The three ways through the gate**: an identity cannot be read, the identities match, or
the operator is asked. -/
theorem gate_cases (p : Progress) :
    (∃ r : Progress × RunEnding, (∀ behind, job.gate behind p = r)
        ∧ (¬ ∃ expected candidate, job.Compares p.db expected candidate)
        ∧ r.1.trace = (p.enter .verifying).trace ∧ r.1.db = p.db ∧ AsksNothing p r)
      ∨ ∃ expected candidate, job.Compares p.db expected candidate
        ∧ ((Meets expected candidate ∧ ∀ behind, job.gate behind p = behind (p.enter .verifying))
          ∨ (¬ Meets expected candidate ∧ ∀ behind, job.gate behind p
              = let q := (p.enter .verifying).ask (confirmation ⟨expected, candidate⟩)
                if job.answer then behind q else (q, .aborted))) := by
  unfold gate
  dsimp only
  cases hexpected : (p.enter .verifying).db.expectedIdentity with
  | error e =>
    refine .inl ⟨_, fun _ => rfl, ?_, rfl, rfl, rfl, nofun⟩
    rintro ⟨expected, candidate, h⟩
    cases h.expects.symm.trans hexpected
  | ok expected =>
    cases hidentity : job.backend.readIdentity job.file with
    | error e =>
      refine .inl ⟨_, fun _ => rfl, ?_, endWith_trace _ e, endWith_db _ e,
        endWith_asksNothing (p.enter .verifying) e⟩
      rintro ⟨expected, candidate, h⟩
      cases h.reads.symm.trans hidentity
    | ok candidate =>
      refine .inr ⟨expected, candidate, ⟨hexpected, hidentity⟩, ?_⟩
      by_cases hmeets : Meets expected candidate
      · refine .inl ⟨hmeets, fun _ => ?_⟩
        dsimp only
        rw [verify_of_meets hmeets]
      · refine .inr ⟨hmeets, fun _ => ?_⟩
        dsimp only
        rw [verify_of_not_meets hmeets]

/-- Naming symbols asks nothing. -/
theorem decorating_asksNothing (p : Progress) : AsksNothing p (job.decorating p) := by
  unfold decorating
  dsimp only
  split
  · exact ⟨rfl, nofun⟩
  · split <;> exact ⟨rfl, nofun⟩

/-- **Behind the gate nothing is asked**, whatever the backend does. -/
theorem mergingBy_asksNothing (merge : Progress → OwnMerge) (p : Progress) :
    AsksNothing p (job.mergingBy merge p) := by
  unfold mergingBy
  dsimp only
  split
  · exact endWith_asksNothing _ _
  · split
    · exact ⟨rfl, nofun⟩
    · exact decorating_asksNothing job _

end LoadJob

/-! ## §3. The whole run. -/

/-- Types, symbols, comments and lines are what they were. -/
structure Database.SameStore (before after : Database) : Prop where
  types : after.dataTypes = before.dataTypes
  symbols : after.symbols = before.symbols
  comments : after.comments = before.comments
  lines : after.lineNumbers = before.lineNumbers

namespace RunResult

/-- The run has an outcome, and it entered the stage. -/
def Entered (r : RunResult) (stage : Stage) : Prop :=
  ∃ outcome, r.outcome = some (.ok outcome) ∧ stage ∈ outcome.trace

/-- The run has an outcome, and it ended in the stage. -/
def EndedIn (r : RunResult) (stage : Stage) : Prop :=
  ∃ outcome, r.outcome = some (.ok outcome) ∧ outcome.state = stage

end RunResult

namespace LoadJob

variable (job : LoadJob) (merge : Progress → OwnMerge) (shutDown : Bool) (program : Program)

/-- The file may be read: its identity is the expected one, or the operator was asked in this
run and agreed. -/
def IsAdmitted : Prop :=
  (∃ expected candidate, job.Compares program.db expected candidate ∧ Meets expected candidate)
    ∨ ((job.runBy merge shutDown program).questions ≠ [] ∧ job.answer = true)

/-- What holds of a run, whatever merge stands behind its gate. -/
structure IsGated : Prop where
  /-- A file that is not admitted is not read: the run is the same whatever a backend would do
  with the file, it does not enter the stage of parsing, and it leaves the store as it was. -/
  closed : ¬ job.IsAdmitted merge shutDown program →
    (∀ other, job.runBy other shutDown program = job.runBy merge shutDown program)
      ∧ ¬ (job.runBy merge shutDown program).Entered .parsing
      ∧ program.db.SameStore (job.runBy merge shutDown program).program.db
  once : (job.runBy merge shutDown program).questions.length ≤ 1
  /-- The operator is asked, with both identities in the question, exactly if both can be read
  and the one that the program expects is not met. -/
  asked : ∀ question, question ∈ (job.runBy merge shutDown program).questions
    ↔ program.acquire (job.slotRequest shutDown) = .granted
      ∧ ∃ expected candidate, job.Compares program.db expected candidate
        ∧ ¬ Meets expected candidate ∧ question = confirmation ⟨expected, candidate⟩
  aborted : (job.runBy merge shutDown program).EndedIn .aborted
    ↔ (job.runBy merge shutDown program).questions ≠ [] ∧ job.answer = false

variable {job merge shutDown program}

/-- Without the slot nothing happens. -/
theorem run_of_not_granted (h : program.acquire (job.slotRequest shutDown) ≠ .granted) :
    (job.run shutDown program).program = program ∧ (job.run shutDown program).questions = []
      ∧ ∀ outcome, (job.run shutDown program).outcome = some (.ok outcome) →
        outcome.trace = [.idle, .awaitingSlot, .done] ∧ outcome.state = .done := by
  unfold run
  split
  · exact ⟨rfl, rfl, nofun⟩
  · exact ⟨rfl, rfl, nofun⟩
  · refine ⟨rfl, rfl, ?_⟩
    intro outcome houtcome
    cases houtcome
    exact ⟨rfl, rfl⟩
  · next hgranted => exact absurd hgranted h

theorem isGated_of_not_granted (h : program.acquire (job.slotRequest shutDown) ≠ .granted) :
    job.IsGated merge shutDown program := by
  have hrun : ∀ other, job.runBy other shutDown program = job.run shutDown program := by
    intro other
    unfold runBy
    split
    · next hgranted => exact absurd hgranted h
    · rfl
  obtain ⟨hprogram, hquestions, houtcome⟩ := run_of_not_granted h
  refine ⟨fun _ => ⟨fun other => ?_, ?_, ?_⟩, ?_, fun question => ?_, ?_⟩
  · rw [hrun, hrun]
  · rw [hrun]
    rintro ⟨outcome, hsome, hmem⟩
    rw [(houtcome outcome hsome).1] at hmem
    revert hmem
    decide
  · rw [hrun, hprogram]
    exact ⟨rfl, rfl, rfl, rfl⟩
  · rw [hrun, hquestions]
    exact Nat.zero_le 1
  · rw [hrun, hquestions]
    exact iff_of_false nofun fun hasked => h hasked.1
  · rw [hrun, hquestions]
    refine iff_of_false ?_ fun hasked => hasked.1 rfl
    rintro ⟨outcome, hsome, hstate⟩
    rw [(houtcome outcome hsome).2] at hstate
    cases hstate

/-- With the slot, a run tells how it came through the gate. -/
theorem runBy_of_granted (h : program.acquire (job.slotRequest shutDown) = .granted)
    {p : Progress} {ending : RunEnding}
    (hgate : job.gate (job.mergingBy merge) (.start program.db) = (p, ending)) :
    (job.runBy merge shutDown program).questions = p.questions
      ∧ (∀ stage, (job.runBy merge shutDown program).EndedIn stage
        ↔ ending ≠ .endless ∧ ending.stage = stage)
      ∧ (∀ stage, (job.runBy merge shutDown program).Entered stage
        ↔ ending ≠ .endless ∧ stage ∈ p.trace ++ [ending.stage])
      ∧ ∃ runs, (job.runBy merge shutDown program).program.db = p.db.withRuns runs := by
  have hwork : job.workBy merge program.db
      = { p.enter ending.stage with db := job.recorded ending (p.enter ending.stage) } := by
    unfold workBy
    rw [hgate]
  have hrun : job.runBy merge shutDown program
      = job.leaving program ending
        { p.enter ending.stage with db := job.recorded ending (p.enter ending.stage) } := by
    unfold runBy
    rw [h, hgate, hwork]
  rw [hrun]
  refine ⟨leaving_questions _ _ _ _, fun stage => ?_, fun stage => ?_, ?_⟩
  · have hlast : (p.trace ++ [ending.stage]).getLast?.getD .idle = ending.stage := by
      rw [List.getLast?_concat]
      rfl
    constructor
    · rintro ⟨outcome, houtcome, hstate⟩
      cases leaving_outcome houtcome
      exact ⟨ends_of_leaving houtcome, hlast.symm.trans hstate⟩
    · rintro ⟨hends, hstage⟩
      rw [leaving_of_ends hends]
      exact ⟨_, rfl, hlast.trans hstage⟩
  · constructor
    · rintro ⟨outcome, houtcome, hmem⟩
      cases leaving_outcome houtcome
      exact ⟨ends_of_leaving houtcome, hmem⟩
    · rintro ⟨hends, hmem⟩
      rw [leaving_of_ends hends]
      exact ⟨_, rfl, hmem⟩
  · obtain ⟨runs, hrecorded, -⟩ := recorded_eq job ending (p.enter ending.stage)
    rw [leaving_db]
    exact ⟨runs, hrecorded⟩

theorem stage_eq_aborted_iff {ending : RunEnding} :
    ending ≠ .endless ∧ ending.stage = .aborted ↔ ending = .aborted := by
  cases ending <;> decide

/-- The gate alone decides whether the run depends on what stands behind it. -/
theorem runBy_congr {other : Progress → OwnMerge}
    (h : job.gate (job.mergingBy other) (.start program.db)
      = job.gate (job.mergingBy merge) (.start program.db)) :
    job.runBy other shutDown program = job.runBy merge shutDown program := by
  unfold runBy workBy
  rw [h]

theorem sameStore_of_withRuns {before after : Database}
    (h : ∃ runs, after = before.withRuns runs) : before.SameStore after := by
  obtain ⟨runs, rfl⟩ := h
  exact ⟨rfl, rfl, rfl, rfl⟩

/-- What holds of the way through the gate holds of the run. -/
theorem isGated_of_gate (h : program.acquire (job.slotRequest shutDown) = .granted)
    {p : Progress} {ending : RunEnding}
    (hgate : job.gate (job.mergingBy merge) (.start program.db) = (p, ending))
    (hclosed : ¬ job.IsAdmitted merge shutDown program →
      (∀ behind, job.gate behind (.start program.db) = (p, ending))
        ∧ (ending ≠ .endless → .parsing ∉ p.trace ++ [ending.stage]) ∧ p.db = program.db)
    (honce : p.questions.length ≤ 1)
    (hasked : ∀ question, question ∈ p.questions ↔ ∃ expected candidate,
      job.Compares program.db expected candidate ∧ ¬ Meets expected candidate
        ∧ question = confirmation ⟨expected, candidate⟩)
    (haborted : ending = .aborted ↔ p.questions ≠ [] ∧ job.answer = false) :
    job.IsGated merge shutDown program := by
  obtain ⟨hquestions, hended, hentered, hdb⟩ := runBy_of_granted h hgate
  refine ⟨fun hrefused => ?_, ?_, fun question => ?_, ?_⟩
  · obtain ⟨hsame, hparsing, hkept⟩ := hclosed hrefused
    refine ⟨fun other => runBy_congr ((hsame _).trans hgate.symm), ?_, ?_⟩
    · rw [hentered]
      exact fun hmem => hparsing hmem.1 hmem.2
    · rw [hkept] at hdb
      exact sameStore_of_withRuns hdb
  · rw [hquestions]
    exact honce
  · rw [hquestions, and_iff_right h]
    exact hasked question
  · rw [hquestions, hended, stage_eq_aborted_iff]
    exact haborted

/-- Nobody is asked. -/
theorem isGated_of_unasked (h : program.acquire (job.slotRequest shutDown) = .granted)
    {p : Progress} {ending : RunEnding}
    (hgate : job.gate (job.mergingBy merge) (.start program.db) = (p, ending))
    (hclosed : ¬ job.IsAdmitted merge shutDown program →
      (∀ behind, job.gate behind (.start program.db) = (p, ending))
        ∧ (ending ≠ .endless → .parsing ∉ p.trace ++ [ending.stage]) ∧ p.db = program.db)
    (hasks : AsksNothing (.start program.db) (p, ending))
    (hmet : ∀ expected candidate, job.Compares program.db expected candidate →
      Meets expected candidate) :
    job.IsGated merge shutDown program := by
  have hnone : p.questions = [] := hasks.1
  refine isGated_of_gate h hgate hclosed ?_ (fun question => ?_) ?_
  · rw [hnone]
    exact Nat.zero_le 1
  · rw [hnone]
    refine iff_of_false nofun ?_
    rintro ⟨expected, candidate, hcompares, hnot, -⟩
    exact hnot (hmet expected candidate hcompares)
  · exact iff_of_false hasks.2 fun hasked => hasked.1 hnone

/-- The operator is asked, and the answer decides. -/
theorem isGated_of_asked (h : program.acquire (job.slotRequest shutDown) = .granted)
    {expected : Option Identity} {candidate : Identity} {q : Progress}
    (hcompares : job.Compares program.db expected candidate) (hnot : ¬ Meets expected candidate)
    (htrace : q.trace = [.idle, .awaitingSlot, .verifying, .awaitingConfirmation])
    (hquestions : q.questions = [confirmation ⟨expected, candidate⟩]) (hdb : q.db = program.db)
    (hgate : ∀ behind, job.gate behind (.start program.db)
      = if job.answer then behind q else (q, .aborted)) :
    job.IsGated merge shutDown program := by
  have hasked : ∀ question, question ∈ q.questions
      ↔ ∃ expected' candidate', job.Compares program.db expected' candidate'
        ∧ ¬ Meets expected' candidate' ∧ question = confirmation ⟨expected', candidate'⟩ := by
    intro question
    rw [hquestions, List.mem_singleton]
    constructor
    · intro hquestion
      exact ⟨expected, candidate, hcompares, hnot, hquestion⟩
    · rintro ⟨expected', candidate', hcompares', -, hquestion⟩
      obtain ⟨rfl, rfl⟩ := compares_unique hcompares hcompares'
      exact hquestion
  have honce : q.questions.length ≤ 1 := by
    rw [hquestions]
    exact Nat.le_refl 1
  have hne : q.questions ≠ [] := by
    rw [hquestions]
    exact List.cons_ne_nil _ _
  cases hanswer : job.answer with
  | true =>
    -- what stands behind the gate asks nothing more, so the question stays the only one
    rcases hmerged : job.mergingBy merge q with ⟨p, ending⟩
    have hpassed := ((hgate (job.mergingBy merge)).trans (if_pos hanswer)).trans hmerged
    obtain ⟨hkept, hending⟩ := mergingBy_asksNothing job merge q
    rw [hmerged] at hkept hending
    dsimp only at hkept hending
    rw [← hkept] at hasked honce hne
    refine isGated_of_gate h hpassed (fun hrefused => ?_) honce hasked ?_
    · refine absurd (.inr ⟨?_, hanswer⟩) hrefused
      rw [(runBy_of_granted h hpassed).1]
      exact hne
    · refine iff_of_false hending fun hdeclined => ?_
      rw [hanswer] at hdeclined
      cases hdeclined.2
  | false =>
    -- the gate stays shut, and what would stand behind it does not matter
    have hstopped := fun behind => (hgate behind).trans (if_neg (by rw [hanswer]; exact nofun))
    refine isGated_of_gate h (hstopped _) (fun _ => ⟨hstopped, ?_, hdb⟩) honce hasked ?_
    · rw [htrace]
      decide
    · exact iff_of_true rfl ⟨hne, hanswer⟩

/-- With the slot, the run is what the gate makes of it. -/
theorem isGated_of_granted (h : program.acquire (job.slotRequest shutDown) = .granted) :
    job.IsGated merge shutDown program := by
  rcases job.gate_cases (.start program.db) with ⟨⟨p, ending⟩, hgate, hunread, htrace, hdb, hasks⟩
    | ⟨expected, candidate, hcompares, ⟨hmeets, hgate⟩ | ⟨hnot, hgate⟩⟩
  · -- an identity cannot be read
    refine isGated_of_unasked h (hgate _) (fun _ => ⟨hgate, ?_, hdb⟩) hasks ?_
    · rw [htrace]
      show ending ≠ .endless → .parsing ∉ [.idle, .awaitingSlot, .verifying, ending.stage]
      cases ending <;> decide
    · intro expected candidate hcompares
      exact absurd ⟨expected, candidate, hcompares⟩ hunread
  · -- the identities match, which admits the file
    refine isGated_of_unasked h (hgate _) (fun hrefused => ?_)
      (mergingBy_asksNothing job merge _) ?_
    · exact absurd (.inl ⟨expected, candidate, hcompares, hmeets⟩) hrefused
    · intro expected' candidate' hcompares'
      obtain ⟨rfl, rfl⟩ := compares_unique hcompares hcompares'
      exact hmeets
  · exact isGated_of_asked h hcompares hnot rfl rfl rfl hgate

/-- **Nothing is read or merged before the identities match or the operator agrees.**  Every run
passes the gate, whatever merge stands behind it, and the runs of the program are the runs with
the merge that the applicator provides. -/
theorem run_gated (job : LoadJob) (shutDown : Bool) (program : Program) :
    job.run shutDown program = job.runBy job.provided shutDown program
      ∧ ∀ merge : Progress → OwnMerge, job.IsGated merge shutDown program := by
  refine ⟨run_eq_runBy job shutDown program, fun merge => ?_⟩
  by_cases h : program.acquire (job.slotRequest shutDown) = .granted
  · exact isGated_of_granted h
  · exact isGated_of_not_granted h

end LoadJob

end DebugMerge
