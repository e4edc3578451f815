/-
  DebugMerge.Proofs.Load.Messages
  ───────────────────────────────
  **What a run logs, and how the log tells the ending.**

  Messages come from four places: the merge warns of symbols outside memory,
  an error or a stop of the backend is logged, a merge that was stopped is
  logged, and so is a failure to give symbols readable names.  Together they
  follow a small grammar, warnings first and at most one closing message behind
  them.  The closing message tells the ending by its first words, and the log is
  reported once, if there is anything in it.

  Main statements
    • `DebugInfo.placementWarnings`, `apply_warns` — the warnings of a merge
    • `LoadJob.Raises`, `LoadJob.Reaches`          — the error that a run meets, what it reads
    • `LoadJob.Closes`, `verifying_closes`         — the grammar of messages
    • `Opens`                                      — the first words of a message
    • `LoadJob.run_unanswered_iff`                 — the runs that never answer
    • `LoadJob.IsTold`, `LoadJob.run_surfaced`     — the whole run
-/
import DebugMerge.Proofs.Load.Contents
import DebugMerge.Proofs.Load.History
import DebugMerge.Proofs.Load.Tally

namespace DebugMerge

/-! ## §1. Warnings about placement. -/

section Warnings

variable {site : Site} {restrictions : Restrictions} {records : List Record}
  {checkpoint : Checkpoint} {info : DebugInfo} {options : ApplyOptions} {imageBase : UInt64}
  {isSet : Nat → Bool} {db : Database} {blocks : List MemoryBlock}

/-- The messages about the allowed symbols outside memory, in the order of the file. -/
def DebugInfo.placementWarnings (info : DebugInfo) (restrictions : Restrictions) (site : Site) :
    Log :=
  (info.symbols.filter fun symbol =>
    restrictions.allows symbol.scope.recordKind
      && (place site.imageBase symbol.rva site.blocks).isNone).map (unplacedMessage site)

/-- Only symbols outside memory are warned of. -/
theorem filterMap_unplaced (info : DebugInfo) (restrictions : Restrictions) (site : Site) :
    (info.allowed restrictions).filterMap (Record.unplaced? site)
      = info.placementWarnings restrictions site := by
  rw [filterMap_allowed, filterMap_admit_eq_nil .dataType fun _ => rfl,
    filterMap_admit_eq_nil .line fun _ => rfl, filterMap_admit_eq_nil .comment fun _ => rfl,
    List.nil_append, List.append_nil, List.append_nil]
  unfold DebugInfo.placementWarnings
  induction info.symbols with
  | nil => rfl
  | cons symbol symbols ih =>
    rw [List.filterMap_cons, ih]
    have hkind : (Record.symbol symbol).kind = symbol.scope.recordKind := rfl
    unfold Restrictions.admit Record.unplaced?
    cases hallows : restrictions.allows symbol.scope.recordKind <;>
      cases hplace : place site.imageBase symbol.rva site.blocks <;>
        simp [hkind, hallows, hplace]

/-- **A walk warns of the symbols that it came past**, wherever it ends. -/
theorem Application.applyRecords_warns (site : Site) (restrictions : Restrictions)
    (checkpoint : Checkpoint) (a : Application) (records : List Record) :
    ∃ warnings, warnings <+: (records.filter fun record =>
        restrictions.allows record.kind).filterMap (Record.unplaced? site)
      ∧ (applyRecords site restrictions checkpoint a records).1.log = a.log ++ warnings := by
  induction records generalizing a with
  | nil => exact ⟨[], List.nil_prefix, (List.append_nil _).symm⟩
  | cons record records ih =>
    unfold applyRecords
    by_cases hallowed : restrictions.allows record.kind = true
    · rw [if_pos hallowed, List.filter_cons, if_pos hallowed]
      have hhere : a.tick.log = a.log ++ [] := (List.append_nil _).symm
      dsimp only
      -- a walk that ends at this record has nothing to say about it
      split
      · exact ⟨[], List.nil_prefix, hhere⟩
      · split
        · exact ⟨[], List.nil_prefix, hhere⟩
        · next a' hoffer =>
          -- the warning about this record, if there is one, and those of the rest
          obtain ⟨warnings, hprefix, hlog⟩ := ih a'
          have hrecord : a'.log = a.log ++ (record.unplaced? site).toList :=
            (offer_tallied hoffer).log
          refine ⟨(record.unplaced? site).toList ++ warnings, ?_, ?_⟩
          · cases hunplaced : record.unplaced? site with
            | none => simpa [hunplaced] using hprefix
            | some warning => simpa [hunplaced] using hprefix
          · rw [hlog, hrecord, List.append_assoc]
    · rw [if_neg hallowed, List.filter_cons, if_neg hallowed]
      exact ih a.filter

/-- **The warnings of a merge** are the first of those about the file; all of them, if the merge
came to the end of the file. -/
theorem apply_warns (hblocks : db.blocks = .ok blocks) :
    (apply options info imageBase isSet db).log
      <+: info.placementWarnings options.restrictions ⟨imageBase, blocks⟩ := by
  obtain ⟨warnings, hprefix, hlog⟩ := Application.applyRecords_warns ⟨imageBase, blocks⟩
    options.restrictions ⟨options.checkInterval.toNat, isSet⟩ (.start db) info.records
  have hsame : (apply options info imageBase isSet db).log = warnings := by
    unfold apply
    rw [hblocks]
    dsimp only
    split
    all_goals
      next a hwalk =>
        rw [hwalk] at hlog
        simpa [Application.start] using hlog
  rw [hsame, ← filterMap_unplaced]
  exact hprefix

theorem apply_warns_all {db' : Database} {applied : Applied} (hblocks : db.blocks = .ok blocks)
    (h : (apply options info imageBase isSet db).result = .ok (db', applied))
    (hrunning : applied.cancelled = false) :
    (apply options info imageBase isSet db).log
      = info.placementWarnings options.restrictions ⟨imageBase, blocks⟩ := by
  rw [← filterMap_unplaced]
  exact (apply_passesOver hblocks h hrunning).log

end Warnings

/-! ## §2. What a run meets. -/

namespace LoadJob

variable (job : LoadJob)

/-- What reading and merging answer in a run, in which the operator was asked or not. -/
def mergedIn (asked : Bool) (db : Database) : MergeOutcome :=
  job.backend.merge job.file job.settings.applying job.settings.reading
    (fun n => CancelPlan.setParsing asked n job.plan)
    (fun n => CancelPlan.setApplying asked n job.plan) db

/-- The file passes the gate: both identities can be read, the operator was asked exactly if they
do not match, and then agreed. -/
def PassesGate (db : Database) (asked : Bool) : Prop :=
  ∃ expected candidate, job.Compares db expected candidate
    ∧ (asked = true ↔ ¬ Meets expected candidate) ∧ (asked = true → job.answer = true)

/-- The error that a run meets: the program cannot say what it expects, the backend cannot say
what the file is, or an admitted file cannot be read or merged. -/
inductive Raises (db : Database) : LoadError → Prop
  | expecting {cause : StoreError} (h : db.expectedIdentity = .error cause) :
      Raises db (.store cause)
  | identifying {expected : Option Identity} {cause : LoadError}
      (hexpected : db.expectedIdentity = .ok expected)
      (h : job.backend.readIdentity job.file = .error cause) : Raises db cause
  | merging {asked : Bool} {cause : LoadError} (hpasses : job.PassesGate db asked)
      (h : (job.mergedIn asked db).result = .error cause) : Raises db cause

/-- The run reads this content from an admitted file, and the program has this place for it. -/
structure Reaches (db : Database) (info : DebugInfo) (site : Site) : Prop where
  reads : ∃ asked, job.PassesGate db asked ∧ job.readIn asked = .ok info
  isAt : db.IsAt site

/-- The messages are warnings about the content that the run reads, at the place of the program:
the first of them, in the order of the file. -/
def Warns (db : Database) (warnings : Log) : Prop :=
  warnings = [] ∨ ∃ info site, job.Reaches db info site
    ∧ warnings <+: info.placementWarnings job.settings.applying.restrictions site

/-- The messages are all warnings about the content that the run reads. -/
def WarnsAll (db : Database) (warnings : Log) : Prop :=
  ∃ info site, job.Reaches db info site
    ∧ warnings = info.placementWarnings job.settings.applying.restrictions site

end LoadJob

/-- The message about an error that a run meets. -/
def LoadError.closing (cause : LoadError) : String :=
  if cause = .cancelled then "PDB load cancelled; partial results were kept"
  else if cause.isIo then "PDB IO Error: " ++ cause.message
  else "PDB Error: " ++ cause.message

/-- How a run ends that meets an error, if it ends. -/
def LoadError.ending (cause : LoadError) : RunEnding :=
  if cause = .cancelled then .cancelled else if cause = .endless then .endless else .failed

/-- The message about a merge, or the naming behind it, that was stopped. -/
def cutMessage (file : String) : String :=
  "PDB load cancelled for " ++ file ++ "; partial results were kept"

/-- The message about readable names that could not be given. -/
def namingMessage (cause : StoreError) : String :=
  "PDB Error: demangling failed: " ++ cause.message

/-- The messages of a run that held the slot, with its ending and whether it came to the naming
of symbols: warnings, and at most one message behind them. -/
inductive LoadJob.Closes (job : LoadJob) (db : Database) : Log → RunEnding → Bool → Prop
  | raised {warnings : Log} {cause : LoadError} (hraises : job.Raises db cause)
      (hends : cause ≠ .endless) (hwarns : job.Warns db warnings) :
      Closes job db (warnings ++ [cause.closing]) cause.ending false
  | declined : Closes job db [] .aborted false
  /-- Stopped at a record. -/
  | cut {warnings : Log} (hwarns : job.Warns db warnings) :
      Closes job db (warnings ++ [cutMessage job.file]) .cancelled false
  /-- Stopped at a symbol. -/
  | halted {warnings : Log} (hwarns : job.WarnsAll db warnings) :
      Closes job db (warnings ++ [cutMessage job.file]) .cancelled true
  | unnamed {warnings : Log} (cause : StoreError) (hwarns : job.WarnsAll db warnings) :
      Closes job db (warnings ++ [namingMessage cause]) .completed true
  | completed {warnings : Log} (hwarns : job.WarnsAll db warnings) :
      Closes job db warnings .completed true

/-! ## §3. The stages. -/

namespace LoadJob

variable {job : LoadJob} {p : Progress} {cause : LoadError}

theorem endWith_ending (p : Progress) (cause : LoadError) :
    (p.endWith cause).2 = cause.ending := by
  cases cause <;> simp [Progress.endWith, LoadError.ending]

theorem ending_eq_endless_iff (cause : LoadError) :
    cause.ending = .endless ↔ cause = .endless := by
  cases cause <;> simp [LoadError.ending]

/-- Only what ends closes its messages. -/
theorem ends_of_closes {db : Database} {log : Log} {ending : RunEnding} {named : Bool}
    (h : job.Closes db log ending named) : ending ≠ .endless := by
  cases h with
  | raised _ hends _ => exact mt (ending_eq_endless_iff _).mp hends
  | declined | cut | halted | unnamed | completed => nofun

/-- An error closes the messages, if the run ends with it. -/
theorem endWith_log (p : Progress) (hends : cause ≠ .endless) :
    (p.endWith cause).1.log = p.log ++ [cause.closing] := by
  cases cause with
  | endless => exact absurd rfl hends
  | missingFile | io | malformed | typeConflict | cancelled | toolUnavailable | store =>
    simp [Progress.endWith, Progress.stop, Progress.note, LoadError.closing, LoadError.isIo]

/-- What a merge logs are warnings; it warns of all that it can, if it was not stopped. -/
theorem mergedIn_warns {asked : Bool} {db : Database} (hpasses : job.PassesGate db asked) :
    job.Warns db (job.mergedIn asked db).log
      ∧ ∀ db' applied, (job.mergedIn asked db).result = .ok (db', applied) →
        applied.cancelled = false → job.WarnsAll db (job.mergedIn asked db).log := by
  unfold mergedIn Backend.merge
  cases hinfo : job.readIn asked with
  | error e =>
    have hread : job.backend.readInfo job.file job.settings.reading
        (fun n => CancelPlan.setParsing asked n job.plan) = .error e := hinfo
    rw [hread]
    refine ⟨.inl rfl, ?_⟩
    intro db' applied h
    cases h
  | ok info =>
    have hread : job.backend.readInfo job.file job.settings.reading
        (fun n => CancelPlan.setParsing asked n job.plan) = .ok info := hinfo
    rw [hread]
    dsimp only
    cases himage : db.imageBase with
    | error e =>
      refine ⟨.inl rfl, ?_⟩
      intro db' applied h
      cases h
    | ok imageBase =>
      dsimp only
      cases hblocks : db.blocks with
      | error e =>
        -- without the memory map the merge fails at once
        unfold apply
        rw [hblocks]
        refine ⟨.inl rfl, ?_⟩
        intro db' applied h
        cases h
      | ok blocks =>
        have hreaches : job.Reaches db info ⟨imageBase, blocks⟩ :=
          ⟨⟨asked, hpasses, hinfo⟩, himage, hblocks⟩
        refine ⟨.inr ⟨info, _, hreaches, apply_warns hblocks⟩, ?_⟩
        intro db' applied happly hrunning
        exact ⟨info, _, hreaches, apply_warns_all hblocks happly hrunning⟩

/-- The messages behind those of `p`, with the ending; nobody was to name symbols yet. -/
def ClosesFrom (job : LoadJob) (p : Progress) (r : Progress × RunEnding) : Prop :=
  ∃ log named, r.1.log = p.log ++ log ∧ job.Closes p.db log r.2 named
    ∧ (named = true ↔ .demangling ∈ r.1.trace)

/-- The naming of symbols logs one message at most. -/
theorem decorating_closes (p : Progress) {db : Database} {earlier warnings : Log}
    (hlog : p.log = earlier ++ warnings) (hwarns : job.WarnsAll db warnings) :
    ∃ log, (job.decorating p).1.log = earlier ++ log
      ∧ job.Closes db log (job.decorating p).2 true := by
  unfold decorating
  dsimp only
  split
  · next e _ =>
    refine ⟨warnings ++ [namingMessage e], ?_, .unnamed e hwarns⟩
    show p.log ++ [_] = _
    rw [hlog, List.append_assoc]
    rfl
  · split
    · refine ⟨warnings ++ [cutMessage job.file], ?_, .halted hwarns⟩
      show p.log ++ [_] = _
      rw [hlog, List.append_assoc]
      rfl
    · exact ⟨warnings, hlog, .completed hwarns⟩

/-- A merge that fails logs its warnings and its error. -/
theorem merging_of_raised (hnamed : .demangling ∉ p.trace)
    (h : (job.mergedIn p.asked p.db).result = .error cause) :
    (cause ≠ .endless → (job.merging p).1.log
        = p.log ++ ((job.mergedIn p.asked p.db).log ++ [cause.closing]))
      ∧ (job.merging p).2 = cause.ending ∧ .demangling ∉ (job.merging p).1.trace := by
  have hmerge : job.backend.merge job.file job.settings.applying job.settings.reading
      (fun n => CancelPlan.setParsing (p.enter .parsing).asked n job.plan)
      (fun n => CancelPlan.setApplying (p.enter .parsing).asked n job.plan) (p.enter .parsing).db
        = job.mergedIn p.asked p.db := rfl
  unfold merging
  dsimp only
  rw [hmerge, h]
  dsimp only
  -- whether the merge began is seen in the stages, and not in the messages
  refine ⟨fun hends => ?_, endWith_ending _ cause, ?_⟩
  · rw [endWith_log _ hends]
    cases (job.mergedIn p.asked p.db).began <;>
      simp [Progress.enter, List.append_assoc]
  · rw [endWith_trace]
    cases (job.mergedIn p.asked p.db).began <;> simpa [Progress.enter] using hnamed

/-- A merge that does not fail logs its warnings, and the ending behind them. -/
theorem merging_of_merged (hnamed : .demangling ∉ p.trace) (hpasses : job.PassesGate p.db p.asked)
    {db : Database} {applied : Applied}
    (h : (job.mergedIn p.asked p.db).result = .ok (db, applied)) :
    job.ClosesFrom p (job.merging p) := by
  have hmerge : job.backend.merge job.file job.settings.applying job.settings.reading
      (fun n => CancelPlan.setParsing (p.enter .parsing).asked n job.plan)
      (fun n => CancelPlan.setApplying (p.enter .parsing).asked n job.plan) (p.enter .parsing).db
        = job.mergedIn p.asked p.db := rfl
  have hbegan : (job.mergedIn p.asked p.db).began = true := merge_began h
  obtain ⟨hwarns, hall⟩ := mergedIn_warns hpasses
  unfold merging
  dsimp only
  rw [hmerge, hbegan, h]
  dsimp only
  cases hcancelled : applied.cancelled with
  | true =>
    -- stopped at a record: some symbols may not have been looked at
    rw [if_pos rfl]
    refine ⟨_, false, ?_, .cut hwarns, ?_⟩
    · show (p.log ++ (job.mergedIn p.asked p.db).log) ++ [_] = _
      rw [List.append_assoc]
      rfl
    · refine iff_of_false Bool.false_ne_true ?_
      simpa [Progress.enter, Progress.cut, Progress.stop, Progress.note] using hnamed
  | false =>
    rw [if_neg Bool.false_ne_true]
    -- the merge came to the end of the file, and names symbols next
    obtain ⟨log, hlog, hcloses⟩ := decorating_closes
      { (p.enter .parsing).enter .applying with
        log := p.log ++ (job.mergedIn p.asked p.db).log, db, applied := some applied }
      rfl (hall db applied h hcancelled)
    refine ⟨log, true, hlog, hcloses, iff_of_true rfl ?_⟩
    rw [show (job.decorating _).1.trace = _ from (decorating_spec job _).1]
    exact mem_enter_self .demangling _

/-- Whether the operator is asked is settled by the identities. -/
theorem passesGate_unique {db : Database} {asked asked' : Bool} (h : job.PassesGate db asked)
    (h' : job.PassesGate db asked') : asked' = asked := by
  obtain ⟨expected, candidate, hcompares, hasked, -⟩ := h
  obtain ⟨expected', candidate', hcompares', hasked', -⟩ := h'
  obtain ⟨rfl, rfl⟩ := compares_unique hcompares hcompares'
  exact Bool.eq_iff_iff.mpr (hasked'.trans hasked.symm)

/-- Behind the gate only reading and merging can fail. -/
theorem result_of_raises {db : Database} {asked : Bool} (hpasses : job.PassesGate db asked)
    (h : job.Raises db cause) : (job.mergedIn asked db).result = .error cause := by
  obtain ⟨expected, candidate, hcompares, -⟩ := id hpasses
  cases h with
  | expecting h => cases h.symm.trans hcompares.expects
  | identifying _ h => cases h.symm.trans hcompares.reads
  | merging hpasses' h =>
    rw [passesGate_unique hpasses' hpasses]
    exact h

/-- **The error that a run meets is one.** -/
theorem raises_unique {db : Database} {cause' : LoadError} (h : job.Raises db cause)
    (h' : job.Raises db cause') : cause = cause' := by
  -- what the run went through before it met one error excludes every other one
  cases h with
  | expecting h =>
    cases h' with
    | expecting h' =>
      cases h.symm.trans h'
      rfl
    | identifying hexpected _ => cases h.symm.trans hexpected
    | merging hpasses h' =>
      cases (result_of_raises hpasses (.expecting h)).symm.trans h'
      rfl
  | identifying hexpected h =>
    cases h' with
    | expecting h' => cases h'.symm.trans hexpected
    | identifying _ h' =>
      cases h.symm.trans h'
      rfl
    | merging hpasses h' =>
      cases (result_of_raises hpasses (.identifying hexpected h)).symm.trans h'
      rfl
  | merging hpasses h =>
    cases h.symm.trans (result_of_raises hpasses h')
    rfl

variable (job) in
/-- **The three ways of a run before it reads the file**: an error ends it, the operator declines,
or the file passes the gate. -/
theorem verifying_cases (hquestions : p.questions = []) (hnamed : .demangling ∉ p.trace) :
    (∃ cause, job.Raises p.db cause
        ∧ (cause ≠ .endless → (job.verifying p).1.log = p.log ++ [cause.closing])
        ∧ (job.verifying p).2 = cause.ending ∧ .demangling ∉ (job.verifying p).1.trace)
      ∨ ((∀ cause, ¬ job.Raises p.db cause) ∧ (job.verifying p).1.log = p.log
        ∧ (job.verifying p).2 = .aborted ∧ .demangling ∉ (job.verifying p).1.trace)
      ∨ ∃ q, job.verifying p = job.merging q ∧ q.db = p.db ∧ q.log = p.log
        ∧ .demangling ∉ q.trace ∧ job.PassesGate p.db q.asked := by
  have hentered : .demangling ∉ (p.enter .verifying).trace := by
    simpa [Progress.enter] using hnamed
  cases hexpected : p.db.expectedIdentity with
  | error e =>
    refine .inl ⟨.store e, .expecting hexpected, ?_⟩
    unfold verifying
    dsimp only
    rw [show (p.enter .verifying).db.expectedIdentity = .error e from hexpected]
    exact ⟨fun _ => rfl, rfl, hentered⟩
  | ok expected =>
    cases hidentity : job.backend.readIdentity job.file with
    | error e =>
      refine .inl ⟨e, .identifying hexpected hidentity, ?_⟩
      unfold verifying
      dsimp only
      rw [show (p.enter .verifying).db.expectedIdentity = .ok expected from hexpected]
      dsimp only
      rw [hidentity]
      refine ⟨endWith_log _, endWith_ending _ e, ?_⟩
      rw [endWith_trace]
      exact hentered
    | ok candidate =>
      have hcompares : job.Compares p.db expected candidate := ⟨hexpected, hidentity⟩
      have hverifying : job.verifying p = job.gate job.merging p := rfl
      rcases job.gate_cases p with ⟨-, -, hunread, -⟩ | ⟨expected', candidate', hcompares', hway⟩
      · exact absurd ⟨expected, candidate, hcompares⟩ hunread
      · obtain ⟨rfl, rfl⟩ := compares_unique hcompares hcompares'
        rw [hverifying]
        rcases hway with ⟨hmeets, hbehind⟩ | ⟨hnot, hbehind⟩
        · -- nobody is asked
          have hunasked : (p.enter .verifying).asked = false := by
            simp [Progress.asked, Progress.enter, hquestions]
          refine .inr (.inr ⟨_, hbehind _, rfl, rfl, hentered, _, _, hcompares, ?_⟩)
          simp [hunasked, hmeets]
        · rw [hbehind]
          dsimp only
          have hnamed' : .demangling
              ∉ ((p.enter .verifying).ask (confirmation ⟨expected', candidate'⟩)).trace := by
            simpa [Progress.ask, Progress.enter] using hnamed
          have hasked : ((p.enter .verifying).ask
              (confirmation ⟨expected', candidate'⟩)).asked = true := by
            simp [Progress.asked, Progress.ask]
          split
          · next hanswer =>
            refine .inr (.inr ⟨_, rfl, rfl, rfl, hnamed', _, _, hcompares, ?_⟩)
            simp [hasked, hnot, hanswer]
          · next hanswer =>
            -- a run that the operator declined met no error
            refine .inr (.inl ⟨?_, rfl, rfl, hnamed'⟩)
            intro cause hraises
            cases hraises with
            | expecting h => cases h.symm.trans hexpected
            | identifying _ h => cases h.symm.trans hidentity
            | merging hpasses _ =>
              obtain ⟨_, _, hcompares', hasked', hadmitted⟩ := hpasses
              obtain ⟨rfl, rfl⟩ := compares_unique hcompares hcompares'
              exact hanswer (hadmitted (hasked'.mpr hnot))

/-- **An error that a run meets ends it**, and closes its messages, unless the run goes on
forever. -/
theorem verifying_of_raises (hquestions : p.questions = []) (hnamed : .demangling ∉ p.trace)
    (h : job.Raises p.db cause) :
    ∃ warnings, (cause ≠ .endless → (job.verifying p).1.log
          = p.log ++ (warnings ++ [cause.closing]))
      ∧ job.Warns p.db warnings ∧ (job.verifying p).2 = cause.ending
      ∧ .demangling ∉ (job.verifying p).1.trace := by
  rcases job.verifying_cases hquestions hnamed with ⟨cause', hraises, hends⟩
    | ⟨hnone, -⟩ | ⟨q, hverifying, hdb, hlog, hnamed', hpasses⟩
  · rw [raises_unique h hraises]
    exact ⟨[], hends.1, .inl rfl, hends.2⟩
  · exact absurd h (hnone cause)
  · rw [hverifying, ← hlog]
    have hwarns := (mergedIn_warns hpasses).1
    have hresult := result_of_raises hpasses h
    rw [← hdb] at hresult hwarns ⊢
    obtain ⟨hlog', hending, htrace⟩ := merging_of_raised hnamed' hresult
    exact ⟨_, hlog', hwarns, hending, htrace⟩

/-- **A run goes on forever exactly if it meets a reading that does.** -/
theorem verifying_endless_iff (hquestions : p.questions = []) (hnamed : .demangling ∉ p.trace) :
    (job.verifying p).2 = .endless ↔ job.Raises p.db .endless := by
  constructor
  · intro hending
    rcases job.verifying_cases hquestions hnamed with ⟨cause, hraises, -, hcause, -⟩
      | ⟨-, -, haborted, -⟩ | ⟨q, hverifying, hdb, -, hnamed', hpasses⟩
    · obtain rfl := (ending_eq_endless_iff cause).mp (hcause.symm.trans hending)
      exact hraises
    · cases haborted.symm.trans hending
    · rw [hverifying] at hending
      rw [← hdb] at hpasses ⊢
      cases hmerged : (job.mergedIn q.asked q.db).result with
      | error e =>
        have hcause := (merging_of_raised hnamed' hmerged).2.1
        obtain rfl := (ending_eq_endless_iff e).mp (hcause.symm.trans hending)
        exact .merging hpasses hmerged
      | ok merged =>
        obtain ⟨_, _, -, hcloses, -⟩ := merging_of_merged hnamed' hpasses hmerged
        exact absurd hending (ends_of_closes hcloses)
  · intro hraises
    obtain ⟨-, -, -, hending, -⟩ := verifying_of_raises hquestions hnamed hraises
    exact hending

/-- **The messages of a run that holds the slot** and comes to its end follow the grammar. -/
theorem verifying_closes (hquestions : p.questions = []) (hnamed : .demangling ∉ p.trace)
    (hends : (job.verifying p).2 ≠ .endless) : job.ClosesFrom p (job.verifying p) := by
  rw [Ne, verifying_endless_iff hquestions hnamed] at hends
  by_cases hraises : ∃ cause, job.Raises p.db cause
  · obtain ⟨cause, hraises⟩ := hraises
    obtain ⟨warnings, hlog, hwarns, hending, htrace⟩ :=
      verifying_of_raises hquestions hnamed hraises
    have hcause : cause ≠ .endless := by
      rintro rfl
      exact hends hraises
    refine ⟨_, false, hlog hcause, ?_, iff_of_false Bool.false_ne_true htrace⟩
    rw [hending]
    exact .raised hraises hcause hwarns
  · rcases job.verifying_cases hquestions hnamed with ⟨cause, hcause, -⟩
      | ⟨-, hlog, hending, htrace⟩ | ⟨q, hverifying, hdb, hlog, hnamed', hpasses⟩
    · exact absurd ⟨cause, hcause⟩ hraises
    · refine ⟨[], false, hlog.trans (List.append_nil _).symm, ?_,
        iff_of_false Bool.false_ne_true htrace⟩
      rw [hending]
      exact .declined
    · cases hmerged : (job.mergedIn q.asked p.db).result with
      | error e => exact absurd ⟨e, .merging hpasses hmerged⟩ hraises
      | ok merged =>
        unfold ClosesFrom
        rw [hverifying, ← hlog]
        rw [← hdb] at hpasses hmerged ⊢
        exact merging_of_merged hnamed' hpasses hmerged

end LoadJob

/-! ## §4. The first words of a message. -/

/-- The message begins with the words. -/
def Opens (words message : String) : Prop :=
  words.toList <+: message.toList

theorem opens_append (words rest : String) : Opens words (words ++ rest) := by
  unfold Opens
  rw [String.toList_append]
  exact List.prefix_append _ _

/-- Two beginnings of one message go together. -/
theorem not_opens_append {words other : String} (rest : String)
    (h : ¬ words.toList <+: other.toList) (h' : ¬ other.toList <+: words.toList) :
    ¬ Opens words (other ++ rest) := by
  intro hopens
  have hother : Opens other (other ++ rest) := opens_append other rest
  rcases List.prefix_or_prefix_of_prefix hopens hother with hle | hle
  · exact h hle
  · exact h' hle

/-- A message begins with the first letter of its first words. -/
theorem head?_of_opens {words message : String} {c : Char} (hwords : words.toList.head? = some c)
    (h : Opens words message) : message.toList.head? = some c := by
  obtain ⟨rest, hrest⟩ := h
  rw [← hrest, List.head?_append, hwords]
  rfl

theorem head?_append {words : String} {c : Char} (hwords : words.toList.head? = some c)
    (rest : String) : (words ++ rest).toList.head? = some c :=
  head?_of_opens hwords (opens_append words rest)

/-- The last message, if there is one, begins with the words. -/
def Log.EndsWith (log : Log) (words : String) : Prop :=
  ∃ message, log.getLast? = some message ∧ Opens words message

theorem endsWith_concat (warnings : Log) (message words : String) :
    Log.EndsWith (warnings ++ [message]) words ↔ Opens words message := by
  unfold Log.EndsWith
  rw [List.getLast?_concat]
  simp

/-- No warning begins like a message that closes a run. -/
theorem not_endsWith_of_warnings {warnings : Log} {words : String}
    (hwords : words.toList.head? = some 'P')
    (h : ∀ message ∈ warnings, message.toList.head? = some 'U') :
    ¬ Log.EndsWith warnings words := by
  rintro ⟨message, hlast, hopens⟩
  have hhead := head?_of_opens hwords hopens
  rw [h message (List.mem_of_getLast? hlast)] at hhead
  revert hhead
  decide

theorem head?_unplacedMessage (site : Site) (record : SymbolRecord) :
    (unplacedMessage site record).toList.head? = some 'U' := by
  unfold unplacedMessage
  exact head?_append (head?_append (head?_append (head?_append (by decide) _) _) _) _

theorem head?_of_warns {job : LoadJob} {db : Database} {warnings : Log}
    (h : job.Warns db warnings) : ∀ message ∈ warnings, message.toList.head? = some 'U' := by
  rcases h with rfl | ⟨info, site, -, hprefix⟩
  · exact nofun
  · intro message hmem
    have hmem' := hprefix.subset hmem
    unfold DebugInfo.placementWarnings at hmem'
    obtain ⟨symbol, -, rfl⟩ := List.mem_map.mp hmem'
    exact head?_unplacedMessage site symbol

theorem LoadJob.WarnsAll.warns {job : LoadJob} {db : Database} {warnings : Log}
    (h : job.WarnsAll db warnings) : job.Warns db warnings := by
  obtain ⟨info, site, hreaches, rfl⟩ := h
  exact .inr ⟨info, site, hreaches, List.prefix_rfl⟩

/-! ### The messages that close a run. -/

/-- The file could not be found or read. -/
def LoadError.IsOfFile (cause : LoadError) : Prop :=
  (∃ path, cause = .missingFile path) ∨ ∃ path reason, cause = .io path reason

theorem isIo_iff (cause : LoadError) : cause.isIo = true ↔ cause.IsOfFile := by
  unfold LoadError.IsOfFile
  cases cause <;> simp [LoadError.isIo]

/-- The first letters of the messages about errors. -/
def messageLetters : List Char := ['C', 'D', 'F', 'M', 'P', 'S', 'U']

theorem StoreError.head?_message (cause : StoreError) :
    ∃ c ∈ messageLetters, cause.message.toList.head? = some c := by
  cases cause with
  | missingTable table => exact ⟨'S', by decide, head?_append (by decide) _⟩
  | unknownStatus status => exact ⟨'S', by decide, head?_append (by decide) _⟩
  | notOpened => exact ⟨'S', by decide, by decide⟩
  | badStatement => exact ⟨'S', by decide, by decide⟩
  | unsupportedVersion found =>
    exact ⟨'U', by decide, head?_append (head?_append (head?_append (by decide) _) _) _⟩
  | memberLayout name => exact ⟨'C', by decide, head?_append (head?_append (by decide) _) _⟩
  | missingProgramInfo => exact ⟨'P', by decide, by decide⟩

theorem LoadError.head?_message (cause : LoadError) :
    cause = .endless ∨ ∃ c ∈ messageLetters, cause.message.toList.head? = some c := by
  cases cause with
  | endless => exact .inl rfl
  | missingFile path => exact .inr ⟨'D', by decide, head?_append (by decide) _⟩
  | io path reason =>
    exact .inr ⟨'F', by decide, head?_append (head?_append (head?_append (by decide) _) _) _⟩
  | malformed detail => exact .inr ⟨'M', by decide, head?_append (by decide) _⟩
  | typeConflict name =>
    exact .inr ⟨'D', by decide, head?_append (head?_append (by decide) _) _⟩
  | cancelled => exact .inr ⟨'C', by decide, by decide⟩
  | toolUnavailable detail => exact .inr ⟨'D', by decide, head?_append (by decide) _⟩
  | store cause => exact .inr cause.head?_message

/-- What the first words of a closing message tell. -/
structure Words (message : String) (stopped failed file : Prop) : Prop where
  stopped : Opens "PDB load cancelled" message ↔ stopped
  failed : (Opens "PDB Error: " message ∨ Opens "PDB IO Error: " message)
    ∧ ¬ Opens "PDB Error: demangling failed: " message ↔ failed
  file : Opens "PDB IO Error: " message ↔ file
  closes : Opens "PDB load cancelled" message ∨ Opens "PDB Error: " message
    ∨ Opens "PDB IO Error: " message

/-- A message that begins like that of a stopped run tells that it was stopped. -/
theorem words_of_stopped (rest : String) :
    Words ("PDB load cancelled" ++ rest) True False False := by
  have hstopped : Opens "PDB load cancelled" ("PDB load cancelled" ++ rest) := opens_append _ _
  have herror : ¬ Opens "PDB Error: " ("PDB load cancelled" ++ rest) :=
    not_opens_append rest (by decide) (by decide)
  have hfile : ¬ Opens "PDB IO Error: " ("PDB load cancelled" ++ rest) :=
    not_opens_append rest (by decide) (by decide)
  exact ⟨iff_of_true hstopped trivial, by simp [herror, hfile], iff_of_false hfile id,
    .inl hstopped⟩

theorem words_of_naming (cause : StoreError) : Words (namingMessage cause) False False False := by
  have hnaming : Opens "PDB Error: demangling failed: " (namingMessage cause) := opens_append _ _
  have hstopped : ¬ Opens "PDB load cancelled" (namingMessage cause) :=
    not_opens_append _ (by decide) (by decide)
  have herror : Opens "PDB Error: " (namingMessage cause) :=
    List.IsPrefix.trans (by decide) hnaming
  have hfile : ¬ Opens "PDB IO Error: " (namingMessage cause) :=
    not_opens_append _ (by decide) (by decide)
  exact ⟨iff_of_false hstopped id, by simp [hnaming], iff_of_false hfile id, .inr (.inl herror)⟩

theorem words_of_cut (file : String) : Words (cutMessage file) True False False := by
  have hmessage : cutMessage file
      = "PDB load cancelled" ++ (" for " ++ file ++ "; partial results were kept") := by
    unfold cutMessage
    rw [← String.append_assoc, ← String.append_assoc]
    rfl
  rw [hmessage]
  exact words_of_stopped _

/-- The message about a run that gave up waiting for the slot. -/
def waitingMessage : String :=
  "PDB load cancelled while waiting for the analysis slot"

theorem words_of_waiting : Words waitingMessage True False False :=
  words_of_stopped " while waiting for the analysis slot"

/-- **The words about an error** tell its kind. -/
theorem words_of_error {cause : LoadError} (hends : cause ≠ .endless) :
    Words cause.closing (cause = .cancelled) (cause ≠ .cancelled) cause.IsOfFile := by
  unfold LoadError.closing
  by_cases hcancelled : cause = .cancelled
  · subst hcancelled
    have hwords := words_of_stopped "; partial results were kept"
    rw [if_pos rfl]
    refine ⟨iff_of_true (hwords.stopped.mpr trivial) rfl, ?_, ?_, hwords.closes⟩
    · exact iff_of_false (fun h => hwords.failed.mp h) fun h => h rfl
    · exact iff_of_false (fun h => hwords.file.mp h) (by simp [LoadError.IsOfFile])
  · rw [if_neg hcancelled]
    by_cases hio : cause.isIo = true
    · rw [if_pos hio]
      have hfile := opens_append "PDB IO Error: " cause.message
      have hstopped : ¬ Opens "PDB load cancelled" ("PDB IO Error: " ++ cause.message) :=
        not_opens_append _ (by decide) (by decide)
      have hnaming : ¬ Opens "PDB Error: demangling failed: "
          ("PDB IO Error: " ++ cause.message) := not_opens_append _ (by decide) (by decide)
      exact ⟨iff_of_false hstopped hcancelled, iff_of_true ⟨.inr hfile, hnaming⟩ hcancelled,
        iff_of_true hfile ((isIo_iff cause).mp hio), .inr (.inr hfile)⟩
    · rw [if_neg hio]
      have herror := opens_append "PDB Error: " cause.message
      have hstopped : ¬ Opens "PDB load cancelled" ("PDB Error: " ++ cause.message) :=
        not_opens_append _ (by decide) (by decide)
      have hfile : ¬ Opens "PDB IO Error: " ("PDB Error: " ++ cause.message) :=
        not_opens_append _ (by decide) (by decide)
      -- behind the label stands the message of the error, whose first letter is another one
      have hnaming : ¬ Opens "PDB Error: demangling failed: "
          ("PDB Error: " ++ cause.message) := by
        intro h
        have hrest : Opens "demangling failed: " cause.message := by
          unfold Opens at h ⊢
          rw [String.toList_append] at h
          exact (List.prefix_append_right_inj "PDB Error: ".toList).mp h
        obtain ⟨c, hc, hletter⟩ := cause.head?_message.resolve_left hends
        have hd : some c = some 'd' := hletter.symm.trans (head?_of_opens (by decide) hrest)
        rw [Option.some.inj hd] at hc
        revert hc
        decide
      exact ⟨iff_of_false hstopped hcancelled, iff_of_true ⟨.inl herror, hnaming⟩ hcancelled,
        iff_of_false hfile fun h => hio ((isIo_iff cause).mpr h), .inr (.inl herror)⟩

/-! ## §5. The whole run. -/

namespace LoadJob

variable {job : LoadJob} {shutDown : Bool} {program : Program} {outcome : Outcome}

/-- The run gets the slot and meets the error. -/
def RunRaises (job : LoadJob) (shutDown : Bool) (program : Program) (cause : LoadError) : Prop :=
  program.acquire (job.slotRequest shutDown) = .granted ∧ job.Raises program.db cause

/-- What the messages of an outcome tell. -/
structure IsTold (job : LoadJob) (shutDown : Bool) (program : Program) (outcome : Outcome) :
    Prop where
  cancelled : outcome.cancelled = true ↔ outcome.messages.EndsWith "PDB load cancelled"
  failed : outcome.state = .failed ↔ (outcome.messages.EndsWith "PDB Error: "
      ∨ outcome.messages.EndsWith "PDB IO Error: ")
    ∧ ¬ outcome.messages.EndsWith "PDB Error: demangling failed: "
  /-- A run fails exactly if it meets an error that is no request to stop. -/
  raised : outcome.state = .failed
    ↔ ∃ cause, job.RunRaises shutDown program cause ∧ cause ≠ .cancelled
  /-- The error that a run meets closes its messages. -/
  closing : ∀ cause, job.RunRaises shutDown program cause →
    outcome.messages.getLast? = some cause.closing
  /-- Files that cannot be found or read have a label of their own. -/
  file : outcome.messages.EndsWith "PDB IO Error: "
    ↔ ∃ cause, job.RunRaises shutDown program cause ∧ cause.IsOfFile
  /-- In front of the last message stand warnings about placement alone, in the order of the file;
  they are complete if the run came to the naming of symbols. -/
  warnings : ∃ (warnings : Log) (closing : Option String),
    outcome.messages = warnings ++ closing.toList ∧ job.Warns program.db warnings
      ∧ (.demangling ∈ outcome.trace → job.WarnsAll program.db warnings)
      ∧ ∀ message ∈ closing, Opens "PDB load cancelled" message
        ∨ Opens "PDB Error: " message ∨ Opens "PDB IO Error: " message

/-- What a log with the ending tells, if `raises` says which errors were met. -/
structure LogTells (log : Log) (ending : RunEnding) (raises : LoadError → Prop) : Prop where
  cancelled : ending = .cancelled ↔ log.EndsWith "PDB load cancelled"
  failed : ending = .failed ↔ (log.EndsWith "PDB Error: " ∨ log.EndsWith "PDB IO Error: ")
    ∧ ¬ log.EndsWith "PDB Error: demangling failed: "
  raised : ending = .failed ↔ ∃ cause, raises cause ∧ cause ≠ .cancelled
  file : log.EndsWith "PDB IO Error: " ↔ ∃ cause, raises cause ∧ cause.IsOfFile

/-- A closing message tells the ending by its first words. -/
theorem logTells_of_words {warnings : Log} {message : String} {ending : RunEnding}
    {stopped failed file : Prop} {raises : LoadError → Prop}
    (hwords : Words message stopped failed file)
    (hstopped : ending = .cancelled ↔ stopped) (hfailed : ending = .failed ↔ failed)
    (hraised : failed ↔ ∃ cause, raises cause ∧ cause ≠ .cancelled)
    (hfile : file ↔ ∃ cause, raises cause ∧ cause.IsOfFile) :
    LogTells (warnings ++ [message]) ending raises := by
  refine ⟨?_, ?_, hfailed.trans hraised, ?_⟩
  · rw [endsWith_concat]
    exact hstopped.trans hwords.stopped.symm
  · rw [endsWith_concat, endsWith_concat, endsWith_concat]
    exact hfailed.trans hwords.failed.symm
  · rw [endsWith_concat]
    exact hwords.file.trans hfile

/-- A run that does not fail meets no error but a request to stop, so no file is at fault. -/
theorem no_error_of_not_failed {raises : LoadError → Prop}
    (hraises : ∀ cause, raises cause → cause = .cancelled) :
    (¬ ∃ cause, raises cause ∧ cause ≠ .cancelled) ∧ ¬ ∃ cause, raises cause ∧ cause.IsOfFile := by
  constructor
  · rintro ⟨cause, hcause, hne⟩
    exact hne (hraises cause hcause)
  · rintro ⟨cause, hcause, hfile⟩
    rw [hraises cause hcause] at hfile
    simp [LoadError.IsOfFile] at hfile

/-- Without a closing message a run neither failed nor was stopped. -/
theorem logTells_of_warns {db : Database} {warnings : Log} {ending : RunEnding}
    {raises : LoadError → Prop} (hwarns : job.Warns db warnings)
    (hstopped : ending ≠ .cancelled) (hfailed : ending ≠ .failed)
    (hraises : ∀ cause, raises cause → cause = .cancelled) : LogTells warnings ending raises := by
  have hnone : ∀ words : String, words.toList.head? = some 'P' → ¬ Log.EndsWith warnings words :=
    fun words hwords => not_endsWith_of_warnings hwords (head?_of_warns hwarns)
  have herror := hnone "PDB Error: " (by decide)
  have hfile := hnone "PDB IO Error: " (by decide)
  obtain ⟨hnoError, hnoFile⟩ := no_error_of_not_failed hraises
  refine ⟨iff_of_false hstopped (hnone _ (by decide)), iff_of_false hfailed ?_,
    iff_of_false hfailed hnoError, iff_of_false hfile hnoFile⟩
  rintro ⟨h | h, -⟩
  · exact herror h
  · exact hfile h

theorem ending_eq_cancelled_iff (cause : LoadError) :
    cause.ending = .cancelled ↔ cause = .cancelled := by
  cases cause <;> simp [LoadError.ending]

theorem ending_eq_failed_iff {cause : LoadError} (hends : cause ≠ .endless) :
    cause.ending = .failed ↔ cause ≠ .cancelled := by
  unfold LoadError.ending
  rw [if_neg hends]
  by_cases h : cause = .cancelled <;> simp [h]

/-- **What the messages of a run that held the slot tell.** -/
theorem logTells_of_closes {db : Database} {log : Log} {ending : RunEnding} {named : Bool}
    (h : job.Closes db log ending named)
    (hending : ∀ cause, job.Raises db cause → ending = cause.ending) :
    LogTells log ending (job.Raises db) := by
  -- only a request to stop goes with an ending that is no failure
  have hraises : ending ≠ .failed → ∀ cause, job.Raises db cause → cause = .cancelled := by
    intro hne cause hcause
    have hends : cause ≠ .endless := by
      rintro rfl
      exact ends_of_closes h (hending _ hcause)
    by_contra hfailed
    exact hne ((hending cause hcause).trans ((ending_eq_failed_iff hends).mpr hfailed))
  have hcut : ∀ {warnings : Log} {message : String}, Words message True False False →
      ending = .cancelled → LogTells (warnings ++ [message]) ending (job.Raises db) := by
    intro warnings message hwords hcancelled
    have hne : ending ≠ .failed := by simp [hcancelled]
    obtain ⟨hnoError, hnoFile⟩ := no_error_of_not_failed (hraises hne)
    exact logTells_of_words hwords (iff_of_true hcancelled trivial) (iff_of_false hne id)
      (iff_of_false id hnoError) (iff_of_false id hnoFile)
  cases h with
  | @raised warnings cause hraised hends hwarns =>
    refine logTells_of_words (words_of_error hends) (ending_eq_cancelled_iff cause)
      (ending_eq_failed_iff hends) ?_ ?_
    · constructor
      · exact fun hne => ⟨cause, hraised, hne⟩
      · rintro ⟨cause', hraised', hne⟩
        rw [raises_unique hraised hraised']
        exact hne
    · constructor
      · exact fun hfile => ⟨cause, hraised, hfile⟩
      · rintro ⟨cause', hraised', hfile⟩
        rw [raises_unique hraised hraised']
        exact hfile
  | declined =>
    have hwarns : job.Warns db [] := .inl rfl
    exact logTells_of_warns hwarns nofun nofun (hraises nofun)
  | cut hwarns => exact hcut (words_of_cut job.file) rfl
  | halted hwarns => exact hcut (words_of_cut job.file) rfl
  | unnamed cause hwarns =>
    obtain ⟨hnoError, hnoFile⟩ := no_error_of_not_failed (hraises nofun)
    exact logTells_of_words (words_of_naming cause) (iff_of_false nofun id) (iff_of_false nofun id)
      (iff_of_false id hnoError) (iff_of_false id hnoFile)
  | completed hwarns => exact logTells_of_warns hwarns.warns nofun nofun (hraises nofun)

/-- Behind the warnings stands one message that closes the run, or none. -/
theorem warned_of_closes {db : Database} {log : Log} {ending : RunEnding} {named : Bool}
    (h : job.Closes db log ending named) :
    ∃ (warnings : Log) (closing : Option String), log = warnings ++ closing.toList
      ∧ job.Warns db warnings ∧ (named = true → job.WarnsAll db warnings)
      ∧ ∀ message ∈ closing, Opens "PDB load cancelled" message
        ∨ Opens "PDB Error: " message ∨ Opens "PDB IO Error: " message := by
  have hsome : ∀ {message : String} {stopped failed file : Prop},
      Words message stopped failed file → ∀ other ∈ some message, Opens "PDB load cancelled" other
        ∨ Opens "PDB Error: " other ∨ Opens "PDB IO Error: " other := by
    intro message stopped failed file hwords other hother
    cases hother
    exact hwords.closes
  cases h with
  | @raised warnings cause _ hends hwarns =>
    exact ⟨warnings, some cause.closing, rfl, hwarns, nofun, hsome (words_of_error hends)⟩
  | declined => exact ⟨[], none, rfl, .inl rfl, nofun, nofun⟩
  | @cut warnings hwarns =>
    exact ⟨warnings, some (cutMessage job.file), rfl, hwarns, nofun, hsome (words_of_cut job.file)⟩
  | @halted warnings hwarns =>
    exact ⟨warnings, some (cutMessage job.file), rfl, hwarns.warns, fun _ => hwarns,
      hsome (words_of_cut job.file)⟩
  | @unnamed warnings cause hwarns =>
    exact ⟨warnings, some (namingMessage cause), rfl, hwarns.warns, fun _ => hwarns,
      hsome (words_of_naming cause)⟩
  | completed hwarns =>
    exact ⟨log, none, (List.append_nil _).symm, hwarns.warns, fun _ => hwarns, nofun⟩

/-- Without the slot nothing is raised, and a run that gave up waiting says so. -/
theorem isTold_of_waiting (hrefused : program.acquire (job.slotRequest shutDown) ≠ .granted) :
    job.IsTold shutDown program ((cancelledWaiting program.db).outcome job.backend.name) := by
  have hraises : ∀ cause, ¬ job.RunRaises shutDown program cause := fun _ h => hrefused h.1
  have htells : LogTells ([] ++ [waitingMessage]) .cancelled (job.RunRaises shutDown program) := by
    obtain ⟨hnoError, hnoFile⟩ := no_error_of_not_failed fun cause h => absurd h (hraises cause)
    exact logTells_of_words words_of_waiting (iff_of_true rfl trivial) (iff_of_false nofun id)
      (iff_of_false id hnoError) (iff_of_false id hnoFile)
  refine ⟨iff_of_true rfl (htells.cancelled.mp rfl), ?_, ?_,
    fun cause h => absurd h (hraises cause), htells.file,
    ⟨[], some waitingMessage, rfl, .inl rfl, ?_, ?_⟩⟩
  · exact (iff_of_false nofun nofun).trans htells.failed
  · exact (iff_of_false nofun nofun).trans htells.raised
  · intro h
    have hmem : Stage.demangling ∈ [Stage.idle, .awaitingSlot, .done] := h
    exact absurd hmem (by decide)
  · intro message hmessage
    cases hmessage
    exact words_of_waiting.closes

/-- With the slot, the messages are those of the work, if it ends. -/
theorem isTold_of_work (hgranted : program.acquire (job.slotRequest shutDown) = .granted)
    (hends : (job.verifying (.start program.db)).2 ≠ .endless) :
    job.IsTold shutDown program ((job.work program.db).outcome job.backend.name) := by
  have hnamed : .demangling ∉ (Progress.start program.db).trace := by
    show Stage.demangling ∉ [Stage.idle, .awaitingSlot]
    decide
  obtain ⟨log, named, hlog, hcloses, htrace⟩ :
      job.ClosesFrom (.start program.db) (job.verifying (.start program.db)) :=
    verifying_closes rfl hnamed hends
  have hmessages : ((job.work program.db).outcome job.backend.name).messages = log := hlog
  have hstate := work_state job program.db
  have hstop : ((job.work program.db).outcome job.backend.name).cancelled = true
      ↔ (job.verifying (.start program.db)).2 = .cancelled := verifying_tellsStop rfl
  have hraises : ∀ cause, job.RunRaises shutDown program cause ↔ job.Raises program.db cause :=
    fun cause => and_iff_right hgranted
  have hclosing : ∀ cause, job.Raises program.db cause →
      (job.verifying (.start program.db)).2 = cause.ending ∧ log.getLast? = some cause.closing := by
    intro cause hcause
    obtain ⟨warnings, hlog', -, hending, -⟩ :=
      verifying_of_raises (p := .start program.db) rfl hnamed hcause
    have hcause : cause ≠ .endless := by
      rintro rfl
      exact hends hending
    have hsame : log = warnings ++ [cause.closing] :=
      List.append_cancel_left (hlog.symm.trans (hlog' hcause))
    rw [hsame, List.getLast?_concat]
    exact ⟨hending, rfl⟩
  have htells := logTells_of_closes hcloses fun cause h => (hclosing cause h).1
  have hfailed : ((job.work program.db).outcome job.backend.name).state = .failed
      ↔ (job.verifying (.start program.db)).2 = .failed := by
    rw [hstate]
    cases (job.verifying (.start program.db)).2 <;> simp [RunEnding.stage]
  obtain ⟨warnings, closing, hwarned, hwarns, hall, hopens⟩ := warned_of_closes hcloses
  refine ⟨?_, ?_, ?_, ?_, ?_, ⟨warnings, closing, ?_, hwarns, ?_, hopens⟩⟩
  · rw [hmessages]
    exact hstop.trans htells.cancelled
  · rw [hmessages]
    exact hfailed.trans htells.failed
  · simp only [hraises]
    exact hfailed.trans htells.raised
  · intro cause hcause
    rw [hmessages]
    exact (hclosing cause hcause.2).2
  · rw [hmessages]
    simp only [hraises]
    exact htells.file
  · rw [hmessages]
    exact hwarned
  · intro hmem
    have hmem' : .demangling ∈ (job.work program.db).trace := hmem
    -- the last stage is not the naming, so a stage of the work was
    rw [(work_eq job program.db).1, List.mem_append] at hmem'
    refine hall (htrace.mpr (hmem'.resolve_right ?_))
    cases (job.verifying (.start program.db)).2 <;> decide

/-- The reports about an outcome: one with all its messages, if it has any. -/
def outcomeReports (outcome : Outcome) : List Report :=
  if outcome.messages = [] then []
  else [⟨"Load PDB File", "There were warnings/errors loading the PDB file.",
    String.join (outcome.messages.map (· ++ "\n"))⟩]

theorem reportsOf_eq (p : Progress) (backend : String) :
    reportsOf p = outcomeReports (p.outcome backend) := by
  unfold reportsOf outcomeReports Log.hasMessages
  show _ = if p.log = [] then [] else [logReport p.log]
  cases p.log with
  | nil => rfl
  | cons message log => simp

/-- **What is logged is reported once, and tells how the run ended.**  A run with an outcome
reports all its messages at once, if there are any; a run without one reports that it failed.  The
last message of an outcome tells whether the run was stopped or failed, and why, and in front of
it stand warnings about placement alone. -/
theorem run_surfaced (job : LoadJob) (shutDown : Bool) (program : Program) :
    (∀ outcome, (job.run shutDown program).outcome = some (.ok outcome) →
      (job.run shutDown program).reports = outcomeReports outcome
        ∧ job.IsTold shutDown program outcome)
      ∧ (∀ e, (job.run shutDown program).outcome = some (.error e) →
        ∃ report, (job.run shutDown program).reports = [report]
          ∧ report.title = "Load PDB Failed")
      ∧ ((job.run shutDown program).outcome = none →
        (job.run shutDown program).reports = []) := by
  unfold run
  cases hacquire : program.acquire (job.slotRequest shutDown) with
  | waiting => exact ⟨nofun, nofun, fun _ => rfl⟩
  | refused cause =>
    cases cause with
    | unavailable reason => exact ⟨nofun, fun _ _ => ⟨_, rfl, rfl⟩, nofun⟩
    | cancelled =>
      refine ⟨?_, nofun, nofun⟩
      intro outcome houtcome
      cases houtcome
      have hwaiting : program.acquire (job.slotRequest shutDown) ≠ .granted := by
        rw [hacquire]
        exact nofun
      exact ⟨reportsOf_eq (cancelledWaiting program.db) _, isTold_of_waiting hwaiting⟩
  | granted =>
    dsimp only
    by_cases hending : (job.verifying (.start program.db)).2 = .endless
    · -- what goes on forever reports nothing
      rw [hending]
      exact ⟨nofun, nofun, fun _ => rfl⟩
    · rw [leaving_of_ends hending]
      refine ⟨?_, nofun, nofun⟩
      intro outcome houtcome
      cases houtcome
      exact ⟨reportsOf_eq (job.work program.db) _, isTold_of_work hacquire hending⟩

/-- What goes on forever changes nothing. -/
theorem work_db_of_endless {db : Database} (h : (job.verifying (.start db)).2 = .endless) :
    (job.work db).db = db := by
  have hkept : (job.verifying (.start db)).1.db = db := by
    refine (verifying_harmless job (.start db)).resolve_right ?_
    rintro ⟨-, hdone⟩
    rw [h] at hdone
    cases hdone
  rw [(work_eq job db).2, recorded_eq_entries, h, entry?_endless]
  exact (Database.withRuns_nil _).trans hkept

/-- **A run never answers** exactly if it waits for the slot, or reads forever.  In the second case
it keeps the slot, and the database is what it was. -/
theorem run_unanswered_iff (job : LoadJob) (shutDown : Bool) (program : Program) :
    ((job.run shutDown program).outcome = none
        ↔ program.acquire (job.slotRequest shutDown) = .waiting
          ∨ job.RunRaises shutDown program .endless)
      ∧ (job.RunRaises shutDown program .endless →
        (job.run shutDown program).program = program.taken) := by
  have hnamed : .demangling ∉ (Progress.start program.db).trace := by
    show Stage.demangling ∉ [Stage.idle, .awaitingSlot]
    decide
  have hendless : (job.verifying (.start program.db)).2 = .endless
      ↔ job.Raises program.db .endless := verifying_endless_iff rfl hnamed
  unfold RunRaises run
  cases hacquire : program.acquire (job.slotRequest shutDown) with
  | waiting => exact ⟨iff_of_true rfl (.inl rfl), fun h => nomatch h.1⟩
  | refused cause =>
    refine ⟨iff_of_false ?_ ?_, fun h => nomatch h.1⟩
    · cases cause <;> nofun
    · rintro (h | ⟨h, -⟩) <;> cases h
  | granted =>
    dsimp only
    by_cases hending : (job.verifying (.start program.db)).2 = .endless
    · have hraises := hendless.mp hending
      refine ⟨iff_of_true ?_ (.inr ⟨rfl, hraises⟩), fun _ => ?_⟩
      · rw [hending]
        rfl
      · rw [hending]
        show { program.taken with db := (job.work program.db).db } = program.taken
        rw [work_db_of_endless hending]
        rfl
    · have hraises := mt hendless.mpr hending
      refine ⟨iff_of_false ?_ ?_, fun h => absurd h.2 hraises⟩
      · rw [leaving_of_ends hending]
        nofun
      · rintro (h | ⟨-, h⟩)
        · cases h
        · exact hraises h

/-- A content whose first two symbols lie outside the memory of `programWithText`. -/
def strayMain : DebugInfo :=
  ⟨[], [⟨"stray", 8192, none, .data, .publicTable⟩, ⟨"lost", 4096, none, .data, .globalTable⟩,
    ⟨"main", 16, none, .function, .publicTable⟩], [], []⟩

/-- A load of that content that is stopped at its third record, and looks for a request to stop
at every record. -/
def strayStopped : LoadJob :=
  { ofInfo strayMain (.whileApplying 3) with
    settings := { LoadSettings.standard with applying := ⟨.none, 1⟩ } }

/-- The two symbols are warned of, the stop is logged behind them, and all is reported once. -/
theorem run_surfaced_on_stray :
    ∃ outcome, (strayStopped.run false programWithText).outcome = some (.ok outcome)
      ∧ outcome.messages
        = ["Unable to place symbol stray at 0x2000: address is outside program memory",
          "Unable to place symbol lost at 0x1000: address is outside program memory",
          "PDB load cancelled for app.pdb; partial results were kept"]
      ∧ outcome.cancelled = true
      ∧ (strayStopped.run false programWithText).reports.length = 1 := by
  have hrun : ∃ outcome, (strayStopped.run false programWithText).outcome = some (.ok outcome)
      ∧ outcome.messages
        = ["Unable to place symbol stray at 0x2000: address is outside program memory",
          "Unable to place symbol lost at 0x1000: address is outside program memory",
          "PDB load cancelled for app.pdb; partial results were kept"] := by
    have hends : (strayStopped.verifying (.start programWithText.db)).2 ≠ .endless := by
      decide +kernel
    exact ⟨_, congrArg RunResult.outcome (leaving_of_ends hends), by decide +kernel⟩
  obtain ⟨outcome, houtcome, hmessages⟩ := hrun
  obtain ⟨hreports, htold⟩ := (run_surfaced strayStopped false programWithText).1 outcome houtcome
  refine ⟨outcome, houtcome, hmessages, htold.cancelled.mpr ?_, ?_⟩
  · refine ⟨"PDB load cancelled for app.pdb; partial results were kept", ?_, ?_⟩
    · rw [hmessages]
      rfl
    · exact opens_append "PDB load cancelled" " for app.pdb; partial results were kept"
  · rw [hreports, outcomeReports, hmessages, if_neg (by simp)]
    rfl

end LoadJob

end DebugMerge
