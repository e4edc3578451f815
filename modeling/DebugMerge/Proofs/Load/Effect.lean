/-
  DebugMerge.Proofs.Load.Effect
  ─────────────────────────────
  **What a run leaves in the database.**

  Whenever and wherever a run of one load ends, it has merged the first of the
  allowed records and nothing else, or it has merged all of them and named some
  of the symbols.  A run that is never stopped ends where all records are
  merged and all symbols named, if merging them succeeds.

  Main statements
    • `LoadJob.Reads`, `LoadJob.Answers` — a backend whose answers are fixed
    • `Database.IsStep`                  — the first records, or all and some names
    • `LoadJob.run_changes`              — every run is such a step, if it does anything
    • `LoadJob.run_step`                 — a run of a load whose answers are fixed
    • `LoadJob.work_never`, `LoadJob.verifying_done`
                                         — a run that is never stopped
-/
import DebugMerge.Proofs.Load.Atomicity
import DebugMerge.Proofs.Load.Decoration

namespace DebugMerge

/-! ## §1. Steps. -/

/-- Where records of the program are placed. -/
def Database.IsAt (db : Database) (site : Site) : Prop :=
  db.imageBase = .ok site.imageBase ∧ db.blocks = .ok site.blocks

/-- The first of the records are merged, or all of them and some symbols are named. -/
def Database.IsStep (site : Site) (records : List Record) (db db' : Database) : Prop :=
  (∃ done rest, records = done ++ rest ∧ Database.Merges site done db db')
    ∨ ∃ m, Database.Merges site records db m ∧ m.IsPartlyDecorated db'

/-- Doing nothing is merging no records. -/
theorem Database.isStep_refl (site : Site) (records : List Record) (db : Database) :
    Database.IsStep site records db db :=
  .inl ⟨[], records, rfl, merges_nil.mpr rfl⟩

namespace LoadJob

/-- The backend answers one identity and one content, whenever it is asked; if a request to
stop has arrived, it may also answer that it was stopped. -/
structure Reads (job : LoadJob) (identity : Identity) (info : DebugInfo) : Prop where
  identity : job.backend.readIdentity job.file = .ok identity
  info : ∀ isSet, job.backend.readInfo job.file job.settings.reading isSet = .ok info
    ∨ (job.backend.readInfo job.file job.settings.reading isSet = .error .cancelled
      ∧ ∃ n, isSet n = true)

/-- The backend answers one identity, and one content if nobody asks it to stop. -/
structure Answers (job : LoadJob) (identity : Identity) (info : DebugInfo) : Prop where
  identity : job.backend.readIdentity job.file = .ok identity
  info : job.backend.readInfo job.file job.settings.reading (fun _ => false) = .ok info

theorem Reads.answers {job : LoadJob} {identity : Identity} {info : DebugInfo}
    (h : job.Reads identity info) : job.Answers identity info := by
  refine ⟨h.identity, ?_⟩
  rcases h.info fun _ => false with hinfo | ⟨-, n, hn⟩
  · exact hinfo
  · cases hn

/-- The records that the load may merge. -/
def records (job : LoadJob) (info : DebugInfo) : List Record :=
  info.allowed job.settings.applying.restrictions

/-- What the backend answers in a run, in which the operator was asked or not. -/
def readIn (job : LoadJob) (asked : Bool) : Except LoadError DebugInfo :=
  job.backend.readInfo job.file job.settings.reading
    fun n => CancelPlan.setParsing asked n job.plan

/-- The database is as it was, or records of a content that the backend answered were merged at
the place of the program. -/
def Changes (job : LoadJob) (db db' : Database) : Prop :=
  db' = db ∨ ∃ asked info site, job.readIn asked = .ok info ∧ db.IsAt site
    ∧ Database.IsStep site (job.records info) db db'

section Stages

variable {job : LoadJob} {identity : Identity} {info : DebugInfo} {site : Site} {p : Progress}
  {db : Database}

/-! ## §2. A run that may be stopped. -/

/-- Naming symbols names some. -/
theorem decorating_step (job : LoadJob) (p : Progress) :
    p.db.IsPartlyDecorated (job.decorating p).1.db := by
  unfold decorating
  dsimp only
  have hpass := decorate_spec
    (fun n => CancelPlan.setDemangling (p.enter .demangling).asked n job.plan) p.db
  split
  · exact Database.isPartlyDecorated_refl p.db
  · next db summary hresult =>
    rw [show decorate _ p.db = .ok (db, summary) from hresult] at hpass
    split
    · exact hpass.1
    · exact hpass.1

/-- A merge that answers has read a content and merged it where the program is. -/
theorem merge_ok {backend : Backend} {path : String} {options : ApplyOptions}
    {reading : ReaderOptions} {setReading setApplying : Nat → Bool} {db db' : Database}
    {applied : Applied} (h : (backend.merge path options reading setReading setApplying db).result
      = .ok (db', applied)) :
    ∃ info site, backend.readInfo path reading setReading = .ok info ∧ db.IsAt site
      ∧ (apply options info site.imageBase setApplying db).result = .ok (db', applied) := by
  unfold Backend.merge at h
  cases hinfo : backend.readInfo path reading setReading with
  | error e =>
    rw [hinfo] at h
    cases h
  | ok info =>
    rw [hinfo] at h
    dsimp only at h
    cases himage : db.imageBase with
    | error e =>
      rw [himage] at h
      cases h
    | ok imageBase =>
      rw [himage] at h
      dsimp only at h
      obtain ⟨blocks, hblocks⟩ := blocks_of_apply h
      exact ⟨info, ⟨imageBase, blocks⟩, rfl, ⟨himage, hblocks⟩, h⟩

/-- Merging changes the database by a step, if at all. -/
theorem merging_changes (job : LoadJob) (p : Progress) :
    job.Changes p.db (job.merging p).1.db := by
  unfold merging
  dsimp only
  split
  · rw [endWith_db]
    split <;> exact .inl rfl
  · next db applied hmerged =>
    obtain ⟨info, site, hinfo, hsite, happly⟩ := merge_ok hmerged
    refine .inr ⟨_, info, site, hinfo, hsite, ?_⟩
    -- the merge was complete and symbols were named, or it was stopped and the run with it
    rcases apply_ok hsite.2 happly
      with ⟨hcancelled, hmerges⟩ | ⟨hcancelled, done, rest, heq, hmerges⟩
    · rw [if_neg (by rw [hcancelled]; exact Bool.false_ne_true)]
      refine .inr ⟨db, Database.mergeAll_iff.mp hmerges, ?_⟩
      split
      · exact decorating_step job _
      · exact decorating_step job _
    · rw [if_pos hcancelled]
      exact .inl ⟨done, rest, heq, Database.mergeAll_iff.mp hmerges⟩

/-- So does what follows the comparison of the identities. -/
theorem verifying_changes (job : LoadJob) (p : Progress) :
    job.Changes p.db (job.verifying p).1.db := by
  unfold verifying
  dsimp only
  split
  · exact .inl rfl
  · split
    · rw [endWith_db]
      exact .inl rfl
    · split
      · exact merging_changes job (p.enter .verifying)
      · next details _ =>
        split
        · exact merging_changes job ((p.enter .verifying).ask (confirmation details))
        · exact .inl rfl

/-- **Every run changes the database by a step, if at all**, and its history may gain runs. -/
theorem run_changes (job : LoadJob) (shutDown : Bool) (program : Program) :
    ∃ db runs, (job.run shutDown program).program.db = db.withRuns runs
      ∧ job.Changes program.db db := by
  have hsame : ∃ db runs, program.db = db.withRuns runs ∧ job.Changes program.db db :=
    ⟨program.db, [], (Database.withRuns_nil _).symm, .inl rfl⟩
  unfold run
  split
  · exact hsame
  · exact hsame
  · exact hsame
  · obtain ⟨runs, hrecorded, -, -⟩ := recorded_eq job (job.verifying (.start program.db)).2
      ((job.verifying (.start program.db)).1.enter (job.verifying (.start program.db)).2.stage)
    refine ⟨(job.verifying (.start program.db)).1.db, runs, ?_,
      verifying_changes job (.start program.db)⟩
    rw [leaving_db]
    exact (work_eq job program.db).2.trans hrecorded

/-- The place of a program is one. -/
theorem isAt_unique {site' : Site} (h : db.IsAt site) (h' : db.IsAt site') : site = site' := by
  obtain ⟨imageBase, blocks⟩ := site
  obtain ⟨imageBase', blocks'⟩ := site'
  obtain ⟨himage, hblocks⟩ := h
  obtain ⟨himage', hblocks'⟩ := h'
  cases himage.symm.trans himage'
  cases hblocks.symm.trans hblocks'
  rfl

/-- If the backend's answers are fixed, a change is a step over the records of its content. -/
theorem isStep_of_changes {db' : Database} (hsite : db.IsAt site)
    (hreads : job.Reads identity info) (h : job.Changes db db') :
    Database.IsStep site (job.records info) db db' := by
  rcases h with rfl | ⟨asked, content, site', hcontent, hsite', hstep⟩
  · exact Database.isStep_refl site _ _
  · cases isAt_unique hsite hsite'
    rcases hreads.info fun n => CancelPlan.setParsing asked n job.plan with hinfo | ⟨hinfo, -⟩
    · cases hinfo.symm.trans hcontent
      exact hstep
    · cases hinfo.symm.trans hcontent

/-- **Every run is a step**, and its history may gain runs. -/
theorem run_step (shutDown : Bool) (program : Program) (hsite : program.db.IsAt site)
    (hreads : job.Reads identity info) :
    ∃ db runs, (job.run shutDown program).program.db = db.withRuns runs
      ∧ Database.IsStep site (job.records info) program.db db := by
  obtain ⟨db, runs, hdb, hchanges⟩ := job.run_changes shutDown program
  exact ⟨db, runs, hdb, isStep_of_changes hsite hreads hchanges⟩

/-! ## §3. A run that is never stopped. -/

/-- If nobody stops it, the content is read. -/
theorem readInfo_never (hplan : job.plan = .never) (hanswers : job.Answers identity info)
    (asked : Bool) :
    job.backend.readInfo job.file job.settings.reading
      (fun n => CancelPlan.setParsing asked n job.plan) = .ok info := by
  rw [hplan]
  exact hanswers.info

theorem setApplying_never (hplan : job.plan = .never) (asked : Bool) (n : Nat) :
    CancelPlan.setApplying asked n job.plan = false := by
  rw [hplan]
  rfl

/-- Naming symbols that is never stopped names all of them. -/
theorem decorating_never (hplan : job.plan = .never) (p : Progress) :
    (job.decorating p).1.db = p.db.decorated ∧ (job.decorating p).2 = .completed := by
  unfold decorating
  dsimp only
  have hpass := decorate_spec
    (fun n => CancelPlan.setDemangling (p.enter .demangling).asked n job.plan) p.db
  split
  · next e hresult =>
    rw [show decorate _ p.db = .error e from hresult] at hpass
    exact ⟨hpass.symm, rfl⟩
  · next db summary hresult =>
    rw [show decorate _ p.db = .ok (db, summary) from hresult] at hpass
    obtain ⟨-, hfull, hnever⟩ := hpass
    have hrunning := hnever fun n => by
      rw [hplan]
      rfl
    rw [if_neg (by rw [hrunning]; exact Bool.false_ne_true)]
    exact ⟨hfull hrunning, rfl⟩

/-- What reading and merging answer in a run. -/
def merged (job : LoadJob) (p : Progress) : MergeOutcome :=
  job.backend.merge job.file job.settings.applying job.settings.reading
    (fun n => CancelPlan.setParsing p.asked n job.plan)
    (fun n => CancelPlan.setApplying p.asked n job.plan) p.db

/-- What was read is merged at the image base. -/
theorem merged_never {imageBase : UInt64} (hplan : job.plan = .never)
    (hanswers : job.Answers identity info) (himage : p.db.imageBase = .ok imageBase) :
    (job.merged p).result = (apply job.settings.applying info imageBase
      (fun n => CancelPlan.setApplying p.asked n job.plan) p.db).result := by
  unfold merged Backend.merge
  rw [readInfo_never hplan hanswers]
  dsimp only
  rw [himage]

/-- Without an image base nothing is merged. -/
theorem merged_homeless {e : StoreError} (hplan : job.plan = .never)
    (hanswers : job.Answers identity info) (himage : p.db.imageBase = .error e) :
    (job.merged p).result = .error (.store e) := by
  unfold merged Backend.merge
  rw [readInfo_never hplan hanswers]
  dsimp only
  rw [himage]

/-- If the merge was not stopped, its symbols are named. -/
theorem merging_of_ok {applied : Applied} (h : (job.merged p).result = .ok (db, applied))
    (hrunning : applied.cancelled = false) :
    ∃ p', job.merging p = job.decorating p' ∧ p'.db = db := by
  unfold merging
  dsimp only
  split
  · next e he => cases he.symm.trans h
  · next db' applied' hmerged =>
    cases hmerged.symm.trans h
    rw [if_neg (by rw [hrunning]; exact Bool.false_ne_true)]
    exact ⟨_, rfl, rfl⟩

/-- What fails without being stopped is not done. -/
theorem endWith_ne_done {cause : LoadError} (h : cause ≠ .cancelled) (p : Progress) :
    (p.endWith cause).2.stage ≠ .done := by
  cases cause with
  | cancelled => exact absurd rfl h
  | missingFile path => nofun
  | io path cause => nofun
  | malformed detail => nofun
  | typeConflict name => nofun
  | toolUnavailable detail => nofun
  | store cause => nofun
  | endless => nofun

theorem merging_of_error {e : LoadError} (he : e ≠ .cancelled)
    (h : (job.merged p).result = .error e) : (job.merging p).2.stage ≠ .done := by
  unfold merging
  dsimp only
  split
  · next e' he' =>
    cases he'.symm.trans h
    exact endWith_ne_done he _
  · next hmerged => cases hmerged.symm.trans h

/-- Merging that is never stopped merges all records and names all symbols. -/
theorem merging_never (hplan : job.plan = .never) (hsite : p.db.IsAt site)
    (hanswers : job.Answers identity info)
    (hmerges : Database.Merges site (job.records info) p.db db) :
    (job.merging p).1.db = db.decorated ∧ (job.merging p).2 = .completed := by
  -- all records are merged, and the merge does not count as stopped
  have hnever := setApplying_never hplan p.asked
  have hresult : (apply job.settings.applying info site.imageBase
      (fun n => CancelPlan.setApplying p.asked n job.plan) p.db).result.map (·.1) = .ok db :=
    (apply_never hsite.2 hnever).trans (Database.mergeAll_iff.mpr hmerges)
  obtain ⟨⟨db', applied⟩, happly, heq⟩ := map_ok.mp hresult
  dsimp only at heq
  subst heq
  have hmerged := (merged_never hplan hanswers hsite.1).trans happly
  obtain ⟨p', hmerging, hdb⟩ := merging_of_ok hmerged (apply_running hsite.2 hnever happly)
  rw [hmerging, ← hdb]
  exact decorating_never hplan p'

/-- A run that is never stopped and accepted merges all records and names all symbols. -/
theorem verifying_never {expected : Option Identity} (hplan : job.plan = .never)
    (hanswer : job.answer = true) (hexpected : p.db.expectedIdentity = .ok expected)
    (hsite : p.db.IsAt site) (hanswers : job.Answers identity info)
    (hmerges : Database.Merges site (job.records info) p.db db) :
    (job.verifying p).1.db = db.decorated ∧ (job.verifying p).2 = .completed := by
  unfold verifying
  dsimp only
  rw [show (p.enter .verifying).db.expectedIdentity = .ok expected from hexpected]
  dsimp only
  rw [hanswers.identity]
  dsimp only
  split
  · exact merging_never (p := p.enter .verifying) hplan hsite hanswers hmerges
  · next details _ =>
    rw [if_pos hanswer]
    exact merging_never (p := (p.enter .verifying).ask (confirmation details)) hplan hsite hanswers
      hmerges

/-- If merging that is never stopped is done, then all records were merged. -/
theorem merging_done (hplan : job.plan = .never) (hanswers : job.Answers identity info)
    (hdone : (job.merging p).2.stage = .done) :
    ∃ site m, p.db.IsAt site ∧ Database.Merges site (job.records info) p.db m := by
  have hfails : ∀ e, e ≠ .cancelled → (job.merged p).result ≠ .error e := by
    intro e he h
    exact merging_of_error he h hdone
  cases himage : p.db.imageBase with
  | error e => exact absurd (merged_homeless hplan hanswers himage) (hfails (.store e) nofun)
  | ok imageBase =>
    rw [merged_never hplan hanswers himage] at hfails
    cases hblocks : p.db.blocks with
    | error e =>
      refine absurd ?_ (hfails (.store e) nofun)
      unfold apply
      rw [hblocks]
    | ok blocks =>
      refine ⟨⟨imageBase, blocks⟩, ?_⟩
      have hall : (apply job.settings.applying info imageBase
          (fun n => CancelPlan.setApplying p.asked n job.plan) p.db).result.map (·.1)
            = p.db.mergeAll ⟨imageBase, blocks⟩ (job.records info) :=
        apply_never hblocks (setApplying_never hplan p.asked)
      cases hmerges : p.db.mergeAll ⟨imageBase, blocks⟩ (job.records info) with
      | ok m => exact ⟨m, ⟨himage, hblocks⟩, Database.mergeAll_iff.mp hmerges⟩
      | error e =>
        -- the merge fails as merging all records fails, and that is never a stop
        have hresult := map_error.mp (hall.trans hmerges)
        refine absurd hresult (hfails e ?_)
        intro heq
        subst heq
        exact apply_ne_cancelled hresult

/-- **If a run that is never stopped is done**, then the program could say where it is and what it
expects, and all records were merged. -/
theorem verifying_done (hplan : job.plan = .never) (hanswers : job.Answers identity info)
    (hdone : (job.verifying p).2.stage = .done) :
    ∃ expected site m, p.db.expectedIdentity = .ok expected ∧ p.db.IsAt site
      ∧ Database.Merges site (job.records info) p.db m := by
  unfold verifying at hdone
  dsimp only at hdone
  split at hdone
  · cases hdone
  · next expected hexpected =>
    refine ⟨expected, ?_⟩
    rw [hanswers.identity] at hdone
    dsimp only at hdone
    split at hdone
    · obtain ⟨site, m, hsite, hmerges⟩ := merging_done hplan hanswers hdone
      exact ⟨site, m, hexpected, hsite, hmerges⟩
    · split at hdone
      · obtain ⟨site, m, hsite, hmerges⟩ := merging_done hplan hanswers hdone
        exact ⟨site, m, hexpected, hsite, hmerges⟩
      · cases hdone

/-- **The work of a run that is never stopped**: it is done, and all records are merged and all
symbols named. -/
theorem work_never {expected : Option Identity} (hplan : job.plan = .never)
    (hanswer : job.answer = true) {before : Database}
    (hexpected : before.expectedIdentity = .ok expected) (hsite : before.IsAt site)
    (hanswers : job.Answers identity info)
    (hmerges : Database.Merges site (job.records info) before db) :
    ((job.work before).outcome job.backend.name).state = .done
      ∧ ∃ runs, (job.work before).db = db.decorated.withRuns runs := by
  obtain ⟨hdb, hending⟩ :=
    verifying_never (p := .start before) hplan hanswer hexpected hsite hanswers hmerges
  constructor
  · rw [work_state, hending]
    rfl
  · obtain ⟨runs, hrecorded, -, -⟩ := recorded_eq job (job.verifying (.start before)).2
      ((job.verifying (.start before)).1.enter (job.verifying (.start before)).2.stage)
    refine ⟨runs, ((work_eq job before).2.trans hrecorded).trans ?_⟩
    exact congrArg (Database.withRuns · runs) hdb

/-- A run that is never asked to stop is not stopped while it waits. -/
theorem acquire_of_never {program : Program} {shutDown : Bool} (hplan : job.plan = .never) :
    program.acquire (job.slotRequest shutDown) ≠ .refused .cancelled := by
  unfold Program.acquire slotRequest
  rw [hplan]
  split
  · exact nofun
  · split
    · exact nofun
    · exact nofun
    · split
      · next h => cases h
      · split <;> exact nofun

/-- A run that is never stopped and answers got the slot, and what it answers and leaves behind is
that of its work. -/
theorem granted_of_never {program : Program} {shutDown : Bool} {outcome : Outcome}
    (hplan : job.plan = .never)
    (houtcome : (job.run shutDown program).outcome = some (.ok outcome)) :
    program.acquire (job.slotRequest shutDown) = .granted
      ∧ outcome = (job.work program.db).outcome job.backend.name
      ∧ (job.run shutDown program).program.db = (job.work program.db).db := by
  unfold run at houtcome ⊢
  split at houtcome
  · cases houtcome
  · cases houtcome
  · next hacquire => exact absurd hacquire (acquire_of_never hplan)
  · next hgranted =>
    cases leaving_outcome houtcome
    exact ⟨hgranted, rfl, leaving_db _ _ _ _⟩

end Stages

end LoadJob

end DebugMerge
