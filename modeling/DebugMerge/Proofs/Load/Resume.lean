/-
  DebugMerge.Proofs.Load.Resume
  ─────────────────────────────
  **A load that was stopped any number of times can be run again.**

  Let one run that is never stopped merge a file into a program.  From any
  state that stopped runs of the same load leave behind, merging all records
  leads to the same content, up to symbols that already have their readable
  names.  This is the invariant: a further stopped run keeps it, and a run that
  is never stopped makes both sides equal.

  Main statements
    • `Database.IsResumable`, `isResumable_step` — the invariant
    • `Attempt`, `LoadJob.retry`                 — sequences of runs
    • `snapshot_ok_of_merges`                    — a healthy store stays healthy
    • `resume_after_attempts`                    — the resumed load
-/
import DebugMerge.Proofs.Load.Effect

namespace DebugMerge

/-! ## §1. Merges and histories. -/

namespace Database

variable {site : Site} {records : List Record} {db db' m final : Database}

/-- A merge does not read the history. -/
theorem merges_withRuns (h : Merges site records db db') (runs : List RunRow) :
    Merges site records (db.withRuns runs) (db'.withRuns runs) := by
  refine ⟨h.types, h.numbered, h.lines, h.comments, ?_⟩
  exact congrArg (withRuns · runs) h.others

theorem isMerged_withRuns (h : IsMerged site records db) (runs : List RunRow) :
    IsMerged site records (db.withRuns runs) := by
  obtain ⟨skips, h⟩ := h
  exact ⟨skips, merges_withRuns h runs⟩

theorem merges_unique (h : Merges site records db m) (h' : Merges site records db db') :
    m = db' := by
  rw [← mergeAll_iff] at h h'
  rw [h] at h'
  cases h'
  rfl

/-- A merge that adds no symbol adds none under other symbols of the same keys; which numbers are
passed over is another matter. -/
theorem merges_withSymbols_of_eq {blocks : List MemoryBlock} (h : Merges site records db m)
    (hsame : m.symbols = db.symbols) {rows' : Option (List SymbolRow)}
    (hrows : Option.Rel (PartlyDecorated blocks) db.symbols rows') :
    ∃ skips,
      Merges site records (db.withSymbols rows') ((m.withSymbols rows').withSkips skips) := by
  have hothers : ∀ skips, (((((db.withSymbols rows').withTypes m.dataTypes).withSymbols
      rows').withLines m.lineNumbers).withComments m.comments).withSkips skips
        = (m.withSymbols rows').withSkips skips := by
    intro skips
    rw [h.others]
    rfl
  simp only [← hothers]
  refine exists_merges h.types ?_ h.lines h.comments
  -- what was merged is absorbed row by row, and a row is absorbed by its key
  have hmerged := h.symbols
  rw [hsame] at hmerged
  have habsorbed := mergeRow_absorbing.onTable.absorbed hmerged
  refine Absorbing.foldlM_absorbed fun row hrow => ?_
  obtain ⟨rows, _, hsome, hmerge, heq⟩ := onTable_ok.mp (habsorbed row hrow)
  rw [hsome] at heq hrows
  cases heq
  show mergeSymbols rows' row = .ok rows'
  cases hrows with
  | some hpart =>
    have hkey := key_mem_of_mergeRow hmerge
    rw [← map_key_of_partly hpart] at hkey
    exact onTable_ok.mpr ⟨_, _, rfl, mergeRow_of_mem hkey, rfl⟩

/-- What is merged is merged under any symbols of the same keys. -/
theorem isMerged_withSymbols {blocks : List MemoryBlock} (h : IsMerged site records m)
    {rows' : Option (List SymbolRow)}
    (hrows : Option.Rel (PartlyDecorated blocks) m.symbols rows') :
    IsMerged site records (m.withSymbols rows') := by
  obtain ⟨skips, h⟩ := h
  exact merges_withSymbols_of_eq h rfl hrows

/-! ## §2. The invariant. -/

/-- `db` is `final`, but some of its symbols have their readable names already, it passed other
numbers over, and it has a history of its own. -/
def Continues (final db : Database) : Prop :=
  ∃ rows' runs' skips',
    db = { final with symbols := rows', loadRuns := runs', symbolSkips := skips' }
    ∧ Option.Rel (PartlyDecorated final.decoratedBlocks) final.symbols rows'

/-- From `db` merging all records leads to `final`, up to names and history. -/
def IsResumable (site : Site) (records : List Record) (final db : Database) : Prop :=
  ∃ m, Merges site records db m ∧ Continues final m

theorem continues_refl (final : Database) : Continues final final :=
  ⟨final.symbols, final.loadRuns, final.symbolSkips, rfl,
    optionRel_refl (partlyDecorated_refl _) _⟩

/-- A merge changes neither what the pass examines nor where the program is. -/
theorem isAt_iff_of_isResumable (h : IsResumable site records final db) :
    db.IsAt site ↔ final.IsAt site := by
  obtain ⟨m, hmerges, rows', runs', skips', heq, -⟩ := h
  have hothers := hmerges.others
  rw [heq] at hothers
  have himage : db.programInfo = final.programInfo :=
    (congrArg Database.programInfo hothers).symm
  have hblocks : db.memoryBlocks = final.memoryBlocks :=
    (congrArg Database.memoryBlocks hothers).symm
  unfold IsAt imageBase info blocks
  rw [himage, hblocks]

theorem expectedIdentity_of_isResumable (h : IsResumable site records final db) :
    db.expectedIdentity = final.expectedIdentity := by
  obtain ⟨m, hmerges, rows', runs', skips', heq, -⟩ := h
  have hothers := hmerges.others
  rw [heq] at hothers
  have himage : db.programInfo = final.programInfo :=
    (congrArg Database.programInfo hothers).symm
  unfold expectedIdentity info
  rw [himage]

/-- **A step of a run keeps the invariant.** -/
theorem isResumable_step (h : IsResumable site records final db)
    (hstep : IsStep site records db db') (runs : List RunRow) :
    IsResumable site records final (db'.withRuns runs) := by
  obtain ⟨m, hmerges, rows', runs', skips', heq, hrel⟩ := h
  rcases hstep with ⟨done, rest, hrecords, hdone⟩ | ⟨m', hmerges', rows'', heq', hrel'⟩
  · -- a part of the records was merged: merging all of them leads to where it led before
    subst hrecords
    obtain ⟨skips, hagain⟩ := merges_resume hdone hmerges
    refine ⟨_, merges_withRuns hagain runs, rows', runs'.map (· ++ runs), skips, ?_, hrel⟩
    rw [heq]
    rfl
  · -- all records were merged, so merging them again changes nothing
    have hm := merges_unique hmerges hmerges'
    subst hm
    subst heq'
    obtain ⟨skips, hagain⟩ := isMerged_withSymbols (isMerged_of_merges hmerges) hrel'
    refine ⟨_, merges_withRuns hagain runs, rows'', runs'.map (· ++ runs), skips, ?_, ?_⟩
    · rw [heq]
      rfl
    · -- a symbol that was named before or now is named as in the end
      rw [heq] at hrel'
      exact optionRel_trans partlyDecorated_trans hrel hrel'

/-- What a pass makes of `final` it makes of every database that continues it, up to its
history and to the numbers that it passed over. -/
theorem decorated_of_continues (h : Continues final m) :
    m.decorated
      = { final.decorated with loadRuns := m.loadRuns, symbolSkips := m.symbolSkips } := by
  obtain ⟨rows', runs', skips', rfl, hrel⟩ := h
  -- a pass makes the same of symbols that have their names already
  have hrows : (rows'.map fun rows => rows.map (decorateRow final.decoratedBlocks))
      = final.symbols.map fun rows => rows.map (decorateRow final.decoratedBlocks) := by
    revert hrel
    cases final.symbols with
    | none =>
      intro hrel
      cases hrel
      rfl
    | some rows =>
      intro hrel
      cases hrel with
      | some hpart => exact congrArg some (map_decorateRow_of_partly hpart)
  show withSymbols _ (rows'.map fun rows => rows.map (decorateRow final.decoratedBlocks)) = _
  rw [hrows]
  rfl

end Database

/-! ## §3. Healthy stores. -/

namespace Database

variable {site : Site} {records : List Record} {db db' : Database}

/-- The store can be read: every table of it exists, and every data type reads. -/
theorem snapshot_ok_iff :
    (∃ s, db.snapshot = .ok s) ↔ (∃ types, db.listTypes = .ok types)
      ∧ db.symbols.isSome ∧ db.comments.isSome ∧ db.lineNumbers.isSome := by
  -- three of the four lists are sorted tables and fail only without a table
  have hlist : ∀ {α : Type} (table : Table) (rows : Option (List α)) (le : α → α → Bool),
      (∃ sorted, (do
        let rows ← rowsOf table rows
        return rows.mergeSort le : Except StoreError (List α)) = .ok sorted) ↔ rows.isSome := by
    intro α table rows le
    cases rows with
    | none =>
      constructor
      · intro h
        obtain ⟨sorted, h⟩ := h
        cases h
      · intro h
        cases h
    | some rows =>
      constructor
      · exact fun _ => rfl
      · exact fun _ => ⟨_, rfl⟩
  constructor
  · intro h
    obtain ⟨s, h⟩ := h
    obtain ⟨types, htypes, h⟩ := bind_ok.mp h
    obtain ⟨symbols, hsymbols, h⟩ := bind_ok.mp h
    obtain ⟨comments, hcomments, h⟩ := bind_ok.mp h
    obtain ⟨lines, hlines, -⟩ := bind_ok.mp h
    exact ⟨⟨types, htypes⟩, (hlist _ _ _).mp ⟨symbols, hsymbols⟩,
      (hlist _ _ _).mp ⟨comments, hcomments⟩, (hlist _ _ _).mp ⟨lines, hlines⟩⟩
  · intro h
    obtain ⟨⟨types, htypes⟩, hsymbols, hcomments, hlines⟩ := h
    obtain ⟨symbols, hsymbols⟩ := (hlist .symbols db.symbols SymbolRow.listLe).mpr hsymbols
    obtain ⟨comments, hcomments⟩ := (hlist .comments db.comments CommentRow.listLe).mpr hcomments
    obtain ⟨lines, hlines⟩ := (hlist .lineNumbers db.lineNumbers LineRow.listLe).mpr hlines
    exact ⟨⟨types, symbols, comments, lines⟩, bind_ok.mpr ⟨types, htypes, bind_ok.mpr ⟨symbols,
      hsymbols, bind_ok.mpr ⟨comments, hcomments, bind_ok.mpr ⟨lines, hlines, rfl⟩⟩⟩⟩⟩

/-- A table stays where it is. -/
theorem isSome_of_foldlM {σ α : Type} {table : Table} {f : σ → α → Except LoadError σ}
    {xs : List α} {rows rows' : Option σ} (hsome : rows.isSome)
    (h : xs.foldlM (onTable table f) rows = .ok rows') : rows'.isSome := by
  refine foldlM_invariant (P := fun rows => rows.isSome = true) ?_ hsome h
  intro _ x _ _ hstep
  obtain ⟨_, t, -, -, rfl⟩ := onTable_ok.mp hstep
  rfl

/-- **A healthy store stays healthy** when records are merged and symbols named, all of them or
some. -/
theorem snapshot_ok_of_partly {m : Database} (h : Merges site records db m)
    (hpart : m.IsPartlyDecorated db') (hhealthy : ∃ s, db.snapshot = .ok s) :
    ∃ s, db'.snapshot = .ok s := by
  obtain ⟨rows', rfl, hrel⟩ := hpart
  obtain ⟨htypes, hsymbols, hcomments, hlines⟩ := snapshot_ok_iff.mp hhealthy
  refine snapshot_ok_iff.mpr ⟨?_, ?_, ?_, ?_⟩
  · rw [listTypes_ok_iff] at htypes ⊢
    refine foldlM_invariant (P := fun types => ∃ rows, types = some rows ∧ TypeRow.Readable rows)
      ?_ htypes h.types
    intro _ record _ h hstep
    obtain ⟨rows, rfl, hreadable⟩ := h
    obtain ⟨_, rows', heq, hmerge, rfl⟩ := onTable_ok.mp hstep
    cases heq
    exact ⟨rows', rfl, readable_of_mergeType hreadable hmerge⟩
  · -- a pass keeps the table of symbols
    obtain ⟨rows, hrows⟩ := Option.isSome_iff_exists.mp (isSome_of_foldlM hsymbols h.symbols)
    rw [hrows] at hrel
    cases hrel with
    | some _ => rfl
  · exact isSome_of_foldlM hcomments h.comments
  · exact isSome_of_foldlM hlines h.lines

theorem snapshot_ok_of_merges (h : Merges site records db db')
    (hhealthy : ∃ s, db.snapshot = .ok s) : ∃ s, db'.decorated.snapshot = .ok s :=
  snapshot_ok_of_partly h (isPartlyDecorated_decorated db') hhealthy

end Database

/-! ## §4. Sequences of runs. -/

/-- One run of a load: when it is asked to stop, and what it finds when it asks for the slot. -/
structure Attempt where
  plan : CancelPlan
  slot : SlotState
  shutDown : Bool
  startedAt : String
  finishedAt : String

/-- The load as it is attempted. -/
def LoadJob.during (job : LoadJob) (attempt : Attempt) : LoadJob :=
  { job with
    plan := attempt.plan
    startedAt := attempt.startedAt
    finishedAt := attempt.finishedAt }

/-- The run of a load that an attempt describes. -/
def Attempt.run (attempt : Attempt) (job : LoadJob) (program : Program) : RunResult :=
  (job.during attempt).run attempt.shutDown { program with slot := attempt.slot }

/-- An attempt that gets the slot and is never asked to stop. -/
def Attempt.undisturbed (startedAt finishedAt : String) : Attempt :=
  ⟨.never, .free, false, startedAt, finishedAt⟩

namespace LoadJob

/-- The program after a sequence of attempts. -/
def retry (job : LoadJob) (program : Program) (attempts : List Attempt) : Program :=
  attempts.foldl (fun program attempt => (attempt.run job program).program) program

section Resume

variable {job : LoadJob} {identity : Identity} {info : DebugInfo} {site : Site} {final : Database}
  {program : Program} {shutDown : Bool}

/-- What the backend answers does not depend on the attempt. -/
theorem reads_during (hreads : job.Reads identity info) (attempt : Attempt) :
    (job.during attempt).Reads identity info :=
  ⟨hreads.identity, hreads.info⟩

/-- **A sequence of attempts keeps the invariant**, wherever each of them is stopped. -/
theorem isResumable_retry (hreads : job.Reads identity info) (hsite : final.IsAt site)
    (attempts : List Attempt)
    (h : Database.IsResumable site (job.records info) final program.db) :
    Database.IsResumable site (job.records info) final (job.retry program attempts).db := by
  induction attempts generalizing program with
  | nil => exact h
  | cons attempt attempts ih =>
    refine ih ?_
    have hreads' := reads_during hreads attempt
    have hsite' : { program with slot := attempt.slot }.db.IsAt site :=
      (Database.isAt_iff_of_isResumable h).mpr hsite
    obtain ⟨db, runs, hrun, hstep⟩ := run_step attempt.shutDown _ hsite' hreads'
    show Database.IsResumable site _ final (attempt.run job program).program.db
    rw [show (attempt.run job program).program.db = db.withRuns runs from hrun]
    exact Database.isResumable_step h hstep runs

/-- If a run that is never stopped is done, it merged all records and named all symbols. -/
theorem run_done {outcome : Outcome} (hanswers : job.Answers identity info)
    (hanswer : job.answer = true) (hplan : job.plan = .never)
    (houtcome : (job.run shutDown program).outcome = some (.ok outcome))
    (hdone : outcome.state = .done) :
    ∃ expected site m runs, program.db.expectedIdentity = .ok expected ∧ program.db.IsAt site
      ∧ Database.Merges site (job.records info) program.db m
      ∧ (job.run shutDown program).program.db = m.decorated.withRuns runs := by
  obtain ⟨-, rfl, hrun⟩ := granted_of_never hplan houtcome
  rw [work_state] at hdone
  obtain ⟨expected, site, m, hexpected, hsite, hmerges⟩ := verifying_done hplan hanswers hdone
  obtain ⟨-, runs, hdb⟩ := work_never hplan hanswer hexpected hsite hanswers hmerges
  exact ⟨expected, site, m, runs, hexpected, hsite, hmerges, hrun.trans hdb⟩

end Resume

/-- **A load that was stopped any number of times can be run again.**  If one run that is never
stopped is done, then after any sequence of attempts, each stopped anywhere or not at all, one
more run that is never stopped is done as well, and it leaves the same store. -/
theorem resume_after_attempts (job : LoadJob) (identity : Identity) (info : DebugInfo)
    (program : Program) (shutDown : Bool) (attempts : List Attempt)
    (startedAt finishedAt : String) (single : Outcome)
    (hhealthy : ∃ before, program.db.snapshot = .ok before)
    (hreads : job.Reads identity info) (hanswer : job.answer = true) (hplan : job.plan = .never)
    (hsingle : (job.run shutDown program).outcome = some (.ok single))
    (hdone : single.state = .done) :
    ∃ last snapshot,
      ((Attempt.undisturbed startedAt finishedAt).run job (job.retry program attempts)).outcome
          = some (.ok last)
        ∧ last.state = .done
        ∧ (job.run shutDown program).program.db.snapshot = .ok snapshot
        ∧ ((Attempt.undisturbed startedAt finishedAt).run job
            (job.retry program attempts)).program.db.snapshot = .ok snapshot := by
  obtain ⟨expected, site, final, runs, hexpected, hsite, hmerges, hdb⟩ :=
    run_done hreads.answers hanswer hplan hsingle hdone
  obtain ⟨snapshot, hsnapshot⟩ := Database.snapshot_ok_of_merges hmerges hhealthy
  -- the invariant holds before the first attempt, so it holds after the last one
  have hbefore : Database.IsResumable site (job.records info) final program.db :=
    ⟨final, hmerges, Database.continues_refl final⟩
  have hfinal := (Database.isAt_iff_of_isResumable hbefore).mp hsite
  have hafter := isResumable_retry hreads hfinal attempts hbefore
  have hsite' := (Database.isAt_iff_of_isResumable hafter).mpr hfinal
  have hexpected' : (job.retry program attempts).db.expectedIdentity = .ok expected :=
    (Database.expectedIdentity_of_isResumable hafter).trans
      ((Database.expectedIdentity_of_isResumable hbefore).symm.trans hexpected)
  obtain ⟨m, hmerges', hcontinues⟩ := hafter
  -- the last run gets the slot, and it ends as the single one does
  have hnever : (job.during (.undisturbed startedAt finishedAt)).plan = .never := rfl
  obtain ⟨hstate, runs', hdb'⟩ := work_never hnever hanswer hexpected' hsite'
    (reads_during hreads (.undisturbed startedAt finishedAt)).answers hmerges'
  have hlast := leaving_of_done { job.retry program attempts with slot := .free } hstate
  refine ⟨_, snapshot, congrArg RunResult.outcome hlast, hstate, ?_, ?_⟩
  · rw [hdb]
    exact hsnapshot
  · rw [show ((Attempt.undisturbed startedAt finishedAt).run job
      (job.retry program attempts)).program.db = m.decorated.withRuns runs' from
        (leaving_db _ _ _ _).trans hdb']
    rw [Database.snapshot_withRuns, Database.decorated_of_continues hcontinues]
    exact hsnapshot

/-- A declaration, its definition and a symbol whose name is mangled. -/
def declaredNode : DebugInfo :=
  ⟨[⟨"Node", .struct, 0, []⟩, ⟨"Node", .struct, 8, []⟩],
    [⟨"?run@@YAXXZ", 16, none, .function, .publicTable⟩], [], []⟩

/-- The load of that content, which looks for a request to stop at every record. -/
def watchful : LoadJob :=
  { ofInfo declaredNode .never with
    settings := { LoadSettings.standard with applying := ⟨.none, 1⟩ } }

/-- A program with one memory block and an empty store. -/
def programWithText : Program :=
  .ofDatabase "app" { Database.fresh with
    programInfo := some (some ⟨"app", 0, none, none, none, none⟩)
    memoryBlocks := some [⟨".text", 0, 4096⟩] }

/-- Attempts that are stopped after two records, while they wait, and at the first symbol. -/
def stoppedThrice : List Attempt :=
  [⟨.whileApplying 2, .free, false, "", ""⟩, ⟨.before, .held, false, "", ""⟩,
    ⟨.whileDemangling 0, .free, false, "", ""⟩]

/-- After these attempts the load is run to its end, with the store of the single run. -/
theorem resume_after_attempts_on_node :
    ∃ last snapshot,
      ((Attempt.undisturbed "" "").run watchful
          (watchful.retry programWithText stoppedThrice)).outcome = some (.ok last)
        ∧ last.state = .done
        ∧ (watchful.run false programWithText).program.db.snapshot = .ok snapshot
        ∧ ((Attempt.undisturbed "" "").run watchful
            (watchful.retry programWithText stoppedThrice)).program.db.snapshot = .ok snapshot := by
  have hhealthy : ∃ before, programWithText.db.snapshot = .ok before :=
    Database.snapshot_ok_iff.mpr
      ⟨listTypes_ok_iff.mpr ⟨[], rfl, nofun⟩, rfl, rfl, rfl⟩
  have hreads : watchful.Reads ((Identity.ofSignature 1 1).withFile "app.pdb") declaredNode := by
    refine ⟨rfl, fun isSet => ?_⟩
    cases h : isSet 0 with
    | false => exact .inl (if_neg (by rw [h]; exact nofun))
    | true => exact .inr ⟨if_pos h, 0, h⟩
  -- the kernel evaluates the single run
  have hdone : ((watchful.run false programWithText).outcome.any fun outcome =>
      match outcome with
      | .ok outcome => outcome.state == .done
      | .error _ => false) = true := by
    decide +kernel
  rcases h : (watchful.run false programWithText).outcome with _ | _ | single
  · rw [h] at hdone
    cases hdone
  · rw [h] at hdone
    cases hdone
  · rw [h] at hdone
    exact resume_after_attempts watchful _ _ programWithText false stoppedThrice "" "" single
      hhealthy hreads rfl rfl h (eq_of_beq hdone)

end LoadJob

end DebugMerge
