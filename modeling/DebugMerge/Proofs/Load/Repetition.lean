/-
  DebugMerge.Proofs.Load.Repetition
  ─────────────────────────────────
  **A load that is run again changes nothing.**

  Behind a run that nobody stopped all records of the file are merged and all
  symbols named.  Such a database is settled: merging the records again is
  absorbed, no symbol gets a name, and the run passes over and logs what it
  passed over and logged the first time, which has nothing to do with the
  database.  A run from a settled database leaves it as it is, up to the
  history and to the numbers that known symbols pass over, so it can be
  repeated any number of times.

  Main statements
    • `decorate_idle`     — naming what is named
    • `LoadJob.Settled`   — a database behind a run
    • `run_settled`       — a run from a settled database
    • `run_repeated`      — a load that is run again
-/
import DebugMerge.Proofs.Load.Resume
import DebugMerge.Proofs.Load.Tally
import DebugMerge.Proofs.Load.Undisturbed

namespace DebugMerge

/-! ## §1. Naming what is named. -/

/-- A symbol without a readable form is counted and left alone. -/
theorem name_idle (d : Decoration) (number : Nat) {symbol : String} (h : demangle symbol = none) :
    ∃ summary, d.name number symbol = .ok ⟨d.db, summary⟩
      ∧ summary.demangled = d.summary.demangled ∧ summary.cancelled = d.summary.cancelled := by
  unfold Decoration.name
  rw [h]
  dsimp only
  split
  · exact ⟨_, rfl, rfl, rfl⟩
  · exact ⟨_, rfl, rfl, rfl⟩

section Idle

variable {checkpoint : Checkpoint} {d : Decoration}

/-- A walk over symbols without readable forms. -/
theorem decorateSymbols_idle (hnever : ∀ n, checkpoint.isSet n = false)
    {entries : List (Nat × String)} (hidle : ∀ entry ∈ entries, demangle entry.2 = none) :
    ∃ summary, decorateSymbols checkpoint d entries = .ok ⟨d.db, summary⟩
      ∧ summary.demangled = d.summary.demangled ∧ summary.cancelled = d.summary.cancelled := by
  induction entries generalizing d with
  | nil => exact ⟨d.summary, rfl, rfl, rfl⟩
  | cons entry entries ih =>
    obtain ⟨number, symbol⟩ := entry
    obtain ⟨summary, hname, hdemangled, hcancelled⟩ :=
      name_idle d.tick number (hidle (number, symbol) List.mem_cons_self)
    obtain ⟨summary', hrest, hdemangled', hcancelled'⟩ :=
      ih (d := ⟨d.db, summary⟩) fun e he => hidle e (List.mem_cons_of_mem _ he)
    refine ⟨summary', ?_, hdemangled'.trans hdemangled, hcancelled'.trans hcancelled⟩
    -- nobody stops the walk at this symbol
    unfold decorateSymbols
    rw [if_neg (by rw [Checkpoint.not_stops hnever]; exact Bool.false_ne_true)]
    exact bind_ok.mpr ⟨_, hname, hrest⟩

/-- A pass over blocks whose symbols have their names or no readable form. -/
theorem decorateBlocks_idle (hnever : ∀ n, checkpoint.isSet n = false) {rows : List SymbolRow}
    (hrows : d.db.symbols = some rows) {blocks : List MemoryBlock}
    (hidle : ∀ block ∈ blocks, ∀ row ∈ rows,
      Database.isPending block.start block.stop row = true → demangle row.name = none)
    (hrunning : d.summary.cancelled = false) :
    ∃ summary, decorateBlocks checkpoint d blocks = .ok ⟨d.db, summary⟩
      ∧ summary.demangled = d.summary.demangled := by
  induction blocks generalizing d with
  | nil => exact ⟨d.summary, rfl, rfl⟩
  | cons block blocks ih =>
    obtain ⟨entries, hpending, hentries⟩ := pendingSymbols_spec hrows block.start block.stop
    have hnames : ∀ entry ∈ entries, demangle entry.2 = none := by
      intro entry hentry
      obtain ⟨i, row, -, hrow, hname, hin⟩ := (hentries entry.1 entry.2).mp hentry
      rw [← hname]
      exact hidle block List.mem_cons_self row (List.mem_of_getElem? hrow) hin
    obtain ⟨summary, hwalk, hdemangled, hcancelled⟩ := decorateSymbols_idle hnever hnames
    -- the walk was not stopped, so the next block is examined, with the same symbols
    have hgoes : summary.cancelled = false := hcancelled.trans hrunning
    obtain ⟨summary', hrest, hdemangled'⟩ := ih (d := ⟨d.db, summary⟩) hrows
      (fun b hb => hidle b (List.mem_cons_of_mem block hb)) hgoes
    refine ⟨summary', ?_, hdemangled'.trans hdemangled⟩
    unfold decorateBlocks
    refine bind_ok.mpr ⟨entries, hpending, bind_ok.mpr ⟨_, hwalk, ?_⟩⟩
    dsimp only
    rw [hgoes]
    exact hrest

end Idle

section Naming

variable {db : Database} {rows : List SymbolRow} {blocks : List MemoryBlock}

/-- In a database that a pass leaves as it is, a symbol that is examined has no readable
form. -/
theorem demangle_of_decorated (hrows : db.symbols = some rows) (hnamed : db.decorated = db)
    {block : MemoryBlock} (hblock : block ∈ db.decoratedBlocks) {row : SymbolRow}
    (hrow : row ∈ rows) (hpending : Database.isPending block.start block.stop row = true) :
    demangle row.name = none := by
  have hmap : rows.map (decorateRow db.decoratedBlocks) = rows.map id := by
    have hsymbols := congrArg Database.symbols hnamed
    unfold Database.decorated at hsymbols
    rw [hrows] at hsymbols
    rw [List.map_id]
    exact Option.some.inj hsymbols
  have hsame : decorateRow db.decoratedBlocks row = row := List.map_inj_left.mp hmap row hrow
  unfold decorateRow at hsame
  rw [if_pos (List.any_eq_true.mpr ⟨block, hblock, hpending⟩)] at hsame
  -- a readable form would stand in the row, and then the row would not be examined
  cases hreadable : demangle row.name with
  | none => rfl
  | some readable =>
    rw [SymbolRow.decorated_of_some hreadable] at hsame
    have hset : row.demangled = some readable := (congrArg SymbolRow.demangled hsame).symm
    rw [(isPending_iff_signed.mp hpending).1] at hset
    cases hset

/-- **Naming what is named** gives no symbol a name. -/
theorem decorate_idle (hrows : db.symbols = some rows) (hnamed : db.decorated = db) :
    ∀ summary, namingSummary db = some summary → summary.demangled = 0 := by
  intro summary hsummary
  unfold namingSummary at hsummary
  unfold decorate at hsummary
  cases hswitch : isDecorating db with
  | error e =>
    rw [hswitch] at hsummary
    cases hsummary
  | ok isOn =>
    rw [hswitch] at hsummary
    cases isOn with
    | false => cases hsummary
    | true =>
      cases hblocks : db.blocks with
      | error e =>
        rw [hblocks] at hsummary
        cases hsummary
      | ok blocks =>
        have hexamined : db.decoratedBlocks = blocks := by
          unfold Database.decoratedBlocks
          rw [hswitch, hblocks]
        have hidle : ∀ block ∈ blocks, ∀ row ∈ rows,
            Database.isPending block.start block.stop row = true → demangle row.name = none :=
          fun block hblock row => demangle_of_decorated hrows hnamed (hexamined ▸ hblock)
        have hnever : ∀ n, (Checkpoint.mk decorateInterval fun _ => false).isSet n = false :=
          fun _ => rfl
        obtain ⟨summary', hpass, hdemangled⟩ :=
          decorateBlocks_idle (d := ⟨db, .zero⟩) hnever hrows hidle rfl
        rw [hblocks] at hsummary
        dsimp only [bind, Except.bind] at hsummary
        rw [if_pos rfl, hpass] at hsummary
        cases hsummary
        exact hdemangled

/-- What a pass logs is why it cannot say whether it is switched on. -/
theorem namingLog_eq (hrows : db.symbols = some rows) (hblocks : db.blocks = .ok blocks) :
    namingLog db = match isDecorating db with
      | .error e => ["PDB Error: demangling failed: " ++ e.message]
      | .ok _ => [] := by
  unfold namingLog decorate
  cases hswitch : isDecorating db with
  | error e => rfl
  | ok isOn =>
    cases isOn with
    | false => rfl
    | true =>
      obtain ⟨rows', summary, hpass, -⟩ :=
        decorateBlocks_spec ⟨decorateInterval, fun _ => false⟩ blocks hrows .zero rfl
      rw [hblocks]
      dsimp only [bind, Except.bind]
      rw [if_pos rfl, hpass]
      rfl

end Naming

/-! ## §2. Settled databases. -/

namespace Database

variable {site : Site} {records : List Record} {m : Database} {runs : List RunRow}

/-- A pass over what a pass left behind changes nothing. -/
theorem decorated_decorated (m : Database) : m.decorated.decorated = m.decorated := by
  have hmap : (m.symbols.map fun rows => rows.map (decorateRow m.decoratedBlocks)).map
      (fun rows => rows.map (decorateRow m.decoratedBlocks))
        = m.symbols.map fun rows => rows.map (decorateRow m.decoratedBlocks) := by
    cases m.symbols with
    | none => rfl
    | some rows =>
      show some ((rows.map (decorateRow _)).map (decorateRow _)) = some (rows.map (decorateRow _))
      rw [List.map_map]
      exact congrArg some (List.map_congr_left fun row _ => decorateRow_decorateRow _ row)
  show m.withSymbols _ = m.withSymbols _
  exact congrArg m.withSymbols hmap

/-- Records that are merged without effect stay so when symbols get their names. -/
theorem isMerged_decorated (h : IsMerged site records m) : IsMerged site records m.decorated := by
  obtain ⟨rows', heq, hrel⟩ := isPartlyDecorated_decorated m
  rw [heq]
  exact isMerged_withSymbols h hrel

/-- Records that are merged without effect stay so, whatever numbers are passed over. -/
theorem isMerged_withSkips (h : IsMerged site records m) (skips : List Nat) :
    IsMerged site records (m.withSkips skips) := by
  obtain ⟨_, h⟩ := h
  have hothers : ∀ skips', (((((m.withSkips skips).withTypes m.dataTypes).withSymbols
      m.symbols).withLines m.lineNumbers).withComments m.comments).withSkips skips'
        = (m.withSkips skips).withSkips skips' := fun _ => rfl
  unfold IsMerged
  simp only [← hothers]
  exact exists_merges h.types h.symbols h.lines h.comments

theorem withRuns_withRuns (m : Database) (runs runs' : List RunRow) :
    (m.withRuns runs).withRuns runs' = m.withRuns (runs ++ runs') := by
  unfold withRuns
  cases m.loadRuns with
  | none => rfl
  | some rows => simp only [Option.map_some, List.append_assoc]

end Database

namespace LoadJob

/-- A database behind a run of the load: its records are merged, its symbols are named, and the
load would be let in again. -/
structure Settled (job : LoadJob) (identity : Identity) (info : DebugInfo) (site : Site)
    (db : Database) : Prop where
  located : db.IsAt site
  admits : job.Admits db identity
  merged : Database.IsMerged site (job.records info) db
  named : db.decorated = db
  symbols : ∃ rows, db.symbols = some rows

section Settled

variable {job : LoadJob} {identity : Identity} {info : DebugInfo} {site : Site}
  {db m : Database}

/-- Whether the file is admitted is a matter of what the program expects. -/
theorem admits_congr (h : m.expectedIdentity = db.expectedIdentity)
    (hadmits : job.Admits db identity) : job.Admits m identity := by
  obtain ⟨expected, ⟨hexpects, hreads⟩, hpass⟩ := hadmits
  exact ⟨expected, ⟨h.trans hexpects, hreads⟩, hpass⟩

theorem expectedIdentity_of_merges {records : List Record}
    (h : Database.Merges site records db m) : m.expectedIdentity = db.expectedIdentity := by
  rw [h.others]
  rfl

theorem isAt_of_merges {records : List Record} (h : Database.Merges site records db m)
    (hsite : db.IsAt site) : m.IsAt site := by
  rw [h.others]
  exact hsite

/-- **A database behind a run is settled.** -/
theorem settled_of_merges (hsite : db.IsAt site) (hadmits : job.Admits db identity)
    (hsymbols : db.symbols.isSome) (h : Database.Merges site (job.records info) db m) :
    job.Settled identity info site m.decorated where
  located := isAt_of_merges (m := m) h hsite
  admits := admits_congr (m := m.decorated) (expectedIdentity_of_merges (m := m) h) hadmits
  merged := Database.isMerged_decorated (Database.isMerged_of_merges h)
  named := Database.decorated_decorated m
  symbols := by
    have hsome : m.decorated.symbols.isSome = true := by
      show (m.symbols.map _).isSome = true
      rw [Option.isSome_map]
      exact Database.isSome_of_foldlM hsymbols h.symbols
    exact Option.isSome_iff_exists.mp hsome

/-- The history plays no part. -/
theorem Settled.withRuns (h : job.Settled identity info site db) (runs : List RunRow) :
    job.Settled identity info site (db.withRuns runs) where
  located := h.located
  admits := by
    have hexpects : (db.withRuns runs).expectedIdentity = db.expectedIdentity := rfl
    exact admits_congr hexpects h.admits
  merged := Database.isMerged_withRuns h.merged runs
  named := congrArg (Database.withRuns · runs) h.named
  symbols := h.symbols

/-- Neither do the numbers that were passed over. -/
theorem Settled.withSkips (h : job.Settled identity info site db) (skips : List Nat) :
    job.Settled identity info site (db.withSkips skips) where
  located := h.located
  admits := by
    have hexpects : (db.withSkips skips).expectedIdentity = db.expectedIdentity := rfl
    exact admits_congr hexpects h.admits
  merged := Database.isMerged_withSkips h.merged skips
  named := congrArg (Database.withSkips · skips) h.named
  symbols := h.symbols

/-! ## §3. Runs from a settled database. -/

/-- The load at other times. -/
abbrev again (job : LoadJob) (startedAt finishedAt : String) : LoadJob :=
  job.during (.undisturbed startedAt finishedAt)

/-- The times of a run play no part at the gate. -/
theorem admits_again (h : job.Admits db identity) (startedAt finishedAt : String) :
    (job.again startedAt finishedAt).Admits db identity := by
  obtain ⟨expected, ⟨hexpects, hreads⟩, hpass⟩ := h
  exact ⟨expected, ⟨hexpects, hreads⟩, hpass⟩

/-- Neither do they in what the backend answers. -/
theorem answers_again (h : job.Answers identity info) (startedAt finishedAt : String) :
    (job.again startedAt finishedAt).Answers identity info :=
  ⟨h.identity, h.info⟩

/-- A run that gets the slot and that nobody stops, by its times. -/
theorem run_again (hanswers : job.Answers identity info) {program : Program} {applied : Applied}
    (hadmits : job.Admits program.db identity) (hsite : program.db.IsAt site)
    (happly : (job.application info site program.db).result = .ok (m, applied))
    (startedAt finishedAt : String) :
    ∃ outcome runs,
      ((Attempt.undisturbed startedAt finishedAt).run job program).outcome = some (.ok outcome)
        ∧ outcome.state = .done ∧ outcome.applied = some applied
        ∧ outcome.demangled = namingSummary m
        ∧ outcome.messages = (job.application info site program.db).log ++ namingLog m
        ∧ ((Attempt.undisturbed startedAt finishedAt).run job program).program.db
          = m.decorated.withRuns runs := by
  have hgranted : { program with slot := .free }.acquire
      ((job.again startedAt finishedAt).slotRequest false) = .granted := rfl
  obtain ⟨outcome, runs, houtcome, hdone, happlied, hnamed, hmessages, hprogram⟩ :=
    run_undisturbed rfl (answers_again hanswers startedAt finishedAt) hgranted
      (admits_again hadmits startedAt finishedAt) hsite happly
  exact ⟨outcome, runs, houtcome, hdone, happlied, hnamed, hmessages,
    congrArg Program.db hprogram⟩

/-- **A run from a settled database** passes over and logs what the file and the site say, adds
nothing, gives no symbol a name, and leaves the database as it is, up to its history and to the
numbers that known symbols pass over. -/
theorem run_settled (hanswers : job.Answers identity info) {program : Program}
    (h : job.Settled identity info site program.db) (startedAt finishedAt : String) :
    ∃ outcome applied skips runs,
      ((Attempt.undisturbed startedAt finishedAt).run job program).outcome = some (.ok outcome)
        ∧ outcome.state = .done ∧ outcome.applied = some applied
        ∧ applied.recordsAdded = 0
        ∧ (∃ log, applied.PassesOver site job.settings.applying.restrictions info log
          ∧ outcome.messages = log ++ namingLog program.db)
        ∧ (∀ summary, outcome.demangled = some summary → summary.demangled = 0)
        ∧ ((Attempt.undisturbed startedAt finishedAt).run job program).program.db
          = (program.db.withSkips skips).withRuns runs := by
  -- what is merged is absorbed, so the merge ends where it began
  obtain ⟨applied, skips, happly, hadded⟩ : ∃ applied skips,
      (job.application info site program.db).result = .ok (program.db.withSkips skips, applied)
        ∧ applied.recordsAdded = 0 :=
    apply_absorbed h.located.2 (fun _ => rfl) h.merged
  have hpassed := apply_passesOver h.located.2 happly (application_running (p := .start program.db)
    h.located happly)
  obtain ⟨outcome, runs, houtcome, hdone, happlied, hnamed, hmessages, hdb⟩ :=
    run_again hanswers h.admits h.located happly startedAt finishedAt
  have hafter := h.withSkips skips
  obtain ⟨rows, hrows⟩ := hafter.symbols
  obtain ⟨rows', hrows'⟩ := h.symbols
  refine ⟨outcome, applied, skips, runs, houtcome, hdone, happlied, hadded, ⟨_, hpassed, ?_⟩,
    ?_, ?_⟩
  · -- numbers play no part in what a pass logs
    rw [hmessages, namingLog_eq hrows hafter.located.2, namingLog_eq hrows' h.located.2]
    rfl
  · rw [hnamed]
    exact decorate_idle hrows hafter.named
  · rw [hafter.named] at hdb
    exact hdb

/-- Any number of runs from a settled database leaves it as it is, up to its history and to the
numbers that known symbols pass over. -/
theorem retry_settled (hanswers : job.Answers identity info) {program : Program}
    (h : job.Settled identity info site program.db) (times : List (String × String)) :
    ∃ skips runs, (job.retry program (times.map fun t => .undisturbed t.1 t.2)).db
      = (program.db.withSkips skips).withRuns runs := by
  induction times generalizing program with
  | nil => exact ⟨program.db.symbolSkips, [], (Database.withRuns_nil program.db).symm⟩
  | cons time times ih =>
    obtain ⟨-, -, skips, runs, -, -, -, -, -, -, hdb⟩ := run_settled hanswers h time.1 time.2
    have hnext := (h.withSkips skips).withRuns runs
    rw [← hdb] at hnext
    obtain ⟨skips', runs', hrest⟩ := ih hnext
    refine ⟨skips', runs ++ runs', hrest.trans ?_⟩
    rw [← Database.withRuns_withRuns, hdb]
    rfl

end Settled

/-- **A load that is run again changes nothing.**  If a run that nobody stops is done, then after
any number of further such runs one more is done as well.  The store is that of the first run,
no record is added, the same symbols and records are passed over, the messages are the same,
and no symbol gets a name. -/
theorem run_repeated (job : LoadJob) (identity : Identity) (info : DebugInfo) (program : Program)
    (shutDown : Bool) (first : Outcome) (hhealthy : ∃ before, program.db.snapshot = .ok before)
    (hanswers : job.Answers identity info) (hplan : job.plan = .never)
    (hfirst : (job.run shutDown program).outcome = some (.ok first)) (hdone : first.state = .done)
    (times : List (String × String)) (startedAt finishedAt : String) :
    ∃ (last : Outcome) (one two : Applied) (snapshot : Snapshot),
      (job.run shutDown program).program.db.snapshot = .ok snapshot
        ∧ ((Attempt.undisturbed startedAt finishedAt).run job
            (job.retry (job.run shutDown program).program
              (times.map fun t => .undisturbed t.1 t.2))).outcome = some (.ok last)
        ∧ last.state = .done
        ∧ ((Attempt.undisturbed startedAt finishedAt).run job
            (job.retry (job.run shutDown program).program
              (times.map fun t => .undisturbed t.1 t.2))).program.db.snapshot = .ok snapshot
        ∧ first.applied = some one ∧ last.applied = some two
        ∧ two.recordsAdded = 0 ∧ two.symbolsSkipped = one.symbolsSkipped
        ∧ two.recordsFiltered = one.recordsFiltered
        ∧ last.messages = first.messages
        ∧ ∀ summary, last.demangled = some summary → summary.demangled = 0 := by
  obtain ⟨hgranted, hadmits, site, m, one, hsite, happly⟩ :=
    undisturbed_of_done hplan hanswers hfirst hdone
  obtain ⟨first', runs, hfirst', -, hone, -, hmessages, hprogram⟩ :=
    run_undisturbed hplan hanswers hgranted hadmits hsite happly
  rw [hfirst] at hfirst'
  cases hfirst'
  -- the first run leaves a settled database behind
  have hmerges := merges_of_application hsite happly
  obtain ⟨snapshot, hsnapshot⟩ := Database.snapshot_ok_of_merges hmerges hhealthy
  have hsymbols := (Database.snapshot_ok_iff.mp hhealthy).2.1
  have hsettled := (settled_of_merges hsite hadmits hsymbols hmerges).withRuns runs
  have hdb : (job.run shutDown program).program.db = m.decorated.withRuns runs :=
    congrArg Program.db hprogram
  -- and any number of further runs leaves it as it is
  obtain ⟨skips', runs', hretried⟩ := retry_settled hanswers (hdb ▸ hsettled) times
  rw [hdb] at hretried
  have hlast := (hsettled.withSkips skips').withRuns runs'
  rw [← hretried] at hlast
  obtain ⟨last, two, skips'', runs'', houtcome, hstate, htwo, hadded, ⟨log, hpassed, hlog⟩, hnamed,
    hafter⟩ := run_settled hanswers hlast startedAt finishedAt
  have hpassed' := apply_passesOver hsite.2 happly (application_running (p := .start program.db)
    hsite happly)
  refine ⟨last, one, two, snapshot, ?_, houtcome, hstate, ?_, hone, htwo, hadded,
    hpassed.skipped.trans hpassed'.skipped.symm, hpassed.filtered.trans hpassed'.filtered.symm,
    ?_, hnamed⟩
  · rw [hdb]
    exact hsnapshot
  · rw [hafter, hretried]
    exact hsnapshot
  · -- both passes log why they cannot say whether they are switched on, if they cannot
    have hrows : ∃ rows, m.symbols = some rows :=
      Option.isSome_iff_exists.mp (Database.isSome_of_foldlM hsymbols hmerges.symbols)
    obtain ⟨rows, hrows⟩ := hrows
    obtain ⟨rows', hrows'⟩ := hlast.symbols
    have hblocks : m.blocks = .ok site.blocks := (isAt_of_merges hmerges hsite).2
    rw [hlog, hmessages, hpassed.log, namingLog_eq hrows' hlast.located.2,
      namingLog_eq hrows hblocks, hretried]
    exact congrArg (· ++ _) hpassed'.log.symm

/-- The load of a declaration, its definition and a symbol, run again behind two repetitions. -/
theorem run_repeated_on_node :
    ∃ (first last : Outcome) (one two : Applied) (snapshot : Snapshot),
      (watchful.run false programWithText).outcome = some (.ok first)
        ∧ (watchful.run false programWithText).program.db.snapshot = .ok snapshot
        ∧ ((Attempt.undisturbed "" "").run watchful
            (watchful.retry (watchful.run false programWithText).program
              [.undisturbed "" "", .undisturbed "" ""])).outcome = some (.ok last)
        ∧ last.state = .done
        ∧ ((Attempt.undisturbed "" "").run watchful
            (watchful.retry (watchful.run false programWithText).program
              [.undisturbed "" "", .undisturbed "" ""])).program.db.snapshot = .ok snapshot
        ∧ first.applied = some one ∧ one.recordsAdded = 3
        ∧ last.applied = some two ∧ two.recordsAdded = 0 := by
  have hhealthy : ∃ before, programWithText.db.snapshot = .ok before :=
    Database.snapshot_ok_iff.mpr
      ⟨listTypes_ok_iff.mpr ⟨[], rfl, nofun⟩, rfl, rfl, rfl⟩
  have hanswers : watchful.Answers ((Identity.ofSignature 1 1).withFile "app.pdb") declaredNode :=
    ⟨rfl, rfl⟩
  -- the kernel evaluates the first run
  have hfirst : ((watchful.run false programWithText).outcome.any fun outcome =>
      match outcome with
      | .ok outcome => outcome.state == .done && outcome.applied.any (·.recordsAdded == 3)
      | .error _ => false) = true := by
    decide +kernel
  rcases h : (watchful.run false programWithText).outcome with _ | _ | first
  · rw [h] at hfirst
    cases hfirst
  · rw [h] at hfirst
    cases hfirst
  · rw [h] at hfirst
    obtain ⟨hdone, hadded⟩ := (Bool.and_eq_true _ _).mp hfirst
    obtain ⟨last, one, two, snapshot, hsnapshot, hlast, hstate, hafter, hone, htwo, hzero, -⟩ :=
      run_repeated watchful _ _ programWithText false first hhealthy hanswers rfl h
        (eq_of_beq hdone) [("", ""), ("", "")] "" ""
    rw [hone] at hadded
    exact ⟨first, last, one, two, snapshot, rfl, hsnapshot, hlast, hstate, hafter, hone,
      eq_of_beq hadded, htwo, hzero⟩

end LoadJob

end DebugMerge
