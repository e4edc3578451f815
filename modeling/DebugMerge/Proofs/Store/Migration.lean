/-
  DebugMerge.Proofs.Store.Migration
  ─────────────────────────────────
  **Migration preserves data.**

  A step creates the tables that it introduces, unless they are there, and
  touches no row.  From version zero on, a step that was taken is not due again,
  so a migration can stop behind any step and be taken up at the next opening.

  What this program writes is read back from every table.  One reader asks for
  more than tables: the image base is an attribute of the program, and a
  database in which no attributes were recorded has none.

  Main statements
    • `Database.migratesTo_migrate`      — what becomes of the tables
    • `Database.migrate_afterSteps`      — taking up a migration
    • `Database.IsWritten`, `isWritten_of_writes` — what this program writes
    • `Database.isReadable_of_isWritten` — and what of it is read back
    • `Files.openDatabase_migrates`      — opening a stored database
-/
import DebugMerge.Proofs.Files.Walking
import DebugMerge.Proofs.Load.History
import DebugMerge.Proofs.Load.Resume
import DebugMerge.Proofs.Store.Versions
import Mathlib.Logic.Relation

namespace DebugMerge

namespace Database

variable {db new : Database}

/-! ## §1. What becomes of the tables. -/

/-- The database carries the schema of a supported version: the tables introduced up to it. -/
structure HasSchema (db : Database) : Prop where
  nonneg : 0 ≤ db.version
  supported : db.version ≤ currentVersion
  tables : ∀ table, table.since ≤ db.version → db.hasTable table = true

/-- A table that is there is kept; one that is not may be created empty. -/
def KeptOrCreated {α : Type} (empty : α) (old new : Option α) : Prop :=
  new = old ∨ old = none ∧ new = some empty

theorem keptOrCreated_refl {α : Type} (empty : α) (old : Option α) : KeptOrCreated empty old old :=
  .inl rfl

theorem KeptOrCreated.trans {α : Type} {empty : α} {old mid new : Option α}
    (h : KeptOrCreated empty old mid) (h' : KeptOrCreated empty mid new) :
    KeptOrCreated empty old new := by
  rcases h with rfl | ⟨hold, rfl⟩
  · exact h'
  · rcases h' with rfl | ⟨hmid, -⟩
    · exact .inr ⟨hold, rfl⟩
    · cases hmid

theorem keptOrCreated_create {α : Type} (empty : α) (old : Option α) :
    KeptOrCreated empty old (old <|> some empty) := by
  cases old with
  | none => exact .inr ⟨rfl, rfl⟩
  | some rows => exact .inl rfl

/-- A table that is there in the end has the rows it had, or none. -/
theorem KeptOrCreated.eq_some {α : Type} {empty : α} {old new : Option α}
    (h : KeptOrCreated empty old new) (hnew : new.isSome = true) :
    new = some (old.getD empty) := by
  rcases h with rfl | ⟨rfl, rfl⟩
  · obtain ⟨rows, rfl⟩ := Option.isSome_iff_exists.mp hnew
    rfl
  · rfl

/-- Tables are created, and nothing else is changed but the version. -/
structure GainsTables (db new : Database) : Prop where
  programInfo : KeptOrCreated none db.programInfo new.programInfo
  memoryBlocks : KeptOrCreated [] db.memoryBlocks new.memoryBlocks
  options : KeptOrCreated [] db.options new.options
  dataTypes : KeptOrCreated [] db.dataTypes new.dataTypes
  symbols : KeptOrCreated [] db.symbols new.symbols
  comments : KeptOrCreated [] db.comments new.comments
  lineNumbers : KeptOrCreated [] db.lineNumbers new.lineNumbers
  loadRuns : KeptOrCreated [] db.loadRuns new.loadRuns

theorem gainsTables_refl (db : Database) : db.GainsTables db := by
  constructor <;> exact keptOrCreated_refl _ _

theorem GainsTables.trans {mid : Database} (h : db.GainsTables mid) (h' : mid.GainsTables new) :
    db.GainsTables new where
  programInfo := h.programInfo.trans h'.programInfo
  memoryBlocks := h.memoryBlocks.trans h'.memoryBlocks
  options := h.options.trans h'.options
  dataTypes := h.dataTypes.trans h'.dataTypes
  symbols := h.symbols.trans h'.symbols
  comments := h.comments.trans h'.comments
  lineNumbers := h.lineNumbers.trans h'.lineNumbers
  loadRuns := h.loadRuns.trans h'.loadRuns

theorem gainsTables_createTable (db : Database) (table : Table) :
    db.GainsTables (db.createTable table) := by
  -- one table is created, the other ones are the same
  cases table <;> constructor <;>
    first
      | exact keptOrCreated_refl _ _
      | exact keptOrCreated_create _ _

theorem gainsTables_createAll (db : Database) (tables : List Table) :
    db.GainsTables (db.createAll tables) := by
  induction tables generalizing db with
  | nil => exact gainsTables_refl db
  | cons table tables ih =>
    exact (gainsTables_createTable db table).trans (ih (db.createTable table))

/-- The newest schema with the rows of a database: what was there has its rows, and every other
table is there without rows. -/
structure MigratesTo (db new : Database) : Prop where
  version : new.version = currentVersion
  programInfo : new.programInfo = some (db.programInfo.getD none)
  memoryBlocks : new.memoryBlocks = some (db.memoryBlocks.getD [])
  options : new.options = some (db.options.getD [])
  dataTypes : new.dataTypes = some (db.dataTypes.getD [])
  symbols : new.symbols = some (db.symbols.getD [])
  comments : new.comments = some (db.comments.getD [])
  lineNumbers : new.lineNumbers = some (db.lineNumbers.getD [])
  loadRuns : new.loadRuns = some (db.loadRuns.getD [])

theorem MigratesTo.hasTable (h : db.MigratesTo new) (table : Table) :
    new.hasTable table = true := by
  cases table with
  | programInfo => exact Option.isSome_iff_exists.mpr ⟨_, h.programInfo⟩
  | memoryBlocks => exact Option.isSome_iff_exists.mpr ⟨_, h.memoryBlocks⟩
  | options => exact Option.isSome_iff_exists.mpr ⟨_, h.options⟩
  | dataTypes => exact Option.isSome_iff_exists.mpr ⟨_, h.dataTypes⟩
  | symbols => exact Option.isSome_iff_exists.mpr ⟨_, h.symbols⟩
  | comments => exact Option.isSome_iff_exists.mpr ⟨_, h.comments⟩
  | lineNumbers => exact Option.isSome_iff_exists.mpr ⟨_, h.lineNumbers⟩
  | loadRuns => exact Option.isSome_iff_exists.mpr ⟨_, h.loadRuns⟩

/-- **What becomes of the tables**: a database that carries its schema is brought to the newest
one, with all its rows. -/
theorem migratesTo_migrate (h : db.HasSchema) : db.MigratesTo db.migrate := by
  have hgains : db.GainsTables db.migrate := by
    rw [migrate_eq h.supported]
    have hall := gainsTables_createAll db (tablesDue db.version)
    exact ⟨hall.1, hall.2, hall.3, hall.4, hall.5, hall.6, hall.7, hall.8⟩
  have htables : ∀ table, db.migrate.hasTable table = true := by
    intro table
    rw [migrate_eq h.supported, hasTable_due]
    by_cases hsince : table.since ≤ db.version
    · exact .inl (h.tables table hsince)
    · exact .inr ⟨Int.not_le.mp hsince, .inl h.nonneg⟩
  refine ⟨?_, hgains.1.eq_some (htables .programInfo), hgains.2.eq_some (htables .memoryBlocks),
    hgains.3.eq_some (htables .options), hgains.4.eq_some (htables .dataTypes),
    hgains.5.eq_some (htables .symbols), hgains.6.eq_some (htables .comments),
    hgains.7.eq_some (htables .lineNumbers), hgains.8.eq_some (htables .loadRuns)⟩
  rw [migrate_eq h.supported]
  rfl

/-! ## §2. Stopping behind a step. -/

/-- From version zero on, a step is due until its version is reached. -/
theorem due_iff {step : Migration} {version : Int} (hstep : step ∈ migrations)
    (h : 0 ≤ version) : step.due version = true ↔ version < step.reaches := by
  simp only [migrations, List.mem_cons, List.not_mem_nil, or_false] at hstep
  rcases hstep with rfl | rfl | rfl | rfl
  · rw [beq_iff_eq]
    show version = 0 ↔ version < 1
    omega
  · exact decide_eq_true_iff
  · exact decide_eq_true_iff
  · exact decide_eq_true_iff

/-- A step leads to the version it reaches, unless that is reached already. -/
theorem version_apply {step : Migration} (hstep : step ∈ migrations) (h : 0 ≤ db.version) :
    (step.apply db).version = max db.version step.reaches := by
  have hdue := due_iff hstep h
  unfold Migration.apply
  by_cases hreached : step.due db.version = true
  · rw [if_pos hreached]
    exact (Int.max_eq_right (Int.le_of_lt (hdue.mp hreached))).symm
  · rw [if_neg hreached]
    exact (Int.max_eq_left (Int.not_lt.mp fun hlt => hreached (hdue.mpr hlt))).symm

/-- Behind some steps the version of each of them is reached. -/
theorem version_foldl {steps : List Migration} (hsteps : ∀ step ∈ steps, step ∈ migrations)
    (h : 0 ≤ db.version) :
    db.version ≤ (steps.foldl (fun db step => step.apply db) db).version
      ∧ ∀ step ∈ steps,
        step.reaches ≤ (steps.foldl (fun db step => step.apply db) db).version := by
  induction steps generalizing db with
  | nil => exact ⟨Int.le_refl _, nofun⟩
  | cons step steps ih =>
    have hversion := version_apply (hsteps step List.mem_cons_self) h
    have hle : db.version ≤ (step.apply db).version := hversion ▸ Int.le_max_left _ _
    obtain ⟨hgrown, hreached⟩ := ih
      (fun later hlater => hsteps later (List.mem_cons_of_mem step hlater)) (Int.le_trans h hle)
    refine ⟨Int.le_trans hle hgrown, fun taken htaken => ?_⟩
    rcases List.mem_cons.mp htaken with rfl | htaken
    · exact Int.le_trans (hversion ▸ Int.le_max_right _ _) hgrown
    · exact hreached taken htaken

/-- Steps that were taken are not due again. -/
theorem foldl_apply_idem {steps : List Migration} (hsteps : ∀ step ∈ steps, step ∈ migrations)
    (h : 0 ≤ db.version) :
    steps.foldl (fun db step => step.apply db) (steps.foldl (fun db step => step.apply db) db)
      = steps.foldl (fun db step => step.apply db) db := by
  obtain ⟨hgrown, hreached⟩ := version_foldl hsteps h
  refine foldl_apply_of_not_due fun step hstep => ?_
  rw [← Bool.not_eq_true, due_iff (hsteps step hstep) (Int.le_trans h hgrown)]
  exact Int.not_lt.mpr (hreached step hstep)

/-- The database behind the first steps, whichever of them were due. -/
def afterSteps (k : Nat) (db : Database) : Database :=
  (migrations.take k).foldl (fun db step => step.apply db) db

/-- The steps that are left lead where all of them lead. -/
theorem foldl_drop_afterSteps (k : Nat) (db : Database) :
    (migrations.drop k).foldl (fun db step => step.apply db) (db.afterSteps k) = db.migrate := by
  unfold afterSteps migrate
  rw [← List.foldl_append, List.take_append_drop]

/-- **A migration that stopped behind a step is taken up**: it leads to the same database. -/
theorem migrate_afterSteps (k : Nat) (h : 0 ≤ db.version) :
    (db.afterSteps k).migrate = db.migrate := by
  -- the first steps are taken again without effect, then the others follow
  have hagain : (db.afterSteps k).afterSteps k = db.afterSteps k :=
    foldl_apply_idem (fun _ hstep => List.mem_of_mem_take hstep) h
  calc (db.afterSteps k).migrate
      = (migrations.drop k).foldl (fun db step => step.apply db)
          ((db.afterSteps k).afterSteps k) := (foldl_drop_afterSteps k _).symm
    _ = (migrations.drop k).foldl (fun db step => step.apply db) (db.afterSteps k) := by
        rw [hagain]
    _ = db.migrate := foldl_drop_afterSteps k db

/-- No step leads beyond the newest version. -/
theorem version_afterSteps_le (k : Nat) (h : db.HasSchema) :
    (db.afterSteps k).version ≤ currentVersion := by
  have hnonneg : 0 ≤ (db.afterSteps k).version :=
    Int.le_trans h.nonneg (version_foldl (fun _ hstep => List.mem_of_mem_take hstep) h.nonneg).1
  have hgrown : (db.afterSteps k).version
      ≤ ((migrations.drop k).foldl (fun db step => step.apply db) (db.afterSteps k)).version :=
    (version_foldl (fun _ hstep => List.mem_of_mem_drop hstep) hnonneg).1
  rw [foldl_drop_afterSteps, (migratesTo_migrate h).version] at hgrown
  exact hgrown

/-- **Opening takes up a migration**, wherever it stopped. -/
theorem opened_afterSteps (k : Nat) (h : db.HasSchema) :
    (db.afterSteps k).opened = .ok db.migrate := by
  unfold opened
  rw [if_neg (Int.not_lt.mpr (version_afterSteps_le k h)), migrate_afterSteps k h.nonneg]

/-! ## §3. What this program writes. -/

/-- The rows that need reading are rows of values: every data type and every run. -/
structure IsWritten (db : Database) : Prop where
  dataTypes : ∀ rows, db.dataTypes = some rows →
    ∀ row ∈ rows, ∃ record : TypeRecord, row = record.toRow
  loadRuns : ∀ rows, db.loadRuns = some rows → ∀ row ∈ rows, ∃ run : LoadRun, row = run.toRow

/-- One write of this program. -/
inductive Write (db : Database) : Database → Prop where
  | migrate : Write db db.migrate
  | program {info blocks new} (h : db.recordProgram info blocks = .ok new) : Write db new
  | option {category name value new} (h : db.setOption category name value = .ok new) : Write db new
  | run {run new number} (h : db.insertRun run = .ok (new, number)) : Write db new
  | type {record new verdict} (h : db.upsertType record = .ok (new, verdict)) : Write db new
  | symbol {address record new isNew} (h : db.addSymbol address record = .ok (new, isNew)) :
      Write db new
  | line {address file line new isNew} (h : db.addLine address file line = .ok (new, isNew)) :
      Write db new
  | comment {address text new isNew} (h : db.addComment address text = .ok (new, isNew)) :
      Write db new
  | demangled {number name new} (h : db.setDemangled number name = .ok new) : Write db new

theorem rowsOf_ok {α : Type} {table : Table} {rows : Option α} {found : α} :
    rowsOf table rows = .ok found ↔ rows = some found := by
  cases rows with
  | none => exact ⟨nofun, nofun⟩
  | some rows =>
    constructor <;> rintro ⟨⟩ <;> rfl

/-- The tables of types and runs decide what counts as written. -/
theorem IsWritten.congr (h : db.IsWritten) (htypes : new.dataTypes = db.dataTypes)
    (hruns : new.loadRuns = db.loadRuns) : new.IsWritten :=
  ⟨htypes ▸ h.dataTypes, hruns ▸ h.loadRuns⟩

/-- An empty table has no rows that need reading. -/
theorem IsWritten.of_gains (h : db.IsWritten) (hgains : db.GainsTables new) : new.IsWritten := by
  refine ⟨fun rows hrows => ?_, fun rows hrows => ?_⟩
  · rcases hgains.dataTypes with hkept | ⟨-, hcreated⟩
    · exact h.dataTypes rows (hkept.symm.trans hrows)
    · cases hrows.symm.trans hcreated
      exact fun _ hrow => absurd hrow List.not_mem_nil
  · rcases hgains.loadRuns with hkept | ⟨-, hcreated⟩
    · exact h.loadRuns rows (hkept.symm.trans hrows)
    · cases hrows.symm.trans hcreated
      exact fun _ hrow => absurd hrow List.not_mem_nil

/-- A step of the migration creates tables. -/
theorem gainsTables_apply (step : Migration) (db : Database) : db.GainsTables (step.apply db) := by
  unfold Migration.apply
  split
  · have hall := gainsTables_createAll db step.tables
    exact ⟨hall.1, hall.2, hall.3, hall.4, hall.5, hall.6, hall.7, hall.8⟩
  · exact gainsTables_refl db

theorem gainsTables_foldl (steps : List Migration) (db : Database) :
    db.GainsTables (steps.foldl (fun db step => step.apply db) db) := by
  induction steps generalizing db with
  | nil => exact gainsTables_refl db
  | cons step steps ih => exact (gainsTables_apply step db).trans (ih (step.apply db))

/-- Completing rows of values leaves rows of values. -/
theorem isWritten_completeAll {rows : List TypeRow}
    (h : ∀ row ∈ rows, ∃ record : TypeRecord, row = record.toRow) (record : TypeRecord) :
    ∀ row ∈ TypeRow.completeAll record rows, ∃ record : TypeRecord, row = record.toRow := by
  intro row hrow
  -- a completed row keeps its name and kind
  obtain ⟨old, hold, rfl⟩ := List.mem_map.mp hrow
  obtain ⟨stored, rfl⟩ := h old hold
  split
  · exact ⟨{ stored with size := record.size, members := record.members }, rfl⟩
  · exact ⟨stored, rfl⟩

theorem isWritten_upsertType {record : TypeRecord} {verdict : TypeInsert} (h : db.IsWritten)
    (hwrite : db.upsertType record = .ok (new, verdict)) : new.IsWritten := by
  unfold upsertType at hwrite
  obtain ⟨rows, hrows, hwrite⟩ := bind_ok.mp hwrite
  have htypes := h.dataTypes rows (rowsOf_ok.mp hrows)
  dsimp only at hwrite
  split at hwrite
  · cases hwrite
    refine ⟨fun rows' hrows' => ?_, h.loadRuns⟩
    cases hrows'
    exact List.forall_mem_append.mpr ⟨htypes, List.forall_mem_singleton.mpr ⟨record, rfl⟩⟩
  · obtain ⟨stored, -, hwrite⟩ := bind_ok.mp hwrite
    split at hwrite
    · cases hwrite
      refine ⟨fun rows' hrows' => ?_, h.loadRuns⟩
      cases hrows'
      exact isWritten_completeAll htypes record
    · cases hwrite
      exact h

theorem isWritten_insertRun {run : LoadRun} {number : Nat} (h : db.IsWritten)
    (hwrite : db.insertRun run = .ok (new, number)) : new.IsWritten := by
  unfold insertRun at hwrite
  obtain ⟨rows, hrows, hwrite⟩ := bind_ok.mp hwrite
  cases hwrite
  refine ⟨h.dataTypes, fun rows' hrows' => ?_⟩
  cases hrows'
  exact List.forall_mem_append.mpr
    ⟨h.loadRuns rows (rowsOf_ok.mp hrows), List.forall_mem_singleton.mpr ⟨run, rfl⟩⟩

theorem isWritten_addSymbol {address : UInt64} {record : SymbolRecord} {isNew : Bool}
    (h : db.IsWritten) (hwrite : db.addSymbol address record = .ok (new, isNew)) :
    new.IsWritten := by
  obtain ⟨rows, -, hwrite⟩ := bind_ok.mp hwrite
  dsimp only [appendNew] at hwrite
  split_ifs at hwrite
  -- an ignored symbol changes the numbers alone
  · cases hwrite
    exact h.congr rfl rfl
  · cases hwrite
    exact h.congr rfl rfl

/-- **Every write of this program writes rows of values.** -/
theorem isWritten_of_write (h : db.IsWritten) (hwrite : Write db new) : new.IsWritten := by
  cases hwrite with
  | migrate => exact h.of_gains (gainsTables_foldl migrations db)
  | type hwrite => exact isWritten_upsertType h hwrite
  | run hwrite => exact isWritten_insertRun h hwrite
  | program hwrite =>
    obtain ⟨_, -, hwrite⟩ := bind_ok.mp hwrite
    obtain ⟨_, -, hwrite⟩ := bind_ok.mp hwrite
    cases hwrite
    exact h.congr rfl rfl
  | option hwrite | line hwrite | comment hwrite | demangled hwrite =>
    obtain ⟨_, -, hwrite⟩ := bind_ok.mp hwrite
    cases hwrite
    exact h.congr rfl rfl
  | symbol hwrite => exact isWritten_addSymbol h hwrite

/-- So does every sequence of them, on a new database too. -/
theorem isWritten_of_writes (h : Relation.ReflTransGen Write .blank db) : db.IsWritten := by
  induction h with
  | refl => exact ⟨nofun, nofun⟩
  | tail _ hwrite ih => exact isWritten_of_write ih hwrite

/-! ## §4. What is read back. -/

/-- Every reader succeeds; the image base is read exactly if attributes are recorded, and reported
as missing otherwise. -/
structure IsReadable (db : Database) : Prop where
  info : ∃ info, db.info = .ok info
  imageBase : ∀ info, db.info = .ok (some info) → db.imageBase = .ok info.imageBase
  noImageBase : db.info = .ok none → db.imageBase = .error .missingProgramInfo
  expectedIdentity : ∃ expected, db.expectedIdentity = .ok expected
  blocks : ∃ blocks, db.blocks = .ok blocks
  options : ∀ category, ∃ options, db.optionsIn category = .ok options
  types : ∃ types, db.listTypes = .ok types
  symbols : ∃ symbols, db.listSymbols = .ok symbols
  comments : ∃ comments, db.listComments = .ok comments
  lines : ∃ lines, db.listLines = .ok lines
  snapshot : ∃ snapshot, db.snapshot = .ok snapshot
  pending : ∀ start stop, ∃ pending, db.pendingSymbols start stop = .ok pending
  runs : ∃ runs, db.listRuns = .ok runs

/-- A table that is there has rows. -/
theorem exists_rowsOf {α β : Type} {table : Table} {rows : Option α} (f : α → β)
    (h : rows.isSome = true) :
    ∃ value,
      (do let rows ← rowsOf table rows; return f rows : Except StoreError β) = .ok value := by
  obtain ⟨rows, rfl⟩ := Option.isSome_iff_exists.mp h
  exact ⟨f rows, rfl⟩

theorem readRuns_of_toRow {rows : List RunRow}
    (h : ∀ row ∈ rows, ∃ run : LoadRun, row = run.toRow) :
    ∃ runs, readRuns rows = .ok runs := by
  induction rows with
  | nil => exact ⟨[], rfl⟩
  | cons row rows ih =>
    obtain ⟨run, rfl⟩ := h row List.mem_cons_self
    obtain ⟨runs, hruns⟩ := ih fun row' hrow' => h row' (List.mem_cons_of_mem _ hrow')
    exact ⟨run :: runs, bind_ok.mpr ⟨run, run.ofRow_toRow, bind_ok.mpr ⟨runs, hruns, rfl⟩⟩⟩

/-- **What this program wrote is read back**, if all tables are there. -/
theorem isReadable_of_isWritten (h : db.IsWritten) (htables : ∀ table, db.hasTable table = true) :
    db.IsReadable := by
  have hinfo : ∃ info, db.info = .ok info := exists_rowsOf _ (htables .programInfo)
  have htypes : ∃ types, db.listTypes = .ok types := by
    obtain ⟨rows, hrows⟩ := Option.isSome_iff_exists.mp (htables .dataTypes)
    refine listTypes_ok_iff.mpr ⟨rows, hrows, fun row hrow => ?_⟩
    obtain ⟨record, rfl⟩ := h.dataTypes rows hrows row hrow
    exact ⟨record, record.toRecord_toRow⟩
  refine
    { info := hinfo
      imageBase := fun info hsome => by
        unfold imageBase
        rw [hsome]
        rfl
      noImageBase := fun hnone => by
        unfold imageBase
        rw [hnone]
        rfl
      expectedIdentity := ?expected
      blocks := exists_rowsOf _ (htables .memoryBlocks)
      options := fun category => exists_rowsOf _ (htables .options)
      types := htypes
      symbols := exists_rowsOf _ (htables .symbols)
      comments := exists_rowsOf _ (htables .comments)
      lines := exists_rowsOf _ (htables .lineNumbers)
      snapshot := snapshot_ok_iff.mpr
        ⟨htypes, htables .symbols, htables .comments, htables .lineNumbers⟩
      pending := fun start stop => exists_rowsOf _ (htables .symbols)
      runs := ?runs }
  case expected =>
    obtain ⟨info, hinfo⟩ := hinfo
    exact ⟨_, bind_ok.mpr ⟨info, hinfo, rfl⟩⟩
  case runs =>
    obtain ⟨rows, hrows⟩ := Option.isSome_iff_exists.mp (htables .loadRuns)
    obtain ⟨runs, hruns⟩ := readRuns_of_toRow (h.loadRuns rows hrows)
    exact ⟨runs, bind_ok.mpr ⟨rows, rowsOf_ok.mpr hrows, hruns⟩⟩

end Database

/-! ## §5. Opening a stored database. -/

namespace Files

variable {files : Files} {path : String} {place : List String} {db : Database}

/-- **Migration preserves data.**  A stored database that carries the schema of a supported
version, with any rows, is opened and stored again with the newest version: every table is there,
with the rows it had, or empty if it is new.  If its rows were written by this program then all
readers succeed, the one of the image base exactly if attributes are recorded.  Opening it again
changes nothing, and if the migration stopped behind any step, the next opening leads to the same
database. -/
theorem openDatabase_migrates (hplace : files.locateNew path = .ok place)
    (hstored : files.storedDatabase? place = some db) (hschema : db.HasSchema) :
    ∃ new, files.openDatabase path = .ok (files.put place (.database new), new)
      ∧ db.MigratesTo new
      ∧ (∀ table, new.hasTable table = true)
      ∧ (db.IsWritten → new.IsReadable)
      ∧ (files.put place (.database new)).openDatabase path
          = .ok (files.put place (.database new), new)
      ∧ ∀ k, (files.put place (.database (db.afterSteps k))).openDatabase path
          = .ok (files.put place (.database new), new) := by
  have hmigrates := Database.migratesTo_migrate hschema
  have hopen := openDatabase_put hplace (Option.isSome_iff_exists.mpr ⟨db, hstored⟩)
  -- the migrated database is the one behind all steps
  have hall : db.afterSteps migrations.length = db.migrate := by
    unfold Database.afterSteps Database.migrate
    rw [List.take_length]
  have hresumed : ∀ k, (files.put place (.database (db.afterSteps k))).openDatabase path
      = .ok (files.put place (.database db.migrate), db.migrate) := by
    intro k
    rw [hopen, Database.opened_afterSteps k hschema]
    rfl
  refine ⟨db.migrate, ?_, hmigrates, hmigrates.hasTable, fun hwritten => ?_, ?_, hresumed⟩
  · rw [openDatabase_eq_stored hplace, hstored]
    exact congrArg (Except.map _) (Database.opened_afterSteps 0 hschema)
  · exact Database.isReadable_of_isWritten
      (hwritten.of_gains (Database.gainsTables_foldl migrations db)) hmigrates.hasTable
  · have hagain := hresumed migrations.length
    rw [hall] at hagain
    exact hagain

/-- A database of the second version, with attributes, a block and an option. -/
def secondVersion : Database :=
  { Database.blank with
    version := 2
    programInfo := some (some (ProgramInfo.mk "app" 0x140000000 none).toRow)
    memoryBlocks := some [⟨".text", 0x140001000, 0x140002000⟩]
    options := some [⟨"pdb", "Remote Documents", "true"⟩] }

/-- It is opened, keeps what it holds, and is read. -/
theorem openDatabase_migrates_second_version :
    (holding secondVersion).locateNew "program.db" = .ok ["work", "program.db"]
      ∧ (holding secondVersion).storedDatabase? ["work", "program.db"] = some secondVersion
      ∧ secondVersion.HasSchema ∧ secondVersion.IsWritten
      ∧ ∃ new, (holding secondVersion).openDatabase "program.db" = .ok (holding new, new)
          ∧ new.options = secondVersion.options ∧ new.symbols = some []
          ∧ new.imageBase = .ok 0x140000000 ∧ new.IsReadable := by
  have hplace : (holding secondVersion).locateNew "program.db" = .ok ["work", "program.db"] := rfl
  have hstored : (holding secondVersion).storedDatabase? ["work", "program.db"]
      = some secondVersion := by
    decide +kernel
  have hschema : secondVersion.HasSchema :=
    ⟨by decide, by decide, fun table => by cases table <;> decide⟩
  have hwritten : secondVersion.IsWritten := ⟨nofun, nofun⟩
  obtain ⟨new, hopen, hmigrates, -, hreads, -, -⟩ :=
    openDatabase_migrates hplace hstored hschema
  refine ⟨hplace, hstored, hschema, hwritten, new, hopen, hmigrates.options, hmigrates.symbols, ?_,
    hreads hwritten⟩
  refine (hreads hwritten).imageBase ⟨"app", 0x140000000, none⟩ ?_
  unfold Database.info
  rw [hmigrates.programInfo]
  rfl

/-- A new database carries the schema of version zero and has no rows at all, yet one of its
readers fails once it is opened. -/
theorem new_database_has_no_image_base :
    Database.blank.HasSchema ∧ Database.blank.IsWritten
      ∧ ∃ files db, (Files.mk ["work"] []).openDatabase "program.db" = .ok (files, db)
          ∧ db.imageBase = .error .missingProgramInfo := by
  refine ⟨⟨by decide, by decide, fun table => by cases table <;> decide⟩, ⟨nofun, nofun⟩, ?_⟩
  exact ⟨holding .fresh, .fresh, rfl, rfl⟩

end Files

end DebugMerge
