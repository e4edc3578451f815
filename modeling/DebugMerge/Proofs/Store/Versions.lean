/-
  DebugMerge.Proofs.Store.Versions
  ────────────────────────────────
  **Which databases are opened, by their schema version.**

  The versions from zero to the newest one are supported.  A database of a newer
  version is refused and left alone.  Every other one is brought to the newest
  version, also one whose version is negative: nothing compares the version with
  the oldest one.  Such a database gets the tables of all steps but the first,
  which is due at version zero alone, so it counts as current without the tables
  that every version has.

  Main statements
    • `Database.hasTable_createAll`    — which tables are there in the end
    • `foldl_apply_of_areDue`          — what a chain of steps does
    • `Database.migrate_eq`            — what all steps that are due do
    • `mem_tablesDue_iff`              — which tables they introduce
    • `Database.opened_eq_unsupported_iff` — which databases are refused
    • `Files.openDatabase_by_version`  — the version decides
-/
import DebugMerge.Files.Tree
import DebugMerge.Proofs.Folds

namespace DebugMerge

/-! ## §1. Creating tables. -/

/-- The first version that has the table. -/
def Table.since : Table → Int
  | programInfo | memoryBlocks => 1
  | options => 2
  | dataTypes | symbols | comments | lineNumbers => 3
  | loadRuns => 4

namespace Database

/-- Create every table of the list that does not exist. -/
def createAll (tables : List Table) (db : Database) : Database :=
  tables.foldl createTable db

/-- The database with another version. -/
def withVersion (db : Database) (version : Int) : Database :=
  { db with version }

/-- Creating a table makes it exist, and no other one. -/
theorem hasTable_createTable (db : Database) (created table : Table) :
    (db.createTable created).hasTable table = (db.hasTable table || decide (table = created)) := by
  cases created <;> cases table <;> simp [createTable, hasTable]

/-- **Which tables are there in the end**: those that were there and those of the list. -/
theorem hasTable_createAll (db : Database) (tables : List Table) (table : Table) :
    (db.createAll tables).hasTable table = (db.hasTable table || decide (table ∈ tables)) := by
  induction tables generalizing db with
  | nil => simp [createAll]
  | cons created tables ih =>
    show ((db.createTable created).createAll tables).hasTable table = _
    rw [ih, hasTable_createTable]
    simp [Bool.or_assoc]

@[simp] theorem createTable_withVersion (db : Database) (version : Int) (table : Table) :
    (db.withVersion version).createTable table = (db.createTable table).withVersion version := by
  cases table <;> rfl

@[simp] theorem hasTable_withVersion (db : Database) (version : Int) (table : Table) :
    (db.withVersion version).hasTable table = db.hasTable table := by
  cases table <;> rfl

/-- The tables do not depend on the version. -/
theorem createAll_withVersion (db : Database) (version : Int) (tables : List Table) :
    (db.withVersion version).createAll tables = (db.createAll tables).withVersion version := by
  induction tables generalizing db with
  | nil => rfl
  | cons table tables ih =>
    show ((db.withVersion version).createTable table).createAll tables = _
    rw [createTable_withVersion, ih]
    rfl

end Database

/-! ## §2. Chains of steps. -/

/-- Each of the steps is due where the one before it led, beginning at the version. -/
def AreDue : Int → List Migration → Prop
  | _, [] => True
  | version, step :: steps => step.due version = true ∧ AreDue step.reaches steps

/-- Where the steps lead from the version. -/
def reachedFrom : Int → List Migration → Int
  | version, [] => version
  | _, step :: steps => reachedFrom step.reaches steps

/-- The tables that the steps introduce. -/
def tablesOf (steps : List Migration) : List Table :=
  steps.flatMap (·.tables)

section Steps

variable {db : Database} {steps : List Migration}

/-- Steps that are not due change nothing. -/
theorem foldl_apply_of_not_due (h : ∀ step ∈ steps, step.due db.version = false) :
    steps.foldl (fun db step => step.apply db) db = db := by
  induction steps with
  | nil => rfl
  | cons step steps ih =>
    have hfirst : step.apply db = db := by
      unfold Migration.apply
      rw [h step List.mem_cons_self]
      rfl
    rw [List.foldl_cons, hfirst]
    exact ih fun later hlater => h later (List.mem_cons_of_mem step hlater)

/-- **What a chain of steps does**: it creates all their tables and leads to the last version. -/
theorem foldl_apply_of_areDue (h : AreDue db.version steps) :
    steps.foldl (fun db step => step.apply db) db
      = (db.createAll (tablesOf steps)).withVersion (reachedFrom db.version steps) := by
  induction steps generalizing db with
  | nil => rfl
  | cons step steps ih =>
    obtain ⟨hdue, hrest⟩ := h
    have hfirst : step.apply db = (db.createAll step.tables).withVersion step.reaches := by
      unfold Migration.apply
      rw [if_pos hdue]
      rfl
    rw [List.foldl_cons, hfirst, ih hrest, Database.createAll_withVersion]
    -- the tables of the first step are created before those of the others
    have htables : (db.createAll step.tables).createAll (tablesOf steps)
        = db.createAll (tablesOf (step :: steps)) := by
      unfold Database.createAll tablesOf
      rw [List.flatMap_cons, List.foldl_append]
    rw [htables]
    rfl

end Steps

/-! ## §3. Migration. -/

/-- The steps that are due for a version. -/
def dueSteps (version : Int) : List Migration :=
  migrations.filter fun step => step.due version

/-- The tables that the steps due for a version introduce. -/
def tablesDue (version : Int) : List Table :=
  tablesOf (dueSteps version)

/-- Up to the newest version, the steps that are due are the last ones and form a chain to it. -/
theorem dueSteps_spec {version : Int} (h : version ≤ currentVersion) :
    ∃ passed, migrations = passed ++ dueSteps version
      ∧ (∀ step ∈ passed, step.due version = false)
      ∧ AreDue version (dueSteps version)
      ∧ reachedFrom version (dueSteps version) = currentVersion := by
  have hcases : version < 0 ∨ version = 0 ∨ version = 1 ∨ version = 2 ∨ version = 3
      ∨ version = 4 := by
    unfold currentVersion at h
    omega
  rcases hcases with hnegative | rfl | rfl | rfl | rfl | rfl
  · -- below zero all steps are due but the first, which asks for version zero
    have hzero : (version == 0) = false := beq_eq_false_iff_ne.mpr (by omega)
    have hdue : dueSteps version = migrations.drop 1 := by
      have h2 : decide (version < 2) = true := decide_eq_true (by omega)
      have h3 : decide (version < 3) = true := decide_eq_true (by omega)
      have h4 : decide (version < 4) = true := decide_eq_true (by omega)
      simp only [dueSteps, migrations, List.filter_cons, hzero, h2, h3, h4, List.filter_nil,
        Bool.false_eq_true, if_false, if_true, List.drop_succ_cons, List.drop_zero]
    refine ⟨migrations.take 1, ?_, ?_, ?_, ?_⟩
    · rw [hdue, List.take_append_drop]
    · intro step hstep
      rw [List.mem_singleton.mp hstep]
      exact hzero
    · rw [hdue]
      exact ⟨decide_eq_true (by omega), rfl, rfl, trivial⟩
    · rw [hdue]
      rfl
  · exact ⟨[], rfl, nofun, ⟨rfl, rfl, rfl, rfl, trivial⟩, rfl⟩
  · exact ⟨migrations.take 1, rfl, by decide, ⟨rfl, rfl, rfl, trivial⟩, rfl⟩
  · exact ⟨migrations.take 2, rfl, by decide, ⟨rfl, rfl, trivial⟩, rfl⟩
  · exact ⟨migrations.take 3, rfl, by decide, ⟨rfl, trivial⟩, rfl⟩
  · exact ⟨migrations, rfl, by decide, trivial, rfl⟩

/-- **What all steps do**: the tables of those that are due are created, and the version is the
newest one. -/
theorem Database.migrate_eq {db : Database} (h : db.version ≤ currentVersion) :
    db.migrate = (db.createAll (tablesDue db.version)).withVersion currentVersion := by
  obtain ⟨passed, hsplit, hpassed, hdue, hreached⟩ := dueSteps_spec h
  unfold migrate
  rw [hsplit, List.foldl_append, foldl_apply_of_not_due hpassed, foldl_apply_of_areDue hdue,
    hreached]
  rfl

/-- **Which tables are introduced**: those that are newer than the version, unless the version is
below zero and the table belongs to the first step. -/
theorem mem_tablesDue_iff (version : Int) (table : Table) :
    table ∈ tablesDue version ↔ version < table.since ∧ (0 ≤ version ∨ 1 < table.since) := by
  have hstep : table ∈ tablesDue version
      ↔ ∃ step ∈ migrations, step.due version = true ∧ table ∈ step.tables := by
    simp only [tablesDue, tablesOf, dueSteps, List.mem_flatMap, List.mem_filter, and_assoc]
  rw [hstep]
  simp only [migrations, List.mem_cons, List.not_mem_nil, exists_eq_or_imp, or_false,
    beq_iff_eq, decide_eq_true_eq]
  cases table <;> simp [Table.since] <;> omega

/-! ## §4. Opening a database. -/

/-- The refusal names the version and the whole supported range. -/
theorem message_of_unsupportedVersion (found : Int) :
    (StoreError.unsupportedVersion found).message
      = "Unsupported schema version " ++ toString found ++ "; supported range is 0..=4" := by
  have hrange : "; supported range is 0..=" ++ toString currentVersion
      = "; supported range is 0..=4" := by
    decide
  show "Unsupported schema version " ++ toString found ++ "; supported range is 0..="
    ++ toString currentVersion = _
  rw [String.append_assoc, hrange]

namespace Database

variable {db : Database}

/-- A database of a newer version is refused. -/
theorem opened_of_newer (h : currentVersion < db.version) :
    db.opened = .error (.unsupportedVersion db.version) :=
  if_pos h

/-- Every other database gets the tables that are due, and the newest version. -/
theorem opened_of_supported (h : db.version ≤ currentVersion) :
    db.opened = .ok ((db.createAll (tablesDue db.version)).withVersion currentVersion) := by
  rw [← migrate_eq h]
  exact if_neg (Int.not_lt.mpr h)

/-- A database of the newest version is opened as it is. -/
theorem opened_of_current (h : db.version = currentVersion) : db.opened = .ok db := by
  unfold opened migrate
  rw [if_neg (Int.not_lt.mpr (Int.le_of_eq h)), foldl_apply_of_not_due]
  rw [h]
  decide

/-- What is opened has the newest version. -/
theorem version_of_opened {new : Database} (h : db.opened = .ok new) :
    new.version = currentVersion := by
  by_cases hnewer : currentVersion < db.version
  · rw [opened_of_newer hnewer] at h
    cases h
  · rw [opened_of_supported (Int.not_lt.mp hnewer)] at h
    cases h
    rfl

theorem opened_eq_unsupported_iff {found : Int} :
    db.opened = .error (.unsupportedVersion found)
      ↔ found = db.version ∧ currentVersion < db.version := by
  constructor
  · intro hrefused
    by_cases hnewer : currentVersion < db.version
    · rw [opened_of_newer hnewer] at hrefused
      cases hrefused
      exact ⟨rfl, hnewer⟩
    · rw [opened_of_supported (Int.not_lt.mp hnewer)] at hrefused
      cases hrefused
  · rintro ⟨rfl, hnewer⟩
    exact opened_of_newer hnewer

/-- Which tables are there once all tables that are due were created. -/
theorem hasTable_due (db : Database) (table : Table) :
    ((db.createAll (tablesDue db.version)).withVersion currentVersion).hasTable table = true
      ↔ db.hasTable table = true
        ∨ db.version < table.since ∧ (0 ≤ db.version ∨ 1 < table.since) := by
  rw [hasTable_withVersion, hasTable_createAll, Bool.or_eq_true, decide_eq_true_eq,
    mem_tablesDue_iff]

end Database

namespace Files

/-- The files behind an attempt to open the database at a path. -/
def afterOpening (files : Files) (path : String) : Files :=
  match files.openDatabase path with
  | .ok (files, _) => files
  | .error _ => files

variable {files : Files} {path : String} {place : List String} {db : Database}

/-- A stored database is opened by its version, and stored again where it was. -/
theorem openDatabase_eq (hplace : files.locateNew path = .ok place)
    (hentry : files.entryAt place = some (.database db)) :
    files.openDatabase path = db.opened.map fun db => (files.put place (.database db), db) := by
  unfold openDatabase
  rw [hplace]
  dsimp only
  rw [hentry]
  dsimp only
  cases db.opened <;> rfl

/-- **The version decides.**  A stored database, whatever its tables and rows, is refused for its
version exactly if that is newer than the newest one; then the error names it and the supported
range, and no file is changed.  Every other database is stored again with the newest version: it
keeps its tables and gains those that are newer than its version, but a database of a negative
version does not gain those of the first step. -/
theorem openDatabase_by_version (hplace : files.locateNew path = .ok place)
    (hentry : files.entryAt place = some (.database db)) :
    (∀ found, files.openDatabase path = .error (.unsupportedVersion found)
        ↔ found = db.version ∧ currentVersion < db.version)
      ∧ (StoreError.unsupportedVersion db.version).message
        = "Unsupported schema version " ++ toString db.version ++ "; supported range is 0..=4"
      ∧ (currentVersion < db.version → files.afterOpening path = files)
      ∧ (db.version ≤ currentVersion → ∃ tables opened,
          files.openDatabase path = .ok (files.afterOpening path, opened)
            ∧ files.afterOpening path = files.put place (.database opened)
            ∧ opened = (db.createAll tables).withVersion currentVersion
            ∧ ∀ table, opened.hasTable table = true ↔ db.hasTable table = true
                ∨ db.version < table.since ∧ (0 ≤ db.version ∨ 1 < table.since)) := by
  have hopen := openDatabase_eq hplace hentry
  refine ⟨fun found => ?_, message_of_unsupportedVersion db.version, fun hnewer => ?_,
    fun hsupported => ?_⟩
  · rw [hopen, map_error]
    exact Database.opened_eq_unsupported_iff
  · rw [Database.opened_of_newer hnewer] at hopen
    unfold afterOpening
    rw [hopen]
    rfl
  · rw [Database.opened_of_supported hsupported] at hopen
    have hafter : files.afterOpening path = files.put place
        (.database ((db.createAll (tablesDue db.version)).withVersion currentVersion)) := by
      unfold afterOpening
      rw [hopen]
      rfl
    refine ⟨tablesDue db.version, _, ?_, hafter, rfl, db.hasTable_due⟩
    rw [hafter, hopen]
    rfl

/-- A working directory that holds the database. -/
def holding (db : Database) : Files :=
  ⟨["work"], [(["work", "program.db"], .database db)]⟩

/-- A database of a version below zero, without tables. -/
def belowZero : Database :=
  .withVersion .blank (-1)

/-- The database of a version below zero is opened, and exactly the tables of the later steps are
there. -/
theorem openDatabase_by_version_below_zero :
    (holding belowZero).locateNew "program.db" = .ok ["work", "program.db"]
      ∧ (holding belowZero).entryAt ["work", "program.db"] = some (.database belowZero)
      ∧ ∃ opened, (holding belowZero).openDatabase "program.db"
            = .ok ((holding belowZero).afterOpening "program.db", opened)
          ∧ ∀ table, opened.hasTable table = true ↔ 1 < table.since := by
  have hplace : (holding belowZero).locateNew "program.db" = .ok ["work", "program.db"] := rfl
  have hentry : (holding belowZero).entryAt ["work", "program.db"]
      = some (.database belowZero) := by
    decide +kernel
  obtain ⟨-, -, -, hopened⟩ := openDatabase_by_version hplace hentry
  obtain ⟨-, opened, hopen, -, -, htables⟩ := hopened (by decide)
  refine ⟨hplace, hentry, opened, hopen, fun table => ?_⟩
  have hnone : belowZero.hasTable table = false := by
    cases table <;> rfl
  have hversion : belowZero.version = -1 := rfl
  simp only [htables table, hnone, Bool.false_eq_true, false_or]
  omega

/-- It then counts as current and lacks the table of the attributes. -/
theorem negative_version_counts_as_current :
    ∃ db, (holding belowZero).openDatabase "program.db" = .ok (holding db, db)
      ∧ belowZero.version < 0 ∧ db.version = currentVersion
      ∧ db.hasTable .programInfo = false :=
  ⟨belowZero.migrate, rfl, by decide, by decide, by decide⟩

end Files

end DebugMerge
