/-
  DebugMerge.Store.Schema
  ───────────────────────
  **Bringing a database to the newest schema.**

  A schema version says which tables exist.  Opening a database runs the
  migration steps that lead from its version to the newest one; every step
  creates the tables it introduces, unless they exist, and records the version
  it reaches.  A database of a newer version is left alone.

  Main definitions
    • `Migration`, `migrations`     — the steps
    • `Database.migrate`            — all steps that are due
    • `Database.opened`             — opening a database
-/
import DebugMerge.Store.Database

namespace DebugMerge

/-- One step of the schema's history. -/
structure Migration where
  /-- Is the step due for a database of this version? -/
  due : Int → Bool
  /-- The tables that the step introduces. -/
  tables : List Table
  /-- The version that the step reaches. -/
  reaches : Int

/-- The steps in order.  The first one is for databases without any schema; each
later one is for every database below the version it reaches. -/
def migrations : List Migration :=
  [⟨fun version => version == 0, [.programInfo, .memoryBlocks], 1⟩,
   ⟨fun version => decide (version < 2), [.options], 2⟩,
   ⟨fun version => decide (version < 3), [.dataTypes, .symbols, .comments, .lineNumbers], 3⟩,
   ⟨fun version => decide (version < 4), [.loadRuns], 4⟩]

/-- Take the step if it is due. -/
def Migration.apply (step : Migration) (db : Database) : Database :=
  if step.due db.version then
    { step.tables.foldl Database.createTable db with version := step.reaches }
  else db

namespace Database

/-- Take every step that is due. -/
def migrate (db : Database) : Database :=
  migrations.foldl (fun db step => step.apply db) db

/-- Open a database: refuse a newer version, bring every other one up to date. -/
def opened (db : Database) : Except StoreError Database :=
  if db.version > currentVersion then .error (.unsupportedVersion db.version)
  else .ok db.migrate

/-- A new database, opened. -/
def fresh : Database :=
  blank.migrate

end Database

end DebugMerge
