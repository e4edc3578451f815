/-
  DebugMerge.Store.Database
  ─────────────────────────
  **The program database: eight tables of rows.**

  A table holds its rows in insertion order, or is absent.  Rows hold what was
  stored and nothing derived: kinds, scopes and statuses are words, member
  lists are JSON texts, and numbers are 64-bit words that the database compares
  as *signed* numbers.  Symbols are numbered, and a symbol that is offered uses up
  a number even if its key is taken; what has been passed over is kept beside the
  rows.  Reading a row back is the business of the readers.

  Main definitions
    • `TypeRow`, `SymbolRow`, …, `Database`    — rows and tables
    • `Table`                                  — the names of the tables
    • `StoreError`                             — what can go wrong
    • `signedLe`, `signedLt`                   — the order of stored numbers
-/
import DebugMerge.Program.Info
import DebugMerge.Program.Memory

namespace DebugMerge

/-! ## §1. Rows. -/

/-- The one row of program attributes; the identity's parts are stored apart. -/
structure ProgramRow where
  name : String
  imageBase : UInt64
  guid : Option String
  signature : Option UInt64
  age : Option UInt64
  file : Option String
  deriving DecidableEq, Repr

/-- One option. -/
structure OptionRow where
  category : String
  name : String
  value : String
  deriving DecidableEq, Repr

/-- One data type; `members` is the JSON text of its member list. -/
structure TypeRow where
  name : String
  kind : String
  size : UInt64
  members : String
  deriving DecidableEq, Repr

/-- One symbol at an absolute address. -/
structure SymbolRow where
  address : UInt64
  name : String
  kind : String
  scope : String
  size : Option UInt64
  demangled : Option String
  deriving DecidableEq, Repr

/-- One comment at an absolute address. -/
structure CommentRow where
  address : UInt64
  text : String
  deriving DecidableEq, Repr

/-- One source line at an absolute address. -/
structure LineRow where
  address : UInt64
  file : String
  line : UInt32
  deriving DecidableEq, Repr

/-- One recorded run as stored: the status is a word, the count a 64-bit word. -/
structure RunRow where
  debugFile : String
  debugFileHash : Option String
  backend : String
  backendVersion : Option String
  status : String
  messageCount : UInt64
  startedAt : String
  finishedAt : String
  deriving DecidableEq, Repr

/-! ## §2. Tables. -/

/-- The tables of a database. -/
inductive Table where
  | programInfo
  | memoryBlocks
  | options
  | dataTypes
  | symbols
  | comments
  | lineNumbers
  | loadRuns
  deriving DecidableEq, Repr

namespace Table

/-- Every table, sorted by stored name. -/
def all : List Table :=
  [comments, dataTypes, lineNumbers, memoryBlocks, options, loadRuns, programInfo, symbols]

/-- The name under which a table is stored. -/
def storedName : Table → String
  | programInfo => "program_info"
  | memoryBlocks => "memory_blocks"
  | options => "options"
  | dataTypes => "data_types"
  | symbols => "symbols"
  | comments => "comments"
  | lineNumbers => "line_numbers"
  | loadRuns => "pdb_load_runs"

end Table

/-- A program database.  An absent table is `none`. -/
structure Database where
  /-- The version of the schema that the database claims to have. -/
  version : Int
  /-- The table of attributes holds at most one row. -/
  programInfo : Option (Option ProgramRow)
  memoryBlocks : Option (List MemoryBlock)
  options : Option (List OptionRow)
  dataTypes : Option (List TypeRow)
  symbols : Option (List SymbolRow)
  comments : Option (List CommentRow)
  lineNumbers : Option (List LineRow)
  loadRuns : Option (List RunRow)
  /-- How many numbers were passed over in front of each symbol: a symbol that is offered
  again uses one up and adds no row.  Behind the end nothing was passed over. -/
  symbolSkips : List Nat
  deriving DecidableEq, Repr

namespace Database

/-- A database that was never opened: version zero and no tables. -/
def blank : Database :=
  ⟨0, none, none, none, none, none, none, none, none, []⟩

/-- Does the table exist? -/
def hasTable (db : Database) : Table → Bool
  | .programInfo => db.programInfo.isSome
  | .memoryBlocks => db.memoryBlocks.isSome
  | .options => db.options.isSome
  | .dataTypes => db.dataTypes.isSome
  | .symbols => db.symbols.isSome
  | .comments => db.comments.isSome
  | .lineNumbers => db.lineNumbers.isSome
  | .loadRuns => db.loadRuns.isSome

/-- Create the table without rows, unless it exists. -/
def createTable (db : Database) : Table → Database
  | .programInfo => { db with programInfo := db.programInfo <|> some none }
  | .memoryBlocks => { db with memoryBlocks := db.memoryBlocks <|> some [] }
  | .options => { db with options := db.options <|> some [] }
  | .dataTypes => { db with dataTypes := db.dataTypes <|> some [] }
  | .symbols => { db with symbols := db.symbols <|> some [] }
  | .comments => { db with comments := db.comments <|> some [] }
  | .lineNumbers => { db with lineNumbers := db.lineNumbers <|> some [] }
  | .loadRuns => { db with loadRuns := db.loadRuns <|> some [] }

/-- Remove the table with its rows; a new table of symbols numbers them from one again. -/
def dropTable (db : Database) : Table → Database
  | .programInfo => { db with programInfo := none }
  | .memoryBlocks => { db with memoryBlocks := none }
  | .options => { db with options := none }
  | .dataTypes => { db with dataTypes := none }
  | .symbols => { db with symbols := none, symbolSkips := [] }
  | .comments => { db with comments := none }
  | .lineNumbers => { db with lineNumbers := none }
  | .loadRuns => { db with loadRuns := none }

/-- The stored names of the tables that exist, sorted. -/
def tableNames (db : Database) : List String :=
  (Table.all.filter db.hasTable).map Table.storedName

end Database

/-! ## §3. Errors. -/

/-- What can go wrong with a database. -/
inductive StoreError where
  | missingTable (table : Table)
  /-- A recorded run whose status is no status. -/
  | unknownStatus (status : String)
  /-- The file is no database, or cannot be opened. -/
  | notOpened
  /-- A statement that breaks a constraint or is not understood. -/
  | badStatement
  | unsupportedVersion (found : Int)
  /-- A member list that cannot be read. -/
  | memberLayout (typeName : String)
  | missingProgramInfo
  deriving DecidableEq, Repr

/-- The newest schema version. -/
def currentVersion : Int := 4

/-- The explanation of an error. -/
def StoreError.message : StoreError → String
  | missingTable table => "SQLite error: no such table: " ++ table.storedName
  | unknownStatus status => "SQLite error: invalid status " ++ status
  | notOpened => "SQLite error: unable to open database file"
  | badStatement => "SQLite error: constraint failed"
  | unsupportedVersion found =>
      "Unsupported schema version " ++ toString found ++ "; supported range is 0..="
        ++ toString currentVersion
  | memberLayout name => "Corrupt member layout for data type '" ++ name ++ "': invalid list"
  | missingProgramInfo => "Program information has not been initialized"

/-- Is the error reported by the database engine itself? -/
def StoreError.isEngine : StoreError → Bool
  | missingTable _ | unknownStatus _ | notOpened | badStatement => true
  | _ => false

/-- The rows of a table, or its absence as an error. -/
def rowsOf {α : Type} (table : Table) (rows : Option α) : Except StoreError α :=
  match rows with
  | some rows => .ok rows
  | none => .error (.missingTable table)

/-! ## §4. The order of stored numbers. -/

/-- Stored numbers are compared as signed ones. -/
def signedLe (a b : UInt64) : Bool :=
  a.toInt64 ≤ b.toInt64

/-- Stored numbers are compared as signed ones. -/
def signedLt (a b : UInt64) : Bool :=
  a.toInt64 < b.toInt64

end DebugMerge
