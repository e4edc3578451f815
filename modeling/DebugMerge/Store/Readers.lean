/-
  DebugMerge.Store.Readers
  ────────────────────────
  **Reading a program database.**

  Every reader answers the rows of one table as values of the library, in the
  order of the table's listing, or says why it cannot.  Listings are sorted by
  the signed reading of addresses and by the code points of texts.

  Main definitions
    • `Database.info`, `.imageBase`, `.expectedIdentity`    — attributes
    • `Database.blocks`, `.optionsIn`                       — memory and options
    • `Database.listTypes`, `.listSymbols`, …, `.snapshot`  — the store
    • `Database.listRuns`                                   — the load history
-/
import DebugMerge.Json.Reader
import DebugMerge.Json.Writer
import DebugMerge.Store.Database

namespace DebugMerge

/-! ## §1. Recorded runs. -/

/-- How a recorded run ended. -/
inductive RunStatus where
  | succeeded
  | cancelled
  | failed
  deriving DecidableEq, Repr

namespace RunStatus

/-- The word for a status. -/
def word : RunStatus → String
  | succeeded => "succeeded"
  | cancelled => "cancelled"
  | failed => "failed"

/-- The status that a word names exactly. -/
def ofWord? (s : String) : Option RunStatus :=
  [succeeded, cancelled, failed].find? fun status => status.word = s

/-- The status that a word names in any case; one status has two spellings. -/
def parse (s : String) : Except String RunStatus :=
  let lowered := Text.lowerCase s
  if lowered = "canceled" then .ok cancelled
  else match ofWord? lowered with
    | some status => .ok status
    | none => .error ("unknown PDB load status '" ++ lowered ++ "'")

end RunStatus

/-- One run of the load history. -/
structure LoadRun where
  debugFile : String
  debugFileHash : Option String
  backend : String
  backendVersion : Option String
  status : RunStatus
  messageCount : UInt32
  startedAt : String
  finishedAt : String
  deriving DecidableEq, Repr

namespace LoadRun

/-- The row that stores a run. -/
def toRow (run : LoadRun) : RunRow :=
  ⟨run.debugFile, run.debugFileHash, run.backend, run.backendVersion, run.status.word,
    run.messageCount.toUInt64, run.startedAt, run.finishedAt⟩

/-- The run that a row stores; the count is cut to 32 bits. -/
def ofRow (row : RunRow) : Except StoreError LoadRun :=
  match RunStatus.parse row.status with
  | .error _ => .error (.unknownStatus row.status)
  | .ok status =>
      .ok ⟨row.debugFile, row.debugFileHash, row.backend, row.backendVersion, status,
        row.messageCount.toUInt32, row.startedAt, row.finishedAt⟩

end LoadRun

/-! ## §2. Rows as values. -/

/-- The attributes that a row stores.  A GUID wins over a signature and is made
normal again; numbers are cut to 32 bits; a missing age is zero. -/
def ProgramRow.toInfo (row : ProgramRow) : ProgramInfo :=
  let uniqueId : Option UniqueId :=
    match row.guid, row.signature with
    | some g, _ => some (.ofGuid g)
    | none, some s => some (.signature s.toUInt32)
    | none, none => none
  { name := row.name
    imageBase := row.imageBase
    expected := uniqueId.map fun uniqueId =>
      { uniqueId, age := (row.age.getD 0).toUInt32, file := row.file } }

/-- The row that stores attributes. -/
def ProgramInfo.toRow (info : ProgramInfo) : ProgramRow :=
  match info.expected with
  | none => ⟨info.name, info.imageBase, none, none, none, none⟩
  | some identity =>
      let (guid, signature) : Option String × Option UInt64 :=
        match identity.uniqueId with
        | .guid g => (some g, none)
        | .signature s => (none, some s.toUInt64)
      ⟨info.name, info.imageBase, guid, signature, some identity.age.toUInt64, identity.file⟩

/-- The JSON text of a member list. -/
def encodeMembers (members : List Member) : String :=
  (Json.list (members.map Member.toJson)).compact

/-- The member list of a JSON text. -/
def decodeMembers? (s : String) : Option (List Member) := do
  Json.list? Member.ofJson? (← Json.parse? s)

/-- The row that stores a data type. -/
def TypeRecord.toRow (record : TypeRecord) : TypeRow :=
  ⟨record.name, record.kind.word, record.size, encodeMembers record.members⟩

/-- The data type that a row stores; an unknown kind is a struct. -/
def TypeRow.toRecord (row : TypeRow) : Except StoreError TypeRecord :=
  match decodeMembers? row.members with
  | none => .error (.memberLayout row.name)
  | some members => .ok ⟨row.name, (TypeKind.ofWord? row.kind).getD .struct, row.size, members⟩

/-! ## §3. Orders of the listings. -/

/-- Data types are listed by name. -/
def TypeRow.listLe (a b : TypeRow) : Bool :=
  a.name ≤ b.name

/-- Symbols are listed by address, then by name. -/
def SymbolRow.listLe (a b : SymbolRow) : Bool :=
  signedLt a.address b.address || (a.address == b.address && a.name ≤ b.name)

/-- Comments are listed by address, then by text. -/
def CommentRow.listLe (a b : CommentRow) : Bool :=
  signedLt a.address b.address || (a.address == b.address && a.text ≤ b.text)

/-- Lines are listed by address, then by file, then by number. -/
def LineRow.listLe (a b : LineRow) : Bool :=
  signedLt a.address b.address
    || (a.address == b.address
        && (decide (a.file < b.file) || (a.file == b.file && a.line ≤ b.line)))

/-- Blocks are listed by start. -/
def MemoryBlock.listLe (a b : MemoryBlock) : Bool :=
  signedLe a.start b.start

/-! ## §4. Snapshots of the store. -/

/-- The type and symbol store as one value. -/
structure Snapshot where
  types : List TypeRecord
  symbols : List SymbolRow
  comments : List CommentRow
  lines : List LineRow
  deriving DecidableEq, Repr

namespace Snapshot

/-- Does the store hold nothing? -/
def isEmpty (s : Snapshot) : Bool :=
  s.types.isEmpty && s.symbols.isEmpty && s.comments.isEmpty && s.lines.isEmpty

/-- Is every row of `earlier` still here?  Symbols are compared by address and name,
everything else entirely. -/
def isSupersetOf (later earlier : Snapshot) : Bool :=
  earlier.types.all later.types.contains
    && earlier.symbols.all (fun s =>
        later.symbols.any fun o => o.address == s.address && o.name == s.name)
    && earlier.comments.all later.comments.contains
    && earlier.lines.all later.lines.contains

end Snapshot

/-! ## §5. Readers. -/

namespace Database

/-- The attributes, if they were recorded. -/
def info (db : Database) : Except StoreError (Option ProgramInfo) := do
  let row ← rowsOf .programInfo db.programInfo
  return row.map ProgramRow.toInfo

/-- The image base. -/
def imageBase (db : Database) : Except StoreError UInt64 := do
  match ← db.info with
  | some info => return info.imageBase
  | none => throw .missingProgramInfo

/-- The identity that the program expects. -/
def expectedIdentity (db : Database) : Except StoreError (Option Identity) := do
  let info ← db.info
  return info.bind (·.expected)

/-- The memory blocks. -/
def blocks (db : Database) : Except StoreError (List MemoryBlock) := do
  let rows ← rowsOf .memoryBlocks db.memoryBlocks
  return rows.mergeSort MemoryBlock.listLe

/-- The options of one category. -/
def optionsIn (db : Database) (category : String) : Except StoreError ProgramOptions := do
  let rows ← rowsOf .options db.options
  let chosen := rows.filter fun row => row.category = category
  return ⟨category, chosen.foldl (fun values row => ProgramOptions.insert row.name row.value values) []⟩

/-- Read every row as a data type. -/
def readTypes : List TypeRow → Except StoreError (List TypeRecord)
  | [] => .ok []
  | row :: rest => do
      let record ← row.toRecord
      let records ← readTypes rest
      return record :: records

/-- The data types. -/
def listTypes (db : Database) : Except StoreError (List TypeRecord) := do
  let rows ← rowsOf .dataTypes db.dataTypes
  readTypes (rows.mergeSort TypeRow.listLe)

/-- The symbols. -/
def listSymbols (db : Database) : Except StoreError (List SymbolRow) := do
  let rows ← rowsOf .symbols db.symbols
  return rows.mergeSort SymbolRow.listLe

/-- The comments. -/
def listComments (db : Database) : Except StoreError (List CommentRow) := do
  let rows ← rowsOf .comments db.comments
  return rows.mergeSort CommentRow.listLe

/-- The source lines. -/
def listLines (db : Database) : Except StoreError (List LineRow) := do
  let rows ← rowsOf .lineNumbers db.lineNumbers
  return rows.mergeSort LineRow.listLe

/-- The whole type and symbol store. -/
def snapshot (db : Database) : Except StoreError Snapshot := do
  let types ← db.listTypes
  let symbols ← db.listSymbols
  let comments ← db.listComments
  let lines ← db.listLines
  return ⟨types, symbols, comments, lines⟩

/-- Read every row as a run. -/
def readRuns : List RunRow → Except StoreError (List LoadRun)
  | [] => .ok []
  | row :: rest => do
      let run ← LoadRun.ofRow row
      let runs ← readRuns rest
      return run :: runs

/-- The load history, oldest first. -/
def listRuns (db : Database) : Except StoreError (List LoadRun) := do
  let rows ← rowsOf .loadRuns db.loadRuns
  readRuns rows

end Database

end DebugMerge
