/-
  DebugMerge.Store.Transaction
  ────────────────────────────
  **Writing to a program database.**

  A write takes a database and answers the changed one, so a transaction that is
  not committed simply forgets its result.  Offering a record that is already
  present changes nothing.  Data types of one name are merged: an incomplete
  definition gives way to a complete one, and definitions that disagree are a
  conflict.

  Main definitions
    • `Database.recordProgram`, `.setOption`, `.insertRun`        — attributes, options, history
    • `TypeInsert`, `Database.upsertType`                      — merging data types
    • `Database.addSymbol`, `.addLine`, `.addComment`          — adding rows
    • `Database.pendingSymbols`, `.setDemangled`               — demangled names
-/
import DebugMerge.Store.Readers

namespace DebugMerge

/-! ## §1. Attributes, options, history. -/

namespace Database

/-- Record the attributes of the program and replace its memory blocks. -/
def recordProgram (db : Database) (info : ProgramInfo) (blocks : List MemoryBlock) :
    Except StoreError Database := do
  let _ ← rowsOf .programInfo db.programInfo
  let _ ← rowsOf .memoryBlocks db.memoryBlocks
  return { db with programInfo := some (some info.toRow), memoryBlocks := some blocks }

/-- Set an option. -/
def setOption (db : Database) (category name value : String) : Except StoreError Database := do
  let rows ← rowsOf .options db.options
  let others := rows.filter fun row => ¬ (row.category = category ∧ row.name = name)
  return { db with options := some (others ++ [⟨category, name, value⟩]) }

/-- Append a run to the history; answers its number, which counts from one. -/
def insertRun (db : Database) (run : LoadRun) : Except StoreError (Database × Nat) := do
  let rows ← rowsOf .loadRuns db.loadRuns
  return ({ db with loadRuns := some (rows ++ [run.toRow]) }, rows.length + 1)

end Database

/-! ## §2. Merging data types. -/

/-- What became of an offered data type. -/
inductive TypeInsert where
  | added
  /-- The same definition, or a more complete one, is present. -/
  | existing
  /-- An incomplete definition was completed. -/
  | replaced
  | conflict (stored : TypeRecord)
  deriving DecidableEq, Repr

/-- Does `record` say no more than a definition of its name, kind and `size` would? -/
def TypeRecord.yieldsTo (record : TypeRecord) (size : UInt64) : Bool :=
  record.isPlaceholder || (record.size == size && record.members.isEmpty)

/-- Decide between a stored definition and an offered one of the same name. -/
def TypeRecord.merge (stored offered : TypeRecord) : TypeInsert :=
  if stored = offered then .existing
  else if stored.kind ≠ offered.kind then .conflict stored
  else if offered.yieldsTo stored.size then .existing
  else if stored.yieldsTo offered.size then .replaced
  else .conflict stored

/-- The row with the size and members of a completed definition. -/
def TypeRow.complete (record : TypeRecord) (row : TypeRow) : TypeRow :=
  { row with size := record.size, members := encodeMembers record.members }

namespace Database

/-- Offer a data type. -/
def upsertType (db : Database) (record : TypeRecord) : Except StoreError (Database × TypeInsert) := do
  let rows ← rowsOf .dataTypes db.dataTypes
  match rows.find? fun row => row.name = record.name with
  | none => return ({ db with dataTypes := some (rows ++ [record.toRow]) }, .added)
  | some row =>
      let stored ← row.toRecord
      match stored.merge record with
      | .replaced =>
          let rows := rows.map fun row => if row.name = record.name then row.complete record else row
          return ({ db with dataTypes := some rows }, .replaced)
      | verdict => return (db, verdict)

/-! ## §3. Adding rows. -/

/-- Append a row unless `same` finds it; answers whether it was new. -/
def appendNew {α : Type} (same : α → Bool) (row : α) (rows : List α) : List α × Bool :=
  if rows.any same then (rows, false) else (rows ++ [row], true)

/-- One more number is passed over in front of a place. -/
def passOver : Nat → List Nat → List Nat
  | 0, [] => [1]
  | 0, skipped :: rest => (skipped + 1) :: rest
  | place + 1, [] => 0 :: passOver place []
  | place + 1, skipped :: rest => skipped :: passOver place rest

/-- Place a symbol; an address holds each name once.  A number is used up in any case. -/
def addSymbol (db : Database) (address : UInt64) (record : SymbolRecord) :
    Except StoreError (Database × Bool) := do
  let rows ← rowsOf .symbols db.symbols
  let row : SymbolRow :=
    ⟨address, record.name, record.kind.word, record.scope.word, record.size, none⟩
  match appendNew (fun r => r.address == address && r.name == record.name) row rows with
  | (rows, true) => return ({ db with symbols := some rows }, true)
  | (_, false) => return ({ db with symbolSkips := passOver rows.length db.symbolSkips }, false)

/-- Place a source line. -/
def addLine (db : Database) (address : UInt64) (file : String) (line : UInt32) :
    Except StoreError (Database × Bool) := do
  let rows ← rowsOf .lineNumbers db.lineNumbers
  let row : LineRow := ⟨address, file, line⟩
  let (rows, isNew) := appendNew (· == row) row rows
  return ({ db with lineNumbers := some rows }, isNew)

/-- Place a comment. -/
def addComment (db : Database) (address : UInt64) (text : String) :
    Except StoreError (Database × Bool) := do
  let rows ← rowsOf .comments db.comments
  let row : CommentRow := ⟨address, text⟩
  let (rows, isNew) := appendNew (· == row) row rows
  return ({ db with comments := some rows }, isNew)

/-! ## §4. Demangled names. -/

/-- Is the symbol without a demangled name and, read as signed numbers, in `[start, stop)`? -/
def isPending (start stop : UInt64) (row : SymbolRow) : Bool :=
  row.demangled.isNone && signedLe start row.address && signedLt row.address stop

/-- Symbols with the numbers under which they were stored: each one has the number behind
`last` and behind those that were passed over in front of it. -/
def numbered (last : Nat) (skips : List Nat) : List SymbolRow → List (Nat × SymbolRow)
  | [] => []
  | row :: rest =>
      let number := last + skips.headD 0 + 1
      (number, row) :: numbered number skips.tail rest

/-- The symbols in `[start, stop)` that have no demangled name, with their numbers. -/
def pendingSymbols (db : Database) (start stop : UInt64) :
    Except StoreError (List (Nat × String)) := do
  let rows ← rowsOf .symbols db.symbols
  let pending := (numbered 0 db.symbolSkips rows).filter fun (_, row) => isPending start stop row
  let sorted := pending.mergeSort fun a b => SymbolRow.listLe a.2 b.2
  return sorted.map fun (number, row) => (number, row.name)

/-- Give the symbol with the given number a demangled name; a number that no symbol has
changes nothing. -/
def setDemangled (db : Database) (number : Int) (name : String) : Except StoreError Database := do
  let rows ← rowsOf .symbols db.symbols
  let rows := (numbered 0 db.symbolSkips rows).map fun (n, row) =>
    if ↑n = number then { row with demangled := some name } else row
  return { db with symbols := some rows }

end Database

end DebugMerge
