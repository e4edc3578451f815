/-
  DebugMerge.Store.Archive
  ────────────────────────
  **Program databases as files.**

  A stored database starts with two bytes that no text starts with, so that no
  other reader takes it for a document of its own.  Behind them stands one JSON
  document with a field for every table; an absent table is null.

  Main definitions
    • `Database.toJson`, `Database.ofJson?`   — the document
    • `Archive.bytes`, `Archive.read?`        — the file
-/
import DebugMerge.Store.Format
import DebugMerge.Files.Tree
import DebugMerge.Json.Reader
import DebugMerge.Json.Writer

namespace DebugMerge

open Json

/-! ## §1. Rows. -/

namespace ProgramRow

/-- The stored attributes as JSON. -/
def toJson (row : ProgramRow) : Json :=
  object [("name", text row.name), ("image_base", ofWord64 row.imageBase),
    ("guid", ofOption text row.guid), ("signature", ofOption ofWord64 row.signature),
    ("age", ofOption ofWord64 row.age), ("file", ofOption text row.file)]

/-- Read stored attributes. -/
def ofJson? (v : Json) : Option ProgramRow := do
  match ← slots? ["name", "image_base", "guid", "signature", "age", "file"] v with
  | [name, imageBase, guid, signature, age, file] =>
      return {
        name := ← name.required text?
        imageBase := ← imageBase.required word64?
        guid := ← guid.nullable text?
        signature := ← signature.nullable word64?
        age := ← age.nullable word64?
        file := ← file.nullable text? }
  | _ => none

end ProgramRow

namespace OptionRow

/-- A stored option as JSON. -/
def toJson (row : OptionRow) : Json :=
  object [("category", text row.category), ("name", text row.name), ("value", text row.value)]

/-- Read a stored option. -/
def ofJson? (v : Json) : Option OptionRow := do
  match ← slots? ["category", "name", "value"] v with
  | [category, name, value] =>
      return {
        category := ← category.required text?
        name := ← name.required text?
        value := ← value.required text? }
  | _ => none

end OptionRow

namespace TypeRow

/-- A stored type as JSON. -/
def toJson (row : TypeRow) : Json :=
  object [("name", text row.name), ("kind", text row.kind), ("size", ofWord64 row.size),
    ("members", text row.members)]

/-- Read a stored type. -/
def ofJson? (v : Json) : Option TypeRow := do
  match ← slots? ["name", "kind", "size", "members"] v with
  | [name, kind, size, members] =>
      return {
        name := ← name.required text?
        kind := ← kind.required text?
        size := ← size.required word64?
        members := ← members.required text? }
  | _ => none

end TypeRow

namespace RunRow

/-- A stored run as JSON. -/
def toJson (row : RunRow) : Json :=
  object [("debug_file", text row.debugFile), ("debug_file_hash", ofOption text row.debugFileHash),
    ("backend", text row.backend), ("backend_version", ofOption text row.backendVersion),
    ("status", text row.status), ("message_count", ofWord64 row.messageCount),
    ("started_at", text row.startedAt), ("finished_at", text row.finishedAt)]

/-- Read a stored run. -/
def ofJson? (v : Json) : Option RunRow := do
  match ← slots? ["debug_file", "debug_file_hash", "backend", "backend_version", "status",
      "message_count", "started_at", "finished_at"] v with
  | [debugFile, debugFileHash, backend, backendVersion, status, messageCount, startedAt,
      finishedAt] =>
      return {
        debugFile := ← debugFile.required text?
        debugFileHash := ← debugFileHash.nullable text?
        backend := ← backend.required text?
        backendVersion := ← backendVersion.nullable text?
        status := ← status.required text?
        messageCount := ← messageCount.required word64?
        startedAt := ← startedAt.required text?
        finishedAt := ← finishedAt.required text? }
  | _ => none

end RunRow

/-! ## §2. Databases. -/

namespace Database

/-- A schema version as JSON. -/
def versionJson : Int → Json
  | .ofNat n => natural n
  | .negSucc n => negative n

/-- Read a schema version. -/
def version? : Json → Option Int
  | natural n => some n
  | negative n => some (Int.negSucc n)
  | _ => none

/-- The rows of a table as JSON. -/
def tableJson {α : Type} (write : α → Json) : Option (List α) → Json :=
  ofOption fun rows => list (rows.map write)

/-- A database as JSON.  The attributes are a table of at most one row. -/
def toJson (db : Database) : Json :=
  object [("version", versionJson db.version),
    ("program_info", tableJson ProgramRow.toJson (db.programInfo.map Option.toList)),
    ("memory_blocks", tableJson MemoryBlock.toJson db.memoryBlocks),
    ("options", tableJson OptionRow.toJson db.options),
    ("data_types", tableJson TypeRow.toJson db.dataTypes),
    ("symbols", tableJson SymbolRow.toJson db.symbols),
    ("comments", tableJson CommentRow.toJson db.comments),
    ("line_numbers", tableJson LineRow.toJson db.lineNumbers),
    ("load_runs", tableJson RunRow.toJson db.loadRuns),
    ("symbol_skips", list (db.symbolSkips.map natural))]

/-- Read a database. -/
def ofJson? (v : Json) : Option Database := do
  match ← slots? ["version", "program_info", "memory_blocks", "options", "data_types", "symbols",
      "comments", "line_numbers", "load_runs", "symbol_skips"] v with
  | [version, programInfo, memoryBlocks, options, dataTypes, symbols, comments, lineNumbers,
      loadRuns, symbolSkips] =>
      return {
        version := ← version.required version?
        programInfo := (← programInfo.nullable (list? ProgramRow.ofJson?)).map List.head?
        memoryBlocks := ← memoryBlocks.nullable (list? MemoryBlock.ofJson?)
        options := ← options.nullable (list? OptionRow.ofJson?)
        dataTypes := ← dataTypes.nullable (list? TypeRow.ofJson?)
        symbols := ← symbols.nullable (list? SymbolRow.ofJson?)
        comments := ← comments.nullable (list? CommentRow.ofJson?)
        lineNumbers := ← lineNumbers.nullable (list? LineRow.ofJson?)
        loadRuns := ← loadRuns.nullable (list? RunRow.ofJson?)
        symbolSkips := ← symbolSkips.required (list? count?) }
  | _ => none

end Database

/-! ## §3. Files. -/

namespace Archive

/-- The bytes of the file of a database. -/
def bytes (db : Database) : List UInt8 :=
  Files.databaseMark ++ (Text.Utf8.encode db.toJson.compact).toList

/-- The database in a file. -/
def read? (content : List UInt8) : Option Database :=
  if Files.databaseMark.isPrefixOf content then do
    let document ← Text.Utf8.decode? ⟨(content.drop Files.databaseMark.length).toArray⟩
    (Json.parse? document).bind Database.ofJson?
  else none

/-- The entry for a file with the given bytes.  A text that starts like a script may
be executed. -/
def entry (content : List UInt8) : Entry :=
  match read? content with
  | some db => .database db
  | none => .file content ([0x23, 0x21].isPrefixOf content)

end Archive

end DebugMerge
