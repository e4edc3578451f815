/-
  DebugMerge.Store.Format
  ───────────────────────
  **Rows, snapshots and recorded runs as JSON documents.**

  Main definitions
    • `toJson`, `ofJson?` of rows, of `Snapshot` and of `LoadRun`
-/
import DebugMerge.Store.Readers

namespace DebugMerge

open Json

/-! ## §1. Rows. -/

namespace SymbolRow

/-- A stored symbol as JSON. -/
def toJson (row : SymbolRow) : Json :=
  object [("address", ofWord64 row.address), ("name", text row.name), ("kind", text row.kind),
    ("scope", text row.scope), ("size", ofOption ofWord64 row.size),
    ("demangled", ofOption text row.demangled)]

/-- Read a stored symbol. -/
def ofJson? (v : Json) : Option SymbolRow := do
  match ← slots? ["address", "name", "kind", "scope", "size", "demangled"] v with
  | [address, name, kind, scope, size, demangled] =>
      return {
        address := ← address.required word64?
        name := ← name.required text?
        kind := ← kind.required text?
        scope := ← scope.required text?
        size := ← size.nullable word64?
        demangled := ← demangled.nullable text? }
  | _ => none

end SymbolRow

namespace CommentRow

/-- A stored comment as JSON. -/
def toJson (row : CommentRow) : Json :=
  object [("address", ofWord64 row.address), ("text", Json.text row.text)]

/-- Read a stored comment. -/
def ofJson? (v : Json) : Option CommentRow := do
  match ← slots? ["address", "text"] v with
  | [address, text] =>
      return {
        address := ← address.required word64?
        text := ← text.required text? }
  | _ => none

end CommentRow

namespace LineRow

/-- A stored source line as JSON. -/
def toJson (row : LineRow) : Json :=
  object [("address", ofWord64 row.address), ("file", text row.file), ("line", ofWord32 row.line)]

/-- Read a stored source line. -/
def ofJson? (v : Json) : Option LineRow := do
  match ← slots? ["address", "file", "line"] v with
  | [address, file, line] =>
      return {
        address := ← address.required word64?
        file := ← file.required text?
        line := ← line.required word32? }
  | _ => none

end LineRow

/-! ## §2. Snapshots. -/

namespace Snapshot

/-- A snapshot as JSON. -/
def toJson (s : Snapshot) : Json :=
  object [("types", list (s.types.map TypeRecord.toJson)),
    ("symbols", list (s.symbols.map SymbolRow.toJson)),
    ("comments", list (s.comments.map CommentRow.toJson)),
    ("lines", list (s.lines.map LineRow.toJson))]

/-- Read a snapshot. -/
def ofJson? (v : Json) : Option Snapshot := do
  match ← slots? ["types", "symbols", "comments", "lines"] v with
  | [types, symbols, comments, lines] =>
      return {
        types := ← types.required (list? TypeRecord.ofJson?)
        symbols := ← symbols.required (list? SymbolRow.ofJson?)
        comments := ← comments.required (list? CommentRow.ofJson?)
        lines := ← lines.required (list? LineRow.ofJson?) }
  | _ => none

end Snapshot

/-! ## §3. Recorded runs. -/

/-- A status as JSON. -/
def RunStatus.toJson (status : RunStatus) : Json := text status.word

/-- Read a status. -/
def RunStatus.ofJson? : Json → Option RunStatus := choice? RunStatus.ofWord?

namespace LoadRun

/-- A recorded run as JSON. -/
def toJson (run : LoadRun) : Json :=
  object [("debug_file", text run.debugFile), ("debug_file_hash", ofOption text run.debugFileHash),
    ("backend", text run.backend), ("backend_version", ofOption text run.backendVersion),
    ("status", run.status.toJson), ("message_count", ofWord32 run.messageCount),
    ("started_at", text run.startedAt), ("finished_at", text run.finishedAt)]

/-- Read a recorded run. -/
def ofJson? (v : Json) : Option LoadRun := do
  match ← slots? ["debug_file", "debug_file_hash", "backend", "backend_version", "status",
      "message_count", "started_at", "finished_at"] v with
  | [debugFile, debugFileHash, backend, backendVersion, status, messageCount, startedAt,
      finishedAt] =>
      return {
        debugFile := ← debugFile.required text?
        debugFileHash := ← debugFileHash.nullable text?
        backend := ← backend.required text?
        backendVersion := ← backendVersion.nullable text?
        status := ← status.required RunStatus.ofJson?
        messageCount := ← messageCount.required word32?
        startedAt := ← startedAt.required text?
        finishedAt := ← finishedAt.required text? }
  | _ => none

end LoadRun

end DebugMerge
