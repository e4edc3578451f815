/-
  DebugMerge.Command.Listing
  ──────────────────────────
  **Listings: types, symbols, runs and backends.**

  Main definitions
    • `typeLines`, `symbolLine`, `runLine`, `backendLine`
    • `showListing`, `listBackends`         — the commands
-/
import DebugMerge.Command.Request
import DebugMerge.Command.Session
import DebugMerge.Load.Backend
import DebugMerge.Store.Format

namespace DebugMerge.Command

/-! ## §1. Lines. -/

/-- The line about a member of a type. -/
def memberLine (member : Member) : String :=
  "    +" ++ Text.padRight 6 (Text.decimal member.offset.toNat) ++ " " ++ member.name
    ++ (if member.typeName.isEmpty then "" else ": " ++ member.typeName)

/-- The lines about a type. -/
def typeLines (record : TypeRecord) : List String :=
  let layout := if record.isPlaceholder then " (placeholder)"
    else " size=" ++ Text.decimal record.size.toNat
  ("- " ++ record.kind.word ++ " " ++ record.name ++ layout) :: record.members.map memberLine

/-- The line about a symbol. -/
def symbolLine (row : SymbolRow) : String :=
  "- 0x" ++ Text.hexUpper row.address.toNat ++ " " ++ Text.padRight 8 row.kind ++ " "
    ++ Text.padRight 6 row.scope ++ " " ++ row.name
    ++ (match row.demangled with
      | some readable => " => " ++ readable
      | none => "")

/-- The line about a run. -/
def runLine (run : LoadRun) : String :=
  "- " ++ run.debugFile ++ " [" ++ run.status.word ++ "] via " ++ run.backend
    ++ (match run.backendVersion with
      | some version => " " ++ version
      | none => "")
    ++ " (" ++ Text.decimal run.messageCount.toNat ++ " messages, " ++ run.startedAt ++ " -> "
    ++ run.finishedAt ++ ")"

/-- The lines of a listing under a title. -/
def titled (title : String) (lines : List String) : List String :=
  if lines.isEmpty then [title ++ ": (none)"] else (title ++ ":") :: lines

/-! ## §2. Listings of a program. -/

/-- What a listing shows: the JSON of its rows, and its lines. -/
structure Content where
  rows : List Json
  lines : List String

/-- The content of a listing. -/
def contentOf (db : Database) : Listing → Except StoreError Content
  | .types => do
      let types ← db.listTypes
      return ⟨types.map TypeRecord.toJson, titled "Types" (types.flatMap typeLines)⟩
  | .symbols => do
      let symbols ← db.listSymbols
      return ⟨symbols.map SymbolRow.toJson, titled "Symbols" (symbols.map symbolLine)⟩
  | .runs => do
      let runs ← db.listRuns
      return ⟨runs.map LoadRun.toJson, titled "PDB load runs" (runs.map runLine)⟩

/-- List something of a program. -/
def showListing (what : Listing) (root : String) (asJson : Bool) : Action Unit := do
  let project ← openAt root
  let content ← orFail .ofStore (contentOf project.program.db what)
  if asJson then print (Json.list content.rows).pretty else content.lines.forM print

/-! ## §3. Backends. -/

/-- What a backend is. -/
def describeBackend : BackendChoice → String
  | .legacyInterop =>
      "External dump tool emitting JSON (--dump-tool, " ++ toolVariable ++ ", or " ++ standardTool
        ++ " on PATH)"
  | .universalReader => "Built-in MSF/PDB reader; runs on any host"

/-- Is the backend chosen if nothing is said? -/
def isDefaultBackend (choice : BackendChoice) : Bool :=
  choice == LoadSettings.standard.backend

/-- A backend as JSON. -/
def backendJson (s : Surroundings) (choice : BackendChoice) : Json :=
  .object [("name", .text choice.word), ("description", .text (describeBackend choice)),
    ("version", Json.ofOption .text (choice.backend none s).version),
    ("default", .bool (isDefaultBackend choice))]

/-- The line about a backend. -/
def backendLine (s : Surroundings) (choice : BackendChoice) : String :=
  "- " ++ choice.word ++ (if isDefaultBackend choice then " (default)" else "") ++ ": "
    ++ describeBackend choice ++ " [" ++ (choice.backend none s).version.getD "unavailable" ++ "]"

/-- List the backends. -/
def listBackends (environment : List (String × String)) (asJson : Bool) : Action Unit := do
  let s : Surroundings := ⟨(← get).files, environment⟩
  if asJson then print (Json.list (BackendChoice.all.map (backendJson s))).pretty
  else ("Backends:" :: BackendChoice.all.map (backendLine s)).forM print

end DebugMerge.Command
