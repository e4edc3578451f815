/-
  DebugMerge.Command.Program
  ──────────────────────────
  **Commands about the program as a whole.**

  A new project records the attributes of its program: what the command line
  gives wins over what an executable says.  The other commands show what is
  recorded and set options.

  Main definitions
    • `InitChoices.expected`, `newProgram`  — the attributes of a new program
    • `initProgram`, `programInfo`, `setOption` — the commands
-/
import DebugMerge.Command.Request
import DebugMerge.Command.Session
import DebugMerge.Pe.Import
import DebugMerge.Store.Transaction

namespace DebugMerge.Command

/-! ## §1. The attributes of a new program. -/

/-- The age of an identity that is given without one. -/
def defaultAge : UInt32 := 1

/-- The refusal of two unique ids. -/
def twoIds : CommandError :=
  .plain "Use either --pdb-guid or --pdb-signature, not both"

/-- The identity that the command line gives. -/
def expectedOf (c : InitChoices) : Except CommandError (Option Identity) :=
  let age := c.age.getD defaultAge
  let named (identity : Identity) : Identity :=
    match c.file with
    | some file => identity.withFile file
    | none => identity
  match c.guid, c.signature with
  | some _, some _ => .error twoIds
  | some guid, none => .ok (some (named (.ofGuid guid age)))
  | none, some signature => .ok (some (named (.ofSignature signature age)))
  | none, none => .ok none

/-- What an executable says about its program; without one a program has a name only. -/
def declared (files : Files) (root : String) (name : Option String) (c : InitChoices) :
    Except CommandError Pe.ImportedProgram :=
  match c.executable with
  | none => .ok ⟨⟨name.getD (inferName root), 0, none⟩, []⟩
  | some path =>
      match Pe.importFile files path with
      | .ok program => .ok program
      | .error e => .error ⟨"Failed to import executable " ++ path, some e.message⟩

/-- The attributes and blocks of a new program. -/
def newProgram (files : Files) (root : String) (name : Option String) (c : InitChoices) :
    Except CommandError Pe.ImportedProgram := do
  let ⟨info, blocks⟩ ← declared files root name c
  let info := { info with name := name.getD info.name }
  let (info, blocks) ← match c.imageBase with
    | none => pure (info, blocks)
    | some base =>
        match rebaseAll info.imageBase base blocks with
        | .ok moved => pure ({ info with imageBase := base }, moved)
        | .error e => throw (.plain e.message)
  let blocks := if c.blocks.isEmpty then blocks else c.blocks
  let expected ← expectedOf c
  return ⟨{ info with expected := expected <|> info.expected }, blocks⟩

/-! ## §2. A new project. -/

/-- Show an expected identity. -/
def expectedLine (expected : Option Identity) : String :=
  match expected with
  | some identity =>
      "  Expected PDB: " ++ identity.uniqueId.label ++ " (age "
        ++ Text.decimal identity.age.toNat ++ ")"
  | none => "  Expected PDB: (none)"

/-- Make a new project. -/
def initProgram (rootText : String) (name : Option String) (c : InitChoices) : Action Unit := do
  let root := resolveRoot (← get).files rootText
  let layout := Layout.ofRoot root
  if (← get).files.exists layout.config then
    throw (.plain ("Program already initialized at " ++ layout.config))
  let ⟨info, blocks⟩ ← orFail id (newProgram (← get).files root name c)
  withFiles (fun (e : IoError) => ⟨"Failed to create meta dir: " ++ layout.metaDir, some e.message⟩)
    fun files => files.makeDirectories layout.metaDir
  withFiles (fun (e : IoError) =>
      ⟨"Failed to create reports dir: " ++ layout.reports, some e.message⟩)
    fun files => files.makeDirectories layout.reports
  withFiles .ofProject fun files =>
    saveConfig files layout (.new info.name layout.storedDatabase)
  let (files, db) ← orFail (fun (e : StoreError) =>
      ⟨"Failed to open program database at " ++ layout.database, some e.message⟩)
    ((← get).files.openDatabase layout.database)
  modify fun s => { s with files }
  let db ← orFail (fun (e : StoreError) =>
      ⟨"Failed to record program attributes", some e.message⟩)
    (db.recordProgram info blocks)
  modify fun s => { s with files := s.files.saveDatabase layout.database db }
  print ("Initialized program '" ++ info.name ++ "' at " ++ root)
  print ("  Image base: 0x" ++ Text.hexUpper info.imageBase.toNat)
  print ("  Memory blocks: " ++ Text.decimal blocks.length)
  print (expectedLine info.expected)

/-! ## §3. What is recorded. -/

/-- Everything that is shown about a program. -/
structure Summary where
  project : Project
  root : String
  info : Option ProgramInfo
  blocks : List MemoryBlock
  snapshot : Snapshot
  runs : List LoadRun

/-- Read what is shown about a program. -/
def summarize (project : Project) (root : String) : Except StoreError Summary := do
  let db := project.program.db
  return ⟨project, root, ← db.info, ← db.blocks, ← db.snapshot, ← db.listRuns⟩

namespace Summary

open Json

/-- The numbers of rows, by what they are rows of. -/
def counts (s : Summary) : List (String × Nat) :=
  [("types", s.snapshot.types.length), ("symbols", s.snapshot.symbols.length),
    ("comments", s.snapshot.comments.length), ("lines", s.snapshot.lines.length),
    ("load_runs", s.runs.length)]

/-- A summary as JSON. -/
def toJson (s : Summary) : Json :=
  object [("name", text s.project.config.name), ("root", text s.root),
    ("config_file", text s.project.layout.config),
    ("config_version", text s.project.config.formatVersion),
    ("db_path", text s.project.database), ("reports_dir", text s.project.layout.reports),
    ("program", ofOption ProgramInfo.toJson s.info),
    ("memory_blocks", list (s.blocks.map MemoryBlock.toJson)),
    ("load", s.project.config.load.toJson),
    ("counts", object (s.counts.map fun (name, n) => (name, natural n)))]

/-- The lines about the recorded attributes. -/
def infoLines (s : Summary) : List String :=
  match s.info with
  | none => ["  Program attributes: (not recorded)"]
  | some info =>
      ["  Image base: 0x" ++ Text.hexUpper info.imageBase.toNat,
        match info.expected with
        | some identity => expectedLine info.expected ++ " " ++ identity.file.getD ""
        | none => expectedLine none]

/-- The line about a memory block. -/
def blockLine (block : MemoryBlock) : String :=
  "    " ++ Text.padRight 10 block.name ++ " 0x" ++ Text.hexUpper block.start.toNat ++ "-0x"
    ++ Text.hexUpper block.stop.toNat

/-- The line about the numbers of rows. -/
def storeLine (s : Summary) : String :=
  "  Store: " ++ Text.decimal s.snapshot.types.length ++ " types, "
    ++ Text.decimal s.snapshot.symbols.length ++ " symbols, "
    ++ Text.decimal s.snapshot.comments.length ++ " comments, "
    ++ Text.decimal s.snapshot.lines.length ++ " lines; "
    ++ Text.decimal s.runs.length ++ " load runs"

/-- A summary as lines.  `hasReports` says whether the directory of reports is there. -/
def lines (s : Summary) (hasReports : Bool) : List String :=
  ["Program: " ++ s.project.config.name,
   "  Root: " ++ s.root,
   "  Config: " ++ s.project.layout.config ++ " (version " ++ s.project.config.formatVersion ++ ")",
   "  Database: " ++ s.project.database,
   "  Reports: " ++ (if hasReports then "OK" else "MISSING") ++ " (" ++ s.project.layout.reports
     ++ ")"]
  ++ s.infoLines
  ++ ["  Memory blocks:"]
  ++ s.blocks.map blockLine
  ++ ["  Load backend: " ++ s.project.config.load.backend.word, s.storeLine]

end Summary

/-- Show what is recorded about a program. -/
def programInfo (rootText : String) (asJson : Bool) : Action Unit := do
  let root := resolveRoot (← get).files rootText
  let project ← openAt rootText
  let summary ← orFail .ofStore (summarize project root)
  if asJson then print summary.toJson.pretty
  else (summary.lines ((← get).files.isDirectory project.layout.reports)).forM print

/-! ## §4. Options. -/

/-- Set an option of the program. -/
def setOption (root category name value : String) : Action Unit := do
  let project ← openAt root
  let db ← orFail (fun (e : StoreError) =>
      ⟨"Failed to set option " ++ category ++ "/" ++ name, some e.message⟩)
    (project.program.db.setOption category name value)
  modify fun s => { s with files := s.files.saveDatabase project.database db }
  print ("Set " ++ category ++ " / " ++ name ++ " = " ++ value)

end DebugMerge.Command
