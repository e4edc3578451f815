/-
  DebugMerge.Dump.Tool
  ────────────────────
  **Dump tools.**

  A dump tool is an executable file that is asked for its version, for an
  identity or for a whole document.  It is named by the settings, or by an
  environment variable, or it is looked up by its standard name.  Another
  variable names a document that was dumped before, which then stands for the tool.

  What a program prints is up to the program: everything here is told for any
  programs, and `runProgram` runs those that are small shell scripts.

  Main definitions
    • `Surroundings`                     — files and environment variables
    • `Programs`, `runProgram`           — programs, and those that are scripts
    • `runTool`, `toolVersion`           — asking a tool
    • `DumpSource`                       — where documents come from
    • `DumpSource.readIdentity`, `.readInfo`, `.version`
-/
import DebugMerge.Dump.Document
import DebugMerge.Dump.Script

namespace DebugMerge

/-! ## §1. Surroundings. -/

/-- Files and environment variables. -/
structure Surroundings where
  files : Files
  environment : List (String × String)
  deriving DecidableEq

/-- The value of an environment variable. -/
def Surroundings.lookup (s : Surroundings) (name : String) : Option String :=
  (s.environment.find? fun v => v.1 = name).map (·.2)

/-- The variable that names the dump tool. -/
def toolVariable : String := "SYMBRIDGE_PDB_DUMP"

/-- The variable that names a document dumped before. -/
def documentVariable : String := "SYMBRIDGE_FAKE_PDB_DUMP"

/-- The standard name of the dump tool. -/
def standardTool : String := "pdb-dump"

/-! ## §2. Asking a tool. -/

/-- What programs answer: the name or path of each, and its arguments. -/
abbrev Programs : Type :=
  String → List String → Except IoError Script.Outcome

/-- Programs that are scripts.  A name without a slash is looked up among the installed
programs, where it is not. -/
def runProgram (files : Files) : Programs := fun path arguments =>
  if ¬ path.toList.contains '/' then .error .notFound
  else match files.get path with
    | .error e => .error e
    | .ok (_, .file bytes true) =>
        if bytes.take 2 = [0x23, 0x21] then
          .ok (Script.runScript files (Text.Utf8.lossy bytes) path arguments)
        else .error .execFormat
    | .ok _ => .error .permissionDenied

/-- The text that a tool prints when it is asked about a debug file. -/
def runTool (programs : Programs) (tool mode path : String) : Except LoadError String :=
  match programs tool [mode, path] with
  | .error e => .error (.toolUnavailable ("failed to spawn " ++ tool ++ ": " ++ e.message))
  | .ok outcome =>
      if outcome.status = 0 then .ok (Text.Utf8.lossy outcome.out)
      else .error (.malformed (tool ++ " " ++ mode ++ " exited with exit status: "
        ++ Text.decimal outcome.status ++ ": " ++ Text.trim (Text.Utf8.lossy outcome.errors)))

/-- The version that a tool prints, if it prints one. -/
def toolVersion (programs : Programs) (tool : String) : Option String :=
  match programs tool ["--version"] with
  | .error _ => none
  | .ok outcome =>
      let version := Text.trim (Text.Utf8.lossy outcome.out)
      if outcome.status = 0 ∧ version ≠ "" then some version else none

/-! ## §3. Documents. -/

/-- Where the documents of the legacy backend come from. -/
structure DumpSource where
  /-- The tool that the settings name. -/
  tool : Option String
  /-- A document that was dumped before. -/
  document : Option String
  deriving DecidableEq

namespace DumpSource

variable (programs : Programs)

/-- The tool that is asked. -/
def toolPath (source : DumpSource) (s : Surroundings) : String :=
  source.tool.getD ((s.lookup toolVariable).getD standardTool)

/-- The document that stands for the tool. -/
def documentPath? (source : DumpSource) (s : Surroundings) : Option String :=
  source.document <|> s.lookup documentVariable

/-- The document about a debug file. -/
def load (source : DumpSource) (s : Surroundings) (path : String) :
    Except LoadError DumpDocument := do
  let text ← match source.documentPath? s with
    | some document =>
        match s.files.readText document with
        | .ok text => pure text
        | .error e => throw (.io document e)
    | none => runTool programs (source.toolPath s) "--dump" path
  match DumpDocument.parse? text with
  | some document => return document
  | none => throw (.malformed "failed to parse dump tool JSON: invalid document")

/-- The version of the tool. -/
def version (source : DumpSource) (s : Surroundings) : Option String :=
  match source.documentPath? s with
  | some _ => some "pre-dumped"
  | none => toolVersion programs (source.toolPath s)

/-- The identity that a tool prints about a debug file. -/
def askIdentity (source : DumpSource) (s : Surroundings) (path : String) :
    Except LoadError DumpIdentity := do
  let text ← runTool programs (source.toolPath s) "--identity" path
  match (Json.parse? text).bind DumpIdentity.ofJson? with
  | some identity => return identity
  | none => throw (.malformed "failed to parse dump identity: invalid identity")

/-- The debug file must be there, although only the tool reads it. -/
def requireFile (s : Surroundings) (path : String) : Except LoadError Unit :=
  if s.files.isFile path then .ok () else .error (.missingFile path)

/-- The identity of a debug file. -/
def readIdentity (source : DumpSource) (s : Surroundings) (path : String) :
    Except LoadError Identity := do
  requireFile s path
  let raw ← match source.documentPath? s with
    | some _ => do
        let document ← source.load programs s path
        pure document.identity
    | none => source.askIdentity programs s path
  raw.toIdentity path

/-- The content of a debug file.  A request to stop is noticed only before the
document is loaded. -/
def readInfo (source : DumpSource) (s : Surroundings) (path : String) (wantsMembers isSet : Bool) :
    Except LoadError DebugInfo := do
  requireFile s path
  if isSet then throw .cancelled
  let document ← source.load programs s path
  return if wantsMembers then document.info else document.info.layoutOnly

end DumpSource

end DebugMerge
