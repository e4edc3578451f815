/-
  DebugMerge.Load.Backend
  ───────────────────────
  **Backends: two ways to read a debug file.**

  A backend answers the identity and the content of a debug file.  One asks an
  external tool, the other reads the file itself.  What a backend read is merged
  by the backend's `merge`, which forgets everything if a step fails.

  Main definitions
    • `Backend`                          — what every backend answers
    • `readerBackend`, `dumpBackendWith` — the two backends
    • `BackendChoice.backend`            — the backend that settings choose
    • `MergeOutcome`, `Backend.merge`    — reading and merging in one step
-/
import DebugMerge.Dump.Tool
import DebugMerge.Load.Apply
import DebugMerge.Pdb.Reader

namespace DebugMerge

/-! ## §1. Backends. -/

/-- A backend.  `isSet n` says whether a request to stop has arrived when `n` records
are read. -/
structure Backend where
  name : String
  version : Option String
  readIdentity : String → Except LoadError Identity
  readInfo : String → ReaderOptions → (isSet : Nat → Bool) → Except LoadError DebugInfo

/-- The version of the built-in reader. -/
def readerVersion : String := "symbridge-core 0.1.0"

/-- The bytes of the debug file at a path. -/
def debugFileBytes (files : Files) (path : String) : Except LoadError (List UInt8) :=
  if ¬ files.isFile path then .error (.missingFile path)
  else match files.readBytes path with
    | .ok bytes => .ok bytes
    | .error e => .error (.io path e)

/-- A failure of the file's structure, with the path of the file. -/
def malformedAt (path reason : String) : LoadError :=
  .malformed (path ++ ": " ++ reason)

/-- The failure to read a file as the failure of a load. -/
def Pdb.ReadFailure.toLoadError (path : String) : Pdb.ReadFailure → LoadError
  | malformed cause => malformedAt path cause.message
  | cancelled => .cancelled
  | endless => .endless

/-- The built-in reader. -/
def readerBackend (files : Files) : Backend where
  name := BackendChoice.universalReader.word
  version := some readerVersion
  readIdentity path := do
    let bytes ← debugFileBytes files path
    match (do Pdb.fileIdentity (← Pdb.Container.open? bytes) path) with
    | .ok identity => return identity
    | .error e => throw (malformedAt path e.message)
  readInfo path options isSet := do
    let bytes ← debugFileBytes files path
    match Pdb.readInfo bytes options.parseMembers ⟨options.checkInterval.toNat, isSet⟩ with
    | .ok info => return info
    | .error e => throw (e.toLoadError path)

/-- The external tool, whatever the programs are. -/
def dumpBackendWith (programs : Programs) (source : DumpSource) (s : Surroundings) : Backend where
  name := BackendChoice.legacyInterop.word
  version := source.version programs s
  readIdentity path := source.readIdentity programs s path
  readInfo path options isSet := source.readInfo programs s path options.parseMembers (isSet 0)

/-- The external tool, if it is a script. -/
def dumpBackend (source : DumpSource) (s : Surroundings) : Backend :=
  dumpBackendWith (runProgram s.files) source s

/-- The backend that settings choose. -/
def BackendChoice.backend (choice : BackendChoice) (tool : Option String) (s : Surroundings) :
    Backend :=
  match choice with
  | legacyInterop => dumpBackend ⟨tool, none⟩ s
  | universalReader => readerBackend s.files

/-! ## §2. Reading and merging. -/

/-- How reading and merging ended. -/
structure MergeOutcome where
  /-- Was the file read, so that merging began? -/
  began : Bool
  log : Log
  result : Except LoadError (Database × Applied)

/-- Read a debug file and merge its content.  The two schedules say whether a request
to stop has arrived while reading and while merging. -/
def Backend.merge (backend : Backend) (path : String) (applying : ApplyOptions)
    (reading : ReaderOptions) (setReading setApplying : Nat → Bool) (db : Database) :
    MergeOutcome :=
  match backend.readInfo path reading setReading with
  | .error e => ⟨false, [], .error e⟩
  | .ok info =>
      match db.imageBase with
      | .error e => ⟨true, [], .error (.store e)⟩
      | .ok imageBase =>
          let r := apply applying info imageBase setApplying db
          ⟨true, r.log, r.result⟩

end DebugMerge
