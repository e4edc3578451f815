/-
  DebugMerge.Command.Load
  ───────────────────────
  **The command that loads a debug file.**

  Main definitions
    • `parseAnswer`           — the operator's answer
    • `hashFile`              — the checksum of a debug file
    • `outcomeLines`          — an outcome as lines
    • `loadPdb`               — the command
-/
import DebugMerge.Command.Reports
import DebugMerge.Command.Request
import DebugMerge.Hash.Sha256

namespace DebugMerge.Command

/-! ## §1. The operator. -/

/-- Does the answer say yes? -/
def parseAnswer (answer : String) : Bool :=
  let word := Text.asciiLower (Text.trim answer)
  word == "y" || word == "yes"

/-- The answer in what the operator types: the first line; the end of the input says no. -/
def answerIn (input : String) : Bool :=
  parseAnswer (String.ofList (input.toList.takeWhile (· ≠ '\n')))

/-- A question as it is shown. -/
def questionText (q : Question) : String :=
  q.title ++ "\n" ++ q.message ++ "\n[y/N] "

/-! ## §2. Checksums. -/

/-- The checksum of a file. -/
def hashFile (files : Files) (path : String) : Except CommandError String :=
  match files.readBytes path with
  | .ok bytes => .ok (Sha256.hexDigest bytes)
  | .error .isDirectory =>
      .error ⟨"Failed to read file for hashing: " ++ path, some IoError.isDirectory.message⟩
  | .error e => .error ⟨"Failed to open file for hashing: " ++ path, some e.message⟩

/-! ## §3. Outcomes. -/

/-- The words for the end of a run. -/
def endingWords (o : Outcome) : String :=
  match o.state with
  | .done => if o.cancelled then "cancelled (partial results kept)" else "done"
  | state => state.word

/-- The lines about a merge. -/
def appliedLines (a : Applied) : List String :=
  ["  Types: " ++ Text.decimal a.typesAdded ++ " added, " ++ Text.decimal a.typesExisting
      ++ " existing",
   "  Symbols: " ++ Text.decimal a.symbolsAdded ++ " added, " ++ Text.decimal a.symbolsExisting
      ++ " existing, " ++ Text.decimal a.symbolsSkipped ++ " outside memory",
   "  Lines: " ++ Text.decimal a.linesAdded ++ "  Comments: " ++ Text.decimal a.commentsAdded]
  ++ (if a.recordsFiltered > 0 then
        ["  Filtered by restrictions: " ++ Text.decimal a.recordsFiltered]
      else [])

/-- The line about a pass over the symbols. -/
def demangledLine (s : DemangleSummary) : String :=
  "  Demangled: " ++ Text.decimal s.demangled ++ " of " ++ Text.decimal s.examined ++ " ("
    ++ Text.decimal s.failed ++ " failed)"

/-- An outcome as lines. -/
def outcomeLines (file : String) (o : Outcome) : List String :=
  ["PDB load of " ++ file ++ " via " ++ o.backend ++ ": " ++ endingWords o]
  ++ (o.applied.map appliedLines).getD []
  ++ (o.demangled.map demangledLine).toList
  ++ (if o.messages.isEmpty then [] else ["  Messages: " ++ Text.decimal o.messages.length])

/-! ## §4. The command. -/

/-- The times that a command takes from outside. -/
structure Clock where
  startedAt : String
  finishedAt : String
  /-- The time in the names of reports. -/
  stamp : String
  deriving DecidableEq, Repr

/-- The name of a report of the given time. -/
def reportStem (clock : Clock) : String :=
  "pdb-load-" ++ clock.stamp

/-- The checksum that a load records: none if it is not wanted or there is no file. -/
def requestedHash (files : Files) (arguments : LoadArguments) :
    Except CommandError (Option String) :=
  if arguments.skipHash || !files.isFile arguments.file then .ok none
  else (hashFile files arguments.file).map some

/-- A failure to resolve the settings. -/
def settingsFailure (e : SettingsError) : CommandError :=
  ⟨e.message, e.cause?⟩

/-- Load a debug file. -/
def loadPdb (environment : List (String × String)) (input : String) (clock : Clock)
    (root : String) (arguments : LoadArguments) : Action Unit := do
  let project ← openAt root
  let files := (← get).files
  let settings ← orFail settingsFailure
    (resolveSettings files project.config.load arguments.choices)
  let hash ← orFail id (requestedHash files arguments)
  let job : LoadJob := {
    backend := settings.backend.backend settings.dumpTool ⟨files, environment⟩
    file := arguments.file
    hash
    settings
    answer := arguments.confirm.getD (answerIn input)
    plan := .never
    startedAt := clock.startedAt
    finishedAt := clock.finishedAt }
  let result := job.run false project.program
  modify fun s => { s with
    files := s.files.saveDatabase project.database result.program.db
    prompt := if arguments.confirm.isSome then s.prompt
      else s.prompt ++ String.join (result.questions.map questionText) }
  result.reports.forM (showReport .wraps project.layout.reports (reportStem clock))
  match result.outcome with
  | none => throw .lost
  | some (.error e) => throw (.failed ⟨"Failed to load PDB " ++ arguments.file, some e.message⟩)
  | some (.ok outcome) =>
      if arguments.asJson then print outcome.toJson.pretty
      else (outcomeLines arguments.file outcome).forM print
      if outcome.state = .failed then
        throw (.plain ("PDB load failed for " ++ arguments.file))

end DebugMerge.Command
