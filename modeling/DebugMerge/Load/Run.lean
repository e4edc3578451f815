/-
  DebugMerge.Load.Run
  ───────────────────
  **A whole load, from the slot to the report.**

  A run waits for the program's slot, checks that the debug file belongs to the
  program, asks the operator if it does not, reads the file, merges its content,
  gives symbols readable names, records itself in the load history, and reports
  what was logged.  Each stage that is entered is kept in the trace, whose last
  stage says how the run ended.

  Main definitions
    • `Stage`, `RunEnding`, `Outcome`       — stages, endings, outcomes
    • `LoadJob`                             — everything that a run depends on
    • `Progress`                            — a run that holds the slot
    • `LoadJob.verifying`, `.merging`, `.decorating` — its stages
    • `LoadJob.run`                         — the whole run
-/
import DebugMerge.Load.Backend
import DebugMerge.Load.Decorate
import DebugMerge.Slot
import DebugMerge.Store.Format

namespace DebugMerge

open Json

/-! ## §1. Stages and endings. -/

/-- The stages of a run. -/
inductive Stage where
  | idle
  | awaitingSlot
  | verifying
  | awaitingConfirmation
  | parsing
  | applying
  | demangling
  | done
  | aborted
  | failed
  deriving DecidableEq, Repr

namespace Stage

/-- Every stage. -/
def all : List Stage :=
  [idle, awaitingSlot, verifying, awaitingConfirmation, parsing, applying, demangling, done,
    aborted, failed]

/-- The word for a stage. -/
def word : Stage → String
  | idle => "idle"
  | awaitingSlot => "awaiting_slot"
  | verifying => "verifying"
  | awaitingConfirmation => "awaiting_confirmation"
  | parsing => "parsing"
  | applying => "applying"
  | demangling => "demangling"
  | done => "done"
  | aborted => "aborted"
  | failed => "failed"

/-- The stage that a word names. -/
def ofWord? (s : String) : Option Stage :=
  all.find? fun stage => stage.word = s

/-- Does a run end with this stage? -/
def isTerminal : Stage → Bool
  | done | aborted | failed => true
  | _ => false

/-- A stage as JSON. -/
def toJson (stage : Stage) : Json := text stage.word

/-- Read a stage. -/
def ofJson? : Json → Option Stage := choice? ofWord?

end Stage

/-- How a run that holds the slot ends. -/
inductive RunEnding where
  | completed
  /-- Stopped early; what was merged is kept. -/
  | cancelled
  /-- The operator declined. -/
  | aborted
  | failed
  /-- Never an ending: the backend reads forever. -/
  | endless
  deriving DecidableEq, Repr

namespace RunEnding

/-- The last stage of a run that ends so. -/
def stage : RunEnding → Stage
  | completed | cancelled => .done
  | aborted => .aborted
  | failed => .failed
  | endless => .parsing

/-- The status under which the run is recorded, if it is. -/
def status? : RunEnding → Option RunStatus
  | completed => some .succeeded
  | cancelled => some .cancelled
  | failed => some .failed
  | aborted | endless => none

end RunEnding

/-! ## §2. Outcomes. -/

/-- The outcome of a run. -/
structure Outcome where
  /-- The last stage. -/
  state : Stage
  /-- Every stage that was entered, beginning with the idle one. -/
  trace : List Stage
  backend : String
  applied : Option Applied
  demangled : Option DemangleSummary
  cancelled : Bool
  messages : Log
  deriving DecidableEq, Repr

namespace Outcome

/-- Did the run reach its end, stopped or not? -/
def succeeded (o : Outcome) : Bool :=
  o.state == .done

/-- An outcome as JSON. -/
def toJson (o : Outcome) : Json :=
  object [("state", o.state.toJson), ("trace", list (o.trace.map Stage.toJson)),
    ("backend", text o.backend), ("applied", ofOption Applied.toJson o.applied),
    ("demangled", ofOption DemangleSummary.toJson o.demangled), ("cancelled", bool o.cancelled),
    ("messages", list (o.messages.map text))]

/-- Read an outcome. -/
def ofJson? (v : Json) : Option Outcome := do
  match ← slots? ["state", "trace", "backend", "applied", "demangled", "cancelled",
      "messages"] v with
  | [state, trace, backend, applied, demangled, cancelled, messages] =>
      return {
        state := ← state.required Stage.ofJson?
        trace := ← trace.required (list? Stage.ofJson?)
        backend := ← backend.required text?
        applied := ← applied.nullable Applied.ofJson?
        demangled := ← demangled.nullable DemangleSummary.ofJson?
        cancelled := ← cancelled.required bool?
        messages := ← messages.required (list? text?) }
  | _ => none

end Outcome

/-! ## §3. Questions and reports. -/

/-- A yes-or-no question to the operator. -/
structure Question where
  title : String
  message : String
  deriving DecidableEq, Repr

/-- A report to the operator. -/
structure Report where
  title : String
  summary : String
  fullLog : String
  deriving DecidableEq, Repr

/-- The question about a debug file of another build. -/
def confirmation (details : Mismatch) : Question :=
  ⟨"Confirm PDB Load", details.message⟩

/-- The report about what was logged. -/
def logReport (log : Log) : Report :=
  ⟨"Load PDB File", "There were warnings/errors loading the PDB file.", log.text⟩

/-- The report about a run that did not get the slot. -/
def refusalReport (file reason : String) : Report :=
  ⟨"Load PDB Failed", "Error processing PDB file: " ++ file ++ ".\n" ++ reason, ""⟩

/-! ## §4. A run that holds the slot. -/

/-- Everything that a run depends on besides the program. -/
structure LoadJob where
  backend : Backend
  file : String
  /-- The checksum of the file, for the history. -/
  hash : Option String
  settings : LoadSettings
  /-- What the operator answers if asked. -/
  answer : Bool
  plan : CancelPlan
  startedAt : String
  finishedAt : String

/-- A run that holds the slot. -/
structure Progress where
  trace : List Stage
  log : Log
  applied : Option Applied
  demangled : Option DemangleSummary
  cancelled : Bool
  questions : List Question
  db : Database
  deriving DecidableEq, Repr

namespace Progress

/-- A run that has entered the given stages and done nothing. -/
def start (db : Database) : Progress :=
  ⟨[.idle, .awaitingSlot], [], none, none, false, [], db⟩

/-- Enter a stage. -/
def enter (stage : Stage) (p : Progress) : Progress :=
  { p with trace := p.trace ++ [stage] }

/-- Log a message. -/
def note (message : String) (p : Progress) : Progress :=
  { p with log := p.log ++ [message] }

/-- Log a message and count as stopped. -/
def stop (message : String) (p : Progress) : Progress :=
  { p.note message with cancelled := true }

/-- Ask the operator. -/
def ask (question : Question) (p : Progress) : Progress :=
  { p.enter .awaitingConfirmation with questions := p.questions ++ [question] }

/-- Was the operator asked? -/
def asked (p : Progress) : Bool :=
  !p.questions.isEmpty

/-- End because the backend failed or stopped, unless it goes on forever. -/
def endWith (p : Progress) (cause : LoadError) : Progress × RunEnding :=
  match cause with
  | .cancelled => (p.stop "PDB load cancelled; partial results were kept", .cancelled)
  | .endless => (p, .endless)
  | cause =>
      let label := if cause.isIo then "PDB IO Error: " else "PDB Error: "
      (p.note (label ++ cause.message), .failed)

/-- End because merging or naming was stopped. -/
def cut (p : Progress) (file : String) : Progress × RunEnding :=
  (p.stop ("PDB load cancelled for " ++ file ++ "; partial results were kept"), .cancelled)

/-- The outcome of a run in its last stage. -/
def outcome (p : Progress) (backend : String) : Outcome :=
  { state := p.trace.getLast?.getD .idle
    trace := p.trace
    backend
    applied := p.applied
    demangled := p.demangled
    cancelled := p.cancelled
    messages := p.log }

end Progress

namespace LoadJob

/-- The last stage of work: symbols get readable names.  A failure is logged and does
not fail the run. -/
def decorating (job : LoadJob) (p : Progress) : Progress × RunEnding :=
  let p := p.enter .demangling
  match decorate (job.plan.setDemangling p.asked) p.db with
  | .error e => (p.note ("PDB Error: demangling failed: " ++ e.message), .completed)
  | .ok (db, summary) =>
      let p := { p with db, demangled := summary }
      if summary.any (·.cancelled) then p.cut job.file else (p, .completed)

/-- The file is read and its content merged. -/
def merging (job : LoadJob) (p : Progress) : Progress × RunEnding :=
  let p := p.enter .parsing
  let merged := job.backend.merge job.file job.settings.applying job.settings.reading
    (job.plan.setParsing p.asked) (job.plan.setApplying p.asked) p.db
  let p := if merged.began then p.enter .applying else p
  let p := { p with log := p.log ++ merged.log }
  match merged.result with
  | .error e => p.endWith e
  | .ok (db, applied) =>
      let p := { p with db, applied := some applied }
      if applied.cancelled then p.cut job.file else job.decorating p

/-- The file's identity is compared with the expectation; if they differ, the
operator decides. -/
def verifying (job : LoadJob) (p : Progress) : Progress × RunEnding :=
  let p := p.enter .verifying
  match p.db.expectedIdentity with
  | .error e => (p.note ("PDB Error: " ++ e.message), .failed)
  | .ok expected =>
      match job.backend.readIdentity job.file with
      | .error e => p.endWith e
      | .ok candidate =>
          match verify expected candidate with
          | .match => job.merging p
          | .mismatch details =>
              let p := p.ask (confirmation details)
              if job.answer then job.merging p else (p, .aborted)

/-- The entry of a run in the load history. -/
def record (job : LoadJob) (status : RunStatus) (messages : Nat) : LoadRun :=
  { debugFile := job.file
    debugFileHash := job.hash
    backend := job.backend.name
    backendVersion := job.backend.version
    status
    messageCount := UInt32.ofNat messages
    startedAt := job.startedAt
    finishedAt := job.finishedAt }

/-- The database with the run in its history; a history that cannot be written is no
failure. -/
def recorded (job : LoadJob) (ending : RunEnding) (p : Progress) : Database :=
  if job.settings.recordRuns then
    match ending.status? with
    | none => p.db
    | some status =>
        match p.db.insertRun (job.record status p.log.length) with
        | .ok (db, _) => db
        | .error _ => p.db
  else p.db

/-- The work done while the slot is held. -/
def work (job : LoadJob) (db : Database) : Progress :=
  let (p, ending) := job.verifying (.start db)
  let p := p.enter ending.stage
  { p with db := job.recorded ending p }

end LoadJob

/-! ## §5. The whole run. -/

/-- Why a run has no outcome. -/
structure RunError where
  reason : String
  deriving DecidableEq, Repr

/-- The explanation of a run without outcome. -/
def RunError.message (e : RunError) : String :=
  "Analysis slot unavailable: " ++ e.reason

/-- What a run leaves behind. -/
structure RunResult where
  program : Program
  /-- The outcome; there is none yet while the run waits for the slot, and none ever if the
  backend reads forever. -/
  outcome : Option (Except RunError Outcome)
  questions : List Question
  reports : List Report

namespace LoadJob

/-- The request for the slot. -/
def slotRequest (job : LoadJob) (shutDown : Bool) : SlotRequest :=
  ⟨job.settings.slotTimeout, job.plan.setWaiting, shutDown⟩

/-- A run that was stopped while it waited. -/
def cancelledWaiting (db : Database) : Progress :=
  ((Progress.start db).stop "PDB load cancelled while waiting for the analysis slot").enter .done

/-- The reports about a finished run. -/
def reportsOf (p : Progress) : List Report :=
  if p.log.hasMessages then [logReport p.log] else []

/-- What a run leaves behind that was given the slot.  One that goes on forever keeps it. -/
def leaving (job : LoadJob) (program : Program) (ending : RunEnding) (p : Progress) : RunResult :=
  match ending with
  | .endless => ⟨{ program.taken with db := p.db }, none, p.questions, []⟩
  | _ =>
      ⟨program.returned p.db, some (.ok (p.outcome job.backend.name)), p.questions, reportsOf p⟩

/-- A whole run.  `shutDown` says whether no more work is scheduled. -/
def run (job : LoadJob) (shutDown : Bool) (program : Program) : RunResult :=
  match program.acquire (job.slotRequest shutDown) with
  | .waiting => ⟨program, none, [], []⟩
  | .refused (.unavailable reason) =>
      ⟨program, some (.error ⟨reason⟩), [], [refusalReport job.file reason]⟩
  | .refused .cancelled =>
      let p := cancelledWaiting program.db
      ⟨program, some (.ok (p.outcome job.backend.name)), [], reportsOf p⟩
  | .granted =>
      job.leaving program (job.verifying (.start program.db)).2 (job.work program.db)

end LoadJob

end DebugMerge
