/-
  DebugMerge.Command.Session
  ──────────────────────────
  **The run of a command.**

  A command works on files and prints.  What it did before it fails stays done.
  If it asks the operator, what it printed to ask is kept apart, so that it can
  be shown before the answer is read.

  Main definitions
    • `Session`, `Action`                   — runs in progress
    • `CommandError`, `Stop`                — how a command fails, and why one stops
    • `print`, `warn`, `withFiles`
-/
import DebugMerge.Project.Open

namespace DebugMerge

/-- A run in progress. -/
structure Session where
  files : Files
  /-- Lines printed as the answer. -/
  out : List String
  /-- Text printed to ask the operator. -/
  prompt : String
  /-- Lines printed as remarks. -/
  remarks : List String
  deriving DecidableEq

/-- How a command fails: the explanation, and what lies behind it. -/
structure CommandError where
  message : String
  cause : Option String
  deriving DecidableEq, Repr

/-- Why a command stops before its end. -/
inductive Stop where
  | failed (e : CommandError)
  /-- Never an answer: the command breaks down, or goes on forever. -/
  | lost
  deriving DecidableEq, Repr

/-- A step of a command. -/
abbrev Action (α : Type) := ExceptT Stop (StateM Session) α

namespace CommandError

/-- A failure with nothing behind it. -/
def plain (message : String) : CommandError :=
  ⟨message, none⟩

/-- A failure of the database, with nothing before it. -/
def ofStore (e : StoreError) : CommandError :=
  ⟨e.message, if e.isEngine then some "database error" else none⟩

/-- A failure to open or save a project. -/
def ofProject (e : ProjectError) : CommandError :=
  ⟨e.message, some e.cause⟩

/-- A failure as it is printed. -/
def text (e : CommandError) : String :=
  "Error: " ++ e.message ++ (match e.cause with
    | some cause => "\n\nCaused by:\n    " ++ cause ++ "\n"
    | none => "\n")

end CommandError

/-- A failure with nothing behind it. -/
def Stop.plain (message : String) : Stop :=
  .failed (.plain message)

/-- Print a line of the answer. -/
def print (line : String) : Action Unit :=
  modify fun s => { s with out := s.out ++ [line] }

/-- Print a remark. -/
def warn (line : String) : Action Unit :=
  modify fun s => { s with remarks := s.remarks ++ [line] }

/-- The value of a step that may fail, its failure explained. -/
def orFail {ε α : Type} (explain : ε → CommandError) : Except ε α → Action α
  | .ok a => pure a
  | .error e => throw (.failed (explain e))

/-- Change the files, unless the change fails. -/
def withFiles {ε : Type} (explain : ε → CommandError) (change : Files → Except ε Files) :
    Action Unit := do
  let files ← orFail explain (change (← get).files)
  modify fun s => { s with files }

/-- Open the project at a root as it was typed. -/
def openAt (root : String) : Action Project := do
  let s ← get
  let (files, project) ← orFail .ofProject (openProject s.files (resolveRoot s.files root))
  set { s with files }
  return project

/-- The lines as one text. -/
def linesText (lines : List String) : String :=
  String.join (lines.map (· ++ "\n"))

end DebugMerge
