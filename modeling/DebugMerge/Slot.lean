/-
  DebugMerge.Slot
  ───────────────
  **One unit of work at a time.**

  A program's database may be changed only by the unit of work that holds the
  program's slot.  A request is refused if no more work is scheduled, if a unit
  of work broke down while it held the slot, or if waiting for a held slot is
  given up.  Reading needs no slot.

  Main definitions
    • `SlotState`, `Program`            — a program under analysis
    • `SlotRequest`, `SlotError`        — requests and refusals
    • `Program.acquire`                 — the answer to a request
    • `Program.taken`, `.returned`, `.broken`
-/
import DebugMerge.Store.Schema
import DebugMerge.Text.Numeral

namespace DebugMerge

/-! ## §1. Programs. -/

/-- What has become of a slot. -/
inductive SlotState where
  | free
  | held
  /-- A unit of work broke down while it held the slot. -/
  | poisoned
  deriving DecidableEq, Repr

/-- A program under analysis. -/
structure Program where
  name : String
  db : Database
  slot : SlotState
  deriving DecidableEq, Repr

namespace Program

/-- The program behind a database, with a free slot. -/
def ofDatabase (name : String) (db : Database) : Program :=
  ⟨name, db, .free⟩

/-- The program while a unit of work holds its slot. -/
def taken (p : Program) : Program :=
  { p with slot := .held }

/-- The program after a unit of work that left the database behind. -/
def returned (p : Program) (db : Database) : Program :=
  { p with db, slot := .free }

/-- The program after a unit of work that broke down. -/
def broken (p : Program) : Program :=
  { p with slot := .poisoned }

end Program

/-! ## §2. Requests. -/

/-- A request for a slot. -/
structure SlotRequest where
  /-- How many milliseconds to wait at most. -/
  timeout : Option UInt64
  /-- Has the asker been told to stop? -/
  cancelled : Bool
  /-- Is no more work scheduled? -/
  shutDown : Bool
  deriving DecidableEq, Repr

/-- Why a slot is refused. -/
inductive SlotError where
  | unavailable (reason : String)
  | cancelled
  deriving DecidableEq, Repr

/-- The explanation of a refusal. -/
def SlotError.message : SlotError → String
  | unavailable reason => "Analysis scheduler unavailable: " ++ reason
  | cancelled => "Cancelled while waiting for the analysis slot"

/-- How many milliseconds pass between two looks at a held slot. -/
def pollInterval : Nat := 5

/-- The answer to a request. -/
inductive SlotAnswer where
  | granted
  | refused (cause : SlotError)
  /-- No answer while the slot is held. -/
  | waiting
  deriving DecidableEq, Repr

/-- Why nothing is granted once no more work is scheduled. -/
def shutDownReason : String := "scheduler has been shut down"

/-- Why a poisoned slot is not granted. -/
def poisonedReason (name : String) : String :=
  "analysis slot for '" ++ name ++ "' was poisoned by a failed worker"

/-- Why waiting was given up. -/
def timeoutReason (name : String) (ms : UInt64) : String :=
  "timed out after " ++ Text.decimal ms.toNat ++ "ms waiting for the analysis slot of '"
    ++ name ++ "'"

/-- The answer to a request.  A free slot is granted even to an asker that has been
told to stop. -/
def Program.acquire (p : Program) (request : SlotRequest) : SlotAnswer :=
  if request.shutDown then .refused (.unavailable shutDownReason)
  else match p.slot with
    | .free => .granted
    | .poisoned => .refused (.unavailable (poisonedReason p.name))
    | .held =>
        if request.cancelled then .refused .cancelled
        else match request.timeout with
          | some ms => .refused (.unavailable (timeoutReason p.name ms))
          | none => .waiting

end DebugMerge
