/-
  DebugMerge.Slot.Work
  ────────────────────
  **Units of work that take turns.**

  An asker looks at the slot again and again until it gets an answer, and each
  look is a request of its own.  A unit of work that is granted the slot changes
  the database statement by statement, within transactions or without, and may
  ask for slots itself while it holds this one.  However it ends, an open
  transaction is forgotten; the slot is given back when it returns, and poisoned
  when it unwinds.

  Main definitions
    • `Look`, `Waiter`, `Program.poll`   — waiting for an answer
    • `Holding`, `StoreStep`             — a database with an open transaction
    • `Work`, `Work.exec`                — units of work
    • `WorkUnit`, `Program.turn`         — a request and what comes of it
    • `Program.turns`, `.afterTurns`     — sequences of requests
    • `Program.view?`                    — reading beside the slot
-/
import DebugMerge.Slot

namespace DebugMerge

/-! ## §1. Waiting for an answer. -/

/-- What an asker finds when it looks at a slot. -/
structure Look where
  /-- Is no more work scheduled by now? -/
  shutDown : Bool
  /-- Has the asker been told to stop by now? -/
  cancelled : Bool
  /-- How many milliseconds it has waited. -/
  elapsed : Nat
  deriving DecidableEq, Repr

/-- The request that a look stands for: a time limit counts when it is over. -/
def Look.request (look : Look) (timeout : Option UInt64) : SlotRequest :=
  ⟨timeout.filter fun ms => ms.toNat ≤ look.elapsed, look.cancelled, look.shutDown⟩

/-- An asker: it looks once, and again until it is answered. -/
structure Waiter where
  worker : String
  timeout : Option UInt64
  first : Look
  more : List Look
  deriving DecidableEq, Repr

/-- The answer that looking at the slot comes to. -/
def Program.poll (p : Program) (timeout : Option UInt64) : List Look → SlotAnswer
  | [] => .waiting
  | look :: looks =>
      match p.acquire (look.request timeout) with
      | .waiting => p.poll timeout looks
      | answer => answer

/-- The answer that a waiter gets. -/
def Program.answer (p : Program) (waiter : Waiter) : SlotAnswer :=
  p.poll waiter.timeout (waiter.first :: waiter.more)

/-! ## §2. A database with an open transaction. -/

/-- A step of a unit of work on the database.  A statement that fails changes nothing. -/
inductive StoreStep where
  | change (f : Database → Database)
  | begin
  | commit
  | rollback

/-- A program whose slot is held. -/
structure Holding where
  program : Program
  /-- What an open transaction makes of the database. -/
  copy : Option Database
  deriving DecidableEq, Repr

namespace Holding

/-- The database as the holder of the slot sees it. -/
def view (h : Holding) : Database :=
  h.copy.getD h.program.db

/-- A step on the database.  Outside a transaction, a change is kept at once. -/
def on (h : Holding) : StoreStep → Holding
  | .change f =>
      match h.copy with
      | none => { h with program := { h.program with db := f h.program.db } }
      | some db => { h with copy := some (f db) }
  | .begin => { h with copy := some h.view }
  | .commit => ⟨{ h.program with db := h.view }, none⟩
  | .rollback => { h with copy := none }

end Holding

/-! ## §3. Units of work. -/

/-- What a unit of work does while it holds the slot. -/
inductive Work where
  /-- Return, with a success or with a failure. -/
  | returns (succeeded : Bool)
  | panics
  | look (rest : Database → Work)
  | step (s : StoreStep) (rest : Work)
  /-- Ask for the slot of the same program, with work of its own to be done. -/
  | ask (waiter : Waiter) (nested : Work) (rest : SlotAnswer → Work)

/-- How a unit of work ends. -/
inductive WorkEnding where
  /-- The asker gets what the unit returned. -/
  | returned (succeeded : Bool)
  /-- The asker unwinds with the unit. -/
  | unwound
  /-- The unit has asked for the slot and has not been answered yet. -/
  | waiting
  deriving DecidableEq, Repr

/-- What is seen of a unit of work. -/
inductive WorkEvent where
  | started (worker : String)
  | stepped (step : StoreStep)
  /-- The answer to a request of the unit. -/
  | answered (answer : SlotAnswer)

/-- A unit of work that was run. -/
structure WorkRun where
  events : List WorkEvent
  holding : Holding
  ending : WorkEnding

namespace WorkRun

/-- The same run, and before it something else. -/
def behind (events : List WorkEvent) (run : WorkRun) : WorkRun :=
  { run with events := events ++ run.events }

/-- The program that a run leaves; a transaction that is still open is forgotten. -/
def leaves (run : WorkRun) : Program :=
  match run.ending with
  | .returned _ => run.holding.program.returned run.holding.program.db
  | .unwound => run.holding.program.broken
  | .waiting => run.holding.program

end WorkRun

/-- Run a unit of work. -/
def Work.exec : Work → Holding → WorkRun
  | returns succeeded, h => ⟨[], h, .returned succeeded⟩
  | panics, h => ⟨[], h, .unwound⟩
  | look rest, h => (rest h.view).exec h
  | step s rest, h => (rest.exec (h.on s)).behind [.stepped s]
  | ask waiter nested rest, h =>
      match h.program.answer waiter with
      | .waiting => ⟨[.answered .waiting], h, .waiting⟩
      | .refused cause =>
          ((rest (.refused cause)).exec h).behind [.answered (.refused cause)]
      | .granted =>
          let inner := nested.exec ⟨h.program.taken, none⟩
          let events := .answered .granted :: .started waiter.worker :: inner.events
          match inner.ending with
          | .returned _ => ((rest .granted).exec ⟨inner.leaves, h.copy⟩).behind events
          | ending => ⟨events, ⟨inner.leaves, none⟩, ending⟩

/-! ## §4. Turns. -/

/-- A request for the slot together with the work to be done. -/
structure WorkUnit where
  waiter : Waiter
  work : Work

/-- What comes of a request. -/
structure SlotTurn where
  answer : SlotAnswer
  events : List WorkEvent
  /-- How the work ended, if the slot was granted. -/
  ending : Option WorkEnding
  program : Program

namespace Program

/-- A request, and the work if it is granted. -/
def turn (p : Program) (unit : WorkUnit) : SlotTurn :=
  match p.answer unit.waiter with
  | .granted =>
      let run := unit.work.exec ⟨p.taken, none⟩
      ⟨.granted, .started unit.waiter.worker :: run.events, some run.ending, run.leaves⟩
  | answer => ⟨answer, [], none, p⟩

/-- The program after a sequence of requests. -/
def afterTurns (p : Program) (units : List WorkUnit) : Program :=
  units.foldl (fun p unit => (p.turn unit).program) p

/-- What comes of a sequence of requests. -/
def turns (p : Program) : List WorkUnit → List SlotTurn
  | [] => []
  | unit :: units => p.turn unit :: (p.turn unit).program.turns units

/-- Read the database.  A reader waits while the slot is held; that it is poisoned does not
matter. -/
def view? {α : Type} (p : Program) (reader : Database → α) : Option α :=
  match p.slot with
  | .held => none
  | .free | .poisoned => some (reader p.db)

end Program

end DebugMerge
