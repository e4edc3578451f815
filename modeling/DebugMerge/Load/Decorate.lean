/-
  DebugMerge.Load.Decorate
  ────────────────────────
  **Giving stored symbols readable names.**

  After a merge every symbol inside program memory that has no readable name
  yet is examined, block by block.  Every symbol examined is a unit of work,
  counted before it is looked at, and the pass may stop there; what was done so
  far is kept.  An option of the program switches the pass off.

  Main definitions
    • `DemangleSummary`                 — what the pass did
    • `Decoration`, `decorateSymbols`, `decorateBlocks` — the walk
    • `isDecorating`, `decorate`        — the switch and the whole pass
-/
import DebugMerge.Cancellation
import DebugMerge.Mangling.Basic
import DebugMerge.Store.Transaction

namespace DebugMerge

/-! ## §1. Counters. -/

/-- What a pass over the symbols did. -/
structure DemangleSummary where
  examined : Nat
  demangled : Nat
  /-- Names that look mangled but have no readable form. -/
  failed : Nat
  cancelled : Bool
  deriving DecidableEq, Repr

namespace DemangleSummary

/-- Nothing examined. -/
def zero : DemangleSummary :=
  ⟨0, 0, 0, false⟩

open Json

/-- The counters as JSON. -/
def toJson (s : DemangleSummary) : Json :=
  object [("examined", natural s.examined), ("demangled", natural s.demangled),
    ("failed", natural s.failed), ("cancelled", bool s.cancelled)]

/-- Read the counters. -/
def ofJson? (v : Json) : Option DemangleSummary := do
  match ← slots? ["examined", "demangled", "failed", "cancelled"] v with
  | [examined, demangled, failed, cancelled] =>
      return {
        examined := ← examined.required count?
        demangled := ← demangled.required count?
        failed := ← failed.required count?
        cancelled := ← cancelled.required bool? }
  | _ => none

end DemangleSummary

/-! ## §2. The walk. -/

/-- A pass in progress. -/
structure Decoration where
  db : Database
  summary : DemangleSummary
  deriving DecidableEq, Repr

namespace Decoration

/-- Count a symbol. -/
def tick (d : Decoration) : Decoration :=
  { d with summary := { d.summary with examined := d.summary.examined + 1 } }

/-- Mark the pass as stopped. -/
def stop (d : Decoration) : Decoration :=
  { d with summary := { d.summary with cancelled := true } }

/-- Give one symbol its readable name, if it has one. -/
def name (d : Decoration) (number : Nat) (symbol : String) : Except StoreError Decoration :=
  match demangle symbol with
  | some readable => do
      let db ← d.db.setDemangled number readable
      return { d with db, summary := { d.summary with demangled := d.summary.demangled + 1 } }
  | none =>
      if looksMangled symbol then
        .ok { d with summary := { d.summary with failed := d.summary.failed + 1 } }
      else .ok d

end Decoration

/-- Examine symbols in order until a checkpoint stops the pass. -/
def decorateSymbols (checkpoint : Checkpoint) :
    Decoration → List (Nat × String) → Except StoreError Decoration
  | d, [] => .ok d
  | d, (number, symbol) :: rest =>
      if checkpoint.stops (d.summary.examined + 1) then .ok d.stop
      else do
        let d ← d.tick.name number symbol
        decorateSymbols checkpoint d rest

/-- Examine the symbols of every block in order.  A symbol that got a name in one
block is not met again in the next. -/
def decorateBlocks (checkpoint : Checkpoint) :
    Decoration → List MemoryBlock → Except StoreError Decoration
  | d, [] => .ok d
  | d, block :: rest => do
      let pending ← d.db.pendingSymbols block.start block.stop
      let d ← decorateSymbols checkpoint d pending
      if d.summary.cancelled then return d else decorateBlocks checkpoint d rest

/-! ## §3. The whole pass. -/

/-- The category of the options of analyses. -/
def analysisCategory : String := "Analyzers"

/-- The option that switches the pass. -/
def decorateOption : String := "Demangler Microsoft"

/-- How many symbols lie between two checkpoints. -/
def decorateInterval : Nat := 64

/-- Is the pass switched on?  It is unless an option says otherwise. -/
def isDecorating (db : Database) : Except StoreError Bool := do
  let options ← db.optionsIn analysisCategory
  return options.flag decorateOption true

/-- The whole pass: the changed database with the counters, or no counters if the
pass is switched off.  After a failure nothing is changed. -/
def decorate (isSet : Nat → Bool) (db : Database) :
    Except StoreError (Database × Option DemangleSummary) := do
  if ← isDecorating db then
    let blocks ← db.blocks
    let d ← decorateBlocks ⟨decorateInterval, isSet⟩ ⟨db, .zero⟩ blocks
    return (d.db, some d.summary)
  else return (db, none)

end DebugMerge
