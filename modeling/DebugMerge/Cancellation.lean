/-
  DebugMerge.Cancellation
  ───────────────────────
  **When a load is asked to stop, and when it notices.**

  An operator may ask a load to stop at any moment; the request is never taken
  back.  A stage looks for the request only at its checkpoints: after every so
  many units of work.  A plan says when the request arrives, in terms of what
  the load has done by then, so that a whole run is a function of its plan.

  Main definitions
    • `Checkpoint`, `.stops`     — where a stage looks
    • `CancelPlan`               — when the request arrives
    • `CancelPlan.setWaiting`, `.setParsing`, `.setApplying`, `.setDemangling`
                                 — whether it has arrived
-/

namespace DebugMerge

/-- The checkpoints of one stage: every `interval` units of work, where zero
counts as one.  `isSet n` says whether the request has arrived when the n-th unit
is counted. -/
structure Checkpoint where
  interval : Nat
  isSet : Nat → Bool

/-- Does the stage stop when it counts unit number `seen`? -/
def Checkpoint.stops (c : Checkpoint) (seen : Nat) : Bool :=
  seen % max c.interval 1 == 0 && c.isSet seen

/-- When the request to stop arrives. -/
inductive CancelPlan where
  | never
  /-- Before the load asks for the slot. -/
  | before
  /-- While the operator is asked; never, if the operator is not asked. -/
  | whenAsked
  /-- Once so many records have been read. -/
  | whileParsing (records : Nat)
  /-- Between reading and applying. -/
  | whenParsed
  /-- Once so many records have been applied. -/
  | whileApplying (records : Nat)
  /-- Once so many symbols have been examined. -/
  | whileDemangling (symbols : Nat)
  deriving DecidableEq, Repr

namespace CancelPlan

/-- Has the request arrived while the load waits for the slot? -/
def setWaiting : CancelPlan → Bool
  | before => true
  | _ => false

/-- Has the request arrived when `n` records are read?  `asked` says whether the
operator was asked. -/
def setParsing (asked : Bool) (n : Nat) : CancelPlan → Bool
  | before => true
  | whenAsked => asked
  | whileParsing k => k ≤ n
  | _ => false

/-- Has the request arrived when `n` records are applied? -/
def setApplying (asked : Bool) (n : Nat) : CancelPlan → Bool
  | before | whileParsing _ | whenParsed => true
  | whenAsked => asked
  | whileApplying k => k ≤ n
  | _ => false

/-- Has the request arrived when `n` symbols are examined? -/
def setDemangling (asked : Bool) (n : Nat) : CancelPlan → Bool
  | before | whileParsing _ | whenParsed | whileApplying _ => true
  | whenAsked => asked
  | whileDemangling k => k ≤ n
  | never => false

end CancelPlan

end DebugMerge
