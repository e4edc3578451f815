/-
  DebugMerge.Load.Apply
  ─────────────────────
  **Merging the records of a debug file into the database.**

  The records are merged one after the other: types, symbols, lines, comments.
  A record of a category that is not allowed is counted and passed over; every
  other record is a unit of work, counted before it is merged, and the merge
  may stop there.  A type conflict or a failure of the database forgets every
  change; a stop keeps what was merged so far.

  Main definitions
    • `Applied`                        — what a merge changed
    • `Application`, `Application.offer` — a merge in progress
    • `applyRecords`                   — the walk over the records
    • `apply`                          — the whole merge
-/
import DebugMerge.Cancellation
import DebugMerge.Diagnostics
import DebugMerge.Load.Error
import DebugMerge.Load.Settings
import DebugMerge.Store.Transaction

namespace DebugMerge

/-! ## §1. Counters. -/

/-- What a merge changed. -/
structure Applied where
  typesAdded : Nat
  /-- Definitions that were present already. -/
  typesExisting : Nat
  symbolsAdded : Nat
  symbolsExisting : Nat
  /-- Symbols outside every memory block. -/
  symbolsSkipped : Nat
  linesAdded : Nat
  commentsAdded : Nat
  /-- Records of categories that are not allowed. -/
  recordsFiltered : Nat
  cancelled : Bool
  deriving DecidableEq, Repr

namespace Applied

/-- Nothing changed. -/
def zero : Applied :=
  ⟨0, 0, 0, 0, 0, 0, 0, 0, false⟩

/-- How many records were new. -/
def recordsAdded (a : Applied) : Nat :=
  a.typesAdded + a.symbolsAdded + a.linesAdded + a.commentsAdded

open Json

/-- The counters as JSON. -/
def toJson (a : Applied) : Json :=
  object [("types_added", natural a.typesAdded), ("types_existing", natural a.typesExisting),
    ("symbols_added", natural a.symbolsAdded), ("symbols_existing", natural a.symbolsExisting),
    ("symbols_skipped", natural a.symbolsSkipped), ("lines_added", natural a.linesAdded),
    ("comments_added", natural a.commentsAdded), ("records_filtered", natural a.recordsFiltered),
    ("cancelled", bool a.cancelled)]

/-- Read the counters. -/
def ofJson? (v : Json) : Option Applied := do
  match ← slots? ["types_added", "types_existing", "symbols_added", "symbols_existing",
      "symbols_skipped", "lines_added", "comments_added", "records_filtered", "cancelled"] v with
  | [ta, te, sa, se, ss, la, ca, rf, c] =>
      return {
        typesAdded := ← ta.required count?
        typesExisting := ← te.required count?
        symbolsAdded := ← sa.required count?
        symbolsExisting := ← se.required count?
        symbolsSkipped := ← ss.required count?
        linesAdded := ← la.required count?
        commentsAdded := ← ca.required count?
        recordsFiltered := ← rf.required count?
        cancelled := ← c.required bool? }
  | _ => none

end Applied

/-! ## §2. A merge in progress. -/

/-- Where records are placed. -/
structure Site where
  imageBase : UInt64
  blocks : List MemoryBlock
  deriving DecidableEq, Repr

/-- A merge in progress. -/
structure Application where
  db : Database
  applied : Applied
  log : Log
  /-- Units of work counted so far. -/
  seen : Nat
  deriving DecidableEq, Repr

/-- The message about a symbol outside memory; its address may have wrapped. -/
def unplacedMessage (site : Site) (record : SymbolRecord) : String :=
  "Unable to place symbol " ++ record.name ++ " at 0x"
    ++ Text.hexUpper (site.imageBase + record.rva).toNat
    ++ ": address is outside program memory"

namespace Application

/-- Nothing merged yet. -/
def start (db : Database) : Application :=
  ⟨db, .zero, [], 0⟩

/-- Pass a record over. -/
def filter (a : Application) : Application :=
  { a with applied := { a.applied with recordsFiltered := a.applied.recordsFiltered + 1 } }

/-- Count a unit of work. -/
def tick (a : Application) : Application :=
  { a with seen := a.seen + 1 }

/-- Offer a data type. -/
def offerType (a : Application) (record : TypeRecord) : Except LoadError Application :=
  match a.db.upsertType record with
  | .error e => .error (.store e)
  | .ok (_, .conflict _) => .error (.typeConflict record.name)
  | .ok (_, .existing) =>
      .ok { a with applied := { a.applied with typesExisting := a.applied.typesExisting + 1 } }
  | .ok (db, _) =>
      .ok { a with db, applied := { a.applied with typesAdded := a.applied.typesAdded + 1 } }

/-- Offer a symbol. -/
def offerSymbol (site : Site) (a : Application) (record : SymbolRecord) :
    Except LoadError Application :=
  match place site.imageBase record.rva site.blocks with
  | none =>
      .ok { a with
        log := a.log ++ [unplacedMessage site record]
        applied := { a.applied with symbolsSkipped := a.applied.symbolsSkipped + 1 } }
  | some address =>
      match a.db.addSymbol address record with
      | .error e => .error (.store e)
      | .ok (db, true) =>
          .ok { a with db, applied := { a.applied with symbolsAdded := a.applied.symbolsAdded + 1 } }
      | .ok (db, false) =>
          .ok { a with
            db, applied := { a.applied with symbolsExisting := a.applied.symbolsExisting + 1 } }

/-- Offer a source line; one outside memory is passed over in silence. -/
def offerLine (site : Site) (a : Application) (record : LineRecord) :
    Except LoadError Application :=
  match place site.imageBase record.rva site.blocks with
  | none => .ok a
  | some address =>
      match a.db.addLine address record.file record.line with
      | .error e => .error (.store e)
      | .ok (db, true) =>
          .ok { a with db, applied := { a.applied with linesAdded := a.applied.linesAdded + 1 } }
      | .ok (_, false) => .ok a

/-- Offer a comment; one outside memory is passed over in silence. -/
def offerComment (site : Site) (a : Application) (record : CommentRecord) :
    Except LoadError Application :=
  match place site.imageBase record.rva site.blocks with
  | none => .ok a
  | some address =>
      match a.db.addComment address record.text with
      | .error e => .error (.store e)
      | .ok (db, true) =>
          .ok { a with
            db, applied := { a.applied with commentsAdded := a.applied.commentsAdded + 1 } }
      | .ok (_, false) => .ok a

/-- Offer a record of any category. -/
def offer (site : Site) (a : Application) : Record → Except LoadError Application
  | .dataType record => a.offerType record
  | .symbol record => a.offerSymbol site record
  | .line record => a.offerLine site record
  | .comment record => a.offerComment site record

end Application

/-! ## §3. The walk over the records. -/

/-- How the walk ends. -/
inductive Ending where
  | complete
  /-- Stopped at a checkpoint. -/
  | cut
  | failed (cause : LoadError)
  deriving DecidableEq, Repr

/-- Merge the records in order until a checkpoint or a failure stops the walk. -/
def applyRecords (site : Site) (restrictions : Restrictions) (checkpoint : Checkpoint) :
    Application → List Record → Application × Ending
  | a, [] => (a, .complete)
  | a, record :: rest =>
      if restrictions.allows record.kind then
        let a := a.tick
        if checkpoint.stops a.seen then (a, .cut)
        else match a.offer site record with
          | .error e => (a, .failed e)
          | .ok a => applyRecords site restrictions checkpoint a rest
      else applyRecords site restrictions checkpoint a.filter rest

/-! ## §4. The whole merge. -/

/-- The messages of a merge, and the changed database with the counters if it was
not forgotten. -/
structure ApplyResult where
  log : Log
  result : Except LoadError (Database × Applied)

/-- Merge the content of a debug file.  The memory blocks are those recorded before
the merge. -/
def apply (options : ApplyOptions) (info : DebugInfo) (imageBase : UInt64) (isSet : Nat → Bool)
    (db : Database) : ApplyResult :=
  match db.blocks with
  | .error e => ⟨[], .error (.store e)⟩
  | .ok blocks =>
      let checkpoint : Checkpoint := ⟨options.checkInterval.toNat, isSet⟩
      match applyRecords ⟨imageBase, blocks⟩ options.restrictions checkpoint (.start db)
          info.records with
      | (a, .complete) => ⟨a.log, .ok (a.db, a.applied)⟩
      | (a, .cut) => ⟨a.log, .ok (a.db, { a.applied with cancelled := true })⟩
      | (a, .failed e) => ⟨a.log, .error e⟩

end DebugMerge
