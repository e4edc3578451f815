/-
  DebugMerge.Pdb.Reader
  ─────────────────────
  **Reading a whole debug file.**

  The file is read stream by stream: symbols first, types afterwards.  Every
  record that is passed is a unit of work, counted before it is looked at, and
  the reading may stop there; then nothing is answered.

  Main definitions
    • `ReadFailure`              — how reading fails
    • `readSymbols`, `readTypes` — the two parts
    • `readInfo`                 — the content of a debug file
-/
import DebugMerge.Cancellation
import DebugMerge.Pdb.TypeTable

namespace DebugMerge.Pdb

/-- How reading fails. -/
inductive ReadFailure where
  | malformed (cause : PdbError)
  | cancelled
  /-- Never an answer: the fields of a data type lead back to themselves, and reading goes on
  forever. -/
  | endless
  deriving DecidableEq

/-- Read records as symbols; `seen` records were counted before.  Answers the symbols
and how many records are counted now. -/
def readSymbols (map : AddressMap) (checkpoint : Checkpoint) (failure : Option PdbError) :
    Nat → List (List UInt8) → Except ReadFailure (List SymbolRecord × Nat)
  | seen, [] =>
      match failure with
      | some e => .error (.malformed e)
      | none => .ok ([], seen)
  | seen, record :: rest =>
      let seen := seen + 1
      if checkpoint.stops seen then .error .cancelled
      else do
        let (symbols, seen) ← readSymbols map checkpoint failure seen rest
        return ((readSymbol map record).toList ++ symbols, seen)

/-- Read records as data types; record number `k` comes next, and `seen` records were
counted before. -/
def readTypes (table : TypeTable) (wantsMembers : Bool) (checkpoint : Checkpoint) :
    Nat → Nat → List (List UInt8) → Except ReadFailure (List TypeRecord)
  | _, _, [] =>
      match table.failure with
      | some e => .error (.malformed e)
      | none => .ok []
  | seen, k, record :: rest =>
      let seen := seen + 1
      if checkpoint.stops seen then .error .cancelled
      else match readDefinition table wantsMembers k record with
        | .endless => .error .endless
        | .nothing => readTypes table wantsMembers checkpoint seen (k + 1) rest
        | .type definition => do
            let more ← readTypes table wantsMembers checkpoint seen (k + 1) rest
            return definition :: more

/-- A failure of the file's structure. -/
def orMalformed {α : Type} : Except PdbError α → Except ReadFailure α
  | .ok a => .ok a
  | .error e => .error (.malformed e)

/-- The content of a debug file. -/
def readInfo (bytes : List UInt8) (wantsMembers : Bool) (checkpoint : Checkpoint) :
    Except ReadFailure DebugInfo := do
  let c ← orMalformed (Container.open? bytes)
  let map ← orMalformed (addressMap c)
  let records ← orMalformed (symbolStreams c)
  let (symbols, seen) ← readSymbols map checkpoint records.failure 0 records.records
  let table ← orMalformed (typeTable c)
  let types ← readTypes table wantsMembers checkpoint seen 0 table.records.toList
  return ⟨types, symbols, [], []⟩

end DebugMerge.Pdb
