/-
  DebugMerge.Pdb.AddressMap
  ─────────────────────────
  **From section offsets to offsets from the image base.**

  A symbol is located by the number of a section, counted from one, and an
  offset into it.  If the executable was rearranged after linking, the file
  keeps the sections as they were and a table that moves every run of addresses.
  A run that moves to zero is gone.

  Main definitions
    • `Relocation`, `lastAtMost?`     — the table of moved runs
    • `AddressMap`, `addressMap`      — reading sections and table
    • `AddressMap.toRva?`             — from section offsets to image offsets
-/
import DebugMerge.Pdb.Directory

namespace DebugMerge.Pdb

/-! ## §1. Moved runs. -/

/-- A run of addresses starts at `source` and moves to `target`. -/
structure Relocation where
  source : UInt32
  target : UInt32
  deriving DecidableEq

/-- Search a sorted table between `base` and `base + size` for the last entry that is
not behind `address`.  The interval halves in every step. -/
def searchRun (table : Array Relocation) (address : UInt32) (base size : Nat) : Nat :=
  if _h : size ≤ 1 then base
  else
    let half := size / 2
    let middle := base + half
    match table[middle]? with
    | some run =>
        searchRun table address (if address < run.source then base else middle) (size - half)
    | none => base
termination_by size
decreasing_by omega

/-- The last entry of a sorted table that is not behind `address`. -/
def lastAtMost? (table : Array Relocation) (address : UInt32) : Option Relocation := do
  let run ← table[searchRun table address 0 table.size]?
  if run.source ≤ address then some run else none

/-- Where an address moves to. -/
def relocate? (table : Array Relocation) (address : UInt32) : Option UInt32 := do
  let run ← lastAtMost? table address
  if run.target = 0 then none else some (address - run.source + run.target)

/-- Take a run. -/
def takeRelocation : Take Relocation := do
  let source ← Take.u32
  let target ← Take.u32
  return ⟨UInt32.ofNat source, UInt32.ofNat target⟩

/-- Read runs to the end of the bytes.  Every run takes bytes, so `steps` may be their
number. -/
def readRelocations : Nat → List UInt8 → Except PdbError (List Relocation)
  | 0, _ => .ok []
  | steps + 1, bs =>
      if bs.isEmpty then .ok []
      else match takeRelocation.run bs with
        | none => .error (.streamLength "OMAP")
        | some (run, rest) => do
            let more ← readRelocations steps rest
            return run :: more

/-- The table of moved runs, which is never empty. -/
def relocations (bs : List UInt8) : Except PdbError (List Relocation) :=
  if bs.isEmpty then .error (.streamLength "OMAP") else readRelocations bs.length bs

/-! ## §2. Sections. -/

/-- Read the addresses at which sections start. -/
def sectionStarts : Nat → List UInt8 → Except PdbError (List UInt32)
  | 0, _ => .ok []
  | steps + 1, bs =>
      if bs.isEmpty then .ok []
      else do
        let (start, rest) ← whole (do
          Take.skip 12
          let start ← Take.u32
          Take.skip 24
          return UInt32.ofNat start) bs
        let more ← sectionStarts steps rest
        return start :: more

/-- The sections as they were linked, and how they were moved afterwards. -/
structure AddressMap where
  sections : List UInt32
  moved : Option (Array Relocation)

/-- The sections that a stream describes. -/
def sectionsOf (c : Container) (stream : Nat) : Except PdbError (Option (List UInt32)) := do
  match ← c.optionalStream stream with
  | none => return none
  | some bs => return some (← sectionStarts bs.length bs)

/-- The table that a stream holds. -/
def relocationsOf (c : Container) (stream : Nat) : Except PdbError (Option (List Relocation)) := do
  match ← c.optionalStream stream with
  | none => return none
  | some bs => return some (← relocations bs)

/-- The address map of a debug file. -/
def addressMap (c : Container) : Except PdbError AddressMap := do
  let extras ← extras (← debugStream c)
  let sections ← sectionsOf c extras.sections
  match ← sectionsOf c extras.linkedSections with
  | none => return ⟨sections.getD [], none⟩
  | some linked =>
      let some forward ← relocationsOf c extras.mapFromSource | throw .noAddressMap
      let some _ ← relocationsOf c extras.mapToSource | throw .noAddressMap
      return ⟨linked, some forward.toArray⟩

/-- The offset from the image base of an offset into a section. -/
def AddressMap.toRva? (map : AddressMap) (sectionNumber : Nat) (offset : UInt32) : Option UInt32 := do
  let start ← if sectionNumber = 0 then none else map.sections[sectionNumber - 1]?
  let linked := start + offset
  match map.moved with
  | none => some linked
  | some table => relocate? table linked

end DebugMerge.Pdb
