/-
  DebugMerge.Proofs.Load.Coverage
  ───────────────────────────────
  **Which symbols in program memory the naming pass reaches.**

  Records are placed by blocks of addresses, and addresses are unsigned.  The
  naming pass asks the database for the symbols of a block, and the database
  compares addresses as signed numbers.  The two agree on a block that lies in
  one half of the address space.  A block that begins in the lower half and does
  not end below the upper one has its bounds reversed: the pass finds none of
  its symbols.

  Main statements
    • `MemoryBlock.straddles`, `isReached` — where signed and unsigned order differ
    • `isPending_iff`                      — the symbols of one block
    • `decorateRow_eq`                     — what a pass over all blocks makes of a symbol
    • `decorate_reached`                   — the whole pass
-/
import DebugMerge.Proofs.Load.Decoration

namespace DebugMerge

/-! ## §1. Signed and unsigned addresses. -/

/-- The first address of the upper half of the address space. -/
def upperHalf : Nat := 9223372036854775808

/-- Does the block begin in the lower half of the address space, and end above it?  The end
is the first address outside, so a block that fills the lower half up to its last address
counts as well. -/
def MemoryBlock.straddles (block : MemoryBlock) : Bool :=
  block.start.toNat < upperHalf && upperHalf ≤ block.stop.toNat

/-- Is the address inside a block whose symbols the pass finds? -/
def isReached (blocks : List MemoryBlock) (address : UInt64) : Bool :=
  blocks.any fun block => block.contains address && !block.straddles

/-- The signed number of an address: the upper half of the address space is below zero. -/
theorem toInt_toInt64 (a : UInt64) :
    a.toInt64.toInt
      = if a.toNat < upperHalf then (a.toNat : Int) else (a.toNat : Int) - Text.limit64 := by
  show a.toBitVec.toInt = _
  rw [BitVec.toInt_eq_toNat_cond]
  show (if 2 * a.toNat < Text.limit64 then (a.toNat : Int) else (a.toNat : Int) - Text.limit64) = _
  unfold upperHalf Text.limit64
  split <;> split <;> first | rfl | omega

theorem signedLe_iff {a b : UInt64} :
    signedLe a b = true ↔ a.toInt64.toInt ≤ b.toInt64.toInt := by
  unfold signedLe
  rw [decide_eq_true_iff, Int64.le_iff_toInt_le]

theorem signedLt_iff {a b : UInt64} :
    signedLt a b = true ↔ a.toInt64.toInt < b.toInt64.toInt := by
  unfold signedLt
  rw [decide_eq_true_iff, Int64.lt_iff_toInt_lt]

namespace MemoryBlock

theorem contains_iff {block : MemoryBlock} {address : UInt64} :
    block.contains address = true
      ↔ block.start.toNat ≤ address.toNat ∧ address.toNat < block.stop.toNat := by
  unfold contains
  rw [Bool.and_eq_true, decide_eq_true_iff, decide_eq_true_iff, UInt64.le_iff_toNat_le,
    UInt64.lt_iff_toNat_lt]

theorem straddles_eq_false_iff {block : MemoryBlock} :
    block.straddles = false ↔ block.stop.toNat < upperHalf ∨ upperHalf ≤ block.start.toNat := by
  unfold straddles
  rw [Bool.and_eq_false_iff, decide_eq_false_iff_not, decide_eq_false_iff_not]
  omega

/-- Between the bounds of a block, signed order is membership, unless the block straddles the
halves: then nothing is between its bounds. -/
theorem signed_between_iff {block : MemoryBlock} (h : block.start < block.stop)
    (address : UInt64) :
    signedLe block.start address = true ∧ signedLt address block.stop = true
      ↔ block.contains address = true ∧ block.straddles = false := by
  have hstart := block.start.toNat_lt
  have hstop := block.stop.toNat_lt
  have haddress := address.toNat_lt
  rw [UInt64.lt_iff_toNat_lt] at h
  rw [signedLe_iff, signedLt_iff, contains_iff, straddles_eq_false_iff,
    toInt_toInt64, toInt_toInt64, toInt_toInt64]
  unfold upperHalf Text.limit64
  split <;> split <;> split <;> omega

end MemoryBlock

/-! ## §2. The symbols of the blocks. -/

/-- **The symbols of one block** that the pass finds. -/
theorem isPending_iff {block : MemoryBlock} (h : block.start < block.stop) (row : SymbolRow) :
    Database.isPending block.start block.stop row = true
      ↔ row.demangled = none ∧ block.contains row.address = true ∧ block.straddles = false := by
  rw [isPending_iff_signed, block.signed_between_iff h]

/-- Without a readable name, a symbol gets the one that its name has. -/
theorem SymbolRow.decorated_of_undecorated {row : SymbolRow} (h : row.demangled = none) :
    row.decorated = { row with demangled := demangle row.name } := by
  cases hreadable : demangle row.name with
  | none =>
    rw [decorated_of_none hreadable, ← h]
  | some readable => exact decorated_of_some hreadable

/-- **What a pass over all blocks makes of a symbol** without a readable name. -/
theorem decorateRow_eq {blocks : List MemoryBlock}
    (hregular : ∀ block ∈ blocks, block.start < block.stop) {row : SymbolRow}
    (h : row.demangled = none) :
    decorateRow blocks row
      = if isReached blocks row.address then { row with demangled := demangle row.name }
        else row := by
  have hsame : (blocks.any fun block => Database.isPending block.start block.stop row)
      = isReached blocks row.address := by
    unfold isReached
    rw [Bool.eq_iff_iff, List.any_eq_true, List.any_eq_true]
    refine exists_congr fun block => and_congr_right fun hmem => ?_
    rw [isPending_iff (hregular block hmem), and_iff_right h, Bool.and_eq_true,
      Bool.not_eq_true']
  unfold decorateRow
  rw [hsame, row.decorated_of_undecorated h]

/-! ## §3. The whole pass. -/

/-- **The whole pass.**  If it is switched on and every block ends behind its beginning, then
it ends, and it is stopped only on request.  If it is not stopped, every symbol that had no
readable name now has the one that its name has, provided that it lies in a block within one
half of the address space; a symbol in program memory that lies in straddling blocks alone is
left as it was, like one outside memory. -/
theorem decorate_reached (isSet : Nat → Bool) (db : Database) (blocks : List MemoryBlock)
    (rows : List SymbolRow) (hon : isDecorating db = .ok true) (hblocks : db.blocks = .ok blocks)
    (hrows : db.symbols = some rows) (hregular : ∀ block ∈ blocks, block.start < block.stop) :
    ∃ rows' summary, decorate isSet db = .ok (db.withSymbols (some rows'), some summary)
      ∧ ((∀ n, isSet n = false) → summary.cancelled = false)
      ∧ (summary.cancelled = false →
          ∀ (i : Nat) (row : SymbolRow), rows[i]? = some row → row.demangled = none →
            rows'[i]? = some (if isReached blocks row.address
              then { row with demangled := demangle row.name } else row)) := by
  obtain ⟨rows', summary, hwalk, -, hfull, hnever⟩ :=
    decorateBlocks_spec ⟨decorateInterval, isSet⟩ blocks hrows .zero rfl
  refine ⟨rows', summary, ?_, hnever, ?_⟩
  · unfold decorate
    rw [hon, hblocks]
    show (decorateBlocks ⟨decorateInterval, isSet⟩ ⟨db, .zero⟩ blocks).bind _ = _
    rw [hwalk]
    rfl
  · intro hdone i row hrow hundecorated
    rw [hfull hdone, List.getElem?_map, hrow, Option.map_some,
      decorateRow_eq hregular hundecorated]

/-- A program with one block of memory and one symbol in it, whose name is mangled. -/
def memoryWithSymbol (block : MemoryBlock) (address : UInt64) : Database :=
  { Database.fresh with
    memoryBlocks := some [block]
    symbols := some [⟨address, "_ZN4core3fmt5write17h0123456789abcdefE", "function", "public",
      none, none⟩] }

theorem blocks_memoryWithSymbol (block : MemoryBlock) (address : UInt64) :
    (memoryWithSymbol block address).blocks = .ok [block] :=
  congrArg Except.ok (List.mergeSort_singleton block)

/-- A block in the upper half of the address space. -/
def upperBlock : MemoryBlock := ⟨".text", 0xFFFF800000000000, 0xFFFF800000002000⟩

/-- In the upper half of the address space symbols are named as in the lower one. -/
theorem decorate_reached_in_upper_half :
    ∃ rows' summary, decorate (fun _ => false) (memoryWithSymbol upperBlock 0xFFFF800000001000)
        = .ok ((memoryWithSymbol upperBlock 0xFFFF800000001000).withSymbols (some rows'),
          some summary)
      ∧ rows'[0]?.bind SymbolRow.demangled = some "core::fmt::write" := by
  obtain ⟨rows', summary, hrun, hnever, hnamed⟩ :=
    decorate_reached (fun _ => false) (memoryWithSymbol upperBlock 0xFFFF800000001000)
      [upperBlock] _ rfl (blocks_memoryWithSymbol _ _) rfl (by decide)
  refine ⟨rows', summary, hrun, ?_⟩
  rw [hnamed (hnever fun _ => rfl) 0 _ rfl rfl]
  decide +kernel

/-- A block around the middle of the address space. -/
def middleBlock : MemoryBlock := ⟨".text", 0x7FFFFFFFFFFFF000, 0x8000000000001000⟩

/-- A symbol in a block around the middle of the address space has a readable name, but a pass
that is never stopped examines nothing and leaves the symbol without it. -/
theorem symbol_in_middle_is_missed :
    middleBlock.start < middleBlock.stop
      ∧ middleBlock.contains 0x8000000000000000 = true
      ∧ demangle "_ZN4core3fmt5write17h0123456789abcdefE" = some "core::fmt::write"
      ∧ isDecorating (memoryWithSymbol middleBlock 0x8000000000000000) = .ok true
      ∧ decorate (fun _ => false) (memoryWithSymbol middleBlock 0x8000000000000000)
        = .ok (memoryWithSymbol middleBlock 0x8000000000000000, some ⟨0, 0, 0, false⟩) := by
  refine ⟨by decide, by decide, by decide +kernel, rfl, ?_⟩
  have hpending : (memoryWithSymbol middleBlock 0x8000000000000000).pendingSymbols
      middleBlock.start middleBlock.stop = .ok [] := by
    show Except.ok ((List.mergeSort [] _).map _) = _
    rw [List.mergeSort_nil, List.map_nil]
  unfold decorate
  rw [blocks_memoryWithSymbol]
  show ((decorateBlocks _ _ [middleBlock]).bind _) = _
  unfold decorateBlocks
  rw [hpending]
  rfl

end DebugMerge
