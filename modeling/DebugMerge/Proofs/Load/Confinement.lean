/-
  DebugMerge.Proofs.Load.Confinement
  ──────────────────────────────────
  **The naming pass touches only what it should.**

  The pass asks for the symbols between the bounds of a block, and the bounds
  are compared as signed numbers.  That may find too few symbols, where a block
  reaches from one half of the address space into the other, but never one that
  lies outside: between the signed bounds of a block that does not end before it
  begins there are only addresses of the block.

  A pass may be stopped, and it works on the table that it asks, block after
  block.  Whatever it leaves behind, each symbol is as it was or as the pass
  makes it, so what is known of one symbol is known of the table.

  Main definitions
    • `SymbolRow.NamedIn`                      — a symbol before and after the pass
    • `Database.afterNaming`                   — the database behind the pass
  Main statements
    • `MemoryBlock.contains_of_signed_between` — the signed range is inside the block
    • `forall₂_of_partly`                      — from one symbol to the table
    • `decorate_confined`                      — the whole pass
-/
import DebugMerge.Load.Run
import DebugMerge.Proofs.Load.Coverage
import Mathlib.Data.List.Forall2

namespace DebugMerge

/-! ## §1. The signed range of a block. -/

/-- **Nothing outside a block is between its signed bounds**, unless the block ends before it
begins. -/
theorem MemoryBlock.contains_of_signed_between {block : MemoryBlock}
    (hregular : block.start ≤ block.stop) {address : UInt64}
    (hstart : signedLe block.start address = true) (hstop : signedLt address block.stop = true) :
    block.contains address = true := by
  by_cases hlt : block.start < block.stop
  · exact ((block.signed_between_iff hlt address).mp ⟨hstart, hstop⟩).1
  · -- an empty block has nothing between its bounds in any order
    have heq : block.start = block.stop := UInt64.le_antisymm hregular (UInt64.not_lt.mp hlt)
    rw [heq, signedLe_iff] at hstart
    rw [signedLt_iff] at hstop
    omega

/-! ## §2. One symbol. -/

namespace SymbolRow

/-- The symbol is as it was, or it lies in some block and was named. -/
def NamedIn (blocks : List MemoryBlock) (row row' : SymbolRow) : Prop :=
  row' = row ∨ ((∃ block ∈ blocks, block.contains row.address = true) ∧ row.IsNamed row')

/-- A symbol outside every block is as it was. -/
theorem NamedIn.eq_of_outside {blocks : List MemoryBlock} {row row' : SymbolRow}
    (h : NamedIn blocks row row') (hout : ∀ block ∈ blocks, block.contains row.address = false) :
    row' = row := by
  rcases h with heq | ⟨⟨block, hmem, hin⟩, -⟩
  · exact heq
  · rw [hout block hmem] at hin
    cases hin

end SymbolRow

variable {blocks : List MemoryBlock} {rows rows' : List SymbolRow}

/-- A symbol that a pass over some of the blocks asks for lies in one of the blocks. -/
theorem namedIn_decorateRow {examined : List MemoryBlock}
    (hregular : ∀ block ∈ blocks, block.start ≤ block.stop)
    (hsub : ∀ block ∈ examined, block ∈ blocks) (row : SymbolRow) :
    row.NamedIn blocks (decorateRow examined row) := by
  rcases decorateRow_cases examined row with heq | ⟨⟨block, hmem, hpending⟩, hnamed⟩
  · exact .inl heq
  · obtain ⟨-, hstart, hstop⟩ := isPending_iff_signed.mp hpending
    have hblock := hsub block hmem
    have hcontains := block.contains_of_signed_between (hregular block hblock) hstart hstop
    exact .inr ⟨⟨block, hblock, hcontains⟩, hnamed⟩

/-! ## §3. The table. -/

/-- What is kept by leaving a symbol alone and by making of it what the pass makes is kept by
every pass, stopped or not, symbol by symbol. -/
theorem forall₂_of_partly {R : SymbolRow → SymbolRow → Prop} (hkept : ∀ row, R row row)
    (hmade : ∀ row, R row (decorateRow blocks row)) (h : PartlyDecorated blocks rows rows') :
    List.Forall₂ R rows rows' := by
  induction rows generalizing rows' with
  | nil =>
    have hend : rows'[0]? = none := by
      rcases h 0 with h | h <;> exact h
    rw [List.getElem?_eq_none_iff, Nat.le_zero, List.length_eq_zero_iff] at hend
    rw [hend]
    exact .nil
  | cons row rows ih =>
    cases rows' with
    | nil => rcases h 0 with h | h <;> cases h
    | cons row' rows' =>
      refine .cons ?_ (ih fun i => h (i + 1))
      rcases h 0 with h | h
      · rw [Option.some.inj h]
        exact hkept row
      · rw [Option.some.inj h]
        exact hmade row

/-- The same of the database: what a pass leaves behind differs in its symbols alone. -/
theorem Database.IsPartlyDecorated.rel {R : SymbolRow → SymbolRow → Prop} {db db' : Database}
    (h : db.IsPartlyDecorated db') (hkept : ∀ row, R row row)
    (hmade : ∀ row, R row (decorateRow db.decoratedBlocks row)) :
    ∃ rows', db' = db.withSymbols rows' ∧ Option.Rel (List.Forall₂ R) db.symbols rows' := by
  obtain ⟨rows', heq, hrel⟩ := h
  refine ⟨rows', heq, ?_⟩
  generalize db.symbols = symbols at hrel ⊢
  cases hrel with
  | none => exact .none
  | some hpartly => exact .some (forall₂_of_partly hkept hmade hpartly)

/-- Every block that is examined is a block of the program. -/
theorem Database.mem_of_mem_decoratedBlocks {db : Database} {block : MemoryBlock}
    (h : block ∈ db.decoratedBlocks) : block ∈ db.memoryBlocks.getD [] := by
  unfold decoratedBlocks at h
  split at h
  · next hblocks =>
    unfold Database.blocks rowsOf at hblocks
    cases hrows : db.memoryBlocks with
    | none =>
      rw [hrows] at hblocks
      cases hblocks
    | some rows =>
      rw [hrows] at hblocks
      cases hblocks
      exact List.mem_mergeSort.mp h
  · cases h

/-! ## §4. The whole pass. -/

/-- The database behind the pass; one that fails leaves it as it was. -/
def Database.afterNaming (isSet : Nat → Bool) (db : Database) : Database :=
  match decorate isSet db with
  | .ok (db', _) => db'
  | .error _ => db

/-- That is the database with which a run goes on. -/
theorem LoadJob.decorating_db (job : LoadJob) (p : Progress) :
    (job.decorating p).1.db = p.db.afterNaming (job.plan.setDemangling p.asked) := by
  unfold LoadJob.decorating Database.afterNaming
  dsimp only
  rw [show (p.enter .demangling).db = p.db from rfl,
    show (p.enter .demangling).asked = p.asked from rfl]
  cases decorate (job.plan.setDemangling p.asked) p.db with
  | error e => rfl
  | ok r =>
    dsimp only
    split <;> rfl

/-- A pass, stopped or failed or complete, leaves behind a table in which symbols were named. -/
theorem afterNaming_partly (isSet : Nat → Bool) (db : Database) :
    db.IsPartlyDecorated (db.afterNaming isSet) := by
  have hpass := decorate_spec isSet db
  unfold Database.afterNaming
  cases h : decorate isSet db with
  | error e => exact db.isPartlyDecorated_refl
  | ok r =>
    rw [h] at hpass
    exact hpass.1

/-- An option whose trimmed value is not `true` in any case switches the pass off. -/
theorem decorate_of_option {isSet : Nat → Bool} {db : Database} {options : ProgramOptions}
    {value : String} (hoptions : db.optionsIn analysisCategory = .ok options)
    (hvalue : options.get? decorateOption = some value)
    (hoff : Text.asciiLower (Text.trim value) ≠ "true") : decorate isSet db = .ok (db, none) := by
  have hswitch : isDecorating db = .ok false := by
    unfold isDecorating
    rw [hoptions]
    show Except.ok (options.flag decorateOption true) = _
    unfold ProgramOptions.flag
    rw [hvalue]
    exact congrArg Except.ok (beq_eq_false_iff_ne.mpr hoff)
  unfold decorate
  rw [hswitch]
  rfl

/-- **The naming pass touches only what it should.**  If no block of the program ends before it
begins, then whenever the pass is asked to stop, and also if it fails: it does nothing if an option
switches it off; otherwise all tables but that of the symbols stay as they are, and each symbol
stays as it is, unless it lies in a block, had no readable name, and its name has one: then it may
have got exactly that name, and nothing else of it has changed. -/
theorem decorate_confined (isSet : Nat → Bool) (db : Database)
    (hregular : ∀ block ∈ db.memoryBlocks.getD [], block.start ≤ block.stop) :
    (∀ options value, db.optionsIn analysisCategory = .ok options →
        options.get? decorateOption = some value → Text.asciiLower (Text.trim value) ≠ "true" →
          decorate isSet db = .ok (db, none))
      ∧ (∃ rows', db.afterNaming isSet = db.withSymbols rows'
          ∧ Option.Rel (List.Forall₂ (SymbolRow.NamedIn (db.memoryBlocks.getD [])))
            db.symbols rows')
      ∧ ∀ (job : LoadJob) (p : Progress), p.db = db → job.plan.setDemangling p.asked = isSet →
          (job.decorating p).1.db = db.afterNaming isSet := by
  refine ⟨fun options value => decorate_of_option, ?_, ?_⟩
  · exact (afterNaming_partly isSet db).rel (fun _ => .inl rfl)
      (namedIn_decorateRow hregular fun _ => Database.mem_of_mem_decoratedBlocks)
  · intro job p hdb hset
    rw [LoadJob.decorating_db, hdb, hset]

/-- A program with a block around the middle of the address space, and an option. -/
def withSwitch (value : String) : Database :=
  { memoryWithSymbol middleBlock 4096 with
    options := some [⟨analysisCategory, decorateOption, value⟩] }

/-- The symbol below the block is left alone, although its name has a readable form and the block
reaches into both halves of the address space; and with another value of the option nothing is
examined at all. -/
theorem decorate_confined_below_block :
    (withSwitch " True").afterNaming (fun _ => false) = withSwitch " True"
      ∧ decorate (fun _ => false) (withSwitch "yes") = .ok (withSwitch "yes", none) := by
  constructor
  · obtain ⟨-, ⟨rows', hafter, hrel⟩, -⟩ :=
      decorate_confined (fun _ => false) (withSwitch " True") (by decide)
    rw [hafter]
    cases hrel with
    | some hrows =>
      cases hrows with
      | cons hrow hrest =>
        cases hrest
        rw [hrow.eq_of_outside (by decide)]
        rfl
  · obtain ⟨hoff, -, -⟩ := decorate_confined (fun _ => false) (withSwitch "yes") (by decide)
    exact hoff _ "yes" rfl (by decide) (by decide)

end DebugMerge
