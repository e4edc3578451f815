/-
  DebugMerge.Proofs.Program.Rebasing
  ──────────────────────────────────
  **Moving memory to another image base keeps every record in its place.**

  A block is moved by its offsets: both of its bounds stay at their distances
  from the image base.  Between two bases that leave room for these distances
  the move can be taken back, so whatever lands in a block from one base lands
  in the moved block from the other, also where the sum of base and offset
  leaves the address space from one of them.

  Main statements
    • `MemoryBlock.Fits`, `.MovesTo`   — blocks that can be moved, and where to
    • `rebase?_eq_some_iff`            — moving one block
    • `rebaseAll_eq_ok_iff`, `rebaseAll_eq_error_iff` — moving all of them
    • `lands_of_movesTo`               — what lands before lands behind the move
    • `rebaseAll_keeps_placement`      — the whole move
-/
import DebugMerge.Proofs.Folds
import DebugMerge.Proofs.Load.Contents

namespace DebugMerge

/-! ## §1. One block. -/

theorem subChecked_eq_some_iff {a b difference : UInt64} :
    subChecked a b = some difference ↔ b.toNat + difference.toNat = a.toNat := by
  unfold subChecked
  constructor
  · intro h
    split at h
    · next hle =>
      cases h
      rw [UInt64.toNat_sub_of_le a b (UInt64.le_iff_toNat_le.mpr hle)]
      omega
    · cases h
  · intro h
    have hle : b.toNat ≤ a.toNat := by omega
    rw [if_pos hle]
    have hsub := UInt64.toNat_sub_of_le a b (UInt64.le_iff_toNat_le.mpr hle)
    exact congrArg some (UInt64.toNat_inj.mp (by omega))

namespace MemoryBlock

variable {source target : UInt64} {block moved : MemoryBlock}

/-- The block can keep its offsets: neither bound is below the old base, and from the new base
both stay in the address space. -/
structure Fits (source target : UInt64) (block : MemoryBlock) : Prop where
  source_le_start : source.toNat ≤ block.start.toNat
  source_le_stop : source.toNat ≤ block.stop.toNat
  start_lt : target.toNat + (block.start.toNat - source.toNat) < Text.limit64
  stop_lt : target.toNat + (block.stop.toNat - source.toNat) < Text.limit64

/-- `moved` has the name of the block and, from the new base, its offsets. -/
structure MovesTo (source target : UInt64) (block moved : MemoryBlock) : Prop where
  name_eq : moved.name = block.name
  source_le_start : source.toNat ≤ block.start.toNat
  source_le_stop : source.toNat ≤ block.stop.toNat
  start_add : source.toNat + moved.start.toNat = target.toNat + block.start.toNat
  stop_add : source.toNat + moved.stop.toNat = target.toNat + block.stop.toNat

/-- A move can be taken back. -/
theorem MovesTo.symm (h : MovesTo source target block moved) :
    MovesTo target source moved block where
  name_eq := h.name_eq.symm
  source_le_start := by
    have hstart := h.start_add
    have hsource := h.source_le_start
    omega
  source_le_stop := by
    have hstop := h.stop_add
    have hsource := h.source_le_stop
    omega
  start_add := h.start_add.symm
  stop_add := h.stop_add.symm

/-- The bounds of a moved block are words, so the block had room. -/
theorem MovesTo.fits (h : MovesTo source target block moved) : Fits source target block := by
  obtain ⟨-, hstart, hstop, hstartAdd, hstopAdd⟩ := h
  have hstartWord : moved.start.toNat < Text.limit64 := moved.start.toNat_lt
  have hstopWord : moved.stop.toNat < Text.limit64 := moved.stop.toNat_lt
  exact ⟨hstart, hstop, by omega, by omega⟩

/-- A block that has room is moved somewhere. -/
theorem Fits.exists_movesTo (h : Fits source target block) :
    ∃ moved, MovesTo source target block moved := by
  obtain ⟨hstart, hstop, hstartLt, hstopLt⟩ := h
  refine ⟨⟨block.name, .ofNat (target.toNat + (block.start.toNat - source.toNat)),
    .ofNat (target.toNat + (block.stop.toNat - source.toNat))⟩, rfl, hstart, hstop, ?_, ?_⟩
  · rw [UInt64.toNat_ofNat_of_lt' hstartLt]
    omega
  · rw [UInt64.toNat_ofNat_of_lt' hstopLt]
    omega

/-- **Moving one block.** -/
theorem rebase?_eq_some_iff :
    block.rebase? source target = some moved ↔ MovesTo source target block moved := by
  unfold rebase?
  constructor
  · intro h
    obtain ⟨first, hfirst, h⟩ := Option.bind_eq_some_iff.mp h
    obtain ⟨last, hlast, h⟩ := Option.bind_eq_some_iff.mp h
    obtain ⟨start, hstart, h⟩ := Option.bind_eq_some_iff.mp h
    obtain ⟨stop, hstop, h⟩ := Option.bind_eq_some_iff.mp h
    cases h
    rw [subChecked_eq_some_iff] at hfirst hlast
    rw [addChecked_eq_some_iff] at hstart hstop
    exact ⟨rfl, by omega, by omega, by show _ + start.toNat = _; omega,
      by show _ + stop.toNat = _; omega⟩
  · intro h
    obtain ⟨hname, hstart, hstop, hstartAdd, hstopAdd⟩ := h
    -- the offsets are the two differences that the move computes
    have hfirst : subChecked block.start source = some (block.start - source) := by
      unfold subChecked
      rw [if_pos hstart]
    have hlast : subChecked block.stop source = some (block.stop - source) := by
      unfold subChecked
      rw [if_pos hstop]
    have hfirstNat := subChecked_eq_some_iff.mp hfirst
    have hlastNat := subChecked_eq_some_iff.mp hlast
    refine Option.bind_eq_some_iff.mpr ⟨_, hfirst, Option.bind_eq_some_iff.mpr ⟨_, hlast, ?_⟩⟩
    refine Option.bind_eq_some_iff.mpr
      ⟨moved.start, addChecked_eq_some_iff.mpr (by omega), Option.bind_eq_some_iff.mpr
        ⟨moved.stop, addChecked_eq_some_iff.mpr (by omega), ?_⟩⟩
    rw [← hname]
    rfl

theorem rebase?_eq_none_iff :
    block.rebase? source target = none ↔ ¬ Fits source target block := by
  rw [← not_iff_not, not_not, ← ne_eq, Option.ne_none_iff_exists']
  constructor
  · rintro ⟨moved, h⟩
    exact (rebase?_eq_some_iff.mp h).fits
  · intro h
    obtain ⟨moved, hmoved⟩ := h.exists_movesTo
    exact ⟨moved, rebase?_eq_some_iff.mpr hmoved⟩

end MemoryBlock

/-! ## §2. All blocks. -/

section AllBlocks

variable {source target : UInt64} {blocks moved : List MemoryBlock}

open MemoryBlock

/-- **Moving all blocks** moves each of them, in order. -/
theorem rebaseAll_eq_ok_iff :
    rebaseAll source target blocks = .ok moved
      ↔ List.Forall₂ (MovesTo source target) blocks moved := by
  induction blocks generalizing moved with
  | nil =>
    rw [List.forall₂_nil_left_iff]
    constructor
    · intro h
      cases h
      rfl
    · rintro rfl
      rfl
  | cons block rest ih =>
    rw [rebaseAll, List.forall₂_cons_left_iff]
    cases hblock : block.rebase? source target with
    | none =>
      constructor
      · intro h
        cases h
      · rintro ⟨first, _, hfirst, -⟩
        rw [rebase?_eq_some_iff.mpr hfirst] at hblock
        cases hblock
    | some first =>
      dsimp only
      rw [map_ok]
      constructor
      · rintro ⟨others, hothers, rfl⟩
        exact ⟨first, others, rebase?_eq_some_iff.mp hblock, ih.mp hothers, rfl⟩
      · rintro ⟨first', others, hfirst, hothers, rfl⟩
        rw [rebase?_eq_some_iff.mpr hfirst] at hblock
        cases hblock
        exact ⟨others, ih.mpr hothers, rfl⟩

/-- **A failed move** names the first block that cannot be moved. -/
theorem rebaseAll_eq_error_iff {e : RebaseError} :
    rebaseAll source target blocks = .error e
      ↔ e.source = source ∧ e.target = target
        ∧ ∃ before after, blocks = before ++ e.block :: after
          ∧ (∀ block ∈ before, Fits source target block) ∧ ¬ Fits source target e.block := by
  induction blocks with
  | nil =>
    constructor
    · intro h
      cases h
    · rintro ⟨-, -, before, after, h, -⟩
      exact absurd h.symm (by simp)
  | cons block rest ih =>
    rw [rebaseAll]
    cases hblock : block.rebase? source target with
    | none =>
      have hstuck := rebase?_eq_none_iff.mp hblock
      constructor
      · intro h
        cases h
        exact ⟨rfl, rfl, [], rest, rfl, nofun, hstuck⟩
      · rintro ⟨rfl, rfl, before, after, h, hbefore, -⟩
        cases before with
        | nil =>
          cases h
          rfl
        | cons first before =>
          cases h
          exact absurd (hbefore block List.mem_cons_self) hstuck
    | some first =>
      have hfits := (rebase?_eq_some_iff.mp hblock).fits
      dsimp only
      rw [map_error, ih]
      refine and_congr_right fun _ => and_congr_right fun _ => ?_
      constructor
      · rintro ⟨before, after, rfl, hbefore, hstuck⟩
        exact ⟨block :: before, after, rfl, List.forall_mem_cons.mpr ⟨hfits, hbefore⟩, hstuck⟩
      · rintro ⟨before, after, h, hbefore, hstuck⟩
        cases before with
        | nil =>
          cases h
          exact absurd hfits hstuck
        | cons first before =>
          cases h
          exact ⟨before, after, rfl, fun b hb => hbefore b (List.mem_cons_of_mem _ hb), hstuck⟩

/-- Every element of the first list has its partner in the second one. -/
theorem exists_partner {α β : Type} {R : α → β → Prop} {as : List α} {bs : List β} {a : α}
    (h : List.Forall₂ R as bs) (ha : a ∈ as) : ∃ b ∈ bs, R a b := by
  induction h with
  | nil => cases ha
  | cons hfirst _ ih =>
    rcases List.mem_cons.mp ha with rfl | ha
    · exact ⟨_, List.mem_cons_self, hfirst⟩
    · obtain ⟨b, hb, hpartner⟩ := ih ha
      exact ⟨b, List.mem_cons_of_mem _ hb, hpartner⟩

/-- Blocks can be moved exactly if each of them can. -/
theorem exists_rebaseAll_iff :
    (∃ moved, rebaseAll source target blocks = .ok moved)
      ↔ ∀ block ∈ blocks, Fits source target block := by
  constructor
  · rintro ⟨moved, h⟩ block hblock
    obtain ⟨_, -, hmoves⟩ := exists_partner (rebaseAll_eq_ok_iff.mp h) hblock
    exact hmoves.fits
  · intro h
    cases hall : rebaseAll source target blocks with
    | ok moved => exact ⟨moved, rfl⟩
    | error e =>
      obtain ⟨-, -, before, after, rfl, -, hstuck⟩ := rebaseAll_eq_error_iff.mp hall
      exact absurd (h e.block (by simp)) hstuck

/-! ## §3. What lands in them. -/

/-- **What lands before the move lands behind it**, at the same offset from the other base. -/
theorem lands_of_movesTo {rva address : UInt64}
    (hmoved : List.Forall₂ (MovesTo source target) blocks moved)
    (h : (⟨source, blocks⟩ : Site).Lands rva address) :
    ∃ address', (⟨target, moved⟩ : Site).Lands rva address' := by
  obtain ⟨hsum, block, hblock, hstart, hstop⟩ := h
  obtain ⟨block', hmem, -, hstartLe, hstopLe, hstartAdd, hstopAdd⟩ :=
    exists_partner hmoved hblock
  have hword := block'.stop.toNat_lt
  dsimp only at hsum
  -- the end of the moved block bounds the address from the new base
  have haddress : (UInt64.ofNat (target.toNat + rva.toNat)).toNat = target.toNat + rva.toNat :=
    UInt64.toNat_ofNat_of_lt' (by show _ < 2 ^ 64; omega)
  refine ⟨.ofNat (target.toNat + rva.toNat), haddress.symm, block', hmem, ?_, ?_⟩
  · rw [haddress]
    omega
  · rw [haddress]
    omega

end AllBlocks

/-- **The whole move.**  Blocks can be moved from one image base to another exactly if each of
them can keep its offsets.  Then they keep their names and their order; from the new base exactly
those offsets land in the moved blocks that landed in the old ones from the old base, and the two
addresses are as far apart as the bases; and moving the blocks back restores them. -/
theorem rebaseAll_keeps_placement (source target : UInt64) (blocks : List MemoryBlock) :
    ((∃ moved, rebaseAll source target blocks = .ok moved)
        ↔ ∀ block ∈ blocks, block.Fits source target)
    ∧ ∀ moved, rebaseAll source target blocks = .ok moved →
      moved.map MemoryBlock.name = blocks.map MemoryBlock.name
      ∧ (∀ rva, (place target rva moved).isSome = (place source rva blocks).isSome)
      ∧ (∀ rva old new, place source rva blocks = some old → place target rva moved = some new →
          (new.toNat : Int) - old.toNat = (target.toNat : Int) - source.toNat)
      ∧ rebaseAll target source moved = .ok blocks := by
  refine ⟨exists_rebaseAll_iff, fun moved h => ?_⟩
  have hforth := rebaseAll_eq_ok_iff.mp h
  have hback : List.Forall₂ (MemoryBlock.MovesTo target source) moved blocks :=
    hforth.flip.imp fun _ _ hmoves => hmoves.symm
  refine ⟨?_, fun rva => ?_, fun rva old new hold hnew => ?_, rebaseAll_eq_ok_iff.mpr hback⟩
  · rw [← List.forall₂_eq_eq_eq, List.forall₂_map_left_iff, List.forall₂_map_right_iff]
    exact hback.imp fun _ _ hmoves => hmoves.name_eq.symm
  · rw [Bool.eq_iff_iff, Option.isSome_iff_exists, Option.isSome_iff_exists]
    constructor
    · rintro ⟨address, hplace⟩
      obtain ⟨address', hlands⟩ :=
        lands_of_movesTo hback ((place_eq_some_iff ⟨target, moved⟩ rva address).mp hplace)
      exact ⟨address', (place_eq_some_iff ⟨source, blocks⟩ rva address').mpr hlands⟩
    · rintro ⟨address, hplace⟩
      obtain ⟨address', hlands⟩ :=
        lands_of_movesTo hforth ((place_eq_some_iff ⟨source, blocks⟩ rva address).mp hplace)
      exact ⟨address', (place_eq_some_iff ⟨target, moved⟩ rva address').mpr hlands⟩
  · obtain ⟨hold, -⟩ := (place_eq_some_iff ⟨source, blocks⟩ rva old).mp hold
    obtain ⟨hnew, -⟩ := (place_eq_some_iff ⟨target, moved⟩ rva new).mp hnew
    dsimp only at hold hnew
    omega

/-- The sections of an executable at its preferred base. -/
def sectionsAtPreferred : List MemoryBlock :=
  [⟨".text", 0x140001000, 0x140008000⟩, ⟨".data", 0x140008000, 0x140009000⟩]

/-- The same sections as close to the end of the address space as they can be. -/
def sectionsAtEnd : List MemoryBlock :=
  [⟨".text", 0xFFFFFFFFFFFF7FFF, 0xFFFFFFFFFFFFEFFF⟩,
    ⟨".data", 0xFFFFFFFFFFFFEFFF, 0xFFFFFFFFFFFFFFFF⟩]

/-- A move to the end of the address space keeps what lands in the sections, where the first
offset behind them is no address any more. -/
theorem rebaseAll_keeps_placement_at_end :
    rebaseAll 0x140000000 0xFFFFFFFFFFFF6FFF sectionsAtPreferred = .ok sectionsAtEnd
      ∧ place 0x140000000 0x8FFF sectionsAtPreferred = some 0x140008FFF
      ∧ place 0xFFFFFFFFFFFF6FFF 0x8FFF sectionsAtEnd = some 0xFFFFFFFFFFFFFFFE
      ∧ place 0xFFFFFFFFFFFF6FFF 0x9001 sectionsAtEnd = none
      ∧ (place 0x140000000 0x9001 sectionsAtPreferred).isSome = false
      ∧ rebaseAll 0xFFFFFFFFFFFF6FFF 0x140000000 sectionsAtEnd = .ok sectionsAtPreferred := by
  have hmoved : rebaseAll 0x140000000 0xFFFFFFFFFFFF6FFF sectionsAtPreferred
      = .ok sectionsAtEnd := rfl
  obtain ⟨-, hall⟩ := rebaseAll_keeps_placement 0x140000000 0xFFFFFFFFFFFF6FFF sectionsAtPreferred
  obtain ⟨-, hplaced, -, hback⟩ := hall sectionsAtEnd hmoved
  have hbehind : place 0xFFFFFFFFFFFF6FFF 0x9001 sectionsAtEnd = none := by decide
  refine ⟨hmoved, by decide, by decide, hbehind, ?_, hback⟩
  rw [← hplaced, hbehind]
  rfl

end DebugMerge
