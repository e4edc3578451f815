/-
  DebugMerge.Proofs.Pe.Placement
  ──────────────────────────────
  **The sections of an executable decide which records have a place.**

  A section says where it lies in numbers of 32 bits relative to a load address
  of 64 bits, and its size in one of two fields.  Of the sections, those that
  hold an address and do not leave the address space become memory, in their
  order.  So an offset has an address in the imported program exactly if such a
  section holds it, and the memory can be moved anywhere where it fits.

  Main statements
    • `Section.IsMapped`, `.Occupies`   — sections that become memory, and which
    • `blocks_toProgram`                — the memory of a program
    • `place_toProgram_iff`             — the offsets that have a place
    • `exists_rebaseAll_error_iff`      — when the memory cannot be moved
    • `imported_sections_decide_placement` — the whole import
-/
import DebugMerge.Pe.Import
import DebugMerge.Proofs.Pdb.FieldLists
import DebugMerge.Proofs.Program.Rebasing

namespace DebugMerge.Pe

/-! ## §1. One section. -/

namespace Section

variable {imageBase : UInt64} {s : Section} {block : MemoryBlock}

/-- The section holds an address, and the first address behind it is in the address space. -/
structure IsMapped (imageBase : UInt64) (s : Section) : Prop where
  holds : 0 < s.effectiveSize.toNat
  stays : imageBase.toNat + s.virtualAddress.toNat + s.effectiveSize.toNat < Text.limit64

instance (imageBase : UInt64) (s : Section) : Decidable (s.IsMapped imageBase) :=
  decidable_of_iff (0 < s.effectiveSize.toNat
      ∧ imageBase.toNat + s.virtualAddress.toNat + s.effectiveSize.toNat < Text.limit64)
    ⟨fun h => ⟨h.1, h.2⟩, fun h => ⟨h.1, h.2⟩⟩

/-- The block has the name of the section and its place behind the load address. -/
structure Occupies (imageBase : UInt64) (s : Section) (block : MemoryBlock) : Prop where
  name_eq : block.name = s.name.getD unnamedSection
  start_eq : block.start.toNat = imageBase.toNat + s.virtualAddress.toNat
  stop_eq : block.stop.toNat
    = imageBase.toNat + s.virtualAddress.toNat + s.effectiveSize.toNat

theorem block?_eq_some_iff : s.block? imageBase = some block ↔ s.Occupies imageBase block := by
  unfold block?
  constructor
  · intro h
    obtain ⟨start, hstart, h⟩ := Option.bind_eq_some_iff.mp h
    obtain ⟨stop, hstop, h⟩ := Option.bind_eq_some_iff.mp h
    cases h
    rw [addChecked_eq_some_iff, UInt32.toNat_toUInt64] at hstart hstop
    exact ⟨rfl, hstart.symm, by rw [hstart]; exact hstop.symm⟩
  · rintro ⟨hname, hstart, hstop⟩
    refine Option.bind_eq_some_iff.mpr ⟨block.start, ?_, Option.bind_eq_some_iff.mpr
      ⟨block.stop, ?_, ?_⟩⟩
    · rw [addChecked_eq_some_iff, UInt32.toNat_toUInt64, hstart]
    · rw [addChecked_eq_some_iff, UInt32.toNat_toUInt64, hstart, hstop]
    · rw [← hname]
      rfl

/-- A section is mapped exactly if its block is there and holds an address. -/
theorem isMapped_iff :
    s.IsMapped imageBase ↔ ∃ block, s.block? imageBase = some block ∧ block.isEmpty = false := by
  have hempty : ∀ block, s.Occupies imageBase block →
      (block.isEmpty = false ↔ 0 < s.effectiveSize.toNat) := by
    rintro block ⟨-, hstart, hstop⟩
    unfold MemoryBlock.isEmpty MemoryBlock.length
    rw [hstart, hstop, beq_eq_false_iff_ne]
    omega
  constructor
  · rintro ⟨hholds, hstays⟩
    have hoccupies : s.Occupies imageBase ⟨s.name.getD unnamedSection,
        .ofNat (imageBase.toNat + s.virtualAddress.toNat),
        .ofNat (imageBase.toNat + s.virtualAddress.toNat + s.effectiveSize.toNat)⟩ :=
      ⟨rfl, UInt64.toNat_ofNat_of_lt' (Nat.lt_of_le_of_lt (Nat.le_add_right _ _) hstays),
        UInt64.toNat_ofNat_of_lt' hstays⟩
    exact ⟨_, block?_eq_some_iff.mpr hoccupies, (hempty _ hoccupies).mpr hholds⟩
  · rintro ⟨block, hblock, hholds⟩
    have hoccupies := block?_eq_some_iff.mp hblock
    refine ⟨(hempty block hoccupies).mp hholds, ?_⟩
    rw [← hoccupies.stop_eq]
    exact block.stop.toNat_lt

end Section

/-! ## §2. The memory of a program. -/

section Program

variable {image : Image}

/-- **The memory of a program** consists of the mapped sections, in their order. -/
theorem blocks_toProgram (name : String) (image : Image) :
    List.Forall₂ (Section.Occupies image.imageBase)
      (image.sections.filter fun s => s.IsMapped image.imageBase)
      (image.toProgram name).blocks := by
  show List.Forall₂ _ _ ((image.sections.filterMap (Section.block? image.imageBase)).filter _)
  induction image.sections with
  | nil => exact .nil
  | cons s rest ih =>
    by_cases hmapped : s.IsMapped image.imageBase
    · obtain ⟨block, hblock, hholds⟩ := Section.isMapped_iff.mp hmapped
      have hkept : (!block.isEmpty) = true := by
        rw [hholds]
        rfl
      rw [List.filter_cons, if_pos (decide_eq_true hmapped), List.filterMap_cons_some hblock,
        List.filter_cons, if_pos hkept]
      exact .cons (Section.block?_eq_some_iff.mp hblock) ih
    · rw [List.filter_cons, decide_eq_false hmapped, if_neg Bool.false_ne_true]
      cases hblock : s.block? image.imageBase with
      | none =>
        rw [List.filterMap_cons_none hblock]
        exact ih
      | some block =>
        have hempty : block.isEmpty = true := by
          rw [← Bool.not_eq_false]
          exact fun hholds => hmapped (Section.isMapped_iff.mpr ⟨block, hblock, hholds⟩)
        rw [List.filterMap_cons_some hblock, List.filter_cons, hempty, Bool.not_true,
          if_neg Bool.false_ne_true]
        exact ih

/-- A block of the program belongs to a mapped section, and every mapped section has one. -/
theorem exists_section_of_mem {name : String} {block : MemoryBlock}
    (h : block ∈ (image.toProgram name).blocks) :
    ∃ s ∈ image.sections, s.IsMapped image.imageBase ∧ s.Occupies image.imageBase block := by
  obtain ⟨s, hs, hoccupies⟩ := exists_partner (blocks_toProgram name image).flip h
  obtain ⟨hmem, hmapped⟩ := List.mem_filter.mp hs
  exact ⟨s, hmem, of_decide_eq_true hmapped, hoccupies⟩

/-- See `exists_section_of_mem`. -/
theorem exists_block_of_mem (name : String) {s : Section} (hs : s ∈ image.sections)
    (hmapped : s.IsMapped image.imageBase) :
    ∃ block ∈ (image.toProgram name).blocks, s.Occupies image.imageBase block :=
  exists_partner (blocks_toProgram name image)
    (List.mem_filter.mpr ⟨hs, decide_eq_true hmapped⟩)

/-- **The offsets that have a place** are those that a section which stays in the address space
reaches over. -/
theorem place_toProgram_iff (name : String) (image : Image) (rva address : UInt64) :
    place image.imageBase rva (image.toProgram name).blocks = some address
      ↔ image.imageBase.toNat + rva.toNat = address.toNat
        ∧ ∃ s ∈ image.sections, s.virtualAddress.toNat ≤ rva.toNat
          ∧ rva.toNat < s.virtualAddress.toNat + s.effectiveSize.toNat
          ∧ image.imageBase.toNat + s.virtualAddress.toNat + s.effectiveSize.toNat
            < Text.limit64 := by
  refine (place_eq_some_iff ⟨image.imageBase, _⟩ rva address).trans
    (and_congr_right fun hsum => ?_)
  dsimp only at hsum
  constructor
  · rintro ⟨block, hblock, hstart, hstop⟩
    obtain ⟨s, hs, hmapped, hoccupies⟩ := exists_section_of_mem hblock
    rw [hoccupies.start_eq] at hstart
    rw [hoccupies.stop_eq] at hstop
    exact ⟨s, hs, by omega, by omega, hmapped.stays⟩
  · rintro ⟨s, hs, hstart, hstop, hstays⟩
    obtain ⟨block, hblock, hoccupies⟩ := exists_block_of_mem name hs ⟨by omega, hstays⟩
    refine ⟨block, hblock, ?_, ?_⟩
    · rw [hoccupies.start_eq]
      omega
    · rw [hoccupies.stop_eq]
      omega

/-- **When the memory cannot be moved**: exactly if a mapped section does not fit behind the new
base.  No block begins below the old one. -/
theorem exists_rebaseAll_error_iff (name : String) (image : Image) (target : UInt64) :
    (∃ e, rebaseAll image.imageBase target (image.toProgram name).blocks = .error e)
      ↔ ∃ s ∈ image.sections, s.IsMapped image.imageBase
        ∧ Text.limit64 ≤ target.toNat + s.virtualAddress.toNat + s.effectiveSize.toNat := by
  constructor
  · rintro ⟨e, h⟩
    obtain ⟨-, -, before, after, hblocks, -, hstuck⟩ := rebaseAll_eq_error_iff.mp h
    have hmem : e.block ∈ (image.toProgram name).blocks := by
      rw [hblocks]
      exact List.mem_append_right _ List.mem_cons_self
    obtain ⟨s, hs, hmapped, -, hstart, hstop⟩ := exists_section_of_mem hmem
    refine ⟨s, hs, hmapped, Nat.not_lt.mp fun hfits => hstuck ⟨?_, ?_, ?_, ?_⟩⟩ <;> omega
  · rintro ⟨s, hs, hmapped, hover⟩
    obtain ⟨block, hblock, hoccupies⟩ := exists_block_of_mem name hs hmapped
    cases hall : rebaseAll image.imageBase target (image.toProgram name).blocks with
    | error e => exact ⟨e, rfl⟩
    | ok moved =>
      have hlt := (exists_rebaseAll_iff.mp ⟨moved, hall⟩ block hblock).stop_lt
      rw [hoccupies.stop_eq] at hlt
      omega

end Program

/-! ## §3. The whole import. -/

/-- **The sections of an accepted image decide which records have a place.**  The image is imported
as a program at its load address.  An offset has an address there, which is their sum, exactly if
a section that does not leave the address space reaches over it.  The blocks of memory are those
sections that hold an address, in their order, and none is empty.  Moving them to another base
fails exactly if one of them does not fit behind that base. -/
theorem imported_sections_decide_placement {bytes : List UInt8} {image : Image}
    (h : Image.parse bytes = .ok image) (name : String) :
    ∃ program, importBytes name bytes = .ok program
      ∧ program.info.imageBase = image.imageBase
      ∧ (∀ rva, (∃ address, place image.imageBase rva program.blocks = some address)
          ↔ ∃ s ∈ image.sections, s.virtualAddress.toNat ≤ rva.toNat
            ∧ rva.toNat < s.virtualAddress.toNat + s.effectiveSize.toNat
            ∧ image.imageBase.toNat + s.virtualAddress.toNat + s.effectiveSize.toNat
              < Text.limit64)
      ∧ (∀ rva address, place image.imageBase rva program.blocks = some address →
          address.toNat = image.imageBase.toNat + rva.toNat)
      ∧ List.Forall₂ (Section.Occupies image.imageBase)
          (image.sections.filter fun s => s.IsMapped image.imageBase) program.blocks
      ∧ (∀ block ∈ program.blocks, block.isEmpty = false)
      ∧ ∀ target, (∃ e, rebaseAll image.imageBase target program.blocks = .error e)
          ↔ ∃ s ∈ image.sections, s.IsMapped image.imageBase
            ∧ Text.limit64 ≤ target.toNat + s.virtualAddress.toNat + s.effectiveSize.toNat := by
  have himport : importBytes name bytes = .ok (image.toProgram name) := by
    unfold importBytes
    rw [h]
  refine ⟨image.toProgram name, himport, rfl, fun rva => ?_, fun rva address hplace => ?_,
    blocks_toProgram name image, fun block hblock => ?_,
    exists_rebaseAll_error_iff name image⟩
  · constructor
    · rintro ⟨address, hplace⟩
      exact ((place_toProgram_iff name image rva address).mp hplace).2
    · rintro ⟨s, hs, hstart, hstop, hstays⟩
      -- the offset is below the end of the section, so its sum with the base is an address
      have hsum : (UInt64.ofNat (image.imageBase.toNat + rva.toNat)).toNat
          = image.imageBase.toNat + rva.toNat :=
        UInt64.toNat_ofNat_of_lt' (Nat.lt_trans (by omega) hstays)
      exact ⟨_, (place_toProgram_iff name image rva _).mpr
        ⟨hsum.symm, s, hs, hstart, hstop, hstays⟩⟩
  · exact ((place_toProgram_iff name image rva address).mp hplace).1.symm
  · have hkept := (List.mem_filter.mp hblock).2
    rwa [Bool.not_eq_true'] at hkept

/-- An image that is loaded close to the end of the address space, with four sections: one with
code, one whose size is that in the file, an empty one, and one that leaves the address space. -/
def highImage : List UInt8 :=
  [Pdb.words (0x5A4D :: List.replicate 14 0 ++ [128]) ++ List.replicate 64 0
      ++ Pdb.words [0x4550, 0x48664, 0, 0, 0, 112]
      ++ Pdb.words ([0x20B, 0, 0, 0, 0, 0, 0xFFFF0000, 0xFFFFFFFF, 0x1000, 0x200]
        ++ List.replicate 18 0)
      ++ Pdb.words ([0x7865742E, 0x74, 0x2000, 0x1000, 0x200, 0x200] ++ List.replicate 4 0)
      ++ Pdb.words ([0x7373622E, 0, 0, 0x4000, 0x200, 0x400] ++ List.replicate 4 0)
      ++ Pdb.words ([0x706D652E, 0x7974, 0, 0x5000, 0, 0] ++ List.replicate 4 0)
      ++ Pdb.words ([0x7261662E, 0, 0x2000, 0xF000, 0, 0] ++ List.replicate 4 0)].flatMap Pdb.page

/-- What that image says. -/
def highSections : Image where
  imageBase := 0xFFFFFFFFFFFF0000
  sections :=
    [⟨some ".text", 0x2000, 0x1000, 0x200, 0x200⟩, ⟨some ".bss", 0, 0x4000, 0x200, 0x400⟩,
      ⟨some ".empty", 0, 0x5000, 0, 0⟩, ⟨some ".far", 0x2000, 0xF000, 0, 0⟩]
  reference := none

/-- In that image, the last offset of the second section has a place, and the first one of the last
section has none, though its address would be one.  The memory cannot be moved to the last page. -/
theorem imported_sections_decide_placement_high :
    Image.parse highImage = .ok highSections
      ∧ ∃ program, importBytes "app.exe" highImage = .ok program
        ∧ (∃ address, place 0xFFFFFFFFFFFF0000 0x41FF program.blocks = some address)
        ∧ (¬ ∃ address, place 0xFFFFFFFFFFFF0000 0xF000 program.blocks = some address)
        ∧ (∃ e, rebaseAll 0xFFFFFFFFFFFF0000 0xFFFFFFFFFFFFF000 program.blocks = .error e) := by
  have hparse : Image.parse highImage = .ok highSections := by decide +kernel
  obtain ⟨program, himport, -, hplaced, -, -, -, hmoved⟩ :=
    imported_sections_decide_placement hparse "app.exe"
  refine ⟨hparse, program, himport, (hplaced 0x41FF).mpr ?_, fun h => ?_, (hmoved _).mpr ?_⟩
  · exact ⟨_, .tail _ (.head _), by decide, by decide, by decide⟩
  · have hnone : ¬ ∃ s ∈ highSections.sections, s.virtualAddress.toNat ≤ 0xF000
        ∧ 0xF000 < s.virtualAddress.toNat + s.effectiveSize.toNat
        ∧ highSections.imageBase.toNat + s.virtualAddress.toNat + s.effectiveSize.toNat
          < Text.limit64 := by
      decide
    exact hnone ((hplaced 0xF000).mp h)
  · exact ⟨_, .head _, by decide, by decide⟩

end DebugMerge.Pe
