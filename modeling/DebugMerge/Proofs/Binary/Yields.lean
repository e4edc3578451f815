/-
  DebugMerge.Proofs.Binary.Yields
  ───────────────────────────────
  **What a reader of bytes can answer.**

  A reader yields a property if every answer has it, whatever bytes it reads.
  A reader made of parts yields what its last part yields, given what the parts
  before it yield.  So the lengths of runs and the bounds of numbers pass from
  the parts of a format to the records that are read.

  Main statements
    • `Yields`, `Yields.bind`, `Yields.next`  — readers made of parts
    • `yields_bytes`, `yields_u32`            — runs and numbers
    • `Pdb.fileInfo_yields`, `Pdb.debugStream_yields`  — a debug file's identity
    • `Pe.reference_yields`                   — an image's reference
-/
import DebugMerge.Pdb.Directory
import DebugMerge.Pe.Image
import DebugMerge.Proofs.Folds
import Mathlib.Algebra.Group.Nat.Defs

namespace DebugMerge

/-! ## §1. Readers made of parts. -/

namespace Take

variable {α β : Type} {P : α → Prop} {Q : β → Prop}

/-- Every answer of the reader has the property. -/
def Yields (take : Take α) (P : α → Prop) : Prop :=
  ∀ bs a rest, take bs = some (a, rest) → P a

theorem Yields.pure {a : α} (h : P a) : Yields (pure a) P := by
  intro bs b rest hread
  cases hread
  exact h

/-- The last part is read with what the part before it answered. -/
theorem Yields.bind {take : Take α} {next : α → Take β} (htake : Yields take P)
    (hnext : ∀ a, P a → Yields (next a) Q) : Yields (take >>= next) Q := by
  intro bs b rest hread
  obtain ⟨⟨a, middle⟩, hfirst, hlast⟩ := Option.bind_eq_some_iff.mp hread
  exact hnext a (htake bs a middle hfirst) middle b rest hlast

/-- A part of which nothing is known. -/
theorem Yields.next {take : Take α} {next : α → Take β} (hnext : ∀ a, Yields (next a) Q) :
    Yields (take >>= next) Q :=
  Yields.bind (P := fun _ => True) (fun _ _ _ _ => trivial) fun a _ => hnext a

/-- Runs of bytes have the length that was asked for. -/
theorem yields_bytes (n : Nat) : Yields (bytes n) fun taken => taken.length = n :=
  fun _ _ _ hread => (bytes_eq_some hread).2

theorem littleEndian_lt (bs : List UInt8) : littleEndian bs < 256 ^ bs.length := by
  induction bs with
  | nil => decide
  | cons b bs ih =>
    have hbyte := b.toNat_lt
    rw [littleEndian, List.length_cons, Nat.pow_succ]
    omega

/-- Numbers fit into their bytes. -/
theorem yields_number (n : Nat) : Yields (number n) fun value => value < 256 ^ n :=
  (yields_bytes n).bind fun taken hlength => .pure (hlength ▸ littleEndian_lt taken)

theorem yields_u32 : Yields u32 fun value => value < 2 ^ 32 :=
  yields_number 4

end Take

/-! ## §2. Debug files. -/

namespace Pdb

theorem whole_yields {α : Type} {P : α → Prop} {take : Take α} {bs rest : List UInt8} {a : α}
    (htake : take.Yields P) (h : whole take bs = .ok (a, rest)) : P a := by
  unfold whole at h
  split at h
  · next result hread =>
    cases h
    exact htake bs a rest hread
  · cases h

theorem takeFileInfo_yields :
    takeFileInfo.Yields fun info => info.guid.length = 16 ∧ info.age < 2 ^ 32 :=
  .next fun _ => Take.yields_u32.bind fun _ hage => (Take.yields_bytes 16).bind fun _ hguid =>
    .next fun _ => .pure ⟨hguid, hage⟩

/-- The GUID of a debug file has sixteen bytes, and its age has four. -/
theorem fileInfo_yields {c : Container} {info : FileInfo} (h : fileInfo c = .ok info) :
    info.guid.length = 16 ∧ info.age < 2 ^ 32 := by
  obtain ⟨stream, -, h⟩ := bind_ok.mp h
  obtain ⟨⟨read, rest⟩, hread, h⟩ := bind_ok.mp h
  have hinfo := whole_yields takeFileInfo_yields hread
  cases h
  exact hinfo

theorem takeDebugHeader_yields : takeDebugHeader.Yields fun read => read.2.age < 2 ^ 32 :=
  .next fun _ => .next fun _ => Take.yields_u32.bind fun _ hage =>
    .next fun _ => .next fun _ => .next fun _ => .next fun _ => .next fun _ => .next fun _ =>
    .next fun _ => .next fun _ => .next fun _ => .next fun _ => .next fun _ => .next fun _ =>
    .pure hage

/-- The age of a debug stream has four bytes. -/
theorem debugStream_yields {c : Container} {debug : DebugStream} (h : debugStream c = .ok debug) :
    debug.header.age < 2 ^ 32 := by
  obtain ⟨stream, -, h⟩ := bind_ok.mp h
  obtain ⟨⟨⟨mark, header⟩, rest⟩, hread, h⟩ := bind_ok.mp h
  have hage := whole_yields takeDebugHeader_yields hread
  dsimp only at h
  split at h
  · cases h
  · cases h
    exact hage

end Pdb

/-! ## §3. Images. -/

namespace Pe

theorem takeAt_yields {α : Type} {P : α → Prop} {part : String} {take : Take α} {offset : Nat}
    {bs : List UInt8} {a : α} (htake : take.Yields P) (h : takeAt part take offset bs = .ok a) :
    P a := by
  unfold takeAt at h
  split at h
  · cases h
  · split at h
    · next found hfront =>
      cases h
      obtain ⟨⟨_, rest⟩, hread, rfl⟩ := Option.map_eq_some_iff.mp hfront
      exact htake _ _ rest hread
    · cases h

theorem takeBody_yields (nameSize : Nat) :
    (DebugReference.takeBody nameSize).Yields fun r => r.guid.length = 16 :=
  .next fun _ => (Take.yields_bytes 16).bind fun _ hguid => .next fun _ => .next fun _ =>
    .pure hguid

theorem parseReference_yields {offset : Nat} {bs : List UInt8} {r : DebugReference}
    (h : DebugReference.parse offset bs = .ok (some r)) : r.guid.length = 16 := by
  obtain ⟨⟨kind, size, place⟩, -, h⟩ := bind_ok.mp h
  dsimp only at h
  split at h
  · cases h
  split at h
  · cases h
  obtain ⟨found, -, h⟩ := bind_ok.mp h
  split at h
  · cases h
  obtain ⟨body, hbody, h⟩ := bind_ok.mp h
  have hguid := takeAt_yields (takeBody_yields _) hbody
  cases h
  exact hguid

/-- The GUID that an image refers to has sixteen bytes. -/
theorem reference_yields {bs : List UInt8} {image : Image} {r : DebugReference}
    (h : Image.parse bs = .ok image) (hr : image.reference = some r) : r.guid.length = 16 := by
  obtain ⟨offset, -, h⟩ := bind_ok.mp h
  obtain ⟨header, -, h⟩ := bind_ok.mp h
  dsimp only at h
  obtain ⟨optional, h⟩ := exists_of_ite_bind_ok h
  split at h
  · cases h
  obtain ⟨sections, -, h⟩ := bind_ok.mp h
  cases optional with
  | none =>
    cases h
    cases hr
  | some optional =>
    dsimp only at h
    split at h
    · cases h
      cases hr
    · split at h
      · cases h
      · obtain ⟨reference, hreference, h⟩ := bind_ok.mp h
        cases h
        cases hr
        exact parseReference_yields hreference

end Pe

end DebugMerge
