/-
  DebugMerge.Proofs.Binary.Locality
  ─────────────────────────────────
  **Readers that look at nothing behind what they take.**

  A reader is local if the bytes that it takes decide its answer.  Then it takes
  the same bytes, with the same answer, whatever stands behind them, so records
  that are read one after the other can be moved and joined.  A reader made of
  local parts is local.

  Main statements
    • `IsLocal`, `IsLocal.bind`             — local readers, and readers made of them
    • `IsLocal.append`                      — bytes behind what is taken
    • `isLocal_bytes`, `u16_eq_some_iff`    — runs and numbers
    • `isLocal_zeroText`, `isLocal_countedText` — texts
-/
import DebugMerge.Binary.Take
import Mathlib.Data.List.Basic
import Mathlib.Data.List.TakeWhile

namespace DebugMerge.Take

variable {α β : Type}

/-- The bytes that the reader takes decide its answer. -/
def IsLocal (take : Take α) : Prop :=
  ∀ bs a rest, take bs = some (a, rest) →
    ∃ used, bs = used ++ rest ∧ ∀ more, take (used ++ more) = some (a, more)

/-! ## §1. Readers made of parts. -/

theorem IsLocal.pure (a : α) : IsLocal (pure a) := by
  intro bs b rest h
  cases h
  exact ⟨[], rfl, fun _ => rfl⟩

theorem IsLocal.fail : IsLocal (fail : Take α) := by
  intro bs a rest h
  cases h

/-- The bytes of the parts are taken one after the other. -/
theorem IsLocal.bind {take : Take α} {next : α → Take β} (htake : IsLocal take)
    (hnext : ∀ a, IsLocal (next a)) : IsLocal (take >>= next) := by
  intro bs b rest hread
  obtain ⟨⟨a, middle⟩, hfirst, hlast⟩ := Option.bind_eq_some_iff.mp hread
  obtain ⟨used, rfl, hused⟩ := htake bs a middle hfirst
  obtain ⟨used', rfl, hused'⟩ := hnext a middle b rest hlast
  refine ⟨used ++ used', (List.append_assoc _ _ _).symm, fun more => ?_⟩
  rw [List.append_assoc]
  exact Option.bind_eq_some_iff.mpr ⟨(a, used' ++ more), hused _, hused' more⟩

/-- What stands behind the bytes is left as it is. -/
theorem IsLocal.append {take : Take α} (h : IsLocal take) {bs rest : List UInt8} {a : α}
    (hread : take bs = some (a, rest)) (more : List UInt8) :
    take (bs ++ more) = some (a, rest ++ more) := by
  obtain ⟨used, rfl, hused⟩ := h bs a rest hread
  rw [List.append_assoc]
  exact hused (rest ++ more)

/-- What is left stands at the end of the bytes. -/
theorem IsLocal.length_le {take : Take α} (h : IsLocal take) {bs rest : List UInt8} {a : α}
    (hread : take bs = some (a, rest)) : rest.length ≤ bs.length := by
  obtain ⟨used, rfl, -⟩ := h bs a rest hread
  rw [List.length_append]
  exact Nat.le_add_left _ _

/-- A local reader that reads nothing from no bytes takes at least one byte. -/
theorem IsLocal.used_ne_nil {take : Take α} (hempty : take [] = none) {used : List UInt8} {a : α}
    (h : ∀ more, take (used ++ more) = some (a, more)) : used ≠ [] := by
  rintro rfl
  have hnil := h []
  rw [List.append_nil, hempty] at hnil
  cases hnil

/-! ## §2. Numbers and texts. -/

theorem bytes_append {n : Nat} {taken : List UInt8} (hlength : taken.length = n)
    (rest : List UInt8) : bytes n (taken ++ rest) = some (taken, rest) := by
  unfold bytes
  rw [if_neg (by rw [List.length_append]; omega), List.take_left' hlength,
    List.drop_left' hlength]

theorem isLocal_bytes (n : Nat) : IsLocal (bytes n) := by
  intro bs taken rest h
  obtain ⟨rfl, hlength⟩ := bytes_eq_some h
  exact ⟨taken, rfl, bytes_append hlength⟩

theorem isLocal_number (n : Nat) : IsLocal (number n) :=
  (isLocal_bytes n).bind fun _ => .pure _

theorem isLocal_u8 : IsLocal u8 := isLocal_number 1

theorem isLocal_u16 : IsLocal u16 := isLocal_number 2

theorem isLocal_u32 : IsLocal u32 := isLocal_number 4

theorem isLocal_u64 : IsLocal u64 := isLocal_number 8

theorem isLocal_skip (n : Nat) : IsLocal (skip n) :=
  (isLocal_bytes n).bind fun _ => .pure _

theorem skip_eq_some_iff {n : Nat} {bs rest : List UInt8} :
    skip n bs = some ((), rest) ↔ ∃ front, bs = front ++ rest ∧ front.length = n := by
  constructor
  · intro h
    obtain ⟨⟨front, middle⟩, hfront, h⟩ := Option.bind_eq_some_iff.mp h
    cases h
    exact ⟨front, bytes_eq_some hfront⟩
  · rintro ⟨front, rfl, hlength⟩
    exact Option.bind_eq_some_iff.mpr ⟨(front, rest), bytes_append hlength rest, rfl⟩

/-- The low byte of a number of two bytes stands first. -/
theorem u16_eq_some_iff {n : Nat} {bs rest : List UInt8} :
    u16 bs = some (n, rest) ↔ ∃ low high, bs = low :: high :: rest
      ∧ n = low.toNat + 0x100 * high.toNat := by
  constructor
  · intro h
    obtain ⟨⟨taken, middle⟩, htaken, h⟩ := Option.bind_eq_some_iff.mp h
    obtain ⟨rfl, hlength⟩ := bytes_eq_some htaken
    obtain ⟨low, high, rfl⟩ := List.length_eq_two.mp hlength
    cases h
    exact ⟨low, high, rfl, rfl⟩
  · rintro ⟨low, high, rfl, rfl⟩
    rfl

/-- A text up to a zero byte is taken with that byte. -/
theorem isLocal_zeroText : IsLocal zeroText := by
  intro bs text rest h
  unfold zeroText at h
  split at h
  · cases h
  · next zero after hdrop =>
    cases h
    have hzero : zero = 0 := by
      have hnot := List.head?_dropWhile_not (· ≠ 0) bs
      rw [hdrop] at hnot
      simpa using hnot
    have hbytes := List.takeWhile_append_dropWhile (p := (· ≠ 0)) (l := bs)
    rw [hdrop] at hbytes
    have hfront : ∀ b ∈ bs.takeWhile (· ≠ 0), decide (b ≠ 0) = true := by
      intro b hb
      have hkept := List.mem_takeWhile_imp hb
      exact hkept
    refine ⟨bs.takeWhile (· ≠ 0) ++ [zero], by rw [List.append_assoc]; exact hbytes.symm,
      fun more => ?_⟩
    have hmore : (bs.takeWhile (· ≠ 0) ++ [zero] ++ more).dropWhile (· ≠ 0) = zero :: more := by
      rw [List.append_assoc, List.dropWhile_append_of_pos hfront, hzero]
      rfl
    have htext : (bs.takeWhile (· ≠ 0) ++ [zero] ++ more).takeWhile (· ≠ 0)
        = bs.takeWhile (· ≠ 0) := by
      rw [List.append_assoc, List.takeWhile_append_of_pos hfront, hzero]
      exact List.append_nil _
    unfold zeroText
    rw [hmore, htext]

theorem isLocal_countedText : IsLocal countedText :=
  isLocal_u8.bind fun n => (isLocal_bytes n).bind fun _ => .pure _

end DebugMerge.Take
