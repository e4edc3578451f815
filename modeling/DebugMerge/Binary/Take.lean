/-
  DebugMerge.Binary.Take
  ──────────────────────
  **Taking numbers and texts from the front of bytes.**

  Debug files and executables store little-endian numbers, and texts that either
  end in a zero byte or start with their length.  A take answers what it read
  and what is left, or nothing if the bytes end too early.

  Main definitions
    • `Take`                             — a reader of bytes
    • `u8`, `u16`, `u32`, `u64`, `bytes` — numbers and runs
    • `zeroText`, `countedText`          — texts
-/
import DebugMerge.Identity.Basic
import DebugMerge.Text.Utf8

namespace DebugMerge

/-- A reader takes something from the front of bytes. -/
abbrev Take (α : Type) := StateT (List UInt8) Option α

namespace Take

/-- The bytes end too early, or make no sense. -/
def fail {α : Type} : Take α := fun _ => none

/-- The first `n` bytes. -/
def bytes (n : Nat) : Take (List UInt8) := fun bs =>
  if bs.length < n then none else some (bs.take n, bs.drop n)

/-- What taking bytes means. -/
theorem bytes_eq_some {n : Nat} {bs taken rest : List UInt8}
    (h : bytes n bs = some (taken, rest)) : bs = taken ++ rest ∧ taken.length = n := by
  unfold bytes at h
  split at h
  · cases h
  · simp only [Option.some.injEq, Prod.mk.injEq] at h
    obtain ⟨rfl, rfl⟩ := h
    simp only [List.take_append_drop, List.length_take, true_and]
    omega

/-- The number in the first `n` bytes. -/
def number (n : Nat) : Take Nat := do
  return littleEndian (← bytes n)

/-- A number of one byte. -/
def u8 : Take Nat := number 1

/-- A number of two bytes. -/
def u16 : Take Nat := number 2

/-- A number of four bytes. -/
def u32 : Take Nat := number 4

/-- A number of eight bytes. -/
def u64 : Take Nat := number 8

/-- Drop `n` bytes. -/
def skip (n : Nat) : Take Unit := do
  let _ ← bytes n

/-- Are there no more bytes? -/
def atEnd : Take Bool := fun bs => some (bs.isEmpty, bs)

/-- The byte that comes next, which stays. -/
def peek : Take Nat := fun bs =>
  match bs with
  | [] => none
  | b :: _ => some (b.toNat, bs)

/-- A text that ends in a zero byte. -/
def zeroText : Take String := fun bs =>
  match bs.dropWhile (· ≠ 0) with
  | [] => none
  | _ :: rest => some (Text.Utf8.lossy (bs.takeWhile (· ≠ 0)), rest)

/-- A text behind its length. -/
def countedText : Take String := do
  let n ← u8
  return Text.Utf8.lossy (← bytes n)

/-- Run a reader and forget what is left. -/
def front? {α : Type} (take : Take α) (bs : List UInt8) : Option α :=
  (take.run bs).map (·.1)

end Take

end DebugMerge
