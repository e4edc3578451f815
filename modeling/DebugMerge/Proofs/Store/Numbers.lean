/-
  DebugMerge.Proofs.Store.Numbers
  ───────────────────────────────
  **The numbers of symbols.**

  Every offer of a symbol uses a number up.  A new symbol gets it, and for a
  known one it is passed over behind the last row.  So the numbers rise along
  the table, no two symbols share one, and a symbol keeps its number whatever
  is offered behind it.

  Main statements
    • `numberAt`, `numberAt_inj`     — the number of the symbol at a place
    • `mem_numbered`                 — symbols and their numbers
    • `map_numbered_eq_modify`       — one number names one symbol
    • `numbered_append`, `numbered_passOver` — symbols keep their numbers
-/
import DebugMerge.Store.Transaction
import Mathlib.Algebra.Ring.Nat

namespace DebugMerge

/-! ## §1. The number of a place. -/

/-- The number of the symbol at a place. -/
def numberAt (last : Nat) (skips : List Nat) : Nat → Nat
  | 0 => last + skips.headD 0 + 1
  | i + 1 => numberAt (last + skips.headD 0 + 1) skips.tail i

variable {last : Nat} {skips : List Nat}

theorem lt_numberAt (last : Nat) (skips : List Nat) (i : Nat) : last < numberAt last skips i := by
  induction i generalizing last skips with
  | zero =>
    unfold numberAt
    omega
  | succ i ih =>
    have hrest := ih (last + skips.headD 0 + 1) skips.tail
    unfold numberAt
    omega

/-- Two places have two numbers. -/
theorem numberAt_inj {i j : Nat} (h : numberAt last skips i = numberAt last skips j) : i = j := by
  -- the first number is below all others
  induction i generalizing last skips j with
  | zero =>
    cases j with
    | zero => rfl
    | succ j =>
      have hlater := lt_numberAt (last + skips.headD 0 + 1) skips.tail j
      simp only [numberAt] at h
      omega
  | succ i ih =>
    cases j with
    | zero =>
      have hlater := lt_numberAt (last + skips.headD 0 + 1) skips.tail i
      simp only [numberAt] at h
      omega
    | succ j => exact congrArg (· + 1) (ih h)

namespace Database

/-! ## §2. Symbols with their numbers. -/

/-- The symbols with their numbers. -/
def numberedSymbols (db : Database) : List (Nat × SymbolRow) :=
  numbered 0 db.symbolSkips (db.symbols.getD [])

/-- How many numbers the offers of symbols have used up. -/
def usedNumbers (db : Database) : Nat :=
  (db.symbols.getD []).length + db.symbolSkips.sum

theorem getElem?_numbered (last : Nat) (skips : List Nat) (rows : List SymbolRow) (i : Nat) :
    (numbered last skips rows)[i]? = rows[i]?.map fun row => (numberAt last skips i, row) := by
  induction rows generalizing last skips i with
  | nil => rfl
  | cons row rows ih =>
    cases i with
    | zero => rfl
    | succ i => exact ih (last + skips.headD 0 + 1) skips.tail i

theorem mem_numbered {n : Nat} {row : SymbolRow} {rows : List SymbolRow} :
    (n, row) ∈ numbered last skips rows
      ↔ ∃ i, n = numberAt last skips i ∧ rows[i]? = some row := by
  rw [List.mem_iff_getElem?]
  refine exists_congr fun i => ?_
  rw [getElem?_numbered, Option.map_eq_some_iff]
  constructor
  · intro h
    obtain ⟨row', hrow, heq⟩ := h
    cases heq
    exact ⟨rfl, hrow⟩
  · intro h
    obtain ⟨rfl, hrow⟩ := h
    exact ⟨row, hrow, rfl⟩

/-- Numbers leave the symbols alone. -/
theorem map_snd_numbered (last : Nat) (skips : List Nat) (rows : List SymbolRow) :
    (numbered last skips rows).map Prod.snd = rows := by
  induction rows generalizing last skips with
  | nil => rfl
  | cons row rows ih =>
    unfold numbered
    rw [List.map_cons, ih]

theorem length_numbered (last : Nat) (skips : List Nat) (rows : List SymbolRow) :
    (numbered last skips rows).length = rows.length := by
  rw [← List.length_map (f := Prod.snd), map_snd_numbered]

/-- What is done to the symbol of a number is done at its place. -/
theorem map_numbered_eq_modify (last : Nat) (skips : List Nat) (rows : List SymbolRow) (i : Nat)
    (f : SymbolRow → SymbolRow) :
    ((numbered last skips rows).map fun (n, row) =>
      if (n : Int) = numberAt last skips i then f row else row) = rows.modify i f := by
  refine List.ext_getElem? fun j => ?_
  rw [List.getElem?_map, getElem?_numbered, List.getElem?_modify, Option.map_map,
    Option.map_eq_map]
  refine congrArg (Option.map · rows[j]?) (funext fun row => ?_)
  show (if ((numberAt last skips j : Nat) : Int) = (numberAt last skips i : Nat) then f row
    else row) = if i = j then f row else row
  by_cases hij : i = j
  · rw [if_pos hij, if_pos (by rw [hij])]
  · rw [if_neg hij, if_neg fun h => hij (numberAt_inj (Int.natCast_inj.mp h)).symm]

/-! ## §3. Symbols keep their numbers. -/

theorem headD_passOver_succ (place : Nat) (skips : List Nat) :
    (passOver (place + 1) skips).headD 0 = skips.headD 0 := by
  cases skips <;> rfl

theorem tail_passOver_succ (place : Nat) (skips : List Nat) :
    (passOver (place + 1) skips).tail = passOver place skips.tail := by
  cases skips <;> rfl

/-- Behind more rows the earlier ones have the numbers that they had. -/
theorem numbered_append (last : Nat) (skips : List Nat) (rows more : List SymbolRow) :
    numbered last skips rows <+: numbered last skips (rows ++ more) := by
  induction rows generalizing last skips with
  | nil => exact List.nil_prefix
  | cons row rows ih => exact List.prefix_cons_inj _ |>.mpr (ih _ _)

/-- A number that is passed over behind the last row is in front of none. -/
theorem numbered_passOver (last : Nat) (skips : List Nat) (rows : List SymbolRow) :
    numbered last (passOver rows.length skips) rows = numbered last skips rows := by
  induction rows generalizing last skips with
  | nil => rfl
  | cons row rows ih =>
    unfold numbered
    rw [List.length_cons, headD_passOver_succ, tail_passOver_succ]
    dsimp only
    rw [ih]

/-- One more number is passed over. -/
theorem sum_passOver (place : Nat) (skips : List Nat) :
    (passOver place skips).sum = skips.sum + 1 := by
  induction place generalizing skips with
  | zero =>
    cases skips with
    | nil => rfl
    | cons skipped rest =>
      show ((skipped + 1) :: rest).sum = (skipped :: rest).sum + 1
      rw [List.sum_cons, List.sum_cons]
      omega
  | succ place ih =>
    cases skips with
    | nil =>
      show (0 :: passOver place []).sum = _
      rw [List.sum_cons, ih]
      rfl
    | cons skipped rest =>
      show (skipped :: passOver place rest).sum = (skipped :: rest).sum + 1
      rw [List.sum_cons, List.sum_cons, ih, Nat.add_assoc]

end Database

end DebugMerge
