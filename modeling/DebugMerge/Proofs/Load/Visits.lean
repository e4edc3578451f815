/-
  DebugMerge.Proofs.Load.Visits
  ─────────────────────────────
  **How often the naming pass examines a symbol.**

  The pass goes through the blocks one by one and asks each time for the symbols
  without a readable name.  A symbol whose name has a readable form has it from
  the first block on and is not met again.  Any other symbol is met once in every
  block that holds it, and nothing keeps blocks from overlapping.  So the counter
  of named symbols is exact, while the counters of examined and of unreadable
  ones are exact precisely if no symbol without a readable form lies in two
  blocks.

  All three counters follow one law: each counts the visits to symbols whose
  names are of some kind.

  Main definitions
    • `SymbolRow.visits`                   — how often a pass examines a symbol
    • `DemangleSummary.Counts`             — counters between two moments
    • `SymbolRow.timesExamined`            — the visits, told by the blocks alone
  Main statements
    • `SymbolRow.visits_cons`              — one block
    • `decorateSymbols_counts`, `decorateBlocks_counts` — the walk
    • `sum_eq_countP_pos_iff`              — when a sum of visits is a number of symbols
    • `decorate_counts`                    — the whole pass
-/
import DebugMerge.Proofs.Load.Coverage
import Mathlib.Algebra.Ring.Nat

namespace DebugMerge

/-! ## §1. Visits. -/

/-- Does the name have a readable form? -/
def hasReadable (symbol : String) : Bool :=
  (demangle symbol).isSome

/-- Does the name look mangled without having a readable form? -/
def isUnreadable (symbol : String) : Bool :=
  looksMangled symbol && !hasReadable symbol

namespace SymbolRow

/-- How often a pass over the blocks examines a symbol: once if it gets a readable name, otherwise
in every block in which it is found. -/
def visits (blocks : List MemoryBlock) (row : SymbolRow) : Nat :=
  if hasReadable row.name then
    (if blocks.any fun block => Database.isPending block.start block.stop row then 1 else 0)
  else blocks.countP fun block => Database.isPending block.start block.stop row

/-- A symbol that was named is not examined again. -/
theorem visits_of_named {blocks : List MemoryBlock} {row : SymbolRow}
    (hreadable : hasReadable row.name = true) : row.decorated.visits blocks = 0 := by
  obtain ⟨readable, hname⟩ := Option.isSome_iff_exists.mp hreadable
  unfold visits
  rw [name_decorated, hreadable, if_pos rfl, decorated_of_some hname]
  refine if_neg fun hany => ?_
  obtain ⟨block, -, hpending⟩ := List.any_eq_true.mp hany
  exact nomatch (isPending_iff_signed.mp hpending).1

/-- **One block**: its visit, and the visits of what it makes of the symbol. -/
theorem visits_cons (block : MemoryBlock) (blocks : List MemoryBlock) (row : SymbolRow) :
    row.visits (block :: blocks)
      = (if Database.isPending block.start block.stop row then 1 else 0)
        + (decorateRow [block] row).visits blocks := by
  cases hpending : Database.isPending block.start block.stop row with
  | false =>
    rw [decorateRow_of_not_pending hpending]
    unfold visits
    rw [List.any_cons, List.countP_cons, hpending]
    simp
  | true =>
    rw [decorateRow_of_pending hpending]
    cases hreadable : hasReadable row.name with
    | true =>
      rw [visits_of_named hreadable]
      unfold visits
      rw [hreadable, List.any_cons, hpending]
      rfl
    | false =>
      have hnone : demangle row.name = none := Option.not_isSome_iff_eq_none.mp (by
        rw [show (demangle row.name).isSome = false from hreadable]
        exact Bool.false_ne_true)
      rw [decorated_of_none hnone]
      unfold visits
      rw [hreadable, List.countP_cons, hpending, Nat.add_comm]
      rfl

end SymbolRow

/-- The visits to the symbols whose names are of a kind. -/
def visitsTo (kind : String → Bool) (blocks : List MemoryBlock) (rows : List SymbolRow) : Nat :=
  ((rows.filter fun row => kind row.name).map (SymbolRow.visits blocks)).sum

/-- How many symbols with names of a kind one block finds. -/
def foundIn (kind : String → Bool) (block : MemoryBlock) (rows : List SymbolRow) : Nat :=
  rows.countP fun row => Database.isPending block.start block.stop row && kind row.name

theorem name_decorateRow (blocks : List MemoryBlock) (row : SymbolRow) :
    (decorateRow blocks row).name = row.name :=
  congrArg Prod.snd (key_decorateRow blocks row)

/-- **One block of the table**: what it finds, and the visits to what it leaves. -/
theorem visitsTo_cons (kind : String → Bool) (block : MemoryBlock) (blocks : List MemoryBlock)
    (rows : List SymbolRow) :
    visitsTo kind (block :: blocks) rows
      = foundIn kind block rows + visitsTo kind blocks (rows.map (decorateRow [block])) := by
  unfold visitsTo foundIn
  induction rows with
  | nil => rfl
  | cons row rows ih =>
    rw [List.map_cons, List.filter_cons, List.filter_cons, List.countP_cons, name_decorateRow]
    cases hkind : kind row.name with
    | false =>
      rw [Bool.and_false]
      simpa using ih
    | true =>
      rw [if_pos rfl, if_pos rfl, List.map_cons, List.map_cons, List.sum_cons, List.sum_cons, ih,
        SymbolRow.visits_cons, Bool.and_true]
      omega

/-- Without blocks nothing is visited. -/
theorem visitsTo_nil (kind : String → Bool) (rows : List SymbolRow) :
    visitsTo kind [] rows = 0 := by
  have hnone : SymbolRow.visits [] = fun _ => 0 := by
    funext row
    unfold SymbolRow.visits
    split <;> rfl
  unfold visitsTo
  rw [hnone, List.map_const', List.sum_replicate_nat, Nat.mul_zero]

/-! ## §2. Counters. -/

/-- **Counters between two moments**: each one grows by the visits to its kind of names, and `count`
says how many visits there were to names of a kind. -/
structure DemangleSummary.Counts (s s' : DemangleSummary) (count : (String → Bool) → Nat) :
    Prop where
  examined : s'.examined = s.examined + count fun _ => true
  demangled : s'.demangled = s.demangled + count hasReadable
  failed : s'.failed = s.failed + count isUnreadable

namespace DemangleSummary.Counts

variable {s m s' : DemangleSummary} {count count' : (String → Bool) → Nat}

theorem trans (h : Counts s m count) (h' : Counts m s' count') :
    Counts s s' fun kind => count kind + count' kind where
  examined := by rw [h'.examined, h.examined, Nat.add_assoc]
  demangled := by rw [h'.demangled, h.demangled, Nat.add_assoc]
  failed := by rw [h'.failed, h.failed, Nat.add_assoc]

theorem congr (h : Counts s s' count) (heq : ∀ kind, count kind = count' kind) :
    Counts s s' count' := by
  rw [← show count = count' from funext heq]
  exact h

theorem none (h : ∀ kind, count kind = 0) : Counts s s count := by
  refine congr ?_ fun kind => (h kind).symm
  exact ⟨rfl, rfl, rfl⟩

end DemangleSummary.Counts

/-- Examining one symbol counts one visit to its name. -/
theorem name_counts {d d' : Decoration} {number : Nat} {symbol : String}
    (h : d.tick.name number symbol = .ok d') :
    d.summary.Counts d'.summary fun kind => if kind symbol then 1 else 0 := by
  unfold Decoration.name at h
  cases hname : demangle symbol with
  | some readable =>
    rw [hname] at h
    obtain ⟨db, -, h⟩ := bind_ok.mp h
    cases h
    exact ⟨rfl, by simp [hasReadable, hname, Decoration.tick],
      by simp [isUnreadable, hasReadable, hname, Decoration.tick]⟩
  | none =>
    rw [hname] at h
    dsimp only at h
    split at h
    · next hlooks =>
      cases h
      exact ⟨rfl, by simp [hasReadable, hname, Decoration.tick],
        by simp [isUnreadable, hasReadable, hname, hlooks, Decoration.tick]⟩
    · next hlooks =>
      cases h
      exact ⟨rfl, by simp [hasReadable, hname, Decoration.tick],
        by simp [isUnreadable, hasReadable, hname, hlooks, Decoration.tick]⟩

/-- **The walk over some symbols** that is not stopped visits each of them once. -/
theorem decorateSymbols_counts {checkpoint : Checkpoint} {entries : List (Nat × String)}
    {d d' : Decoration} (h : decorateSymbols checkpoint d entries = .ok d')
    (hdone : d'.summary.cancelled = false) :
    d.summary.Counts d'.summary fun kind => entries.countP fun entry => kind entry.2 := by
  induction entries generalizing d with
  | nil =>
    cases h
    exact .none fun _ => rfl
  | cons entry entries ih =>
    obtain ⟨number, symbol⟩ := entry
    unfold decorateSymbols at h
    split at h
    · cases h
      cases hdone
    · obtain ⟨m, hname, hrest⟩ := bind_ok.mp h
      refine ((name_counts hname).trans (ih hrest)).congr fun kind => ?_
      rw [List.countP_cons, Nat.add_comm]

/-- What the database finds in a block is found there, kind by kind. -/
theorem countP_pendingSymbols {db : Database} {rows : List SymbolRow} {block : MemoryBlock}
    {entries : List (Nat × String)} (hrows : db.symbols = some rows)
    (h : db.pendingSymbols block.start block.stop = .ok entries) (kind : String → Bool) :
    entries.countP (fun entry => kind entry.2) = foundIn kind block rows := by
  unfold Database.pendingSymbols rowsOf at h
  rw [hrows] at h
  cases h
  rw [List.countP_map, (List.mergeSort_perm _ _).countP_eq, List.countP_filter]
  have hnumbered : foundIn kind block ((Database.numbered 0 db.symbolSkips rows).map Prod.snd)
      = foundIn kind block rows := by
    rw [Database.map_snd_numbered]
  rw [← hnumbered]
  unfold foundIn
  rw [List.countP_map]
  refine List.countP_congr fun entry _ => ?_
  simp [and_comm]

/-- **The walk over the blocks** that is not stopped counts the visits to all symbols. -/
theorem decorateBlocks_counts {checkpoint : Checkpoint} {blocks : List MemoryBlock}
    {db : Database} {rows : List SymbolRow} {s : DemangleSummary} {d : Decoration}
    (hrows : db.symbols = some rows) (h : decorateBlocks checkpoint ⟨db, s⟩ blocks = .ok d)
    (hdone : d.summary.cancelled = false) :
    s.Counts d.summary fun kind => visitsTo kind blocks rows := by
  induction blocks generalizing db rows s with
  | nil =>
    cases h
    exact .none fun kind => visitsTo_nil kind rows
  | cons block blocks ih =>
    obtain ⟨entries, rows', s', hpending, hwalk, -, hfull, -⟩ :=
      decorateBlock_spec checkpoint block hrows s
    unfold decorateBlocks at h
    obtain ⟨_, hpending', h⟩ := bind_ok.mp h
    cases hpending.symm.trans hpending'
    obtain ⟨_, hwalk', h⟩ := bind_ok.mp h
    cases hwalk.symm.trans hwalk'
    split at h
    · next hstopped =>
      cases h
      rw [hdone] at hstopped
      cases hstopped
    · next hrunning =>
      -- the next block starts from what this one made of the symbols
      rw [Bool.not_eq_true] at hrunning
      have hfirst := decorateSymbols_counts hwalk hrunning
      cases hfull hrunning
      refine (hfirst.trans (ih rfl h)).congr fun kind => ?_
      rw [visitsTo_cons, countP_pendingSymbols hrows hpending]

/-! ## §3. Visits and symbols. -/

/-- A sum of numbers is at least the number of those that are not zero. -/
theorem countP_pos_le_sum {α : Type} (f : α → Nat) (xs : List α) :
    xs.countP (fun a => decide (0 < f a)) ≤ (xs.map f).sum := by
  induction xs with
  | nil => exact Nat.le_refl 0
  | cons a xs ih =>
    rw [List.countP_cons, List.map_cons, List.sum_cons]
    split
    · next hpos =>
      have hpos := of_decide_eq_true hpos
      omega
    · omega

/-- **A sum of visits is a number of symbols** exactly if no symbol is visited twice. -/
theorem sum_eq_countP_pos_iff {α : Type} (f : α → Nat) (xs : List α) :
    (xs.map f).sum = xs.countP (fun a => decide (0 < f a)) ↔ ∀ a ∈ xs, f a ≤ 1 := by
  induction xs with
  | nil => exact ⟨fun _ => nofun, fun _ => rfl⟩
  | cons a xs ih =>
    have hle := countP_pos_le_sum f xs
    rw [List.countP_cons, List.map_cons, List.sum_cons, List.forall_mem_cons, ← ih]
    by_cases hpos : 0 < f a
    · rw [if_pos (decide_eq_true hpos)]
      omega
    · rw [if_neg (mt of_decide_eq_true hpos)]
      omega

namespace SymbolRow

/-- Is the symbol in memory without a readable name? -/
def isOpenIn (blocks : List MemoryBlock) (row : SymbolRow) : Bool :=
  row.demangled.isNone && blocks.any fun block => block.contains row.address

theorem isOpenIn_iff {blocks : List MemoryBlock} {row : SymbolRow} :
    row.isOpenIn blocks = true
      ↔ row.demangled = none ∧ ∃ block ∈ blocks, block.contains row.address = true := by
  unfold isOpenIn
  rw [Bool.and_eq_true, Option.isNone_iff_eq_none, List.any_eq_true]

/-- How often the symbol is examined, told by the blocks that hold it. -/
def timesExamined (blocks : List MemoryBlock) (row : SymbolRow) : Nat :=
  if row.isOpenIn blocks then
    (if hasReadable row.name then 1 else blocks.countP fun block => block.contains row.address)
  else 0

theorem timesExamined_pos_iff (blocks : List MemoryBlock) (row : SymbolRow) :
    0 < row.timesExamined blocks ↔ row.isOpenIn blocks = true := by
  unfold timesExamined
  split
  · next hopen =>
    refine iff_of_true ?_ hopen
    split
    · exact Nat.one_pos
    · exact List.countP_pos_iff.mpr (isOpenIn_iff.mp hopen).2
  · next hopen => exact iff_of_false (Nat.lt_irrefl 0) hopen

/-- Does the symbol lie in two blocks without having a readable form? -/
def IsMetTwice (blocks : List MemoryBlock) (row : SymbolRow) : Prop :=
  row.demangled = none ∧ demangle row.name = none
    ∧ 2 ≤ blocks.countP fun block => block.contains row.address

theorem timesExamined_le_one_iff (blocks : List MemoryBlock) (row : SymbolRow) :
    row.timesExamined blocks ≤ 1 ↔ ¬ row.IsMetTwice blocks := by
  unfold IsMetTwice timesExamined
  cases hname : demangle row.name with
  | some readable =>
    have hreadable : hasReadable row.name = true := Option.isSome_iff_exists.mpr ⟨_, hname⟩
    rw [hreadable, if_pos rfl]
    refine iff_of_true ?_ fun h => nomatch h.2.1
    split
    · exact Nat.le_refl 1
    · exact Nat.zero_le 1
  | none =>
    have hreadable : hasReadable row.name = false := by
      unfold hasReadable
      rw [hname]
      rfl
    rw [hreadable, if_neg Bool.false_ne_true]
    split
    · next hopen =>
      rw [and_iff_right (isOpenIn_iff.mp hopen).1, and_iff_right rfl, Nat.not_le,
        Nat.lt_succ_iff]
    · next hclosed =>
      -- a symbol that two blocks hold is in memory
      refine iff_of_true (Nat.zero_le 1) fun h => hclosed (isOpenIn_iff.mpr ⟨h.1, ?_⟩)
      exact List.countP_pos_iff.mp (Nat.lt_of_lt_of_le Nat.zero_lt_two h.2.2)

end SymbolRow

/-- The block lies in the lower half of the address space. -/
def MemoryBlock.IsLow (block : MemoryBlock) : Prop :=
  block.start.toNat < upperHalf ∧ block.stop.toNat < upperHalf

section Low

variable {blocks : List MemoryBlock} {row : SymbolRow}

/-- In the lower half of the address space signed order is membership, whatever the bounds. -/
theorem isPending_of_isLow {block : MemoryBlock} (hblock : block.IsLow)
    (hrow : row.address.toNat < upperHalf) :
    Database.isPending block.start block.stop row
      = (row.demangled.isNone && block.contains row.address) := by
  obtain ⟨hstart, hstop⟩ := hblock
  rw [Bool.eq_iff_iff, isPending_iff_signed, Bool.and_eq_true, Option.isNone_iff_eq_none,
    MemoryBlock.contains_iff, signedLe_iff, signedLt_iff, toInt_toInt64, toInt_toInt64,
    toInt_toInt64, if_pos hstart, if_pos hstop, if_pos hrow, Int.ofNat_le, Int.ofNat_lt]

/-- The pass finds the symbols in memory that have no readable name. -/
theorem any_isPending_of_isLow (hblocks : ∀ block ∈ blocks, block.IsLow)
    (hrow : row.address.toNat < upperHalf) :
    (blocks.any fun block => Database.isPending block.start block.stop row)
      = row.isOpenIn blocks := by
  rw [Bool.eq_iff_iff, List.any_eq_true, SymbolRow.isOpenIn_iff]
  constructor
  · rintro ⟨block, hmem, hpending⟩
    rw [isPending_of_isLow (hblocks block hmem) hrow, Bool.and_eq_true,
      Option.isNone_iff_eq_none] at hpending
    exact ⟨hpending.1, block, hmem, hpending.2⟩
  · rintro ⟨hundecorated, block, hmem, hin⟩
    refine ⟨block, hmem, ?_⟩
    rw [isPending_of_isLow (hblocks block hmem) hrow, hundecorated, hin]
    rfl

theorem visits_of_isLow (hblocks : ∀ block ∈ blocks, block.IsLow)
    (hrow : row.address.toNat < upperHalf) : row.visits blocks = row.timesExamined blocks := by
  unfold SymbolRow.visits SymbolRow.timesExamined
  rw [any_isPending_of_isLow hblocks hrow]
  have hcount : (blocks.countP fun block => Database.isPending block.start block.stop row)
      = blocks.countP fun block => row.demangled.isNone && block.contains row.address :=
    List.countP_congr fun block hmem => by rw [isPending_of_isLow (hblocks block hmem) hrow]
  rw [hcount]
  cases hopen : row.isOpenIn blocks with
  | true =>
    rw [(SymbolRow.isOpenIn_iff.mp hopen).1]
    simp
  | false =>
    have hnone : (blocks.countP fun block => row.demangled.isNone && block.contains row.address)
        = 0 := by
      refine List.countP_eq_zero.mpr fun block hmem hin => ?_
      rw [Bool.and_eq_true, Option.isNone_iff_eq_none] at hin
      have hin := SymbolRow.isOpenIn_iff.mpr ⟨hin.1, block, hmem, hin.2⟩
      exact nomatch hin.symm.trans hopen
    rw [hnone]
    simp

/-- A symbol that was found has a readable name afterwards exactly if there is one; any other is
as it was. -/
theorem isSome_decorateRow (hblocks : ∀ block ∈ blocks, block.IsLow)
    (hrow : row.address.toNat < upperHalf) :
    (decorateRow blocks row).demangled.isSome
      = (row.demangled.isSome || row.isOpenIn blocks && hasReadable row.name) := by
  unfold decorateRow
  rw [any_isPending_of_isLow hblocks hrow]
  cases hopen : row.isOpenIn blocks with
  | false => simp
  | true =>
    have hundecorated := (SymbolRow.isOpenIn_iff.mp hopen).1
    rw [if_pos rfl, row.decorated_of_undecorated hundecorated, hundecorated]
    rfl

end Low

/-! ## §4. The whole pass. -/

/-- The symbols of a kind before and after the pass. -/
def countPairs (kind : SymbolRow → SymbolRow → Bool) (rows rows' : List SymbolRow) : Nat :=
  (rows.zip rows').countP fun pair => kind pair.1 pair.2

theorem countPairs_map (kind : SymbolRow → SymbolRow → Bool) (f : SymbolRow → SymbolRow)
    (rows : List SymbolRow) :
    countPairs kind rows (rows.map f) = rows.countP fun row => kind row (f row) := by
  have hzip : rows.zip (rows.map f) = rows.map fun row => (row, f row) := by
    have hpairs := List.zip_map' (l := rows) (f := id) (g := f)
    rw [List.map_id] at hpairs
    exact hpairs
  unfold countPairs
  rw [hzip, List.countP_map]
  rfl

section Table

variable {blocks : List MemoryBlock} {rows : List SymbolRow}
  (hblocks : ∀ block ∈ blocks, block.IsLow) (hrows : ∀ row ∈ rows, row.address.toNat < upperHalf)

include hblocks hrows

/-- The visits to a kind of names, told by the blocks that hold the symbols. -/
theorem visitsTo_of_isLow (kind : String → Bool) :
    visitsTo kind blocks rows
      = ((rows.filter fun row => kind row.name).map (SymbolRow.timesExamined blocks)).sum := by
  unfold visitsTo
  refine congrArg List.sum (List.map_congr_left fun row hrow => ?_)
  exact visits_of_isLow hblocks (hrows row (List.mem_filter.mp hrow).1)

/-- The visits to a kind of names are as many as the symbols in memory exactly if none of the
symbols is met twice. -/
theorem visitsTo_eq_iff (kind : String → Bool) :
    visitsTo kind blocks rows = rows.countP (fun row => row.isOpenIn blocks && kind row.name)
      ↔ ∀ row ∈ rows, kind row.name = true → ¬ row.IsMetTwice blocks := by
  have hcount : rows.countP (fun row => row.isOpenIn blocks && kind row.name)
      = (rows.filter fun row => kind row.name).countP
        fun row => decide (0 < row.timesExamined blocks) := by
    rw [List.countP_filter]
    refine List.countP_congr fun row _ => ?_
    rw [Bool.and_eq_true, Bool.and_eq_true, decide_eq_true_iff, SymbolRow.timesExamined_pos_iff]
  rw [visitsTo_of_isLow hblocks hrows, hcount, sum_eq_countP_pos_iff]
  constructor
  · intro h row hrow hkind
    exact (row.timesExamined_le_one_iff blocks).mp (h row (List.mem_filter.mpr ⟨hrow, hkind⟩))
  · intro h row hrow
    obtain ⟨hrow, hkind⟩ := List.mem_filter.mp hrow
    exact (row.timesExamined_le_one_iff blocks).mpr (h row hrow hkind)

/-- Named symbols are visited once. -/
theorem visitsTo_hasReadable :
    visitsTo hasReadable blocks rows
      = countPairs (fun row row' => row.demangled.isNone && row'.demangled.isSome) rows
        (rows.map (decorateRow blocks)) := by
  rw [countPairs_map]
  refine ((visitsTo_eq_iff hblocks hrows hasReadable).mpr ?_).trans ?_
  · intro row hrow hreadable htwice
    unfold hasReadable at hreadable
    rw [htwice.2.1] at hreadable
    cases hreadable
  · refine List.countP_congr fun row hrow => ?_
    rw [isSome_decorateRow hblocks (hrows row hrow)]
    unfold SymbolRow.isOpenIn
    cases row.demangled <;> simp

/-- The symbols that stay unreadable are those in memory whose names have no readable form. -/
theorem countPairs_unreadable :
    countPairs (fun row row' => row.isOpenIn blocks && looksMangled row.name
        && row'.demangled.isNone) rows (rows.map (decorateRow blocks))
      = rows.countP fun row => row.isOpenIn blocks && isUnreadable row.name := by
  rw [countPairs_map]
  refine List.countP_congr fun row hrow => ?_
  have hafter := isSome_decorateRow hblocks (hrows row hrow)
  unfold isUnreadable
  cases hopen : row.isOpenIn blocks with
  | false => simp
  | true =>
    rw [hopen, (SymbolRow.isOpenIn_iff.mp hopen).1] at hafter
    rw [← Option.not_isSome, hafter]
    simp

end Table

/-- **The counters of the pass.**  If it is switched on, and addresses and bounds are below the
upper half of the address space, then it ends, and it is stopped only on request.  If it is not
stopped, the counter of named symbols is the number of symbols that got a readable name.  The
counter of examined symbols is the sum of what `timesExamined` says, which is the number of
symbols in memory without a readable name exactly if none without a readable form lies in two
blocks; and the same holds of those that look mangled and stay unreadable. -/
theorem decorate_counts (isSet : Nat → Bool) (db : Database) (blocks : List MemoryBlock)
    (rows : List SymbolRow) (hon : isDecorating db = .ok true) (hblocks : db.blocks = .ok blocks)
    (hsymbols : db.symbols = some rows) (hlow : ∀ block ∈ blocks, block.IsLow)
    (hrows : ∀ row ∈ rows, row.address.toNat < upperHalf) :
    ∃ rows' summary, decorate isSet db = .ok (db.withSymbols (some rows'), some summary)
      ∧ ((∀ n, isSet n = false) → summary.cancelled = false)
      ∧ (summary.cancelled = false →
          summary.demangled
              = countPairs (fun row row' => row.demangled.isNone && row'.demangled.isSome) rows
                rows'
            ∧ summary.examined = (rows.map (SymbolRow.timesExamined blocks)).sum
            ∧ (summary.examined = rows.countP (SymbolRow.isOpenIn blocks)
                ↔ ∀ row ∈ rows, ¬ row.IsMetTwice blocks)
            ∧ summary.failed = ((rows.filter fun row => isUnreadable row.name).map
                (SymbolRow.timesExamined blocks)).sum
            ∧ (summary.failed = countPairs (fun row row' => row.isOpenIn blocks
                  && looksMangled row.name && row'.demangled.isNone) rows rows'
                ↔ ∀ row ∈ rows, looksMangled row.name = true → ¬ row.IsMetTwice blocks)) := by
  obtain ⟨rows', summary, hwalk, -, hfull, hnever⟩ :=
    decorateBlocks_spec ⟨decorateInterval, isSet⟩ blocks hsymbols .zero rfl
  refine ⟨rows', summary, ?_, hnever, fun hdone => ?_⟩
  · unfold decorate
    rw [hon, hblocks]
    show (decorateBlocks ⟨decorateInterval, isSet⟩ ⟨db, .zero⟩ blocks).bind _ = _
    rw [hwalk]
    rfl
  · cases hfull hdone
    obtain ⟨hexamined, hdemangled, hfailed⟩ := decorateBlocks_counts hsymbols hwalk hdone
    have hall : (rows.filter fun _ => true) = rows := List.filter_eq_self.mpr fun _ _ => rfl
    have hexamined := hexamined.trans (Nat.zero_add _)
    have hdemangled := hdemangled.trans (Nat.zero_add _)
    have hfailed := hfailed.trans (Nat.zero_add _)
    refine ⟨?_, ?_, ?_, ?_, ?_⟩
    · rw [hdemangled, visitsTo_hasReadable hlow hrows]
    · rw [hexamined, visitsTo_of_isLow hlow hrows, hall]
    · rw [hexamined]
      simpa using visitsTo_eq_iff hlow hrows fun _ => true
    · rw [hfailed, visitsTo_of_isLow hlow hrows]
    · rw [hfailed, countPairs_unreadable hlow hrows, visitsTo_eq_iff hlow hrows]
      refine forall₂_congr fun row _ => ?_
      constructor
      · intro h hlooks htwice
        refine h ?_ htwice
        unfold isUnreadable hasReadable
        rw [hlooks, htwice.2.1]
        rfl
      · intro h hunreadable
        exact h (Bool.and_eq_true _ _ ▸ hunreadable : _ ∧ _).1

/-- Two blocks that share the addresses from 2000 to 3000. -/
def overlappingBlocks : List MemoryBlock :=
  [⟨".text", 0x1000, 0x3000⟩, ⟨".data", 0x2000, 0x4000⟩]

/-- A program with these blocks. -/
def withOverlap (symbols : List SymbolRow) : Database :=
  { Database.fresh with memoryBlocks := some overlappingBlocks, symbols := some symbols }

theorem blocks_withOverlap (symbols : List SymbolRow) :
    (withOverlap symbols).blocks = .ok overlappingBlocks :=
  congrArg Except.ok (List.mergeSort_of_pairwise (by decide))

theorem isLow_of_mem_overlappingBlocks : ∀ block ∈ overlappingBlocks, block.IsLow := by
  intro block hmem
  unfold MemoryBlock.IsLow
  revert block
  decide

/-- A function without a readable name. -/
def functionAt (address : UInt64) (name : String) : SymbolRow :=
  ⟨address, name, "function", "public", none, none⟩

/-- A mangled name in both blocks, and a plain one in the first block alone. -/
def metOnce : List SymbolRow :=
  [functionAt 0x2000 "_ZN4core3fmt5write17h0123456789abcdefE", functionAt 0x1000 "main"]

/-- Both are counted once, although the blocks overlap. -/
theorem decorate_counts_met_once :
    ∃ rows' summary, decorate (fun _ => false) (withOverlap metOnce)
        = .ok ((withOverlap metOnce).withSymbols (some rows'), some summary)
      ∧ summary.examined = 2 ∧ summary.demangled
        = countPairs (fun row row' => row.demangled.isNone && row'.demangled.isSome) metOnce rows'
      ∧ summary.failed = 0 := by
  obtain ⟨rows', summary, hrun, hnever, hcounts⟩ := decorate_counts (fun _ => false)
    (withOverlap metOnce) overlappingBlocks metOnce rfl (blocks_withOverlap _) rfl
    isLow_of_mem_overlappingBlocks (by decide)
  obtain ⟨hdemangled, hexamined, -, hfailed, -⟩ := hcounts (hnever fun _ => rfl)
  refine ⟨rows', summary, hrun, ?_, hdemangled, ?_⟩
  · rw [hexamined]
    decide +kernel
  · rw [hfailed]
    decide +kernel

/-- A plain name and an unreadable one, both in both blocks. -/
def metTwice : List SymbolRow :=
  [functionAt 0x2000 "main", functionAt 0x2800 "?x"]

/-- Two symbols lie in memory, one of them with an unreadable name, but a pass that is never
stopped counts four, and two unreadable ones. -/
theorem overlap_is_counted_twice :
    decorate (fun _ => false) (withOverlap metTwice)
        = .ok (withOverlap metTwice, some ⟨4, 0, 2, false⟩)
      ∧ metTwice.countP (SymbolRow.isOpenIn overlappingBlocks) = 2
      ∧ countPairs (fun row row' => row.isOpenIn overlappingBlocks && looksMangled row.name
          && row'.demangled.isNone) metTwice metTwice = 1 := by
  refine ⟨?_, by decide, by decide +kernel⟩
  have hsymbols : (withOverlap metTwice).symbols = some metTwice := rfl
  obtain ⟨rows', summary, hwalk, -, hfull, hnever⟩ :=
    decorateBlocks_spec ⟨decorateInterval, fun _ => false⟩ overlappingBlocks hsymbols .zero rfl
  have hdone := hnever fun _ => rfl
  have hsame : rows' = metTwice := (hfull hdone).trans (by decide +kernel)
  obtain ⟨hexamined, hdemangled, hfailed⟩ := decorateBlocks_counts hsymbols hwalk hdone
  have hsummary : summary = ⟨4, 0, 2, false⟩ := by
    obtain ⟨examined, demangled, failed, cancelled⟩ := summary
    cases hexamined
    cases hdemangled
    cases hfailed
    cases hdone
    decide +kernel
  rw [hsame, hsummary] at hwalk
  unfold decorate
  rw [blocks_withOverlap]
  show (decorateBlocks _ _ overlappingBlocks).bind _ = _
  rw [hwalk]
  rfl

end DebugMerge
