/-
  DebugMerge.Proofs.Reachable.Listings
  ────────────────────────────────────
  **The order of the listings.**

  Listings are sorted by the database, which compares addresses as signed
  numbers.  To a reader of unsigned addresses a listing therefore comes in two
  runs: first the rows of the upper half of the address space, then those of the
  lower half.  Each run is in order of address, and at one address in order of
  name or text or file and number; keys are distinct, so no two rows tie.  The
  listing as a whole is in order exactly if one of the runs is empty.

  Main definitions
    • `SymbolRow.Precedes`, `CommentRow.Precedes`, … — the orders of unsigned addresses
    • `IsListing`                           — rows listed in two runs
  Main statements
    • `signedLt_iff_halves`                 — signed order against unsigned order
    • `isListing_of_pairwise`               — two runs from one signed order
    • `Database.Represents.listsInRuns`     — the four listings of a database
    • `Program.listings_in_runs`            — the listings of every reachable database
-/
import DebugMerge.Proofs.Load.Coverage
import DebugMerge.Proofs.Reachable.Operations
import Mathlib.Data.Prod.Lex

namespace DebugMerge

/-! ## §1. Signed and unsigned order. -/

/-- Is the address in the upper half of the address space? -/
def InUpperHalf (a : UInt64) : Prop :=
  upperHalf ≤ a.toNat

instance (a : UInt64) : Decidable (InUpperHalf a) :=
  inferInstanceAs (Decidable (upperHalf ≤ a.toNat))

/-- **Signed order**: the upper half comes before the lower one, and within a half the order is
that of unsigned numbers. -/
theorem signedLt_iff_halves {a b : UInt64} :
    signedLt a b = true
      ↔ InUpperHalf a ∧ ¬ InUpperHalf b ∨ (InUpperHalf a ↔ InUpperHalf b) ∧ a < b := by
  have ha := a.toNat_lt
  have hb := b.toNat_lt
  rw [signedLt_iff, toInt_toInt64, toInt_toInt64, UInt64.lt_iff_toNat_lt]
  unfold InUpperHalf upperHalf Text.limit64
  split <;> split <;> omega

theorem signedLe_iff_eq_or_signedLt {a b : UInt64} :
    signedLe a b = true ↔ signedLt a b = true ∨ a = b := by
  have ha := a.toNat_lt
  have hb := b.toNat_lt
  rw [signedLe_iff, signedLt_iff, toInt_toInt64, toInt_toInt64, ← UInt64.toNat_inj]
  unfold upperHalf Text.limit64
  split <;> split <;> omega

/-- Addresses in the order in which the database sorts them. -/
def SignedBefore (a b : UInt64) : Prop :=
  signedLt a b = true

instance : IsTrans UInt64 SignedBefore where
  trans a b c hab hbc := by
    unfold SignedBefore at hab hbc ⊢
    rw [signedLt_iff] at hab hbc ⊢
    omega

instance : Std.Trichotomous SignedBefore where
  trichotomous a b hab hba := by
    unfold SignedBefore at hab hba
    rw [signedLt_iff, toInt_toInt64, toInt_toInt64] at hab hba
    have ha := a.toNat_lt
    have hb := b.toNat_lt
    rw [← UInt64.toNat_inj]
    unfold upperHalf Text.limit64 at hab hba
    split at hab <;> split at hab <;> simp_all <;> omega

/-! ## §2. Rows listed in two runs. -/

section Runs

variable {α : Type} {address : α → UInt64} {before : α → α → Prop} {rows listed : List α}

/-- The listing of some rows: nothing is lost or added; the rows of the upper half of the address
space come first, then those of the lower half, each in order; and the whole is in order exactly
if all rows are in one half. -/
structure IsListing (address : α → UInt64) (before : α → α → Prop) (rows listed : List α) :
    Prop where
  perm : listed.Perm rows
  runs : ∃ upper lower, listed = upper ++ lower
    ∧ (∀ row ∈ upper, InUpperHalf (address row)) ∧ (∀ row ∈ lower, ¬ InUpperHalf (address row))
    ∧ upper.Pairwise before ∧ lower.Pairwise before
  inOrder_iff : listed.Pairwise before
    ↔ (∀ row ∈ rows, InUpperHalf (address row)) ∨ ∀ row ∈ rows, ¬ InUpperHalf (address row)

/-- What one row in front of another in signed order means: it is not below it in another half,
and within a half it precedes it. -/
def InRuns (address : α → UInt64) (before : α → α → Prop) (a b : α) : Prop :=
  (¬ InUpperHalf (address a) → ¬ InUpperHalf (address b))
    ∧ ((InUpperHalf (address a) ↔ InUpperHalf (address b)) → before a b)

/-- A list in signed order is made of two runs. -/
theorem exists_runs (h : listed.Pairwise (InRuns address before)) :
    ∃ upper lower, listed = upper ++ lower
      ∧ (∀ row ∈ upper, InUpperHalf (address row)) ∧ (∀ row ∈ lower, ¬ InUpperHalf (address row))
      ∧ upper.Pairwise before ∧ lower.Pairwise before := by
  -- by induction on the list: a row of the upper half begins the first run, and a row of the
  -- lower half has only such rows behind it
  induction listed with
  | nil => exact ⟨[], [], rfl, nofun, nofun, .nil, .nil⟩
  | cons row rest ih =>
    rw [List.pairwise_cons] at h
    obtain ⟨hrow, hrest⟩ := h
    obtain ⟨upper, lower, rfl, hupper, hlower, hup, hlow⟩ := ih hrest
    by_cases hhalf : InUpperHalf (address row)
    · refine ⟨row :: upper, lower, rfl, List.forall_mem_cons.mpr ⟨hhalf, hupper⟩, hlower,
        hup.cons fun other hother => ?_, hlow⟩
      exact (hrow other (List.mem_append_left _ hother)).2
        (iff_of_true hhalf (hupper other hother))
    · have hnone : upper = [] := by
        refine List.eq_nil_iff_forall_not_mem.mpr fun other hother => ?_
        exact (hrow other (List.mem_append_left _ hother)).1 hhalf (hupper other hother)
      refine ⟨[], row :: lower, by rw [hnone]; rfl, nofun,
        List.forall_mem_cons.mpr ⟨hhalf, hlower⟩, .nil, hlow.cons fun other hother => ?_⟩
      exact (hrow other (List.mem_append_right _ hother)).2
        (iff_of_false hhalf (hlower other hother))

/-- **Two runs from one signed order.** -/
theorem isListing_of_pairwise (hperm : listed.Perm rows)
    (h : listed.Pairwise (InRuns address before))
    (hbefore : ∀ a b, before a b → InUpperHalf (address a) → InUpperHalf (address b)) :
    IsListing address before rows listed := by
  obtain ⟨upper, lower, hruns, hupper, hlower, hup, hlow⟩ := exists_runs h
  refine ⟨hperm, ⟨upper, lower, hruns, hupper, hlower, hup, hlow⟩, ?_⟩
  constructor
  · intro horder
    rw [hruns, List.pairwise_append] at horder
    cases upper with
    | nil =>
      refine .inr fun row hrow => hlower row ?_
      rw [List.nil_append] at hruns
      rw [← hruns]
      exact hperm.mem_iff.mpr hrow
    | cons first upper =>
      refine .inl fun row hrow => ?_
      have hmem := hperm.mem_iff.mpr hrow
      rw [hruns, List.mem_append] at hmem
      rcases hmem with hmem | hmem
      · exact hupper row hmem
      · exact hbefore first row (horder.2.2 first List.mem_cons_self row hmem)
          (hupper first List.mem_cons_self)
  · -- within one half the two orders are one
    intro hhalf
    refine h.imp_of_mem fun {a b} ha hb hab => hab.2 ?_
    have ha := hperm.mem_iff.mp ha
    have hb := hperm.mem_iff.mp hb
    rcases hhalf with hhalf | hhalf
    · exact iff_of_true (hhalf a ha) (hhalf b hb)
    · exact iff_of_false (hhalf a ha) (hhalf b hb)

theorem inUpperHalf_of_le {a b : UInt64} (h : a ≤ b) (ha : InUpperHalf a) : InUpperHalf b :=
  Nat.le_trans ha (UInt64.le_iff_toNat_le.mp h)

/-! ## §3. Sorted tables. -/

variable {β : Type} {key : α → UInt64 × β} {tailLe : β → β → Prop} {le : α → α → Bool}

/-- **What sorting does**: keys in order of signed address, and at one address in the order of what
else they hold, are in two runs. -/
theorem pairwise_mergeSort_inRuns [IsTrans β tailLe] [Std.Total tailLe]
    (hle : ∀ a b, le a b = true ↔ Prod.Lex SignedBefore tailLe (key a) (key b))
    (rows : List α) :
    (rows.mergeSort le).Pairwise (InRuns (fun row => (key row).1)
      fun a b => Prod.Lex (· < ·) tailLe (key a) (key b)) := by
  have hsorted : (rows.mergeSort le).Pairwise fun a b => le a b = true := by
    refine List.pairwise_mergeSort (fun a b c hab hbc => ?_) (fun a b => ?_) rows
    · rw [hle] at hab hbc ⊢
      exact IsTrans.trans _ _ _ hab hbc
    · rw [Bool.or_eq_true, hle, hle]
      exact Std.Total.total _ _
  refine hsorted.imp fun {a b} hab => ?_
  rw [hle, Prod.lex_def] at hab
  rcases hab with hsigned | ⟨heq, htail⟩
  · rcases signedLt_iff_halves.mp hsigned with ⟨hup, hlow⟩ | ⟨hsame, hlt⟩
    · exact ⟨fun h => absurd hup h, fun h => absurd (h.mp hup) hlow⟩
    · exact ⟨mt hsame.mpr, fun _ => Prod.lex_def.mpr (.inl hlt)⟩
  · refine ⟨fun h hb => h ?_, fun _ => Prod.lex_def.mpr (.inr ⟨heq, htail⟩)⟩
    show InUpperHalf (key a).1
    rw [heq]
    exact hb

/-- **A table with distinct keys** is listed in two runs without ties. -/
theorem isListing_mergeSort [IsTrans β tailLe] [Std.Total tailLe] {tailLt : β → β → Prop}
    (hle : ∀ a b, le a b = true ↔ Prod.Lex SignedBefore tailLe (key a) (key b))
    (hlt : ∀ x y, tailLe x y → x ≠ y → tailLt x y)
    (hbefore : ∀ a b, before a b ↔ Prod.Lex (· < ·) tailLt (key a) (key b))
    (hkeys : (rows.map key).Nodup) :
    IsListing (fun row => (key row).1) before rows (rows.mergeSort le) := by
  have hperm := List.mergeSort_perm rows le
  have hdistinct : (rows.mergeSort le).Pairwise fun a b => key a ≠ key b :=
    List.pairwise_map.mp ((hperm.map key).nodup_iff.mpr hkeys)
  refine isListing_of_pairwise hperm ?_ fun a b hab ha => ?_
  · refine hdistinct.imp₂ (fun a b hne hruns => ⟨hruns.1, fun hsame => (hbefore a b).mpr ?_⟩)
      (pairwise_mergeSort_inRuns hle rows)
    rcases Prod.lex_def.mp (hruns.2 hsame) with haddress | ⟨heq, htail⟩
    · exact Prod.lex_def.mpr (.inl haddress)
    · exact Prod.lex_def.mpr (.inr ⟨heq, hlt _ _ htail fun h => hne (Prod.ext heq h)⟩)
  · rcases Prod.lex_def.mp ((hbefore a b).mp hab) with haddress | ⟨heq, -⟩
    · exact inUpperHalf_of_le (UInt64.le_of_lt haddress) ha
    · exact heq ▸ ha

end Runs

/-! ## §4. The orders of the four listings. -/

/-- Symbols by address, then by name. -/
def SymbolRow.Precedes (a b : SymbolRow) : Prop :=
  a.address < b.address ∨ a.address = b.address ∧ a.name < b.name

/-- Comments by address, then by text. -/
def CommentRow.Precedes (a b : CommentRow) : Prop :=
  a.address < b.address ∨ a.address = b.address ∧ a.text < b.text

/-- Lines by address, then by file, then by number. -/
def LineRow.Precedes (a b : LineRow) : Prop :=
  a.address < b.address
    ∨ a.address = b.address ∧ (a.file < b.file ∨ a.file = b.file ∧ a.line < b.line)

/-- The address and the text of a comment. -/
def CommentRow.key (row : CommentRow) : UInt64 × String :=
  (row.address, row.text)

/-- The address, the file and the number of a line. -/
def LineRow.key (row : LineRow) : UInt64 × String × UInt32 :=
  (row.address, row.file, row.line)

/-- The start of a block, and nothing else that tells blocks apart. -/
def MemoryBlock.key (block : MemoryBlock) : UInt64 × Nat :=
  (block.start, 0)

theorem SymbolRow.precedes_iff (a b : SymbolRow) :
    a.Precedes b ↔ Prod.Lex (· < ·) (· < ·) a.key b.key := by
  rw [Prod.lex_def]
  rfl

theorem CommentRow.precedes_iff (a b : CommentRow) :
    a.Precedes b ↔ Prod.Lex (· < ·) (· < ·) a.key b.key := by
  rw [Prod.lex_def]
  rfl

theorem LineRow.precedes_iff (a b : LineRow) :
    a.Precedes b ↔ Prod.Lex (· < ·) (Prod.Lex (· < ·) (· < ·)) a.key b.key := by
  rw [Prod.lex_def, Prod.lex_def]
  rfl

theorem SymbolRow.listLe_iff (a b : SymbolRow) :
    a.listLe b = true ↔ Prod.Lex SignedBefore (· ≤ ·) a.key b.key := by
  unfold listLe SignedBefore SymbolRow.key
  rw [Bool.or_eq_true, Bool.and_eq_true, beq_iff_eq, decide_eq_true_iff, Prod.lex_def]

theorem CommentRow.listLe_iff (a b : CommentRow) :
    a.listLe b = true ↔ Prod.Lex SignedBefore (· ≤ ·) a.key b.key := by
  unfold listLe SignedBefore CommentRow.key
  rw [Bool.or_eq_true, Bool.and_eq_true, beq_iff_eq, decide_eq_true_iff, Prod.lex_def]

theorem LineRow.listLe_iff (a b : LineRow) :
    a.listLe b = true ↔ Prod.Lex SignedBefore (Prod.Lex (· < ·) (· ≤ ·)) a.key b.key := by
  unfold listLe SignedBefore LineRow.key
  rw [Bool.or_eq_true, Bool.and_eq_true, Bool.or_eq_true, Bool.and_eq_true, beq_iff_eq, beq_iff_eq,
    decide_eq_true_iff, decide_eq_true_iff, Prod.lex_def, Prod.lex_def]

theorem MemoryBlock.listLe_iff (a b : MemoryBlock) :
    a.listLe b = true ↔ Prod.Lex SignedBefore (· ≤ ·) a.key b.key := by
  unfold listLe SignedBefore MemoryBlock.key
  rw [signedLe_iff_eq_or_signedLt, Prod.lex_def]
  exact or_congr_right (and_iff_left (Nat.le_refl 0)).symm

/-! ## §5. The listings of a database. -/

/-- **The four listings of a database**: every one is read, and comes in two runs. -/
structure Database.ListsInRuns (db : Database) : Prop where
  symbols : ∃ rows listed, db.symbols = some rows ∧ db.listSymbols = .ok listed
    ∧ IsListing SymbolRow.address SymbolRow.Precedes rows listed
  comments : ∃ rows listed, db.comments = some rows ∧ db.listComments = .ok listed
    ∧ IsListing CommentRow.address CommentRow.Precedes rows listed
  lines : ∃ rows listed, db.lineNumbers = some rows ∧ db.listLines = .ok listed
    ∧ IsListing LineRow.address LineRow.Precedes rows listed
  /-- Blocks may begin at one address, so their starts do not fall. -/
  blocks : ∃ rows listed, db.memoryBlocks = some rows ∧ db.blocks = .ok listed
    ∧ IsListing MemoryBlock.start (fun a b => a.start ≤ b.start) rows listed

namespace Database.Represents

variable {db : Database} {v : StoredValues}

theorem symbolListing (h : db.Represents v) :
    ∃ rows listed, db.symbols = some rows ∧ db.listSymbols = .ok listed
      ∧ IsListing SymbolRow.address SymbolRow.Precedes rows listed := by
  refine ⟨v.symbols.rows.map NumberedSymbol.toRow,
    (v.symbols.rows.map NumberedSymbol.toRow).mergeSort SymbolRow.listLe, h.symbols, ?_, ?_⟩
  · unfold Database.listSymbols
    rw [h.symbols]
    rfl
  · refine isListing_mergeSort SymbolRow.listLe_iff (fun _ _ => Std.lt_of_le_of_ne)
      SymbolRow.precedes_iff ?_
    rw [List.map_map]
    exact v.symbols.distinct

theorem commentListing (h : db.Represents v) :
    ∃ rows listed, db.comments = some rows ∧ db.listComments = .ok listed
      ∧ IsListing CommentRow.address CommentRow.Precedes rows listed := by
  refine ⟨_, _, h.comments, h.listComments, isListing_mergeSort CommentRow.listLe_iff
    (fun _ _ => Std.lt_of_le_of_ne) CommentRow.precedes_iff ?_⟩
  -- a comment is its key
  have hdistinct := v.comments.distinct
  rw [List.map_id] at hdistinct
  refine hdistinct.map fun a b hab => ?_
  cases a
  cases b
  cases hab
  rfl

theorem lineListing (h : db.Represents v) :
    ∃ rows listed, db.lineNumbers = some rows ∧ db.listLines = .ok listed
      ∧ IsListing LineRow.address LineRow.Precedes rows listed := by
  refine ⟨_, _, h.lines, h.listLines, isListing_mergeSort LineRow.listLe_iff ?_
    LineRow.precedes_iff ?_⟩
  · intro x y hle hne
    rcases Prod.lex_def.mp hle with hfile | ⟨hfile, hline⟩
    · exact Prod.lex_def.mpr (.inl hfile)
    · exact Prod.lex_def.mpr (.inr ⟨hfile, Std.lt_of_le_of_ne hline fun h =>
        hne (Prod.ext hfile h)⟩)
  · -- a line is its key
    have hdistinct := v.lines.distinct
    rw [List.map_id] at hdistinct
    refine hdistinct.map fun a b hab => ?_
    cases a
    cases b
    cases hab
    rfl

theorem blockListing (h : db.Represents v) :
    ∃ rows listed, db.memoryBlocks = some rows ∧ db.blocks = .ok listed
      ∧ IsListing MemoryBlock.start (fun a b => a.start ≤ b.start) rows listed := by
  refine ⟨_, _, h.blocks, h.listBlocks, isListing_of_pairwise (List.mergeSort_perm _ _) ?_
    fun a b => inUpperHalf_of_le⟩
  refine (pairwise_mergeSort_inRuns MemoryBlock.listLe_iff v.blocks).imp fun {a b} hruns => ?_
  refine ⟨hruns.1, fun hsame => ?_⟩
  rcases Prod.lex_def.mp (hruns.2 hsame) with hlt | ⟨heq, -⟩
  · exact UInt64.le_of_lt hlt
  · exact UInt64.le_of_eq heq

/-- **The listings of a database** that represents values. -/
theorem listsInRuns (h : db.Represents v) : db.ListsInRuns :=
  ⟨h.symbolListing, h.commentListing, h.lineListing, h.blockListing⟩

end Database.Represents

/-- **The listings of every reachable database.**  Whatever operations led to it, symbols, comments,
lines and blocks are listed without loss in two runs, those of the upper half of the address space
and those of the lower half, and each run is in order of unsigned address and of what else its
rows hold; so a listing is in order exactly if its rows are in one half. -/
theorem Program.listings_in_runs (name : String) (operations : List Operation) :
    ((Program.ofDatabase name .fresh).afterAll operations).db.ListsInRuns := by
  obtain ⟨v, -, h⟩ :=
    represents_afterAll (p := Program.ofDatabase name .fresh) Database.represents_fresh operations
  exact h.listsInRuns

/-! ## §6. Rows in both halves. -/

/-- The first address of the upper half. -/
def firstUpper : UInt64 := 0x8000000000000000

/-- A symbol, a comment, a line and a block in each half of the address space. -/
def inBothHalves : List Operation :=
  [.program ⟨"app.exe", 0, none⟩ [⟨".low", 0, 4096⟩, ⟨".high", firstUpper, firstUpper + 4096⟩],
    .transaction [.symbol 0 ⟨"low", 0, none, .data, .publicTable⟩,
      .symbol firstUpper ⟨"high", 0, none, .data, .publicTable⟩, .comment 0 "low",
      .comment firstUpper "high", .line 0 "low.c" 1, .line firstUpper "high.c" 1] true]

/-- The program behind these operations. -/
def programInBothHalves : Program :=
  (Program.ofDatabase "app.exe" .fresh).afterAll inBothHalves

/-- **None of its listings is in order.** -/
theorem both_halves_listed_out_of_order :
    ∃ symbols comments lines blocks, programInBothHalves.db.listSymbols = .ok symbols
      ∧ programInBothHalves.db.listComments = .ok comments
      ∧ programInBothHalves.db.listLines = .ok lines
      ∧ programInBothHalves.db.blocks = .ok blocks
      ∧ ¬ symbols.Pairwise SymbolRow.Precedes ∧ ¬ comments.Pairwise CommentRow.Precedes
      ∧ ¬ lines.Pairwise LineRow.Precedes ∧ ¬ blocks.Pairwise (fun a b => a.start ≤ b.start) := by
  obtain ⟨v, -, h⟩ := Program.represents_afterAll (p := Program.ofDatabase "app.exe" .fresh)
    Database.represents_fresh inBothHalves
  have hlists : programInBothHalves.db.ListsInRuns := h.listsInRuns
  obtain ⟨rows₁, symbols, hrows₁, hsymbols, hlisting₁⟩ := hlists.symbols
  obtain ⟨rows₂, comments, hrows₂, hcomments, hlisting₂⟩ := hlists.comments
  obtain ⟨rows₃, lines, hrows₃, hlines, hlisting₃⟩ := hlists.lines
  obtain ⟨rows₄, blocks, hrows₄, hblocks, hlisting₄⟩ := hlists.blocks
  cases hrows₁
  cases hrows₂
  cases hrows₃
  cases hrows₄
  refine ⟨symbols, comments, lines, blocks, hsymbols, hcomments, hlines, hblocks, ?_, ?_, ?_, ?_⟩
  · rw [hlisting₁.inOrder_iff]
    decide
  · rw [hlisting₂.inOrder_iff]
    decide
  · rw [hlisting₃.inOrder_iff]
    decide
  · rw [hlisting₄.inOrder_iff]
    decide

end DebugMerge
