/-
  DebugMerge.Proofs.Reachable.Readers
  ───────────────────────────────────
  **What the readers tell of the values that were written.**

  If a database represents values, then no reader fails on it: words stand for
  the kinds and scopes that wrote them, member lists decode, and every listing
  is that of the values, sorted.  A symbol without a readable name is offered
  for naming under the number that it was stored with, and under no other
  symbol's.  An option is what it was set to last, and a data type that was
  added or replaced is the one that is listed under its name.

  Main definitions
    • `StoredValues.listedTypes`, `.listedSymbols` — the listings of the values
    • `TypeRow.IsFor`, `SymbolRow.IsFor`     — a row and the value that wrote it
    • `Database.ReadsAs`                     — what all readers tell
  Main statements
    • `Database.Represents.optionsIn`        — the options of a category
    • `StoredValues.mem_offer`               — an offer that was taken
    • `Database.Represents.readsAs`          — the readers tell the values
-/
import DebugMerge.Proofs.Identity.NormalForm
import DebugMerge.Proofs.Load.History
import DebugMerge.Proofs.Reachable.Values

namespace DebugMerge

/-! ## §1. Listings. -/

namespace StoredValues

/-- The data types by name. -/
def listedTypes (v : StoredValues) : List TypeRecord :=
  v.types.rows.mergeSort fun a b => a.name ≤ b.name

/-- The symbols by address, then by name. -/
def listedSymbols (v : StoredValues) : List NumberedSymbol :=
  v.symbols.rows.mergeSort fun a b => a.toRow.listLe b.toRow

/-- The numbers and names of the symbols in `[start, stop)` that have no readable name. -/
def pendingSymbols (v : StoredValues) (start stop : UInt64) : List (Nat × String) :=
  ((v.symbols.rows.filter fun s => Database.isPending start stop s.toRow).mergeSort
    fun a b => a.toRow.listLe b.toRow).map fun s => (s.number, s.symbol.name)

/-- The whole type and symbol store. -/
def snapshot (v : StoredValues) : Snapshot :=
  ⟨v.listedTypes, v.listedSymbols.map NumberedSymbol.toRow,
    v.comments.rows.mergeSort CommentRow.listLe, v.lines.rows.mergeSort LineRow.listLe⟩

end StoredValues

namespace Database

/-- Rows of definitions read back. -/
theorem readTypes_map_toRow (records : List TypeRecord) :
    readTypes (records.map TypeRecord.toRow) = .ok records := by
  induction records with
  | nil => rfl
  | cons record records ih =>
    exact bind_ok.mpr ⟨record, record.toRecord_toRow, bind_ok.mpr ⟨records, ih, rfl⟩⟩

namespace Represents

variable {db : Database} {v : StoredValues}

theorem listTypes (h : db.Represents v) : db.listTypes = .ok v.listedTypes := by
  unfold Database.listTypes
  rw [h.types]
  show readTypes ((v.types.rows.map TypeRecord.toRow).mergeSort TypeRow.listLe) = _
  rw [← List.map_mergeSort (r := fun a b : TypeRecord => a.name ≤ b.name) fun _ _ _ _ => rfl,
    readTypes_map_toRow]
  rfl

theorem listSymbols (h : db.Represents v) :
    db.listSymbols = .ok (v.listedSymbols.map NumberedSymbol.toRow) := by
  unfold Database.listSymbols StoredValues.listedSymbols
  rw [h.symbols, List.map_mergeSort (s := SymbolRow.listLe) fun _ _ _ _ => rfl]
  rfl

theorem listComments (h : db.Represents v) :
    db.listComments = .ok (v.comments.rows.mergeSort CommentRow.listLe) := by
  unfold Database.listComments
  rw [h.comments]
  rfl

theorem listLines (h : db.Represents v) :
    db.listLines = .ok (v.lines.rows.mergeSort LineRow.listLe) := by
  unfold Database.listLines
  rw [h.lines]
  rfl

theorem snapshot (h : db.Represents v) : db.snapshot = .ok v.snapshot :=
  bind_ok.mpr ⟨_, h.listTypes, bind_ok.mpr ⟨_, h.listSymbols,
    bind_ok.mpr ⟨_, h.listComments, bind_ok.mpr ⟨_, h.listLines, rfl⟩⟩⟩⟩

/-- Symbols are offered for naming under their numbers. -/
theorem pendingSymbols (h : db.Represents v) (start stop : UInt64) :
    db.pendingSymbols start stop = .ok (v.pendingSymbols start stop) := by
  unfold Database.pendingSymbols StoredValues.pendingSymbols
  rw [h.symbols]
  show Except.ok ((((numbered 0 db.symbolSkips _).filter _).mergeSort _).map _) = _
  have hsorted : ∀ symbols : List NumberedSymbol,
      (symbols.map fun s => (s.number, s.toRow)).mergeSort (fun a b => a.2.listLe b.2)
        = (symbols.mergeSort fun a b => a.toRow.listLe b.toRow).map
          fun s => (s.number, s.toRow) := by
    intro symbols
    refine (List.map_mergeSort ?_).symm
    exact fun _ _ _ _ => rfl
  rw [h.numbers.numbered_eq, List.filter_map, hsorted, List.map_map]
  rfl

/-- What was recorded about the program. -/
theorem attributes (h : db.Represents v) : db.info = .ok (v.info.map ProgramInfo.reread) := by
  unfold Database.info
  rw [h.info]
  show Except.ok ((v.info.map ProgramInfo.toRow).map ProgramRow.toInfo) = _
  rw [Option.map_map]
  exact congrArg (fun f => Except.ok (v.info.map f)) (funext ProgramInfo.toInfo_toRow)

theorem imageBase (h : db.Represents v) :
    db.imageBase
      = v.info.elim (.error .missingProgramInfo) fun info => .ok info.imageBase := by
  unfold Database.imageBase
  rw [h.attributes]
  cases v.info <;> rfl

theorem expectedIdentity (h : db.Represents v) :
    db.expectedIdentity
      = .ok ((v.info.bind (·.expected)).map Identity.reread) := by
  unfold Database.expectedIdentity
  rw [h.attributes]
  cases v.info <;> rfl

theorem listBlocks (h : db.Represents v) :
    db.blocks = .ok (v.blocks.mergeSort MemoryBlock.listLe) := by
  unfold Database.blocks
  rw [h.blocks]
  rfl

theorem listRuns (h : db.Represents v) : db.listRuns = .ok v.runs := by
  unfold Database.listRuns
  rw [h.runs]
  exact readRuns_append (show readRuns [] = .ok [] from rfl) v.runs

end Represents

end Database

/-! ## §2. Options. -/

namespace ProgramOptions

/-- What was set is found under its key, and nothing else has changed. -/
theorem find?_insert (key value k : String) (values : List (String × String)) :
    (insert key value values).find? (fun entry => entry.1 = k)
      = if key = k then some (key, value) else values.find? fun entry => entry.1 = k := by
  -- by induction along the sorted names: what is set goes before the first, replaces it, or
  -- goes somewhere behind it
  induction values with
  | nil =>
    unfold insert
    by_cases hk : key = k <;> simp [hk]
  | cons entry rest ih =>
    obtain ⟨k', v⟩ := entry
    unfold insert
    by_cases hlt : key < k'
    · rw [if_pos hlt]
      by_cases hk : key = k <;> simp [hk]
    rw [if_neg hlt]
    by_cases heq : key = k'
    · rw [if_pos heq, ← heq]
      by_cases hk : key = k <;> simp [hk]
    rw [if_neg heq, List.find?_cons, List.find?_cons, ih]
    by_cases hk : key = k
    · have hne : k' ≠ k := fun h => heq (hk.trans h.symm)
      simp [hk, hne]
    · rw [if_neg hk, if_neg hk]

/-- The options that rows of distinct names set. -/
theorem find?_foldl_insert {rows : List OptionRow} (hnames : (rows.map (·.name)).Nodup)
    (values : List (String × String)) (k : String) :
    (rows.foldl (fun values row => insert row.name row.value values) values).find?
        (fun entry => entry.1 = k)
      = ((rows.find? fun row => row.name = k).map fun row => (row.name, row.value)).or
        (values.find? fun entry => entry.1 = k) := by
  -- by induction on the rows: a name that was set is not set again behind
  induction rows generalizing values with
  | nil => rfl
  | cons row rows ih =>
    rw [List.map_cons, List.nodup_cons] at hnames
    rw [List.foldl_cons, ih hnames.2, find?_insert, List.find?_cons]
    by_cases hk : row.name = k
    · have hnone : rows.find? (fun other => other.name = k) = none := by
        refine List.find?_eq_none.mpr fun other hother hname => hnames.1 ?_
        exact List.mem_map.mpr ⟨other, hother, (of_decide_eq_true hname).trans hk.symm⟩
      rw [hnone, if_pos hk, decide_eq_true hk]
      rfl
    · rw [if_neg hk, decide_eq_false hk]

end ProgramOptions

/-- The options of a category have distinct names. -/
theorem KeyedTable.nodup_names (options : KeyedTable OptionRow.key) (category : String) :
    ((options.rows.filter fun row => row.category = category).map (·.name)).Nodup := by
  have hkeys : ((options.rows.filter fun row => row.category = category).map OptionRow.key).Nodup :=
    options.distinct.sublist (List.filter_sublist.map OptionRow.key)
  -- within one category the name alone tells two keys apart
  have hpairs : (options.rows.filter fun row => row.category = category).map OptionRow.key
      = ((options.rows.filter fun row => row.category = category).map (·.name)).map
        (Prod.mk category) := by
    rw [List.map_map]
    refine List.map_congr_left fun row hrow => ?_
    exact congrArg (·, row.name) (of_decide_eq_true (List.mem_filter.mp hrow).2)
  rw [hpairs] at hkeys
  exact hkeys.of_map (Prod.mk category)

/-- **An option is what it was set to last.** -/
theorem Database.Represents.optionsIn {db : Database} {v : StoredValues} (h : db.Represents v)
    (category : String) :
    ∃ options, db.optionsIn category = .ok options
      ∧ ∀ name, options.get? name = (v.options.find? (category, name)).map (·.value) := by
  refine ⟨⟨category, (v.options.rows.filter fun row => row.category = category).foldl
    (fun values row => ProgramOptions.insert row.name row.value values) []⟩, ?_, fun name => ?_⟩
  · unfold Database.optionsIn
    rw [h.options]
    rfl
  · unfold ProgramOptions.get? KeyedTable.find?
    dsimp only
    rw [ProgramOptions.find?_foldl_insert (v.options.nodup_names category), List.find?_filter,
      List.find?_nil, Option.or_none, Option.map_map]
    have hkey : (fun row : OptionRow => decide (decide (row.category = category) = true
          ∧ decide (row.name = name) = true))
        = fun row => decide (row.key = (category, name)) := by
      funext row
      unfold OptionRow.key
      simp
    rw [hkey]
    rfl

/-! ## §3. Rows and the values that wrote them. -/

/-- The row of a data type: its word and its text stand for the kind and the members. -/
structure TypeRow.IsFor (row : TypeRow) (record : TypeRecord) : Prop where
  name : row.name = record.name
  kind : TypeKind.ofWord? row.kind = some record.kind
  size : row.size = record.size
  members : decodeMembers? row.members = some record.members

theorem TypeRecord.isFor_toRow (record : TypeRecord) : record.toRow.IsFor record :=
  ⟨rfl, record.kind.ofWord?_word, rfl, decodeMembers?_encodeMembers record.members⟩

/-- The row of a symbol: its words stand for the kind and the scope. -/
structure SymbolRow.IsFor (row : SymbolRow) (s : PlacedSymbol) : Prop where
  address : row.address = s.address
  name : row.name = s.name
  kind : SymbolKind.ofWord? row.kind = some s.kind
  scope : SymbolScope.ofWord? row.scope = some s.scope
  size : row.size = s.size
  demangled : row.demangled = s.demangled

theorem NumberedSymbol.isFor_toRow (s : NumberedSymbol) : s.toRow.IsFor s.symbol :=
  ⟨rfl, rfl, s.symbol.kind.ofWord?_word, s.symbol.scope.ofWord?_word, rfl, rfl⟩

/-- The rows of a column are those of its values, one by one. -/
theorem forall₂_map_left {α β : Type} {R : β → α → Prop} {f : α → β} (h : ∀ a, R (f a) a)
    (values : List α) : List.Forall₂ R (values.map f) values := by
  rw [List.forall₂_map_left_iff, List.forall₂_same]
  exact fun a _ => h a

/-! ## §4. An offer that was taken. -/

/-- A merge adds nothing; only a free name does. -/
theorem TypeRecord.merge_ne_added {stored record : TypeRecord} (h : stored.name = record.name) :
    stored.merge record ≠ .added := by
  intro hadded
  rcases merge_cases stored record h with hc | hc | hc
  · exact nomatch hc.2.symm.trans hadded
  · exact nomatch hc.2.2.symm.trans hadded
  · exact nomatch hc.2.2.symm.trans hadded

namespace StoredValues

/-- **What was added or replaced is stored.** -/
theorem mem_offer {v : StoredValues} {record : TypeRecord}
    (h : (v.offer record).2 = .added ∨ (v.offer record).2 = .replaced) :
    record ∈ (v.offer record).1.types.rows := by
  unfold offer at h ⊢
  cases hstored : v.types.find? record.name with
  | none =>
    dsimp only
    rw [KeyedTable.rows_insert, if_neg (KeyedTable.find?_eq_none_iff.mp hstored)]
    exact List.mem_append_right _ (List.mem_singleton_self record)
  | some stored =>
    -- the record has taken the place of the stored definition
    rw [hstored] at h
    have hname := KeyedTable.key_of_find? hstored
    have hreplaced : stored.merge record = .replaced :=
      h.resolve_left (TypeRecord.merge_ne_added hname)
    dsimp only
    rw [if_pos hreplaced]
    exact List.mem_map.mpr ⟨stored, KeyedTable.mem_of_find? hstored, if_pos hname⟩

end StoredValues

namespace Database

/-- The data type that is listed under the name of the record is the record. -/
def Defines (db : Database) (record : TypeRecord) : Prop :=
  ∃ types, db.listTypes = .ok types
    ∧ ∀ other, other ∈ types ∧ other.name = record.name ↔ other = record

theorem Represents.defines {db : Database} {v : StoredValues} {record : TypeRecord}
    (h : db.Represents v) (hmem : record ∈ v.types.rows) : db.Defines record := by
  refine ⟨v.listedTypes, h.listTypes, fun other => ?_⟩
  unfold StoredValues.listedTypes
  rw [List.mem_mergeSort]
  constructor
  · exact fun hother => v.types.eq_of_key_eq hother.1 hmem hother.2
  · intro heq
    subst heq
    exact ⟨hmem, rfl⟩

/-! ## §5. All readers. -/

/-- **What all readers tell of a database.**  Keys are distinct, the texts of every row parse back
to the value that wrote it, and no reader fails: the listings are those of the values, attributes
are as they were recorded up to one more normal form of a GUID, symbols are offered for naming
under numbers of their own, and behind any writes of a transaction an offer that was taken is what
is listed under its name. -/
structure ReadsAs (db : Database) (v : StoredValues) : Prop where
  typeRows : ∃ rows, db.dataTypes = some rows ∧ (rows.map (·.name)).Nodup
    ∧ List.Forall₂ TypeRow.IsFor rows v.types.rows
  symbolRows : ∃ rows, db.symbols = some rows ∧ (rows.map SymbolRow.key).Nodup
    ∧ List.Forall₂ (fun row s => SymbolRow.IsFor row s.symbol) rows v.symbols.rows
  numbers : (v.symbols.rows.map NumberedSymbol.number).Pairwise (· < ·)
    ∧ ∀ s ∈ v.symbols.rows, 0 < s.number ∧ s.number ≤ v.lastNumber
  commentRows : db.comments = some v.comments.rows ∧ v.comments.rows.Nodup
  lineRows : db.lineNumbers = some v.lines.rows ∧ v.lines.rows.Nodup
  types : db.listTypes = .ok v.listedTypes
  symbols : ∃ rows, db.listSymbols = .ok rows
    ∧ rows.map SymbolRow.placed = v.listedSymbols.map NumberedSymbol.symbol
  pending : ∀ start stop, db.pendingSymbols start stop = .ok (v.pendingSymbols start stop)
  comments : db.listComments = .ok (v.comments.rows.mergeSort CommentRow.listLe)
  lines : db.listLines = .ok (v.lines.rows.mergeSort LineRow.listLe)
  snapshot : db.snapshot = .ok v.snapshot
  info : db.info = .ok (v.info.map ProgramInfo.reread)
  imageBase : db.imageBase
    = v.info.elim (.error .missingProgramInfo) fun info => .ok info.imageBase
  expected : db.expectedIdentity = .ok ((v.info.bind (·.expected)).map Identity.reread)
  blocks : db.blocks = .ok (v.blocks.mergeSort MemoryBlock.listLe)
  options : ∀ category, ∃ options, db.optionsIn category = .ok options
    ∧ ∀ name, options.get? name = (v.options.find? (category, name)).map (·.value)
  runs : db.listRuns = .ok v.runs
  offers : ∀ writes record, ∃ m after verdict, db.writeAll writes = .ok m
    ∧ m.upsertType record = .ok (after, verdict)
    ∧ (verdict = .added ∨ verdict = .replaced → after.Defines record)

/-- **The readers tell the values** that a database represents. -/
theorem Represents.readsAs {db : Database} {v : StoredValues} (h : db.Represents v) :
    db.ReadsAs v where
  typeRows := by
    refine ⟨_, h.types, ?_, forall₂_map_left TypeRecord.isFor_toRow _⟩
    rw [List.map_map]
    exact v.types.distinct
  symbolRows := by
    refine ⟨_, h.symbols, ?_, forall₂_map_left NumberedSymbol.isFor_toRow _⟩
    rw [List.map_map]
    exact v.symbols.distinct
  numbers := h.numbers.rise.2
  commentRows := ⟨h.comments, List.map_id v.comments.rows ▸ v.comments.distinct⟩
  lineRows := ⟨h.lines, List.map_id v.lines.rows ▸ v.lines.distinct⟩
  types := h.listTypes
  symbols := by
    refine ⟨_, h.listSymbols, ?_⟩
    rw [List.map_map]
    exact List.map_congr_left fun s _ => s.symbol.placed_toRow
  pending := h.pendingSymbols
  comments := h.listComments
  lines := h.listLines
  snapshot := h.snapshot
  info := h.attributes
  imageBase := h.imageBase
  expected := h.expectedIdentity
  blocks := h.listBlocks
  options := h.optionsIn
  runs := h.listRuns
  offers writes record := by
    obtain ⟨m, hwrites, hm⟩ := h.writeAll writes
    obtain ⟨after, hoffer, hafter⟩ := hm.upsertType record
    exact ⟨m, after, _, hwrites, hoffer, fun htaken =>
      hafter.defines (StoredValues.mem_offer htaken)⟩

end Database

end DebugMerge
