/-
  DebugMerge.Proofs.Load.Merging
  ──────────────────────────────
  **A merge, table by table.**

  What a merge does to the database depends neither on its counters nor on its
  messages, and what it does to one table depends on that table alone.  So a
  merge of a list of records is four folds side by side, one for each table,
  and everything that is known about one table is known about the database.

  Main statements
    • `Database.mergeRecord`, `Application.offer_db` — one record
    • `Database.Merges`, `Database.mergeAll_iff`     — a list of records is four folds
    • `Application.applyRecords_walked`              — the walk over the records
    • `apply_walked`, `complete_of_apply`, `apply_ok`, `apply_never` — the whole merge
-/
import DebugMerge.Load.Apply
import DebugMerge.Proofs.Store.Numbers
import DebugMerge.Proofs.Store.Tables

namespace DebugMerge

/-! ## §1. Records as rows. -/

/-- The row of a symbol at an address. -/
def SymbolRecord.rowAt (record : SymbolRecord) (address : UInt64) : SymbolRow :=
  ⟨address, record.name, record.kind.word, record.scope.word, record.size, none⟩

/-- The row of a source line at an address. -/
def LineRecord.rowAt (record : LineRecord) (address : UInt64) : LineRow :=
  ⟨address, record.file, record.line⟩

/-- The row of a comment at an address. -/
def CommentRecord.rowAt (record : CommentRecord) (address : UInt64) : CommentRow :=
  ⟨address, record.text⟩

/-- The row at the address that an offset lands on, if it lands in memory. -/
def Site.rowAt? {α : Type} (site : Site) (rva : UInt64) (rowAt : UInt64 → α) : Option α :=
  (place site.imageBase rva site.blocks).map rowAt

/-- An address holds each name once. -/
def SymbolRow.key (row : SymbolRow) : UInt64 × String :=
  (row.address, row.name)

namespace Record

/-- The data type, if the record is one. -/
def type? : Record → Option TypeRecord
  | dataType record => some record
  | _ => none

/-- The row of symbols, if the record becomes one. -/
def symbolRow? (site : Site) : Record → Option SymbolRow
  | symbol record => site.rowAt? record.rva record.rowAt
  | _ => none

/-- The row of source lines, if the record becomes one. -/
def lineRow? (site : Site) : Record → Option LineRow
  | line record => site.rowAt? record.rva record.rowAt
  | _ => none

/-- The row of comments, if the record becomes one. -/
def commentRow? (site : Site) : Record → Option CommentRow
  | comment record => site.rowAt? record.rva record.rowAt
  | _ => none

end Record

/-! ## §2. One record. -/

/-- Merge a data type into its table. -/
abbrev mergeTypes : Option (List TypeRow) → TypeRecord → Except LoadError (Option (List TypeRow)) :=
  onTable .dataTypes mergeType

/-- Merge a symbol into its table. -/
abbrev mergeSymbols : Option (List SymbolRow) → SymbolRow →
    Except LoadError (Option (List SymbolRow)) :=
  onTable .symbols (mergeRow SymbolRow.key)

/-- The numbers that are passed over once a symbol was offered: one more, if its key is taken. -/
def skipsBehind (row : SymbolRow) (skips : List Nat) : Option (List SymbolRow) → List Nat
  | none => skips
  | some rows =>
      if row.key ∈ rows.map SymbolRow.key then Database.passOver rows.length skips else skips

/-- Merge a symbol into its table, with the numbers that are passed over. -/
def mergeNumbered (table : Option (List SymbolRow) × List Nat) (row : SymbolRow) :
    Except LoadError (Option (List SymbolRow) × List Nat) :=
  (mergeSymbols table.1 row).map fun rows => (rows, skipsBehind row table.2 table.1)

/-- The rows are merged whatever numbers are passed over. -/
theorem map_fst_foldlM_mergeNumbered (table : Option (List SymbolRow) × List Nat)
    (rows : List SymbolRow) :
    (rows.foldlM mergeNumbered table).map Prod.fst = rows.foldlM mergeSymbols table.1 := by
  refine map_foldlM (fun table row => ?_) table rows
  unfold mergeNumbered
  cases mergeSymbols table.1 row <;> rfl

/-- Merge a source line into its table. -/
abbrev mergeLines : Option (List LineRow) → LineRow → Except LoadError (Option (List LineRow)) :=
  onTable .lineNumbers (mergeRow id)

/-- Merge a comment into its table. -/
abbrev mergeComments : Option (List CommentRow) → CommentRow →
    Except LoadError (Option (List CommentRow)) :=
  onTable .comments (mergeRow id)

namespace Database

/-- The database with other data types. -/
def withTypes (db : Database) (rows : Option (List TypeRow)) : Database :=
  { db with dataTypes := rows }

/-- The database with other symbols. -/
def withSymbols (db : Database) (rows : Option (List SymbolRow)) : Database :=
  { db with symbols := rows }

/-- The database with other numbers passed over. -/
def withSkips (db : Database) (skips : List Nat) : Database :=
  { db with symbolSkips := skips }

/-- The database with another table of symbols. -/
def withNumbered (db : Database) (table : Option (List SymbolRow) × List Nat) : Database :=
  (db.withSymbols table.1).withSkips table.2

/-- The database with other source lines. -/
def withLines (db : Database) (rows : Option (List LineRow)) : Database :=
  { db with lineNumbers := rows }

/-- The database with other comments. -/
def withComments (db : Database) (rows : Option (List CommentRow)) : Database :=
  { db with comments := rows }

/-- Merge a record into the four tables; it becomes at most one row of one of them. -/
def mergeRecord (site : Site) (db : Database) (record : Record) : Except LoadError Database := do
  let types ← record.type?.toList.foldlM mergeTypes db.dataTypes
  let symbols ← (record.symbolRow? site).toList.foldlM mergeNumbered (db.symbols, db.symbolSkips)
  let lines ← (record.lineRow? site).toList.foldlM mergeLines db.lineNumbers
  let comments ← (record.commentRow? site).toList.foldlM mergeComments db.comments
  return (((db.withTypes types).withNumbered symbols).withLines lines).withComments comments

/-! A table put back where it was is no change. -/

theorem withTypes_of_eq {db : Database} {rows : Option (List TypeRow)} (h : db.dataTypes = rows) :
    db.withTypes rows = db := by
  rw [← h]
  rfl

theorem withSymbols_of_eq {db : Database} {rows : Option (List SymbolRow)} (h : db.symbols = rows) :
    db.withSymbols rows = db := by
  rw [← h]
  rfl

/-- Add a row to one table of a database; answers whether it was new. -/
def addRow {α κ : Type} [BEq κ] (key : α → κ) (table : Table) (rows : Option (List α))
    (withRows : Option (List α) → Database) (row : α) : Except StoreError (Database × Bool) := do
  let rows ← rowsOf table rows
  let appended := appendNew (fun r => key r == key row) row rows
  return (withRows (some appended.1), appended.2)

/-- A symbol is new, or it is known and a number is passed over. -/
theorem addSymbol_cases {db : Database} {rows : List SymbolRow} (hrows : db.symbols = some rows)
    (address : UInt64) (record : SymbolRecord) :
    ((record.rowAt address).key ∈ rows.map SymbolRow.key
        ∧ db.addSymbol address record
          = .ok (db.withSkips (passOver rows.length db.symbolSkips), false))
      ∨ ((record.rowAt address).key ∉ rows.map SymbolRow.key
        ∧ db.addSymbol address record
          = .ok (db.withSymbols (some (rows ++ [record.rowAt address])), true)) := by
  have hany : (rows.any fun r => r.address == address && r.name == record.name) = true
      ↔ (record.rowAt address).key ∈ rows.map SymbolRow.key := by
    unfold SymbolRow.key SymbolRecord.rowAt
    simp only [List.any_eq_true, Bool.and_eq_true, beq_iff_eq, List.mem_map, Prod.mk.injEq]
  have hfound : rowsOf .symbols db.symbols = .ok rows := by
    rw [hrows]
    rfl
  unfold addSymbol
  rw [hfound]
  by_cases hmem : (record.rowAt address).key ∈ rows.map SymbolRow.key
  · refine .inl ⟨hmem, ?_⟩
    dsimp only [bind, Except.bind]
    rw [appendNew_of_any (hany.mpr hmem)]
    rfl
  · refine .inr ⟨hmem, ?_⟩
    dsimp only [bind, Except.bind]
    rw [appendNew_of_not_any fun h => hmem (hany.mp h)]
    rfl

/-- Without a table of symbols none can be added. -/
theorem addSymbol_missing {db : Database} (hrows : db.symbols = none) (address : UInt64)
    (record : SymbolRecord) :
    db.addSymbol address record = .error (.missingTable .symbols) := by
  unfold addSymbol rowsOf
  rw [hrows]
  rfl

/-- **Adding a symbol is merging it**, and its table tells whether it was new. -/
theorem addSymbol_merged (db : Database) (address : UInt64) (record : SymbolRecord) :
    ((db.addSymbol address record).map (·.1)).mapError LoadError.store
      = (mergeNumbered (db.symbols, db.symbolSkips) (record.rowAt address)).map
        db.withNumbered := by
  unfold mergeNumbered
  cases hrows : db.symbols with
  | none =>
    rw [addSymbol_missing hrows]
    rfl
  | some rows =>
    unfold mergeSymbols skipsBehind
    rw [onTable_some]
    rcases addSymbol_cases hrows address record with ⟨hmem, hadd⟩ | ⟨hnew, hadd⟩
    · rw [hadd, mergeRow_of_mem hmem]
      dsimp only
      rw [if_pos hmem]
      show _ = Except.ok ((db.withSymbols (some rows)).withSkips _)
      rw [withSymbols_of_eq hrows]
      rfl
    · rw [hadd, mergeRow_of_not_mem hnew]
      dsimp only
      rw [if_neg hnew]
      rfl

theorem addLine_eq (db : Database) (address : UInt64) (record : LineRecord) :
    db.addLine address record.file record.line
      = addRow id .lineNumbers db.lineNumbers db.withLines (record.rowAt address) := rfl

theorem addComment_eq (db : Database) (address : UInt64) (record : CommentRecord) :
    db.addComment address record.text
      = addRow id .comments db.comments db.withComments (record.rowAt address) := rfl

/-- **Adding a row is merging it**: both fail without the table, and a row that is not new
leaves the database as it is. -/
theorem addRow_cases {α κ : Type} [BEq κ] (key : α → κ) (table : Table) (rows : Option (List α))
    (withRows : Option (List α) → Database) (row : α) :
    (addRow key table rows withRows row = .error (.missingTable table)
        ∧ (onTable table (mergeRow key) rows row).map withRows
          = .error (.store (.missingTable table)))
      ∨ (addRow key table rows withRows row = .ok (withRows rows, false)
        ∧ (onTable table (mergeRow key) rows row).map withRows = .ok (withRows rows))
      ∨ ∃ db, addRow key table rows withRows row = .ok (db, true)
        ∧ (onTable table (mergeRow key) rows row).map withRows = .ok db := by
  cases rows with
  | none => exact .inl ⟨rfl, rfl⟩
  | some rows =>
    have hadd : addRow key table (some rows) withRows row
        = .ok (withRows (some (appendNew (fun r => key r == key row) row rows).1),
          (appendNew (fun r => key r == key row) row rows).2) := rfl
    have hmerge : (onTable table (mergeRow key) (some rows) row).map withRows
        = .ok (withRows (some (appendNew (fun r => key r == key row) row rows).1)) := rfl
    rw [hadd, hmerge]
    by_cases hpresent : (rows.any fun r => key r == key row) = true
    · rw [appendNew_of_any hpresent]
      exact .inr (.inl ⟨rfl, rfl⟩)
    · rw [appendNew_of_not_any hpresent]
      exact .inr (.inr ⟨_, rfl, rfl⟩)

end Database

namespace Application

/-- Offering a data type is merging it. -/
theorem offerType_db (a : Application) (record : TypeRecord) :
    (a.offerType record).map (·.db) = (mergeTypes a.db.dataTypes record).map a.db.withTypes := by
  unfold offerType mergeTypes
  cases hrows : a.db.dataTypes with
  | none =>
    rw [Database.upsertType_missing hrows]
    rfl
  | some rows =>
    have hself : a.db = a.db.withTypes (some rows) := (Database.withTypes_of_eq hrows).symm
    show _ = ((mergeType rows record).map some).map a.db.withTypes
    cases hfind : TypeRow.at? record.name rows with
    | none =>
      rw [Database.upsertType_of_free hrows hfind, mergeType_of_free hfind]
      rfl
    | some row =>
      unfold mergeType
      rw [hfind]
      cases hread : row.toRecord with
      | error e =>
        rw [Database.upsertType_of_unreadable hrows hfind hread]
        unfold typeChange
        dsimp only
        rw [hread]
        rfl
      | ok stored =>
        rw [Database.upsertType_of_taken hrows hfind hread, typeChange_of_merge hread]
        cases hmerge : stored.merge record with
        | added => exact congrArg Except.ok hself
        | existing => exact congrArg Except.ok hself
        | replaced => rfl
        | conflict existing => rfl

/-- Offering a symbol is merging its row, if it has one. -/
theorem offerSymbol_db (site : Site) (a : Application) (record : SymbolRecord) :
    (a.offerSymbol site record).map (·.db)
      = ((site.rowAt? record.rva record.rowAt).toList.foldlM mergeNumbered
        (a.db.symbols, a.db.symbolSkips)).map a.db.withNumbered := by
  unfold offerSymbol Site.rowAt?
  cases place site.imageBase record.rva site.blocks with
  | none => rfl
  | some address =>
    show _ = ([record.rowAt address].foldlM mergeNumbered _).map a.db.withNumbered
    rw [foldlM_singleton, ← Database.addSymbol_merged]
    dsimp only
    rcases a.db.addSymbol address record with e | ⟨db, _ | _⟩ <;> rfl

/-- Offering a source line is merging its row, if it has one. -/
theorem offerLine_db (site : Site) (a : Application) (record : LineRecord) :
    (a.offerLine site record).map (·.db)
      = ((site.rowAt? record.rva record.rowAt).toList.foldlM mergeLines a.db.lineNumbers).map
        a.db.withLines := by
  unfold offerLine Site.rowAt?
  cases place site.imageBase record.rva site.blocks with
  | none => rfl
  | some address =>
    show _ = ([record.rowAt address].foldlM mergeLines a.db.lineNumbers).map a.db.withLines
    rw [foldlM_singleton]
    dsimp only
    rw [Database.addLine_eq]
    rcases Database.addRow_cases id .lineNumbers a.db.lineNumbers a.db.withLines
      (record.rowAt address) with ⟨hadd, hmerge⟩ | ⟨hadd, hmerge⟩ | ⟨db, hadd, hmerge⟩
    · rw [hadd, hmerge]
      rfl
    · rw [hadd, hmerge]
      rfl
    · rw [hadd, hmerge]
      rfl

/-- Offering a comment is merging its row, if it has one. -/
theorem offerComment_db (site : Site) (a : Application) (record : CommentRecord) :
    (a.offerComment site record).map (·.db)
      = ((site.rowAt? record.rva record.rowAt).toList.foldlM mergeComments a.db.comments).map
        a.db.withComments := by
  unfold offerComment Site.rowAt?
  cases place site.imageBase record.rva site.blocks with
  | none => rfl
  | some address =>
    show _ = ([record.rowAt address].foldlM mergeComments a.db.comments).map a.db.withComments
    rw [foldlM_singleton]
    dsimp only
    rw [Database.addComment_eq]
    rcases Database.addRow_cases id .comments a.db.comments a.db.withComments
      (record.rowAt address) with ⟨hadd, hmerge⟩ | ⟨hadd, hmerge⟩ | ⟨db, hadd, hmerge⟩
    · rw [hadd, hmerge]
      rfl
    · rw [hadd, hmerge]
      rfl
    · rw [hadd, hmerge]
      rfl

end Application

namespace Database

/-! A record becomes a row of one table only. -/

theorem mergeRecord_dataType (site : Site) (db : Database) (record : TypeRecord) :
    db.mergeRecord site (.dataType record) = (mergeTypes db.dataTypes record).map db.withTypes := by
  show ([record].foldlM mergeTypes db.dataTypes).bind _ = _
  rw [foldlM_singleton]
  cases mergeTypes db.dataTypes record <;> rfl

theorem mergeRecord_symbol (site : Site) (db : Database) (record : SymbolRecord) :
    db.mergeRecord site (.symbol record)
      = ((site.rowAt? record.rva record.rowAt).toList.foldlM mergeNumbered
        (db.symbols, db.symbolSkips)).map db.withNumbered := by
  show ((site.rowAt? record.rva record.rowAt).toList.foldlM mergeNumbered _).bind _ = _
  cases (site.rowAt? record.rva record.rowAt).toList.foldlM mergeNumbered _ <;> rfl

theorem mergeRecord_line (site : Site) (db : Database) (record : LineRecord) :
    db.mergeRecord site (.line record)
      = ((site.rowAt? record.rva record.rowAt).toList.foldlM mergeLines db.lineNumbers).map
        db.withLines := by
  show ((site.rowAt? record.rva record.rowAt).toList.foldlM mergeLines db.lineNumbers).bind _ = _
  cases (site.rowAt? record.rva record.rowAt).toList.foldlM mergeLines db.lineNumbers <;> rfl

theorem mergeRecord_comment (site : Site) (db : Database) (record : CommentRecord) :
    db.mergeRecord site (.comment record)
      = ((site.rowAt? record.rva record.rowAt).toList.foldlM mergeComments db.comments).map
        db.withComments := by
  show ((site.rowAt? record.rva record.rowAt).toList.foldlM mergeComments db.comments).bind _ = _
  cases (site.rowAt? record.rva record.rowAt).toList.foldlM mergeComments db.comments <;> rfl

end Database

namespace Application

/-- **Offering a record is merging it**: counters and messages play no part. -/
theorem offer_db (site : Site) (a : Application) (record : Record) :
    (a.offer site record).map (·.db) = a.db.mergeRecord site record := by
  cases record with
  | dataType record =>
    exact (offerType_db a record).trans (Database.mergeRecord_dataType site a.db record).symm
  | symbol record =>
    exact (offerSymbol_db site a record).trans (Database.mergeRecord_symbol site a.db record).symm
  | line record =>
    exact (offerLine_db site a record).trans (Database.mergeRecord_line site a.db record).symm
  | comment record =>
    exact (offerComment_db site a record).trans (Database.mergeRecord_comment site a.db record).symm

end Application

/-! ## §3. A list of records. -/

namespace Database

/-- Merge a list of records. -/
def mergeAll (site : Site) (db : Database) (records : List Record) : Except LoadError Database :=
  records.foldlM (mergeRecord site) db

/-- Merging changed the four tables, each by its own records. -/
structure Merges (site : Site) (records : List Record) (db db' : Database) : Prop where
  types : (records.filterMap Record.type?).foldlM mergeTypes db.dataTypes = .ok db'.dataTypes
  numbered : (records.filterMap (Record.symbolRow? site)).foldlM mergeNumbered
    (db.symbols, db.symbolSkips) = .ok (db'.symbols, db'.symbolSkips)
  lines : (records.filterMap (Record.lineRow? site)).foldlM mergeLines db.lineNumbers
    = .ok db'.lineNumbers
  comments : (records.filterMap (Record.commentRow? site)).foldlM mergeComments db.comments
    = .ok db'.comments
  others : db' = { db with
    dataTypes := db'.dataTypes
    symbols := db'.symbols
    symbolSkips := db'.symbolSkips
    lineNumbers := db'.lineNumbers
    comments := db'.comments }

/-- The rows of symbols are merged row by row. -/
theorem Merges.symbols {site : Site} {db db' : Database} {records : List Record}
    (h : Merges site records db db') :
    (records.filterMap (Record.symbolRow? site)).foldlM mergeSymbols db.symbols
      = .ok db'.symbols := by
  have hrows := map_fst_foldlM_mergeNumbered (db.symbols, db.symbolSkips)
    (records.filterMap (Record.symbolRow? site))
  rw [h.numbered] at hrows
  exact hrows.symm

/-- One symbol uses one number up, and the others keep theirs. -/
theorem numbers_of_mergeNumbered {row : SymbolRow} {t t' : Option (List SymbolRow) × List Nat}
    (h : mergeNumbered t row = .ok t') :
    numbered 0 t.2 (t.1.getD []) <+: numbered 0 t'.2 (t'.1.getD [])
      ∧ (t'.1.getD []).length + t'.2.sum = (t.1.getD []).length + t.2.sum + 1 := by
  obtain ⟨table, skips⟩ := t
  obtain ⟨table', hmerge, rfl⟩ := map_ok.mp h
  obtain ⟨rows, rows', rfl, hrow, rfl⟩ := onTable_ok.mp hmerge
  unfold skipsBehind
  rcases mergeRow_cases hrow with ⟨hmem, rfl⟩ | ⟨hnew, rfl⟩
  · dsimp only
    rw [if_pos hmem, Option.getD_some, numbered_passOver, sum_passOver]
    exact ⟨List.prefix_refl _, rfl⟩
  · dsimp only
    rw [if_neg hnew, Option.getD_some, Option.getD_some, List.length_append, List.length_singleton]
    exact ⟨numbered_append 0 skips rows [row], by omega⟩

/-- Symbols use up as many numbers as there are of them. -/
theorem numbers_of_foldlM {offered : List SymbolRow} {t t' : Option (List SymbolRow) × List Nat}
    (h : offered.foldlM mergeNumbered t = .ok t') :
    numbered 0 t.2 (t.1.getD []) <+: numbered 0 t'.2 (t'.1.getD [])
      ∧ (t'.1.getD []).length + t'.2.sum = (t.1.getD []).length + t.2.sum + offered.length := by
  induction offered generalizing t with
  | nil =>
    cases h
    exact ⟨List.prefix_refl _, rfl⟩
  | cons row offered ih =>
    obtain ⟨m, hrow, hrest⟩ := foldlM_cons_ok.mp h
    obtain ⟨hkept, hused⟩ := numbers_of_mergeNumbered hrow
    obtain ⟨hkept', hused'⟩ := ih hrest
    refine ⟨hkept.trans hkept', ?_⟩
    rw [hused', hused, List.length_cons]
    omega

/-- Symbols keep their numbers in a merge. -/
theorem Merges.numbers_kept {site : Site} {db db' : Database} {records : List Record}
    (h : Merges site records db db') : db.numberedSymbols <+: db'.numberedSymbols :=
  (numbers_of_foldlM h.numbered).1

/-- Where no symbol is new all numbers are as they were. -/
theorem Merges.numbers_same {site : Site} {db db' : Database} {records : List Record}
    (h : Merges site records db db') (hsame : db'.symbols = db.symbols) :
    db'.numberedSymbols = db.numberedSymbols := by
  have hlength : db.numberedSymbols.length = db'.numberedSymbols.length := by
    unfold numberedSymbols
    rw [length_numbered, length_numbered, hsame]
  exact (h.numbers_kept.eq_of_length hlength).symm

/-- Four tables that are merged row by row are merged, and some numbers are passed over. -/
theorem exists_merges {site : Site} {db : Database} {records : List Record}
    {types : Option (List TypeRow)} {symbols : Option (List SymbolRow)}
    {lines : Option (List LineRow)} {comments : Option (List CommentRow)}
    (htypes : (records.filterMap Record.type?).foldlM mergeTypes db.dataTypes = .ok types)
    (hsymbols : (records.filterMap (Record.symbolRow? site)).foldlM mergeSymbols db.symbols
      = .ok symbols)
    (hlines : (records.filterMap (Record.lineRow? site)).foldlM mergeLines db.lineNumbers
      = .ok lines)
    (hcomments : (records.filterMap (Record.commentRow? site)).foldlM mergeComments db.comments
      = .ok comments) :
    ∃ skips, Merges site records db
      ((((db.withTypes types).withSymbols symbols).withLines lines).withComments
        comments |>.withSkips skips) := by
  rw [← map_fst_foldlM_mergeNumbered (db.symbols, db.symbolSkips)] at hsymbols
  obtain ⟨⟨symbols, skips⟩, hnumbered, rfl⟩ := map_ok.mp hsymbols
  exact ⟨skips, htypes, hnumbered, hlines, hcomments, rfl⟩

theorem merges_nil {site : Site} {db db' : Database} : Merges site [] db db' ↔ db' = db := by
  constructor
  · intro h
    obtain ⟨htypes, hsymbols, hlines, hcomments, hothers⟩ := h
    injection htypes with htypes
    injection hsymbols with hsymbols
    obtain ⟨hsymbols, hskips⟩ := Prod.mk.inj hsymbols
    injection hlines with hlines
    injection hcomments with hcomments
    rw [hothers, ← htypes, ← hsymbols, ← hskips, ← hlines, ← hcomments]
  · intro heq
    subst heq
    exact ⟨rfl, rfl, rfl, rfl, rfl⟩

/-- Merging two lists one after the other is merging them in one. -/
theorem merges_append {site : Site} {db db' : Database} {done rest : List Record} :
    Merges site (done ++ rest) db db' ↔ ∃ m, Merges site done db m ∧ Merges site rest m db' := by
  constructor
  · intro h
    obtain ⟨htypes, hsymbols, hlines, hcomments, hothers⟩ := h
    rw [List.filterMap_append] at htypes hsymbols hlines hcomments
    obtain ⟨types, htypes, htypes'⟩ := foldlM_append_ok.mp htypes
    obtain ⟨symbols, hsymbols, hsymbols'⟩ := foldlM_append_ok.mp hsymbols
    obtain ⟨lines, hlines, hlines'⟩ := foldlM_append_ok.mp hlines
    obtain ⟨comments, hcomments, hcomments'⟩ := foldlM_append_ok.mp hcomments
    exact ⟨(((db.withTypes types).withNumbered symbols).withLines lines).withComments comments,
      ⟨htypes, hsymbols, hlines, hcomments, rfl⟩,
      ⟨htypes', hsymbols', hlines', hcomments', hothers⟩⟩
  · intro h
    obtain ⟨m, h, h'⟩ := h
    refine ⟨?_, ?_, ?_, ?_, ?_⟩
    · rw [List.filterMap_append]
      exact foldlM_append_ok.mpr ⟨_, h.types, h'.types⟩
    · rw [List.filterMap_append]
      exact foldlM_append_ok.mpr ⟨_, h.numbered, h'.numbered⟩
    · rw [List.filterMap_append]
      exact foldlM_append_ok.mpr ⟨_, h.lines, h'.lines⟩
    · rw [List.filterMap_append]
      exact foldlM_append_ok.mpr ⟨_, h.comments, h'.comments⟩
    · rw [h'.others, h.others]

theorem filterMap_singleton {β : Type} (record : Record) (f : Record → Option β) :
    [record].filterMap f = (f record).toList := by
  cases hf : f record <;> simp [hf]

/-- Merging one record is four folds of at most one row. -/
theorem mergeRecord_iff {site : Site} {db db' : Database} {record : Record} :
    db.mergeRecord site record = .ok db' ↔ Merges site [record] db db' := by
  unfold mergeRecord
  constructor
  · intro h
    obtain ⟨types, htypes, h⟩ := bind_ok.mp h
    obtain ⟨symbols, hsymbols, h⟩ := bind_ok.mp h
    obtain ⟨lines, hlines, h⟩ := bind_ok.mp h
    obtain ⟨comments, hcomments, h⟩ := bind_ok.mp h
    cases h
    refine ⟨?_, ?_, ?_, ?_, rfl⟩
    · rw [filterMap_singleton]
      exact htypes
    · rw [filterMap_singleton]
      exact hsymbols
    · rw [filterMap_singleton]
      exact hlines
    · rw [filterMap_singleton]
      exact hcomments
  · intro h
    obtain ⟨htypes, hsymbols, hlines, hcomments, hothers⟩ := h
    rw [filterMap_singleton] at htypes hsymbols hlines hcomments
    refine bind_ok.mpr ⟨_, htypes, bind_ok.mpr ⟨_, hsymbols, bind_ok.mpr ⟨_, hlines,
      bind_ok.mpr ⟨_, hcomments, ?_⟩⟩⟩⟩
    exact congrArg Except.ok hothers.symm

/-- **A merge is four folds side by side**, one for each table. -/
theorem mergeAll_iff {site : Site} {db db' : Database} {records : List Record} :
    db.mergeAll site records = .ok db' ↔ Merges site records db db' := by
  induction records generalizing db with
  | nil =>
    rw [merges_nil]
    constructor
    · intro h
      cases h
      rfl
    · intro heq
      subst heq
      rfl
  | cons record records ih =>
    show (record :: records).foldlM (mergeRecord site) db = .ok db'
      ↔ Merges site ([record] ++ records) db db'
    rw [foldlM_cons_ok, merges_append]
    constructor
    · intro h
      obtain ⟨m, h, hrest⟩ := h
      exact ⟨m, mergeRecord_iff.mp h, ih.mp hrest⟩
    · intro h
      obtain ⟨m, h, hrest⟩ := h
      exact ⟨m, mergeRecord_iff.mpr h, ih.mpr hrest⟩

/-- A list of records is merged again without effect, and a merge that was broken off can
be run again as a whole: only numbers are passed over once more. -/
theorem merges_resume {site : Site} {db m db' : Database} {done rest : List Record}
    (hdone : Merges site done db m) (h : Merges site (done ++ rest) db db') :
    ∃ skips, Merges site (done ++ rest) m (db'.withSkips skips) := by
  have htypes := h.types
  have hsymbols := h.symbols
  have hlines := h.lines
  have hcomments := h.comments
  rw [List.filterMap_append] at htypes hsymbols hlines hcomments
  have hothers : ∀ skips, ((((m.withTypes db'.dataTypes).withSymbols db'.symbols).withLines
      db'.lineNumbers).withComments db'.comments).withSkips skips = db'.withSkips skips := by
    intro skips
    rw [h.others, hdone.others]
    rfl
  simp only [← hothers]
  refine exists_merges ?_ ?_ ?_ ?_
  · rw [List.filterMap_append]
    exact mergeType_absorbing.onTable.foldlM_resume hdone.types htypes
  · rw [List.filterMap_append]
    exact mergeRow_absorbing.onTable.foldlM_resume hdone.symbols hsymbols
  · rw [List.filterMap_append]
    exact mergeRow_absorbing.onTable.foldlM_resume hdone.lines hlines
  · rw [List.filterMap_append]
    exact mergeRow_absorbing.onTable.foldlM_resume hdone.comments hcomments

/-- Merging the records changes no table any more; known symbols pass numbers over. -/
def IsMerged (site : Site) (records : List Record) (db : Database) : Prop :=
  ∃ skips, Merges site records db (db.withSkips skips)

theorem isMerged_of_merges {site : Site} {db db' : Database} {records : List Record}
    (h : Merges site records db db') : IsMerged site records db' := by
  have hwhole : Merges site (records ++ []) db db' := by
    rw [List.append_nil]
    exact h
  have hagain := merges_resume h hwhole
  rw [List.append_nil] at hagain
  exact hagain

end Database

/-! ## §4. The walk and the whole merge. -/

/-- A checkpoint at which nobody has asked to stop stops nothing. -/
theorem Checkpoint.not_stops {checkpoint : Checkpoint} (hnever : ∀ n, checkpoint.isSet n = false)
    (seen : Nat) : checkpoint.stops seen = false := by
  unfold stops
  rw [hnever, Bool.and_false]

/-- The records of a file that may be merged, in their order. -/
def DebugInfo.allowed (restrictions : Restrictions) (info : DebugInfo) : List Record :=
  info.records.filter fun record => restrictions.allows record.kind

namespace Application

/-- A walk that is complete merged every record, one that was cut merged the first ones,
and one that failed did so for the reason why the merge of all of them fails. -/
def Walked (site : Site) (records : List Record) (db : Database) : Application × Ending → Prop
  | (a, .complete) => db.mergeAll site records = .ok a.db
  | (a, .cut) => ∃ done rest, records = done ++ rest ∧ db.mergeAll site done = .ok a.db
  | (_, .failed e) => db.mergeAll site records = .error e

/-- What holds behind a record that was merged holds from before it. -/
theorem walked_cons {site : Site} {record : Record} {records : List Record} {db m : Database}
    {r : Application × Ending} (hrecord : db.mergeRecord site record = .ok m)
    (h : Walked site records m r) : Walked site (record :: records) db r := by
  have hcons : ∀ rest, db.mergeAll site (record :: rest) = m.mergeAll site rest := by
    intro rest
    show (record :: rest).foldlM (Database.mergeRecord site) db = _
    rw [List.foldlM_cons, hrecord]
    rfl
  obtain ⟨a, ending⟩ := r
  cases ending with
  | complete => exact (hcons records).trans h
  | cut =>
    obtain ⟨done, rest, rfl, hdone⟩ := h
    exact ⟨record :: done, rest, rfl, (hcons done).trans hdone⟩
  | failed e => exact (hcons records).trans h

/-- **The walk merges the allowed records**, all of them unless it is cut. -/
theorem applyRecords_walked (site : Site) (restrictions : Restrictions) (checkpoint : Checkpoint)
    (a : Application) (records : List Record) :
    Walked site (records.filter fun record => restrictions.allows record.kind) a.db
      (applyRecords site restrictions checkpoint a records) := by
  induction records generalizing a with
  | nil => exact rfl
  | cons record records ih =>
    unfold applyRecords
    by_cases hallowed : restrictions.allows record.kind = true
    · rw [List.filter_cons, if_pos hallowed, if_pos hallowed]
      dsimp only
      split
      · exact ⟨[], _, rfl, rfl⟩
      · have hoffer := offer_db site a.tick record
        split
        · next e he =>
          rw [he] at hoffer
          show List.foldlM (Database.mergeRecord site) a.db (record :: _) = _
          rw [List.foldlM_cons]
          show (a.tick.db.mergeRecord site record).bind _ = _
          rw [← hoffer]
          rfl
        · next a' ha' =>
          rw [ha'] at hoffer
          exact walked_cons hoffer.symm (ih a')
    · rw [List.filter_cons, if_neg hallowed, if_neg hallowed]
      exact ih a.filter

/-- Offering a record neither stops a merge nor fails as if it had been stopped. -/
def Unstopped (a : Application) : Except LoadError Application → Prop
  | .ok a' => a'.applied.cancelled = a.applied.cancelled
  | .error e => e ≠ .cancelled

theorem offer_unstopped (site : Site) (a : Application) (record : Record) :
    Unstopped a (a.offer site record) := by
  unfold offer
  cases record with
  | dataType record =>
    dsimp only
    unfold offerType
    split
    · exact nofun
    · exact nofun
    · exact rfl
    · exact rfl
  | symbol record =>
    dsimp only
    unfold offerSymbol
    split
    · exact rfl
    · split
      · exact nofun
      · exact rfl
      · exact rfl
  | line record =>
    dsimp only
    unfold offerLine
    split
    · exact rfl
    · split
      · exact nofun
      · exact rfl
      · exact rfl
  | comment record =>
    dsimp only
    unfold offerComment
    split
    · exact rfl
    · split
      · exact nofun
      · exact rfl
      · exact rfl

/-- A walk stops nothing by itself; that it was cut is told by its ending. -/
def WalkedUnstopped (a : Application) (r : Application × Ending) : Prop :=
  r.1.applied.cancelled = a.applied.cancelled ∧ r.2 ≠ .failed .cancelled

theorem applyRecords_unstopped (site : Site) (restrictions : Restrictions)
    (checkpoint : Checkpoint) (a : Application) (records : List Record) :
    WalkedUnstopped a (applyRecords site restrictions checkpoint a records) := by
  induction records generalizing a with
  | nil => exact ⟨rfl, nofun⟩
  | cons record records ih =>
    unfold applyRecords
    split
    · dsimp only
      split
      · exact ⟨rfl, nofun⟩
      · have hoffer := offer_unstopped site a.tick record
        split
        · next e he =>
          rw [he] at hoffer
          refine ⟨rfl, ?_⟩
          intro heq
          injection heq with heq
          exact hoffer heq
        · next a' ha' =>
          rw [ha'] at hoffer
          obtain ⟨hcancelled, hending⟩ := ih a'
          exact ⟨hcancelled.trans hoffer, hending⟩
    · exact ih a.filter

/-- A walk that is never asked to stop is not cut. -/
theorem applyRecords_not_cut (site : Site) (restrictions : Restrictions) (checkpoint : Checkpoint)
    (hnever : ∀ n, checkpoint.isSet n = false) (a : Application) (records : List Record) :
    (applyRecords site restrictions checkpoint a records).2 ≠ .cut := by
  induction records generalizing a with
  | nil => exact nofun
  | cons record records ih =>
    unfold applyRecords
    split
    · dsimp only
      split
      · next hstops =>
        rw [Checkpoint.not_stops hnever] at hstops
        cases hstops
      · split
        · exact nofun
        · exact ih _
    · exact ih a.filter

/-- What a merge makes of a walk. -/
def resultOf : Application × Ending → Except LoadError (Database × Applied)
  | (a, .complete) => .ok (a.db, a.applied)
  | (a, .cut) => .ok (a.db, { a.applied with cancelled := true })
  | (_, .failed e) => .error e

end Application

section Apply

variable {options : ApplyOptions} {info : DebugInfo} {imageBase : UInt64} {isSet : Nat → Bool}
  {db db' : Database} {blocks : List MemoryBlock} {applied : Applied}

/-- Without the memory map nothing is merged. -/
theorem apply_no_blocks {e : StoreError} (hblocks : db.blocks = .error e) :
    (apply options info imageBase isSet db).result = .error (.store e) := by
  unfold apply
  rw [hblocks]

/-- A merge that succeeds had a memory map. -/
theorem blocks_of_apply (h : (apply options info imageBase isSet db).result = .ok (db', applied)) :
    ∃ blocks, db.blocks = .ok blocks := by
  cases hblocks : db.blocks with
  | error e =>
    rw [apply_no_blocks hblocks] at h
    cases h
  | ok blocks => exact ⟨blocks, rfl⟩

/-- A merge that succeeds and was not stopped is a complete walk. -/
theorem complete_of_apply (hblocks : db.blocks = .ok blocks)
    (h : (apply options info imageBase isSet db).result = .ok (db', applied))
    (hrunning : applied.cancelled = false) :
    ∃ a, applyRecords ⟨imageBase, blocks⟩ options.restrictions
        ⟨options.checkInterval.toNat, isSet⟩ (.start db) info.records = (a, .complete)
      ∧ a.db = db' ∧ a.applied = applied
      ∧ (apply options info imageBase isSet db).log = a.log := by
  unfold apply at h ⊢
  rw [hblocks] at h ⊢
  dsimp only at h ⊢
  split at h
  · next a hwalk =>
    cases h
    exact ⟨a, hwalk, rfl, rfl, rfl⟩
  · cases h
    cases hrunning
  · cases h

open Application in
/-- **A merge is a walk over the allowed records**, and all that holds of walks holds of it. -/
theorem apply_walked (hblocks : db.blocks = .ok blocks) :
    ∃ r, (apply options info imageBase isSet db).result = resultOf r
      ∧ Walked ⟨imageBase, blocks⟩ (info.allowed options.restrictions) db r
      ∧ WalkedUnstopped (.start db) r
      ∧ ((∀ n, isSet n = false) → r.2 ≠ .cut) := by
  refine ⟨applyRecords ⟨imageBase, blocks⟩ options.restrictions
    ⟨options.checkInterval.toNat, isSet⟩ (.start db) info.records, ?_, ?_, ?_, ?_⟩
  · unfold apply
    rw [hblocks]
    dsimp only
    obtain ⟨a, ending⟩ := applyRecords _ _ _ _ _
    cases ending <;> rfl
  · exact applyRecords_walked _ _ _ (.start db) info.records
  · exact applyRecords_unstopped _ _ _ (.start db) info.records
  · exact fun hnever => applyRecords_not_cut _ _ _ hnever (.start db) info.records

/-- **What a merge leaves behind**: all allowed records are merged, or it was stopped and the
first ones are. -/
theorem apply_ok (hblocks : db.blocks = .ok blocks)
    (h : (apply options info imageBase isSet db).result = .ok (db', applied)) :
    (applied.cancelled = false
        ∧ db.mergeAll ⟨imageBase, blocks⟩ (info.allowed options.restrictions) = .ok db')
      ∨ (applied.cancelled = true ∧ ∃ done rest, info.allowed options.restrictions = done ++ rest
        ∧ db.mergeAll ⟨imageBase, blocks⟩ done = .ok db') := by
  obtain ⟨⟨a, ending⟩, hresult, hwalked, ⟨hcancelled, -⟩, -⟩ := apply_walked hblocks
  rw [hresult] at h
  cases ending with
  | complete =>
    cases h
    exact .inl ⟨hcancelled, hwalked⟩
  | cut =>
    cases h
    exact .inr ⟨rfl, hwalked⟩
  | failed e => cases h

/-- A merge that is never asked to stop merges all allowed records, or it fails as merging
them fails. -/
theorem apply_never (hblocks : db.blocks = .ok blocks) (hnever : ∀ n, isSet n = false) :
    (apply options info imageBase isSet db).result.map (·.1)
      = db.mergeAll ⟨imageBase, blocks⟩ (info.allowed options.restrictions) := by
  obtain ⟨⟨a, ending⟩, hresult, hwalked, -, hnotcut⟩ := apply_walked hblocks
  rw [hresult]
  cases ending with
  | complete => exact hwalked.symm
  | cut => exact absurd rfl (hnotcut hnever)
  | failed e => exact hwalked.symm

/-- A merge that is never asked to stop does not count as stopped. -/
theorem apply_running (hblocks : db.blocks = .ok blocks) (hnever : ∀ n, isSet n = false)
    (h : (apply options info imageBase isSet db).result = .ok (db', applied)) :
    applied.cancelled = false := by
  obtain ⟨⟨a, ending⟩, hresult, -, ⟨hcancelled, -⟩, hnotcut⟩ := apply_walked hblocks
  rw [hresult] at h
  cases ending with
  | complete =>
    cases h
    exact hcancelled
  | cut => exact absurd rfl (hnotcut hnever)
  | failed e => cases h

/-- A merge does not fail as if it had been stopped. -/
theorem apply_ne_cancelled :
    (apply options info imageBase isSet db).result ≠ .error .cancelled := by
  intro h
  cases hblocks : db.blocks with
  | error e =>
    rw [apply_no_blocks hblocks] at h
    cases h
  | ok blocks =>
    obtain ⟨⟨a, ending⟩, hresult, -, ⟨-, hending⟩, -⟩ := apply_walked hblocks
    rw [hresult] at h
    cases ending with
    | complete => cases h
    | cut => cases h
    | failed e =>
      injection h with h
      exact hending (congrArg Ending.failed h)

end Apply

end DebugMerge
