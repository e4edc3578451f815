/-
  DebugMerge.Proofs.Reachable.Values
  ──────────────────────────────────
  **A database as the values that were written into it.**

  A database holds columns: words for kinds and scopes, texts for member lists,
  rows in the order in which they came.  What a caller writes and reads are
  values.  Values are kept in tables whose keys are distinct by construction,
  every write is told as an operation on them, and a database represents them
  if its columns are theirs.  A write to a database that represents values
  succeeds, and what it leaves represents the written values.

  A symbol has a number besides, under which it can be given a readable name.
  Every offer of a symbol uses one up, also the offer of a known one, so the
  numbers are not the places of the symbols in their table.

  Main definitions
    • `KeyedTable`, `NumberedSymbol`, `StoredValues` — the values
    • `StoreWrite`, `StoredValues.write`   — the writes of a transaction
    • `Database.Numbers`                   — the numbers of the symbols
    • `Database.Represents`                — the columns of the values
  Main statements
    • `Database.Numbers.rise`              — the numbers of symbols
    • `Database.Represents.upsertType`     — an offer and its verdict
    • `Database.Represents.write`, `.writeAll` — one write, and a transaction
-/
import DebugMerge.Proofs.Load.Merging
import DebugMerge.Proofs.Store.Contents
import Mathlib.Data.List.Nodup

namespace DebugMerge

/-! ## §1. Tables with keys. -/

/-- A table in which every key occurs once. -/
structure KeyedTable {α κ : Type} (key : α → κ) where
  rows : List α
  distinct : (rows.map key).Nodup

namespace KeyedTable

variable {α κ : Type} {key : α → κ}

/-- A table without rows. -/
def empty : KeyedTable key :=
  ⟨[], List.nodup_nil⟩

/-- The table with other rows of the same keys. -/
def revise (t : KeyedTable key) (rows : List α) (h : rows.map key = t.rows.map key) :
    KeyedTable key :=
  ⟨rows, h ▸ t.distinct⟩

/-- Two rows of one key are one row. -/
theorem eq_of_key_eq (t : KeyedTable key) {a b : α} (ha : a ∈ t.rows) (hb : b ∈ t.rows)
    (h : key a = key b) : a = b :=
  List.inj_on_of_nodup_map t.distinct ha hb h

variable [DecidableEq κ]

/-- The row of a key. -/
def find? (t : KeyedTable key) (k : κ) : Option α :=
  t.rows.find? fun row => key row = k

theorem mem_of_find? {t : KeyedTable key} {k : κ} {row : α} (h : t.find? k = some row) :
    row ∈ t.rows :=
  List.mem_of_find?_eq_some h

theorem key_of_find? {t : KeyedTable key} {k : κ} {row : α} (h : t.find? k = some row) :
    key row = k := by
  have hfound := List.find?_some (p := fun row => decide (key row = k)) h
  exact of_decide_eq_true hfound

theorem find?_eq_none_iff {t : KeyedTable key} {k : κ} :
    t.find? k = none ↔ k ∉ t.rows.map key := by
  unfold find?
  rw [List.find?_eq_none, List.mem_map]
  constructor
  · intro h hmem
    obtain ⟨row, hrow, hkey⟩ := hmem
    exact h row hrow (decide_eq_true hkey)
  · intro h row hrow hkey
    exact h ⟨row, hrow, of_decide_eq_true hkey⟩

/-- Add a row unless its key is taken. -/
def insert (t : KeyedTable key) (row : α) : KeyedTable key :=
  if h : key row ∈ t.rows.map key then t
  else ⟨t.rows ++ [row], by
    rw [← List.concat_eq_append, List.map_concat]
    exact t.distinct.concat h⟩

/-- Put a row behind all others; the row that had its key is gone. -/
def put (t : KeyedTable key) (row : α) : KeyedTable key :=
  ⟨(t.rows.filter fun other => key other ≠ key row) ++ [row], by
    have hothers := t.distinct.sublist
      (List.Sublist.map key (List.filter_sublist (p := fun other => key other ≠ key row)))
    rw [← List.concat_eq_append, List.map_concat]
    refine hothers.concat fun hmem => ?_
    obtain ⟨other, hother, heq⟩ := List.mem_map.mp hmem
    exact of_decide_eq_true (List.mem_filter.mp hother).2 heq⟩

/-- Put a row in the place of the one that has its key. -/
def replace (t : KeyedTable key) (row : α) : KeyedTable key :=
  t.revise (t.rows.map fun other => if key other = key row then row else other) <| by
    rw [List.map_map]
    refine List.map_congr_left fun other _ => ?_
    show key (if key other = key row then row else other) = key other
    split
    · next heq => exact heq.symm
    · rfl

theorem rows_insert (t : KeyedTable key) (row : α) :
    (t.insert row).rows = if key row ∈ t.rows.map key then t.rows else t.rows ++ [row] := by
  unfold insert
  split <;> rfl

/-- **A row is appended to a column as it is inserted among the values**, if the column has the
keys of the values. -/
theorem appendNew_map {β : Type} [BEq κ] [LawfulBEq κ] (key' : β → κ) (column : α → β)
    (hkey : ∀ a, key' (column a) = key a) (t : KeyedTable key) (row : α) :
    (Database.appendNew (fun other => key' other == key' (column row)) (column row)
      (t.rows.map column)).1 = (t.insert row).rows.map column := by
  have hkeys : (t.rows.map column).map key' = t.rows.map key := by
    rw [List.map_map]
    exact List.map_congr_left fun a _ => hkey a
  rw [rows_insert]
  have hmerge : mergeRow key' (t.rows.map column) (column row)
      = .ok (Database.appendNew (fun other => key' other == key' (column row)) (column row)
        (t.rows.map column)).1 := rfl
  -- the column and the values agree on whether the key is taken
  rcases mergeRow_cases hmerge with ⟨hmem, heq⟩ | ⟨hnew, heq⟩
  · rw [hkeys, hkey] at hmem
    rw [heq, if_pos hmem]
  · rw [hkeys, hkey] at hnew
    rw [heq, if_neg hnew, List.map_append, List.map_singleton]

end KeyedTable

/-! ## §2. Values. -/

/-- A symbol at an absolute address. -/
structure PlacedSymbol where
  address : UInt64
  name : String
  kind : SymbolKind
  scope : SymbolScope
  size : Option UInt64
  demangled : Option String
  deriving DecidableEq, Repr

namespace PlacedSymbol

/-- An address holds each name once. -/
def key (s : PlacedSymbol) : UInt64 × String :=
  (s.address, s.name)

/-- The row that stores a symbol. -/
def toRow (s : PlacedSymbol) : SymbolRow :=
  ⟨s.address, s.name, s.kind.word, s.scope.word, s.size, s.demangled⟩

/-- The symbol under a readable name. -/
def named (s : PlacedSymbol) (readable : String) : PlacedSymbol :=
  { s with demangled := some readable }

end PlacedSymbol

/-- A symbol with the number under which it was stored. -/
structure NumberedSymbol where
  number : Nat
  symbol : PlacedSymbol
  deriving DecidableEq, Repr

namespace NumberedSymbol

/-- An address holds each name once, whatever its number. -/
def key (s : NumberedSymbol) : UInt64 × String :=
  s.symbol.key

/-- The row that stores a symbol; its number is not a part of it. -/
def toRow (s : NumberedSymbol) : SymbolRow :=
  s.symbol.toRow

/-- The symbol under a readable name. -/
def named (s : NumberedSymbol) (readable : String) : NumberedSymbol :=
  { s with symbol := s.symbol.named readable }

end NumberedSymbol

/-- The symbol that a row stores. -/
def SymbolRow.placed (row : SymbolRow) : PlacedSymbol :=
  ⟨row.address, row.name, SymbolKind.ofStored row.kind, SymbolScope.ofStored row.scope, row.size,
    row.demangled⟩

/-- A stored symbol reads back: the words of its kind and of its scope stand for them. -/
@[simp] theorem PlacedSymbol.placed_toRow (s : PlacedSymbol) : s.toRow.placed = s := by
  unfold SymbolRow.placed toRow
  rw [SymbolKind.ofStored_word, SymbolScope.ofStored_word]

/-- The symbol of a record, placed. -/
def SymbolRecord.placedAt (record : SymbolRecord) (address : UInt64) : PlacedSymbol :=
  ⟨address, record.name, record.kind, record.scope, record.size, none⟩

/-- A category holds each name once. -/
def OptionRow.key (row : OptionRow) : String × String :=
  (row.category, row.name)

/-- Everything that was written into a database. -/
structure StoredValues where
  info : Option ProgramInfo
  blocks : List MemoryBlock
  options : KeyedTable OptionRow.key
  types : KeyedTable TypeRecord.name
  symbols : KeyedTable NumberedSymbol.key
  /-- The last number that the offer of a symbol used up. -/
  lastNumber : Nat
  comments : KeyedTable (id : CommentRow → CommentRow)
  lines : KeyedTable (id : LineRow → LineRow)
  runs : List LoadRun

/-- A write of a transaction. -/
inductive StoreWrite where
  | dataType (record : TypeRecord)
  | symbol (address : UInt64) (record : SymbolRecord)
  | line (address : UInt64) (file : String) (number : UInt32)
  | comment (address : UInt64) (text : String)
  /-- Give the symbol with the given number a readable name. -/
  | demangled (number : Int) (readable : String)
  deriving DecidableEq, Repr

namespace StoredValues

/-- Nothing was written. -/
def empty : StoredValues :=
  ⟨none, [], .empty, .empty, .empty, 0, .empty, .empty, []⟩

/-- Offer a data type: under a free name it is added, and under a taken one it meets the stored
definition, which it replaces if it completes it. -/
def offer (v : StoredValues) (record : TypeRecord) : StoredValues × TypeInsert :=
  match v.types.find? record.name with
  | none => ({ v with types := v.types.insert record }, .added)
  | some stored =>
      (if stored.merge record = .replaced then { v with types := v.types.replace record } else v,
        stored.merge record)

/-- The symbols with a readable name for the one with the given number. -/
def nameAt (number : Int) (readable : String) (symbols : List NumberedSymbol) :
    List NumberedSymbol :=
  symbols.map fun s => if ↑s.number = number then s.named readable else s

/-- What naming a symbol does not touch stays: its key, and its number. -/
theorem map_nameAt {β : Type} (f : NumberedSymbol → β)
    (hf : ∀ s readable, f (s.named readable) = f s) (number : Int) (readable : String)
    (symbols : List NumberedSymbol) :
    (nameAt number readable symbols).map f = symbols.map f := by
  unfold nameAt
  rw [List.map_map]
  refine List.map_congr_left fun s _ => ?_
  show f (if ↑s.number = number then s.named readable else s) = f s
  split
  · exact hf s readable
  · rfl

/-- The table of symbols with a readable name for one of them. -/
def withName (number : Int) (readable : String) (symbols : KeyedTable NumberedSymbol.key) :
    KeyedTable NumberedSymbol.key :=
  symbols.revise (nameAt number readable symbols.rows)
    (map_nameAt NumberedSymbol.key (fun _ _ => rfl) number readable symbols.rows)

/-- The values after a write. -/
def write (v : StoredValues) : StoreWrite → StoredValues
  | .dataType record => (v.offer record).1
  | .symbol address record =>
      { v with
        symbols := v.symbols.insert ⟨v.lastNumber + 1, record.placedAt address⟩
        lastNumber := v.lastNumber + 1 }
  | .line address file number => { v with lines := v.lines.insert ⟨address, file, number⟩ }
  | .comment address text => { v with comments := v.comments.insert ⟨address, text⟩ }
  | .demangled number readable => { v with symbols := withName number readable v.symbols }

/-- The values after the writes of a transaction. -/
def writeAll (v : StoredValues) (writes : List StoreWrite) : StoredValues :=
  writes.foldl write v

end StoredValues

/-! ## §3. Columns. -/

/-- The write on a database. -/
def StoreWrite.on (db : Database) : StoreWrite → Except StoreError Database
  | dataType record => (db.upsertType record).map (·.1)
  | symbol address record => (db.addSymbol address record).map (·.1)
  | line address file number => (db.addLine address file number).map (·.1)
  | comment address text => (db.addComment address text).map (·.1)
  | demangled number readable => db.setDemangled number readable

namespace Database

/-- The writes of a transaction, one after the other. -/
def writeAll (db : Database) (writes : List StoreWrite) : Except StoreError Database :=
  writes.foldlM StoreWrite.on db

/-- How the numbers of symbols come about: each one is behind the last one and behind those that
were passed over in front of it, and some were passed over behind the end. -/
inductive Numbers : Nat → List Nat → List NumberedSymbol → Nat → Prop
  | nil {last : Nat} {skips : List Nat} (h : skips.tail = []) :
      Numbers last skips [] (last + skips.headD 0)
  | cons {last final : Nat} {skips : List Nat} {s : NumberedSymbol} {rest : List NumberedSymbol}
      (hnumber : s.number = last + skips.headD 0 + 1)
      (hrest : Numbers s.number skips.tail rest final) : Numbers last skips (s :: rest) final

/-- **The columns of the values.**  Every table is there, and its rows are the values in the order
in which they were written. -/
structure Represents (db : Database) (v : StoredValues) : Prop where
  info : db.programInfo = some (v.info.map ProgramInfo.toRow)
  blocks : db.memoryBlocks = some v.blocks
  options : db.options = some v.options.rows
  types : db.dataTypes = some (v.types.rows.map TypeRecord.toRow)
  symbols : db.symbols = some (v.symbols.rows.map NumberedSymbol.toRow)
  numbers : Numbers 0 db.symbolSkips v.symbols.rows v.lastNumber
  comments : db.comments = some v.comments.rows
  lines : db.lineNumbers = some v.lines.rows
  runs : db.loadRuns = some (v.runs.map LoadRun.toRow)

/-- A new database represents nothing. -/
theorem represents_fresh : fresh.Represents .empty :=
  ⟨rfl, rfl, rfl, rfl, rfl, .nil rfl, rfl, rfl, rfl⟩

/-! ## §4. Numbers. -/

namespace Numbers

variable {last final : Nat} {skips : List Nat} {symbols symbols' : List NumberedSymbol}

/-- A number is passed over behind the last symbol. -/
theorem passOver (h : Numbers last skips symbols final) :
    Numbers last (Database.passOver symbols.length skips) symbols (final + 1) := by
  -- by induction on the symbols: in front of each of them nothing more is passed over
  induction h with
  | @nil last skips h =>
    have hone : last + (Database.passOver 0 skips).headD 0 = last + skips.headD 0 + 1 := by
      cases skips <;> rfl
    refine hone ▸ .nil ?_
    cases skips with
    | nil => rfl
    | cons skipped rest => exact h
  | @cons last final skips s rest hnumber _ ih =>
    refine .cons ?_ ?_
    · rw [List.length_cons, headD_passOver_succ]
      exact hnumber
    · rw [List.length_cons, tail_passOver_succ]
      exact ih

/-- The next number goes to a new symbol. -/
theorem concat (h : Numbers last skips symbols final) {s : NumberedSymbol}
    (hnumber : s.number = final + 1) : Numbers last skips (symbols ++ [s]) (final + 1) := by
  induction h with
  | @nil last skips h =>
    refine .cons hnumber ?_
    have hend : Numbers s.number skips.tail [] (s.number + skips.tail.headD 0) :=
      .nil (by rw [h]; rfl)
    rw [h, hnumber] at hend
    rw [h, hnumber]
    exact hend
  | cons hfirst _ ih => exact .cons hfirst (ih hnumber)

/-- Numbers are all that matters. -/
theorem congr (h : Numbers last skips symbols final)
    (hsame : symbols'.map NumberedSymbol.number = symbols.map NumberedSymbol.number) :
    Numbers last skips symbols' final := by
  induction h generalizing symbols' with
  | nil h =>
    rw [List.map_eq_nil_iff.mp hsame]
    exact .nil h
  | cons hnumber _ ih =>
    obtain ⟨s', rest', rfl, hfirst, hrest⟩ := List.map_eq_cons_iff.mp hsame
    refine .cons (hfirst.trans hnumber) ?_
    rw [hfirst]
    exact ih hrest

/-- The database gives the symbols their numbers. -/
theorem numbered_eq (h : Numbers last skips symbols final) :
    numbered last skips (symbols.map NumberedSymbol.toRow)
      = symbols.map fun s => (s.number, s.toRow) := by
  induction h with
  | nil _ => rfl
  | @cons last final skips s rest hnumber _ ih =>
    rw [List.map_cons, List.map_cons, ← ih, hnumber]
    rfl

/-- **Numbers rise** from symbol to symbol, up to the last one that was used up. -/
theorem rise (h : Numbers last skips symbols final) :
    last ≤ final ∧ (symbols.map NumberedSymbol.number).Pairwise (· < ·)
      ∧ ∀ s ∈ symbols, last < s.number ∧ s.number ≤ final := by
  induction h with
  | nil _ => exact ⟨Nat.le_add_right .., .nil, nofun⟩
  | @cons last final skips s rest hnumber _ ih =>
    obtain ⟨hle, hpairwise, hbounds⟩ := ih
    have hlast : last < s.number := by omega
    refine ⟨by omega, ?_, ?_⟩
    · rw [List.map_cons, List.pairwise_cons]
      refine ⟨fun number hmem => ?_, hpairwise⟩
      obtain ⟨other, hother, rfl⟩ := List.mem_map.mp hmem
      exact (hbounds other hother).1
    · intro other hother
      rcases List.mem_cons.mp hother with rfl | hrest
      · exact ⟨hlast, hle⟩
      · exact ⟨Nat.lt_trans hlast (hbounds other hrest).1, (hbounds other hrest).2⟩

end Numbers

namespace Represents

variable {db : Database} {v : StoredValues}

/-! ## §5. Attributes and options. -/

theorem recordProgram (h : db.Represents v) (info : ProgramInfo) (blocks : List MemoryBlock) :
    ∃ db', db.recordProgram info blocks = .ok db'
      ∧ db'.Represents { v with info := some info, blocks } := by
  refine ⟨{ db with programInfo := some (some info.toRow), memoryBlocks := some blocks }, ?_,
    ⟨rfl, rfl, h.options, h.types, h.symbols, h.numbers, h.comments, h.lines, h.runs⟩⟩
  unfold Database.recordProgram
  rw [h.info, h.blocks]
  rfl

theorem setOption (h : db.Represents v) (category name value : String) :
    ∃ db', db.setOption category name value = .ok db'
      ∧ db'.Represents { v with options := v.options.put ⟨category, name, value⟩ } := by
  refine ⟨{ db with options := some (v.options.put ⟨category, name, value⟩).rows }, ?_,
    ⟨h.info, h.blocks, rfl, h.types, h.symbols, h.numbers, h.comments, h.lines, h.runs⟩⟩
  -- an option that was set before is gone, and stands behind all others now
  have hothers : (v.options.rows.filter fun row => ¬ (row.category = category ∧ row.name = name))
      = v.options.rows.filter fun row => OptionRow.key row ≠ (category, name) := by
    refine List.filter_congr fun row _ => decide_eq_decide.mpr (not_congr ?_)
    unfold OptionRow.key
    rw [Prod.mk.injEq]
  unfold Database.setOption
  rw [h.options]
  show Except.ok { db with options := some (_ ++ _) } = _
  rw [hothers]
  rfl

/-! ## §6. The writes of a transaction. -/

/-- The columns find what the values hold. -/
theorem at?_map_toRow (name : String) (types : KeyedTable TypeRecord.name) :
    TypeRow.at? name (types.rows.map TypeRecord.toRow)
      = (types.find? name).map TypeRecord.toRow :=
  List.find?_map ..

/-- A row is completed as its definition is replaced, if no other row has its name and the two
definitions have one kind. -/
theorem completeAll_map_toRow {types : KeyedTable TypeRecord.name} {stored record : TypeRecord}
    (hstored : stored ∈ types.rows) (hname : stored.name = record.name)
    (hkind : stored.kind = record.kind) :
    TypeRow.completeAll record (types.rows.map TypeRecord.toRow)
      = (types.replace record).rows.map TypeRecord.toRow := by
  unfold TypeRow.completeAll KeyedTable.replace KeyedTable.revise
  dsimp only
  rw [List.map_map, List.map_map]
  refine List.map_congr_left fun other hother => ?_
  show (if other.name = record.name then other.toRow.complete record else other.toRow)
    = (if other.name = record.name then record else other).toRow
  by_cases hsame : other.name = record.name
  · -- names are distinct, so this is the stored definition
    have heq : other = stored := types.eq_of_key_eq hother hstored (hsame.trans hname.symm)
    rw [if_pos hsame, if_pos hsame, TypeRow.complete_toRow hsame (heq ▸ hkind)]
  · rw [if_neg hsame, if_neg hsame]

/-- **An offer and its verdict**: a database and the values that it represents agree on both. -/
theorem upsertType (h : db.Represents v) (record : TypeRecord) :
    ∃ db', db.upsertType record = .ok (db', (v.offer record).2)
      ∧ db'.Represents (v.offer record).1 := by
  have hfind := at?_map_toRow record.name v.types
  unfold StoredValues.offer
  cases hstored : v.types.find? record.name with
  | none =>
    rw [hstored] at hfind
    refine ⟨_, upsertType_of_free h.types hfind, ?_⟩
    have hfree := KeyedTable.find?_eq_none_iff.mp hstored
    refine ⟨h.info, h.blocks, h.options, ?_, h.symbols, h.numbers, h.comments, h.lines, h.runs⟩
    dsimp only
    rw [KeyedTable.rows_insert, if_neg hfree, List.map_append, List.map_singleton]
  | some stored =>
    rw [hstored] at hfind
    refine ⟨_, upsertType_of_taken h.types hfind stored.toRecord_toRow, ?_⟩
    dsimp only
    have hname := KeyedTable.key_of_find? hstored
    by_cases hreplaced : stored.merge record = .replaced
    · rw [if_pos hreplaced, if_pos hreplaced]
      -- only a definition of the same kind is completed
      have hkind : stored.kind = record.kind := by
        rcases TypeRecord.merge_cases stored record hname with hc | hc | hc
        · exact (TypeRecord.kind_eq_of_le hc.1).symm
        · exact TypeRecord.kind_eq_of_le hc.1
        · rw [hc.2.2] at hreplaced
          cases hreplaced
      refine ⟨h.info, h.blocks, h.options, ?_, h.symbols, h.numbers, h.comments, h.lines, h.runs⟩
      exact congrArg some (completeAll_map_toRow (KeyedTable.mem_of_find? hstored) hname hkind)
    · rw [if_neg hreplaced, if_neg hreplaced]
      exact h

/-- A row that is added to a column is inserted among its values. -/
theorem addRow_map {α β κ : Type} [DecidableEq κ] [BEq κ] [LawfulBEq κ] {key : α → κ}
    (key' : β → κ) (column : α → β) (hkey : ∀ a, key' (column a) = key a) (table : Table)
    (withRows : Option (List β) → Database) (t : KeyedTable key) (row : α) :
    (addRow key' table (some (t.rows.map column)) withRows (column row)).map (·.1)
      = .ok (withRows (some ((t.insert row).rows.map column))) := by
  rw [← KeyedTable.appendNew_map key' column hkey]
  rfl

/-- **A symbol that is offered**: it is inserted unless its key is taken, and in both cases a number
is used up. -/
theorem addSymbol (h : db.Represents v) (address : UInt64) (record : SymbolRecord) :
    ∃ db', (StoreWrite.symbol address record).on db = .ok db'
      ∧ db'.Represents (v.write (.symbol address record)) := by
  have hkeys : (v.symbols.rows.map NumberedSymbol.toRow).map SymbolRow.key
      = v.symbols.rows.map NumberedSymbol.key := by
    rw [List.map_map]
    rfl
  have hkey : (record.rowAt address).key
      = NumberedSymbol.key ⟨v.lastNumber + 1, record.placedAt address⟩ := rfl
  rcases addSymbol_cases h.symbols address record with ⟨hmem, hadd⟩ | ⟨hnew, hadd⟩
  · -- a known symbol: its table stays, and a number is passed over behind the end
    rw [hkeys, hkey] at hmem
    have hsame : (v.symbols.insert ⟨v.lastNumber + 1, record.placedAt address⟩).rows
        = v.symbols.rows := by
      rw [KeyedTable.rows_insert, if_pos hmem]
    refine ⟨_, map_ok.mpr ⟨_, hadd, rfl⟩, ⟨h.info, h.blocks, h.options, h.types, ?_, ?_,
      h.comments, h.lines, h.runs⟩⟩
    · show db.symbols = some ((v.symbols.insert _).rows.map NumberedSymbol.toRow)
      rw [hsame]
      exact h.symbols
    · show Numbers 0 (passOver _ db.symbolSkips) (v.symbols.insert _).rows (v.lastNumber + 1)
      rw [hsame, List.length_map]
      exact h.numbers.passOver
  · rw [hkeys, hkey] at hnew
    have hmore : (v.symbols.insert ⟨v.lastNumber + 1, record.placedAt address⟩).rows
        = v.symbols.rows ++ [⟨v.lastNumber + 1, record.placedAt address⟩] := by
      rw [KeyedTable.rows_insert, if_neg hnew]
    refine ⟨_, map_ok.mpr ⟨_, hadd, rfl⟩, ⟨h.info, h.blocks, h.options, h.types, ?_, ?_,
      h.comments, h.lines, h.runs⟩⟩
    · show _ = some ((v.symbols.insert _).rows.map NumberedSymbol.toRow)
      rw [hmore, List.map_append]
      rfl
    · show Numbers 0 db.symbolSkips (v.symbols.insert _).rows (v.lastNumber + 1)
      rw [hmore]
      exact h.numbers.concat rfl

/-- **A symbol that is named**: the one with the given number, if there is one. -/
theorem setDemangled (h : db.Represents v) (number : Int) (readable : String) :
    ∃ db', (StoreWrite.demangled number readable).on db = .ok db'
      ∧ db'.Represents (v.write (.demangled number readable)) := by
  refine ⟨db.withSymbols (some ((StoredValues.nameAt number readable v.symbols.rows).map
    NumberedSymbol.toRow)), ?_, ⟨h.info, h.blocks, h.options, h.types, rfl, ?_, h.comments,
    h.lines, h.runs⟩⟩
  · have hrows : rowsOf .symbols db.symbols
        = .ok (v.symbols.rows.map NumberedSymbol.toRow) := by
      rw [h.symbols]
      rfl
    show Database.setDemangled db number readable = _
    unfold Database.setDemangled
    rw [hrows]
    refine congrArg (fun rows => Except.ok (db.withSymbols (some rows))) ?_
    show (numbered 0 db.symbolSkips _).map _ = _
    rw [h.numbers.numbered_eq, List.map_map]
    unfold StoredValues.nameAt
    rw [List.map_map]
    refine List.map_congr_left fun s _ => ?_
    show (if ↑s.number = number then _ else _) = NumberedSymbol.toRow (if _ then _ else _)
    split <;> rfl
  · exact h.numbers.congr (StoredValues.map_nameAt NumberedSymbol.number (fun _ _ => rfl) number
      readable v.symbols.rows)

/-- **One write**: it succeeds, and what it leaves represents the written values. -/
theorem write (h : db.Represents v) (w : StoreWrite) :
    ∃ db', w.on db = .ok db' ∧ db'.Represents (v.write w) := by
  cases w with
  | dataType record =>
    obtain ⟨db', hoffer, h'⟩ := h.upsertType record
    exact ⟨db', map_ok.mpr ⟨_, hoffer, rfl⟩, h'⟩
  | symbol address record => exact h.addSymbol address record
  | line address file number =>
    have hadded := addRow_map id id (fun _ => rfl) .lineNumbers db.withLines v.lines
      ⟨address, file, number⟩
    rw [List.map_id, List.map_id, ← h.lines] at hadded
    exact ⟨_, hadded, ⟨h.info, h.blocks, h.options, h.types, h.symbols, h.numbers, h.comments, rfl,
      h.runs⟩⟩
  | comment address text =>
    have hadded := addRow_map id id (fun _ => rfl) .comments db.withComments v.comments
      ⟨address, text⟩
    rw [List.map_id, List.map_id, ← h.comments] at hadded
    exact ⟨_, hadded, ⟨h.info, h.blocks, h.options, h.types, h.symbols, h.numbers, rfl, h.lines,
      h.runs⟩⟩
  | demangled number readable => exact h.setDemangled number readable

/-- **A transaction**: every write of it succeeds, whatever it writes. -/
theorem writeAll (h : db.Represents v) (writes : List StoreWrite) :
    ∃ db', db.writeAll writes = .ok db' ∧ db'.Represents (v.writeAll writes) := by
  -- by induction on the writes: each one meets what the ones before it left
  induction writes generalizing db v with
  | nil => exact ⟨db, rfl, h⟩
  | cons w writes ih =>
    obtain ⟨m, hfirst, hm⟩ := h.write w
    obtain ⟨db', hrest, h'⟩ := ih hm
    exact ⟨db', foldlM_cons_ok.mpr ⟨m, hfirst, hrest⟩, h'⟩

end Represents

end Database

end DebugMerge
