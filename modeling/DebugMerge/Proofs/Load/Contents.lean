/-
  DebugMerge.Proofs.Load.Contents
  ───────────────────────────────
  **The exact effect of a merge.**

  A merge that nobody stops keeps every row.  It adds the symbols, lines and
  comments that land in memory, each once, it leaves the most complete of the
  known definitions under every name that was offered, it uses up a number for
  every symbol that lands in memory, and it changes nothing else.  It ends in a
  conflict exactly if two of the definitions that it gets to see disagree.

  Main statements
    • `place_eq_some_iff`    — where an offset lands
    • `Database.Gains`       — what a merge adds to a database
    • `apply_effect`         — the effect of a merge, and when it conflicts
-/
import DebugMerge.Proofs.Load.Confluence
import DebugMerge.Proofs.Load.Coverage
import DebugMerge.Proofs.Store.Contents

namespace DebugMerge

/-! ## §1. Where an offset lands. -/

/-- The offset lands on the address: their sum with the image base stays in the address space,
and some block holds it. -/
def Site.Lands (site : Site) (rva address : UInt64) : Prop :=
  site.imageBase.toNat + rva.toNat = address.toNat
    ∧ ∃ block ∈ site.blocks, block.start.toNat ≤ address.toNat ∧ address.toNat < block.stop.toNat

theorem addChecked_eq_some_iff {a b sum : UInt64} :
    addChecked a b = some sum ↔ a.toNat + b.toNat = sum.toNat := by
  have hadd : (a + b).toNat = (a.toNat + b.toNat) % 2 ^ 64 := UInt64.toNat_add a b
  have hlimit : Text.limit64 = 2 ^ 64 := rfl
  unfold addChecked
  constructor
  · intro h
    split at h
    · next hfits =>
      cases h
      rw [hlimit] at hfits
      rw [hadd, Nat.mod_eq_of_lt hfits]
    · cases h
  · intro h
    have hfits : a.toNat + b.toNat < 2 ^ 64 := h ▸ sum.toNat_lt
    rw [Nat.mod_eq_of_lt hfits] at hadd
    rw [hlimit, if_pos hfits]
    exact congrArg some (UInt64.toNat_inj.mp (hadd.trans h))

/-- **Where an offset lands.** -/
theorem place_eq_some_iff (site : Site) (rva address : UInt64) :
    place site.imageBase rva site.blocks = some address ↔ site.Lands rva address := by
  have hany : (site.blocks.any (·.contains address)) = true
      ↔ ∃ block ∈ site.blocks,
        block.start.toNat ≤ address.toNat ∧ address.toNat < block.stop.toNat := by
    rw [List.any_eq_true]
    exact exists_congr fun block => and_congr_right fun _ => MemoryBlock.contains_iff
  unfold place Site.Lands
  -- the sum is computed once, and the blocks are asked about it
  rw [← hany, ← addChecked_eq_some_iff]
  cases addChecked site.imageBase rva with
  | none =>
    constructor
    · intro h
      cases h
    · intro h
      cases h.1
  | some sum =>
    show (if site.blocks.any (·.contains sum) then some sum else none) = some address ↔ _
    constructor
    · intro h
      split at h
      · next hin =>
        cases h
        exact ⟨rfl, hin⟩
      · cases h
    · intro h
      obtain ⟨heq, hin⟩ := h
      cases heq
      rw [if_pos hin]

/-- A record becomes the row at the address that it lands on. -/
theorem rowAt?_eq_some_iff {α : Type} {site : Site} {rva : UInt64} {rowAt : UInt64 → α}
    (address : α → UInt64) (haddress : ∀ a, address (rowAt a) = a) {row : α} :
    site.rowAt? rva rowAt = some row
      ↔ site.Lands rva (address row) ∧ row = rowAt (address row) := by
  unfold Site.rowAt?
  rw [Option.map_eq_some_iff]
  constructor
  · intro h
    obtain ⟨a, hplace, rfl⟩ := h
    rw [haddress]
    exact ⟨(place_eq_some_iff site rva a).mp hplace, rfl⟩
  · intro h
    exact ⟨address row, (place_eq_some_iff site rva _).mpr h.1, h.2.symm⟩

/-! ## §2. The allowed records, category by category. -/

/-- What an allowed record becomes; a record that is not allowed becomes nothing. -/
def Restrictions.admit {α : Type} (restrictions : Restrictions) (f : Record → Option α)
    (record : Record) : Option α :=
  if restrictions.allows record.kind then f record else .none

section Categories

variable {α : Type} {restrictions : Restrictions} {f : Record → Option α} {info : DebugInfo}

theorem filterMap_allowed :
    (info.allowed restrictions).filterMap f
      = info.types.filterMap (fun x => restrictions.admit f (.dataType x))
        ++ info.symbols.filterMap (fun x => restrictions.admit f (.symbol x))
        ++ info.lines.filterMap (fun x => restrictions.admit f (.line x))
        ++ info.comments.filterMap (fun x => restrictions.admit f (.comment x)) := by
  unfold DebugInfo.allowed DebugInfo.records
  rw [List.filterMap_filter, List.filterMap_append, List.filterMap_append, List.filterMap_append,
    List.filterMap_map, List.filterMap_map, List.filterMap_map, List.filterMap_map]
  rfl

/-- A category that becomes nothing leaves nothing. -/
theorem filterMap_admit_eq_nil {β : Type} {xs : List β} (toRecord : β → Record)
    (h : ∀ x, f (toRecord x) = none) :
    xs.filterMap (fun x => restrictions.admit f (toRecord x)) = [] := by
  rw [List.filterMap_eq_nil_iff]
  intro x _
  unfold Restrictions.admit
  rw [h, ite_self]

theorem admit_eq_some_iff {record : Record} {row : α} :
    restrictions.admit f record = some row
      ↔ restrictions.allows record.kind = true ∧ f record = some row := by
  unfold Restrictions.admit
  split
  · next hallowed => exact ⟨fun h => ⟨hallowed, h⟩, fun h => h.2⟩
  · next hallowed => exact ⟨fun h => (nomatch h), fun h => absurd h.1 hallowed⟩

variable {site : Site}

theorem filterMap_symbolRow? :
    (info.allowed restrictions).filterMap (Record.symbolRow? site)
      = info.symbols.filterMap fun x =>
          restrictions.admit (Record.symbolRow? site) (.symbol x) := by
  rw [filterMap_allowed, filterMap_admit_eq_nil .dataType fun _ => rfl,
    filterMap_admit_eq_nil .line fun _ => rfl,
    filterMap_admit_eq_nil .comment fun _ => rfl]
  simp only [List.nil_append, List.append_nil]

theorem filterMap_lineRow? :
    (info.allowed restrictions).filterMap (Record.lineRow? site)
      = info.lines.filterMap fun x => restrictions.admit (Record.lineRow? site) (.line x) := by
  rw [filterMap_allowed, filterMap_admit_eq_nil .dataType fun _ => rfl,
    filterMap_admit_eq_nil .symbol fun _ => rfl,
    filterMap_admit_eq_nil .comment fun _ => rfl]
  simp only [List.nil_append, List.append_nil]

theorem filterMap_commentRow? :
    (info.allowed restrictions).filterMap (Record.commentRow? site)
      = info.comments.filterMap fun x =>
          restrictions.admit (Record.commentRow? site) (.comment x) := by
  rw [filterMap_allowed, filterMap_admit_eq_nil .dataType fun _ => rfl,
    filterMap_admit_eq_nil .symbol fun _ => rfl,
    filterMap_admit_eq_nil .line fun _ => rfl]
  simp only [List.nil_append, List.append_nil]

end Categories

/-! ## §3. What each table gains. -/

/-- The symbol may be merged, and it lands on the address. -/
def SymbolRecord.LandsAt (site : Site) (restrictions : Restrictions) (record : SymbolRecord)
    (address : UInt64) : Prop :=
  restrictions.allows record.scope.recordKind = true ∧ site.Lands record.rva address

/-- The table of symbols keeps its rows and gains one for each address and name that it did
not have: that of the first symbol of the name that lands there. -/
def SymbolsGained (site : Site) (restrictions : Restrictions) (symbols : List SymbolRecord)
    (rows rows' : Option (List SymbolRow)) : Prop :=
  ∃ fresh, rows' = rows.map (· ++ fresh) ∧ (fresh.map SymbolRow.key).Nodup
    ∧ ∀ row, row ∈ fresh ↔ row.key ∉ (rows.getD []).map SymbolRow.key
        ∧ ∃ before record after, symbols = before ++ record :: after
          ∧ record.LandsAt site restrictions row.address ∧ row = record.rowAt row.address
          ∧ ∀ earlier ∈ before, earlier.LandsAt site restrictions row.address →
              earlier.name ≠ record.name

/-- The table keeps its rows and gains those of the given rows that it did not have. -/
def RowsGained {α : Type} (given : α → Prop) (rows rows' : Option (List α)) : Prop :=
  ∃ fresh, rows' = rows.map (· ++ fresh) ∧ fresh.Nodup
    ∧ ∀ row, row ∈ fresh ↔ row ∉ rows.getD [] ∧ given row

/-- The table of data types ends with the most complete of the known definitions under each
name that was offered; names that it did not have come behind the others, and rows of names
that were not offered are as they were. -/
structure TypesGained (types : List TypeRecord) (rows rows' : List TypeRow) : Prop where
  stored : ∀ record ∈ types, ∃ top, TypeRow.Stores rows' top
    ∧ TypeRecord.IsMostComplete (TypeRecord.Known rows types record.name) top
  names : ∃ fresh, rows'.map (·.name) = rows.map (·.name) ++ fresh ∧ fresh.Nodup
    ∧ ∀ name, name ∈ fresh ↔ name ∈ types.map (·.name) ∧ name ∉ rows.map (·.name)
  others : rowsBut (types.map (·.name)) rows' = rowsBut (types.map (·.name)) rows

/-- Symbols keep their numbers, and every symbol that may be merged and lands in memory uses one
up, whether it is new or known. -/
structure NumbersGained (site : Site) (restrictions : Restrictions) (symbols : List SymbolRecord)
    (db db' : Database) : Prop where
  kept : db.numberedSymbols <+: db'.numberedSymbols
  used : db'.usedNumbers = db.usedNumbers + symbols.countP fun record =>
    restrictions.allows record.scope.recordKind
      && (place site.imageBase record.rva site.blocks).isSome

/-- What merging a file adds to a database. -/
structure Database.Gains (site : Site) (restrictions : Restrictions) (info : DebugInfo)
    (db db' : Database) : Prop where
  types : Option.Rel (TypesGained (info.allowedTypes restrictions)) db.dataTypes db'.dataTypes
  symbols : SymbolsGained site restrictions info.symbols db.symbols db'.symbols
  lines : RowsGained
    (fun row => restrictions.lineNumbers = true
      ∧ ∃ record ∈ info.lines, site.Lands record.rva row.address ∧ row = record.rowAt row.address)
    db.lineNumbers db'.lineNumbers
  comments : RowsGained
    (fun row => restrictions.comments = true
      ∧ ∃ record ∈ info.comments, site.Lands record.rva row.address
        ∧ row = record.rowAt row.address)
    db.comments db'.comments
  numbers : NumbersGained site restrictions info.symbols db db'
  others : db' = { db with
    dataTypes := db'.dataTypes
    symbols := db'.symbols
    symbolSkips := db'.symbolSkips
    lineNumbers := db'.lineNumbers
    comments := db'.comments }

section Tables

variable {site : Site} {restrictions : Restrictions}

/-- A symbol becomes a row where it lands. -/
theorem admit_symbol_iff {record : SymbolRecord} {row : SymbolRow} :
    restrictions.admit (Record.symbolRow? site) (.symbol record) = some row
      ↔ record.LandsAt site restrictions row.address ∧ row = record.rowAt row.address := by
  rw [admit_eq_some_iff, SymbolRecord.LandsAt, and_assoc]
  exact and_congr_right fun _ => rowAt?_eq_some_iff SymbolRow.address fun _ => rfl

/-- The first row of a key is that of the first symbol of its name that lands there. -/
theorem isFirst_symbols {symbols : List SymbolRecord} {row : SymbolRow} :
    IsFirst SymbolRow.key (symbols.filterMap fun x =>
        restrictions.admit (Record.symbolRow? site) (.symbol x)) row
      ↔ ∃ before record after, symbols = before ++ record :: after
          ∧ record.LandsAt site restrictions row.address ∧ row = record.rowAt row.address
          ∧ ∀ earlier ∈ before, earlier.LandsAt site restrictions row.address →
              earlier.name ≠ record.name := by
  rw [isFirst_filterMap]
  refine exists_congr fun before => exists_congr fun record => exists_congr fun after => ?_
  refine and_congr_right fun _ => ?_
  rw [admit_symbol_iff, and_assoc]
  refine and_congr_right fun _ => and_congr_right fun hrow => ?_
  have hname : row.name = record.name := by rw [hrow]; rfl
  refine forall_congr' fun earlier => forall_congr' fun _ => ?_
  constructor
  · intro h hlands hsame
    have hkey : (earlier.rowAt row.address).key = row.key :=
      Prod.ext rfl (hsame.trans hname.symm)
    exact h (earlier.rowAt row.address) (admit_symbol_iff.mpr ⟨hlands, rfl⟩) hkey
  · intro h other hother hkey
    obtain ⟨hlands, hrow'⟩ := admit_symbol_iff.mp hother
    have haddress : other.address = row.address := congrArg Prod.fst hkey
    have hname' : other.name = row.name := congrArg Prod.snd hkey
    rw [haddress] at hlands
    refine h hlands ?_
    rw [← hname, ← hname', hrow']
    rfl

theorem symbolsGained {info : DebugInfo} {rows rows' : Option (List SymbolRow)}
    (h : ((info.allowed restrictions).filterMap (Record.symbolRow? site)).foldlM mergeSymbols rows
      = .ok rows') : SymbolsGained site restrictions info.symbols rows rows' := by
  obtain ⟨fresh, heq, hnodup, hfresh⟩ := foldlM_onTable_mergeRow h
  refine ⟨fresh, heq, hnodup, fun row => ?_⟩
  rw [hfresh row, filterMap_symbolRow?, isFirst_symbols]

theorem numbersGained {info : DebugInfo} {db db' : Database}
    (h : Database.Merges site (info.allowed restrictions) db db') :
    NumbersGained site restrictions info.symbols db db' := by
  have hused := (Database.numbers_of_foldlM h.numbered).2
  refine ⟨h.numbers_kept, hused.trans (congrArg (db.usedNumbers + ·) ?_)⟩
  rw [filterMap_symbolRow?, List.length_filterMap_eq_countP]
  refine congrArg (List.countP · info.symbols) (funext fun record => ?_)
  unfold Restrictions.admit
  show (if restrictions.allows record.scope.recordKind = true then _ else none).isSome = _
  cases restrictions.allows record.scope.recordKind with
  | false => rfl
  | true => exact Option.isSome_map

/-- A table whose rows are their own keys gains what was offered. -/
theorem rowsGained {α : Type} [BEq α] [LawfulBEq α] {table : Table} {given : α → Prop}
    {offered : List α} {rows rows' : Option (List α)} (hgiven : ∀ row, row ∈ offered ↔ given row)
    (h : offered.foldlM (onTable table (mergeRow id)) rows = .ok rows') :
    RowsGained given rows rows' := by
  obtain ⟨fresh, heq, hnodup, hfresh⟩ := foldlM_onTable_mergeRow h
  rw [List.map_id] at hnodup
  refine ⟨fresh, heq, hnodup, fun row => ?_⟩
  rw [hfresh row, isFirst_id, hgiven row, List.map_id, id_eq]

theorem mem_lineRows {info : DebugInfo} (row : LineRow) :
    row ∈ (info.allowed restrictions).filterMap (Record.lineRow? site)
      ↔ restrictions.lineNumbers = true
        ∧ ∃ record ∈ info.lines, site.Lands record.rva row.address
          ∧ row = record.rowAt row.address := by
  have hrow : ∀ record : LineRecord, restrictions.admit (Record.lineRow? site) (.line record)
      = some row ↔ restrictions.lineNumbers = true
        ∧ site.Lands record.rva row.address ∧ row = record.rowAt row.address := by
    intro record
    rw [admit_eq_some_iff]
    exact and_congr_right fun _ => rowAt?_eq_some_iff LineRow.address fun _ => rfl
  rw [filterMap_lineRow?, List.mem_filterMap]
  constructor
  · intro h
    obtain ⟨record, hmem, h⟩ := h
    obtain ⟨hallowed, hlands⟩ := (hrow record).mp h
    exact ⟨hallowed, record, hmem, hlands⟩
  · intro h
    obtain ⟨hallowed, record, hmem, hlands⟩ := h
    exact ⟨record, hmem, (hrow record).mpr ⟨hallowed, hlands⟩⟩

theorem mem_commentRows {info : DebugInfo} (row : CommentRow) :
    row ∈ (info.allowed restrictions).filterMap (Record.commentRow? site)
      ↔ restrictions.comments = true
        ∧ ∃ record ∈ info.comments, site.Lands record.rva row.address
          ∧ row = record.rowAt row.address := by
  have hrow : ∀ record : CommentRecord, restrictions.admit (Record.commentRow? site)
      (.comment record) = some row ↔ restrictions.comments = true
        ∧ site.Lands record.rva row.address ∧ row = record.rowAt row.address := by
    intro record
    rw [admit_eq_some_iff]
    exact and_congr_right fun _ => rowAt?_eq_some_iff CommentRow.address fun _ => rfl
  rw [filterMap_commentRow?, List.mem_filterMap]
  constructor
  · intro h
    obtain ⟨record, hmem, h⟩ := h
    obtain ⟨hallowed, hlands⟩ := (hrow record).mp h
    exact ⟨hallowed, record, hmem, hlands⟩
  · intro h
    obtain ⟨hallowed, record, hmem, hlands⟩ := h
    exact ⟨record, hmem, (hrow record).mpr ⟨hallowed, hlands⟩⟩

theorem typesGained {types : List TypeRecord} {rows rows' : Option (List TypeRow)}
    (h : types.foldlM mergeTypes rows = .ok rows') :
    Option.Rel (TypesGained types) rows rows' := by
  cases rows with
  | none =>
    obtain ⟨-, rfl⟩ := foldlM_onTable_none h
    exact .none
  | some rows =>
    rw [mergeTypes, foldlM_onTable_some] at h
    obtain ⟨after, hafter, rfl⟩ := map_ok.mp h
    refine .some ⟨fun record => stores_of_foldlM hafter, names_of_foldlM hafter, ?_⟩
    exact rowsBut_foldlM (fun record hrecord => List.mem_map.mpr ⟨record, hrecord, rfl⟩) hafter

/-- **What merging a file adds to a database.** -/
theorem gains_of_merges {info : DebugInfo} {db db' : Database}
    (h : Database.Merges site (info.allowed restrictions) db db') :
    db.Gains site restrictions info db' where
  types := by
    obtain ⟨rest, -, htypes⟩ := info.allowed_eq restrictions
    exact typesGained (htypes ▸ h.types)
  symbols := symbolsGained h.symbols
  lines := rowsGained mem_lineRows h.lines
  comments := rowsGained mem_commentRows h.comments
  numbers := numbersGained h
  others := h.others

end Tables

/-! ## §4. The effect of a merge. -/

section Effect

variable {options : ApplyOptions} {imageBase : UInt64} {db : Database} {info : DebugInfo}

/-- A merge conflicts exactly as its data types do. -/
theorem apply_conflict_eq {blocks : List MemoryBlock} (hblocks : db.blocks = .ok blocks)
    (name : String) :
    (apply options info imageBase (fun _ => false) db).result = .error (.typeConflict name)
      ↔ (info.allowedTypes options.restrictions).foldlM mergeTypes db.dataTypes
          = .error (.typeConflict name) := by
  obtain ⟨rest, hallowed, htypes⟩ := info.allowed_eq options.restrictions
  rw [← map_error (f := (·.1)), apply_never hblocks fun _ => rfl]
  -- the data types come first, so nothing fails before them, and nothing else conflicts
  constructor
  · intro h
    have hconflict := Database.mergeAll_conflict h
    rw [htypes] at hconflict
    exact hconflict
  · intro h
    rw [hallowed]
    exact Database.mergeAll_types_error h

/-- Without the table of data types nothing conflicts. -/
theorem foldlM_mergeTypes_conflict {types : List TypeRecord} {rows : Option (List TypeRow)}
    {name : String} :
    types.foldlM mergeTypes rows = .error (.typeConflict name)
      ↔ ∃ stored, rows = some stored
        ∧ types.foldlM mergeType stored = .error (.typeConflict name) := by
  constructor
  · intro h
    cases rows with
    | none =>
      -- the first definition fails for want of the table
      cases types with
      | nil => cases h
      | cons record types =>
        rcases foldlM_cons_error.mp h with hrecord | ⟨m, hrecord, -⟩
        · cases hrecord
        · cases hrecord
    | some stored =>
      rw [mergeTypes, foldlM_onTable_some, map_error] at h
      exact ⟨stored, rfl, h⟩
  · intro h
    obtain ⟨stored, rfl, h⟩ := h
    rw [mergeTypes, foldlM_onTable_some, map_error]
    exact h

/-- A merge that succeeds had a memory map, and it merged the allowed records. -/
theorem merges_of_apply {db' : Database} {applied : Applied}
    (h : (apply options info imageBase (fun _ => false) db).result = .ok (db', applied)) :
    ∃ blocks, db.blocks = .ok blocks
      ∧ Database.Merges ⟨imageBase, blocks⟩ (info.allowed options.restrictions) db db' := by
  obtain ⟨blocks, hblocks⟩ := blocks_of_apply h
  have hmerge : db.mergeAll ⟨imageBase, blocks⟩ (info.allowed options.restrictions) = .ok db' := by
    rw [← apply_never hblocks fun _ => rfl]
    exact map_ok.mpr ⟨_, h, rfl⟩
  exact ⟨blocks, hblocks, Database.mergeAll_iff.mp hmerge⟩

/-- A merge that succeeds adds to the database what the file says. -/
theorem gains_of_apply {db' : Database} {applied : Applied}
    (h : (apply options info imageBase (fun _ => false) db).result = .ok (db', applied)) :
    ∃ blocks, db.blocks = .ok blocks
      ∧ db.Gains ⟨imageBase, blocks⟩ options.restrictions info db' := by
  obtain ⟨blocks, hblocks, hmerges⟩ := merges_of_apply h
  exact ⟨blocks, hblocks, gains_of_merges hmerges⟩

/-- A merge conflicts exactly as its data types do; without the memory map there is none. -/
theorem apply_typeConflict_iff (name : String) :
    (apply options info imageBase (fun _ => false) db).result = .error (.typeConflict name)
      ↔ (∃ blocks, db.blocks = .ok blocks) ∧ ∃ rows, db.dataTypes = some rows
        ∧ (info.allowedTypes options.restrictions).foldlM mergeType rows
          = .error (.typeConflict name) := by
  rw [← foldlM_mergeTypes_conflict]
  cases hblocks : db.blocks with
  | error e =>
    rw [apply_no_blocks hblocks]
    constructor
    · intro h
      cases h
    · intro h
      obtain ⟨⟨blocks, h⟩, -⟩ := h
      cases h
  | ok blocks =>
    rw [apply_conflict_eq hblocks]
    exact ⟨fun h => ⟨⟨blocks, rfl⟩, h⟩, fun h => h.2⟩

/-- **The effect of a merge that nobody stops.**  If it succeeds, the database gained what the
file says and nothing else.  It ends in a conflict exactly if, among the definitions of some
name that are stored or that it gets to see, two disagree; and that name is named. -/
theorem apply_effect (options : ApplyOptions) (info : DebugInfo) (imageBase : UInt64)
    (db : Database) :
    (∀ db' applied, (apply options info imageBase (fun _ => false) db).result
          = .ok (db', applied) →
        ∃ blocks, db.blocks = .ok blocks
          ∧ db.Gains ⟨imageBase, blocks⟩ options.restrictions info db')
      ∧ (∀ name, (apply options info imageBase (fun _ => false) db).result
          = .error (.typeConflict name) →
        ∃ rows, db.dataTypes = some rows
          ∧ Disagree rows (reached rows (info.allowedTypes options.restrictions)) name)
      ∧ ((∃ name, (apply options info imageBase (fun _ => false) db).result
            = .error (.typeConflict name))
          ↔ (∃ blocks, db.blocks = .ok blocks) ∧ ∃ rows, db.dataTypes = some rows
            ∧ ∃ name,
              Disagree rows (reached rows (info.allowedTypes options.restrictions)) name) := by
  refine ⟨fun db' applied h => gains_of_apply h, ?_, ?_⟩
  · intro name h
    obtain ⟨-, rows, hrows, hconflict⟩ := (apply_typeConflict_iff name).mp h
    exact ⟨rows, hrows, disagree_of_conflict hconflict⟩
  · constructor
    · intro h
      obtain ⟨name, h⟩ := h
      obtain ⟨hblocks, rows, hrows, hconflict⟩ := (apply_typeConflict_iff name).mp h
      exact ⟨hblocks, rows, hrows, name, disagree_of_conflict hconflict⟩
    · intro h
      obtain ⟨hblocks, rows, hrows, hdisagree⟩ := h
      obtain ⟨name, hconflict⟩ := foldlM_conflict_iff.mpr hdisagree
      exact ⟨name, (apply_typeConflict_iff name).mpr ⟨hblocks, rows, hrows, hconflict⟩⟩

/-- A symbol is placed, and two definitions of one name are in conflict. -/
theorem apply_effect_on_forward :
    (∃ db' applied blocks,
      (apply .standard forward 0 (fun _ => false) withText).result = .ok (db', applied)
        ∧ withText.blocks = .ok blocks ∧ withText.Gains ⟨0, blocks⟩ .none forward db')
      ∧ ∃ rows, halfReadable.dataTypes = some rows
        ∧ Disagree rows (reached rows nodeThenLeaf.types) "Node" := by
  constructor
  · have hsome : (apply .standard forward 0 (fun _ => false) withText).result.toOption.isSome
        = true := by decide +kernel
    cases h : (apply .standard forward 0 (fun _ => false) withText).result with
    | error e =>
      rw [h] at hsome
      cases hsome
    | ok r =>
      obtain ⟨blocks, hblocks, hgains⟩ := (apply_effect .standard forward 0 withText).1 r.1 r.2 h
      exact ⟨r.1, r.2, blocks, rfl, hblocks, hgains⟩
  · exact (apply_effect .standard nodeThenLeaf 0 halfReadable).2.1 "Node" rfl

/-- The definition that disagrees with the store, behind one that meets the row that cannot
be read. -/
def leafThenNode : DebugInfo :=
  { nodeThenLeaf with types := nodeThenLeaf.types.reverse }

/-- Two definitions disagree and there is no conflict: the merge ends before it sees the
second of them. -/
theorem clash_behind_unreadable_row :
    (apply .standard leafThenNode 0 (fun _ => false) halfReadable).result
        = .error (.store (.memberLayout "Leaf"))
      ∧ ∃ rows, halfReadable.dataTypes = some rows ∧ Disagree rows leafThenNode.types "Node" := by
  refine ⟨rfl, _, rfl, ⟨"Node", .struct, 4, []⟩, ⟨"Node", .struct, 8, []⟩, ?_, ?_, ?_, ?_⟩
  · exact ⟨rfl, .inl ⟨⟨"Node", "struct", 4, "[]"⟩, rfl, rfl⟩⟩
  · exact ⟨rfl, .inr (.tail _ (.head _))⟩
  · intro hle
    rcases hle with heq | ⟨-, -, hyields⟩
    · exact absurd heq (by decide)
    · exact absurd hyields (by decide)
  · intro hle
    rcases hle with heq | ⟨-, -, hyields⟩
    · exact absurd heq (by decide)
    · exact absurd hyields (by decide)

end Effect

end DebugMerge
