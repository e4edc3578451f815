/-
  DebugMerge.Proofs.Load.Retention
  ────────────────────────────────
  **What a run keeps of the store.**

  Whatever its settings and however it ends, a run merges the first records of a
  content, or none, and names symbols.  So every comment and every line of the
  store stays, every symbol stays under its key, and every definition stays or
  gives way to one that says more.  Snapshots compare definitions entirely: the
  later one counts as a superset of the earlier one exactly if no stored
  definition was completed.

  Main statements
    • `Database.isSnapshot_of_ok`   — a snapshot lists the rows of the tables
    • `Snapshot.Keeps`              — what stays between two snapshots
    • `stores_iff_not_completed`    — what merging does to stored definitions
    • `LoadJob.run_retains`         — every run
-/
import DebugMerge.Proofs.Load.Contents
import DebugMerge.Proofs.Load.Resume

namespace DebugMerge

open TypeRow TypeRecord

/-! ## §1. Snapshots and rows. -/

namespace Database

/-- What is read from rows is what some row reads as. -/
theorem mem_readTypes {rows : List TypeRow} {records : List TypeRecord}
    (h : readTypes rows = .ok records) (record : TypeRecord) :
    record ∈ records ↔ ∃ row ∈ rows, row.toRecord = .ok record := by
  induction rows generalizing records with
  | nil =>
    cases h
    constructor
    · intro hmem
      cases hmem
    · intro hread
      obtain ⟨row, hrow, -⟩ := hread
      cases hrow
  | cons row rows ih =>
    obtain ⟨first, hfirst, hrows⟩ := bind_ok.mp h
    obtain ⟨rest, hrest, heq⟩ := bind_ok.mp hrows
    cases heq
    -- a record is the first one, or some later row reads as it
    rw [List.mem_cons, ih hrest]
    constructor
    · intro hmem
      rcases hmem with rfl | ⟨other, hother, hread⟩
      · exact ⟨row, List.mem_cons_self, hfirst⟩
      · exact ⟨other, List.mem_cons_of_mem row hother, hread⟩
    · intro hread
      obtain ⟨other, hother, hread⟩ := hread
      rcases List.mem_cons.mp hother with rfl | hother
      · rw [hfirst] at hread
        cases hread
        exact .inl rfl
      · exact .inr ⟨other, hother, hread⟩

/-- A listing of a table shows its rows. -/
def Lists {α : Type} (table : Option (List α)) (listed : List α) : Prop :=
  ∃ rows, table = some rows ∧ ∀ row, row ∈ listed ↔ row ∈ rows

/-- The snapshot shows the rows of the four tables. -/
structure IsSnapshot (db : Database) (s : Snapshot) : Prop where
  types : ∃ rows, db.dataTypes = some rows
    ∧ ∀ record, record ∈ s.types ↔ ∃ row ∈ rows, row.toRecord = .ok record
  symbols : Lists db.symbols s.symbols
  comments : Lists db.comments s.comments
  lines : Lists db.lineNumbers s.lines

/-- A sorted listing shows the rows of its table. -/
theorem lists_of_sorted {α : Type} {table : Table} {rows : Option (List α)} {le : α → α → Bool}
    {listed : List α} (h : (do
      let rows ← rowsOf table rows
      return rows.mergeSort le : Except StoreError (List α)) = .ok listed) : Lists rows listed := by
  cases rows with
  | none => cases h
  | some rows =>
    cases h
    exact ⟨rows, rfl, fun row => List.mem_mergeSort⟩

/-- **A snapshot shows the rows of the tables.** -/
theorem isSnapshot_of_ok {db : Database} {s : Snapshot} (h : db.snapshot = .ok s) :
    db.IsSnapshot s := by
  obtain ⟨types, htypes, h⟩ := bind_ok.mp h
  obtain ⟨symbols, hsymbols, h⟩ := bind_ok.mp h
  obtain ⟨comments, hcomments, h⟩ := bind_ok.mp h
  obtain ⟨lines, hlines, h⟩ := bind_ok.mp h
  cases h
  refine ⟨?_, lists_of_sorted hsymbols, lists_of_sorted hcomments, lists_of_sorted hlines⟩
  obtain ⟨rows, hrows, hread⟩ := bind_ok.mp htypes
  unfold rowsOf at hrows
  cases htable : db.dataTypes with
  | none =>
    rw [htable] at hrows
    cases hrows
  | some stored =>
    rw [htable] at hrows
    cases hrows
    refine ⟨rows, rfl, fun record => ?_⟩
    rw [mem_readTypes hread]
    exact exists_congr fun row => and_congr_left fun _ => List.mem_mergeSort

end Database

/-! ## §2. What stays between two snapshots. -/

namespace Snapshot

/-- Comments and lines of the earlier snapshot are in the later one, symbols are there under
their keys, and definitions are there or gave way to others that say more. -/
structure Keeps (later earlier : Snapshot) : Prop where
  types : ∀ stored ∈ earlier.types, ∃ known ∈ later.types, stored ≤ known
  symbols : ∀ row ∈ earlier.symbols, ∃ other ∈ later.symbols, other.key = row.key
  comments : ∀ row ∈ earlier.comments, row ∈ later.comments
  lines : ∀ row ∈ earlier.lines, row ∈ later.lines

variable {earlier later : Snapshot}

/-- Where everything is kept, the definitions decide whether nothing is missing. -/
theorem Keeps.isSupersetOf_iff (h : later.Keeps earlier) :
    later.isSupersetOf earlier = true ↔ ∀ stored ∈ earlier.types, stored ∈ later.types := by
  have hsymbols : earlier.symbols.all (fun s =>
      later.symbols.any fun o => o.address == s.address && o.name == s.name) = true := by
    refine List.all_eq_true.mpr fun row hrow => ?_
    obtain ⟨other, hother, hkey⟩ := h.symbols row hrow
    obtain ⟨haddress, hname⟩ := Prod.ext_iff.mp hkey
    refine List.any_eq_true.mpr ⟨other, hother, ?_⟩
    exact Bool.and_eq_true_iff.mpr ⟨beq_iff_eq.mpr haddress, beq_iff_eq.mpr hname⟩
  have hcomments : earlier.comments.all later.comments.contains = true :=
    List.all_eq_true.mpr fun row hrow => List.contains_iff_mem.mpr (h.comments row hrow)
  have hlines : earlier.lines.all later.lines.contains = true :=
    List.all_eq_true.mpr fun row hrow => List.contains_iff_mem.mpr (h.lines row hrow)
  unfold isSupersetOf
  rw [hsymbols, hcomments, hlines, Bool.and_true, Bool.and_true, Bool.and_true, List.all_eq_true]
  exact forall_congr' fun stored => forall_congr' fun _ => List.contains_iff_mem

end Snapshot

/-! ## §3. Stored definitions. -/

section Types

variable {rows rows' : List TypeRow} {types : List TypeRecord} {record : TypeRecord}

/-- Where names are a key, a row is found under its name. -/
theorem at?_of_mem (hkey : (rows.map (·.name)).Nodup) {row : TypeRow} (hrow : row ∈ rows) :
    at? row.name rows = some row := by
  induction rows with
  | nil => cases hrow
  | cons first rows ih =>
    rw [List.map_cons, List.nodup_cons] at hkey
    unfold at?
    rw [List.find?_cons]
    rcases List.mem_cons.mp hrow with rfl | hrow
    · rw [decide_eq_true rfl]
    · -- the first row has another name, since this one occurs behind it
      have hne : first.name ≠ row.name := by
        intro heq
        exact hkey.1 (heq ▸ List.mem_map.mpr ⟨row, hrow, rfl⟩)
      rw [decide_eq_false hne]
      exact ih hkey.2 hrow

/-- Where names are a key, what some row reads as is stored. -/
theorem stores_iff_mem (hkey : (rows.map (·.name)).Nodup) :
    Stores rows record ↔ ∃ row ∈ rows, row.toRecord = .ok record := by
  constructor
  · intro h
    obtain ⟨row, hfind, hread⟩ := h
    exact ⟨row, mem_of_at? hfind, hread⟩
  · intro h
    obtain ⟨row, hrow, hread⟩ := h
    refine ⟨row, ?_, hread⟩
    rw [name_of_toRecord hread]
    exact at?_of_mem hkey hrow

/-- Merging keeps names a key. -/
theorem nodup_names_of_foldlM (hkey : (rows.map (·.name)).Nodup)
    (h : types.foldlM mergeType rows = .ok rows') : (rows'.map (·.name)).Nodup := by
  obtain ⟨fresh, hnames, hnodup, hfresh⟩ := names_of_foldlM h
  rw [hnames]
  refine List.nodup_append.mpr ⟨hkey, hnodup, ?_⟩
  intro name hname other hother heq
  exact ((hfresh other).mp hother).2 (heq ▸ hname)

/-- **A stored definition stays unless it is completed**: it is stored in the end exactly if
none of the merged ones says more. -/
theorem stores_iff_not_completed (hstored : Stores rows record)
    (h : types.foldlM mergeType rows = .ok rows') :
    Stores rows' record ↔ ∀ offered ∈ types, record ≤ offered → offered = record := by
  constructor
  · intro hafter offered hoffered hle
    -- whatever was offered is held, and under its name the definition itself is stored
    obtain ⟨top, htop, hle'⟩ := holds_of_foldlM h (.inr hoffered)
    have hname : top.name = record.name := (name_eq_of_le hle').symm.trans (name_eq_of_le hle).symm
    cases stores_unique htop hafter hname
    exact TypeRecord.le_antisymm hle' hle
  · intro hnone
    obtain ⟨top, htop, hle⟩ := holds_of_foldlM h (.inl hstored)
    have hsame : top = record := by
      rcases stored_or_offered h htop with hbefore | hoffered
      · exact stores_unique hbefore hstored (name_eq_of_le hle).symm
      · exact hnone top hoffered hle
    exact hsame ▸ htop

end Types

/-! ## §4. Databases. -/

namespace Database

/-- The names of data types are a key of their table. -/
def HasNamesAsKey (db : Database) : Prop :=
  ∀ rows, db.dataTypes = some rows → (rows.map (·.name)).Nodup

variable {site : Site} {done : List Record} {db m db' : Database} {before after : Snapshot}

/-- The store of a new program is empty. -/
theorem hasNamesAsKey_fresh : fresh.HasNamesAsKey := by
  intro rows hrows
  cases hrows
  exact List.nodup_nil

/-- Merging and naming change the rows of data types by the definitions alone. -/
theorem rows_of_merges (hmerges : Merges site done db m) (hpart : m.IsPartlyDecorated db')
    {rows : List TypeRow} (hrows : db.dataTypes = some rows) :
    ∃ rows', db'.dataTypes = some rows'
      ∧ (done.filterMap Record.type?).foldlM mergeType rows = .ok rows' := by
  obtain ⟨_, rfl, -⟩ := hpart
  have htypes := hmerges.types
  rw [hrows, mergeTypes, foldlM_onTable_some] at htypes
  obtain ⟨rows', hmerged, heq⟩ := map_ok.mp htypes
  exact ⟨rows', heq.symm, hmerged⟩

/-- Merging and naming keep names a key. -/
theorem hasNamesAsKey_of_merges (hkey : db.HasNamesAsKey) (hmerges : Merges site done db m)
    (hpart : m.IsPartlyDecorated db') : db'.HasNamesAsKey := by
  intro rows' hrows'
  cases hrows : db.dataTypes with
  | none =>
    -- without the table there is none behind the merge
    obtain ⟨_, rfl, -⟩ := hpart
    have htypes := hmerges.types
    rw [hrows] at htypes
    obtain ⟨-, hnone⟩ := foldlM_onTable_none htypes
    cases hnone.symm.trans hrows'
  | some rows =>
    obtain ⟨merged, hmerged, htypes⟩ := rows_of_merges hmerges hpart hrows
    cases hmerged.symm.trans hrows'
    exact nodup_names_of_foldlM (hkey rows hrows) htypes

/-- Merging keeps the rows of a table. -/
theorem lists_of_foldlM {α κ : Type} [BEq κ] [LawfulBEq κ] {key : α → κ} {table : Table}
    {rows rows' : Option (List α)} {offered listed listed' : List α}
    (h : offered.foldlM (onTable table (mergeRow key)) rows = .ok rows')
    (hlists : Lists rows listed) (hlists' : Lists rows' listed') :
    ∀ row ∈ listed, row ∈ listed' := by
  obtain ⟨fresh, heq, -⟩ := foldlM_onTable_mergeRow h
  obtain ⟨stored, rfl, hmem⟩ := hlists
  obtain ⟨stored', rfl, hmem'⟩ := hlists'
  cases heq
  intro row hrow
  exact (hmem' row).mpr (List.mem_append_left fresh ((hmem row).mp hrow))

/-- Merging and naming keep the keys of symbols. -/
theorem symbols_kept (hmerges : Merges site done db m) (hpart : m.IsPartlyDecorated db')
    {listed listed' : List SymbolRow} (hlists : Lists db.symbols listed)
    (hlists' : Lists db'.symbols listed') :
    ∀ row ∈ listed, ∃ other ∈ listed', other.key = row.key := by
  obtain ⟨stored, hstored, hmem⟩ := hlists
  obtain ⟨stored', hstored', hmem'⟩ := hlists'
  obtain ⟨fresh, hmerged, -⟩ := foldlM_onTable_mergeRow hmerges.symbols
  obtain ⟨rows', rfl, hrel⟩ := hpart
  rw [hmerged, hstored, show rows' = some stored' from hstored'] at hrel
  cases hrel with
  | some hrel =>
    intro row hrow
    -- its key is among the keys before the pass, and those are the keys behind it
    have hkey : row.key ∈ stored'.map SymbolRow.key := by
      rw [map_key_of_partly hrel]
      exact List.mem_map.mpr ⟨row, List.mem_append_left fresh ((hmem row).mp hrow), rfl⟩
    obtain ⟨other, hother, heq⟩ := List.mem_map.mp hkey
    exact ⟨other, (hmem' other).mpr hother, heq⟩

/-- **What stays when records are merged and symbols named.** -/
theorem keeps_of_merges (hkey : db.HasNamesAsKey) (hmerges : Merges site done db m)
    (hpart : m.IsPartlyDecorated db') (hbefore : db.IsSnapshot before)
    (hafter : db'.IsSnapshot after) :
    after.Keeps before ∧ (after.isSupersetOf before = true
      ↔ ∀ stored ∈ before.types, ∀ offered ∈ done.filterMap Record.type?,
          stored ≤ offered → offered = stored) := by
  -- the pass leaves everything but the symbols alone
  have hpass : db'.comments = m.comments ∧ db'.lineNumbers = m.lineNumbers := by
    obtain ⟨_, rfl, -⟩ := hpart
    exact ⟨rfl, rfl⟩
  obtain ⟨hcomments, hlines⟩ := hpass
  obtain ⟨rows, hrows, hmem⟩ := hbefore.types
  obtain ⟨rows', hrows', hmem'⟩ := hafter.types
  -- the definitions were merged by names, and names are a key before and after
  have hkey' := hasNamesAsKey_of_merges hkey hmerges hpart
  obtain ⟨merged, hmerged, htypes⟩ := rows_of_merges hmerges hpart hrows
  cases hmerged.symm.trans hrows'
  have hstores : ∀ stored ∈ before.types, Stores rows stored :=
    fun stored hstored => (stores_iff_mem (hkey rows hrows)).mpr ((hmem stored).mp hstored)
  have hstores' : ∀ known, known ∈ after.types ↔ Stores rows' known := by
    intro known
    rw [hmem' known, stores_iff_mem (hkey' rows' hrows')]
  have hkeeps : after.Keeps before := by
    refine ⟨?_, symbols_kept hmerges hpart hbefore.symbols hafter.symbols,
      lists_of_foldlM hmerges.comments hbefore.comments (hcomments ▸ hafter.comments),
      lists_of_foldlM hmerges.lines hbefore.lines (hlines ▸ hafter.lines)⟩
    intro stored hstored
    obtain ⟨known, hknown, hle⟩ := holds_of_foldlM htypes (.inl (hstores stored hstored))
    exact ⟨known, (hstores' known).mpr hknown, hle⟩
  refine ⟨hkeeps, hkeeps.isSupersetOf_iff.trans ?_⟩
  refine forall_congr' fun stored => forall_congr' fun hstored => ?_
  rw [hstores' stored]
  exact stores_iff_not_completed (hstores stored hstored) htypes

end Database

/-! ## §5. Runs. -/

namespace LoadJob

variable {job : LoadJob} {db db' : Database}

/-- The definitions that took one database to the other: none, or the first allowed ones of a
content that the backend answered. -/
def MergesTypes (job : LoadJob) (db db' : Database) (merged : List TypeRecord) : Prop :=
  merged.foldlM mergeTypes db.dataTypes = .ok db'.dataTypes
    ∧ (merged = [] ∨ ∃ asked info rest, job.readIn asked = .ok info
        ∧ info.allowedTypes job.settings.applying.restrictions = merged ++ rest)

/-- Every change is a merge of some records and a pass, stopped or not. -/
theorem merges_of_changes (h : job.Changes db db') :
    ∃ site done m, Database.Merges site done db m ∧ m.IsPartlyDecorated db'
      ∧ job.MergesTypes db db' (done.filterMap Record.type?) := by
  -- a pass leaves the data types alone
  have hpass : ∀ {site : Site} {done : List Record} {m : Database},
      Database.Merges site done db m → m.IsPartlyDecorated db' →
        (done.filterMap Record.type?).foldlM mergeTypes db.dataTypes = .ok db'.dataTypes := by
    intro site done m hmerges hpart
    obtain ⟨_, rfl, -⟩ := hpart
    exact hmerges.types
  rcases h with rfl | ⟨asked, info, site, hinfo, -, hstep⟩
  · have hnothing : Database.Merges ⟨0, []⟩ [] db' db' := Database.merges_nil.mpr rfl
    have hsame := Database.isPartlyDecorated_refl db'
    exact ⟨⟨0, []⟩, [], db', hnothing, hsame, hpass hnothing hsame, .inl rfl⟩
  · obtain ⟨-, -, hallowed⟩ := info.allowed_eq job.settings.applying.restrictions
    rcases hstep with ⟨done, rest, hrecords, hmerges⟩ | ⟨m, hmerges, hpart⟩
    · have hsame := Database.isPartlyDecorated_refl db'
      refine ⟨site, done, db', hmerges, hsame, hpass hmerges hsame,
        .inr ⟨asked, info, rest.filterMap Record.type?, hinfo, ?_⟩⟩
      rw [← hallowed, show info.allowed _ = done ++ rest from hrecords, List.filterMap_append]
    · refine ⟨site, job.records info, m, hmerges, hpart, hpass hmerges hpart,
        .inr ⟨asked, info, [], hinfo, ?_⟩⟩
      rw [List.append_nil]
      exact hallowed.symm

/-- **What a run keeps of the store**, whatever its settings and however it ends.  The store can
be read behind it, with names as a key as before; every comment, every line and the key of every
symbol is there, and every definition is there or gave way to one that says more.  The later
snapshot counts as a superset of the earlier one exactly if the run completed no stored
definition. -/
theorem run_retains (job : LoadJob) (shutDown : Bool) (program : Program) (before : Snapshot)
    (hkey : program.db.HasNamesAsKey) (hbefore : program.db.snapshot = .ok before) :
    ∃ after merged, (job.run shutDown program).program.db.snapshot = .ok after
      ∧ (job.run shutDown program).program.db.HasNamesAsKey
      ∧ after.Keeps before
      ∧ job.MergesTypes program.db (job.run shutDown program).program.db merged
      ∧ (after.isSupersetOf before = true ↔ ∀ stored ∈ before.types, ∀ offered ∈ merged,
          stored ≤ offered → offered = stored) := by
  -- whatever the run did was a merge of some records and a pass, and a line of history
  obtain ⟨db, runs, hdb, hchanges⟩ := job.run_changes shutDown program
  obtain ⟨site, done, m, hmerges, hpart, htypes⟩ := merges_of_changes hchanges
  obtain ⟨after, hafter⟩ := Database.snapshot_ok_of_partly hmerges hpart ⟨before, hbefore⟩
  obtain ⟨hkeeps, hsuperset⟩ := Database.keeps_of_merges hkey hmerges hpart
    (Database.isSnapshot_of_ok hbefore) (Database.isSnapshot_of_ok hafter)
  refine ⟨after, done.filterMap Record.type?, ?_, ?_, hkeeps, ?_, hsuperset⟩
  · rw [hdb]
    exact hafter
  · have hkey' : db.HasNamesAsKey := Database.hasNamesAsKey_of_merges hkey hmerges hpart
    rw [hdb]
    exact hkey'
  · rw [hdb]
    exact htypes

/-- A program whose store holds the declaration of a type. -/
def programWithDeclaration : Program :=
  .ofDatabase "app" { programWithText.db with
    dataTypes := some [TypeRecord.toRow ⟨"Node", .struct, 0, []⟩] }

/-- A load of the definition keeps the declaration, up to what it says. -/
theorem run_retains_declaration :
    ∃ (before after : Snapshot) (merged : List TypeRecord),
      programWithDeclaration.db.snapshot = .ok before
      ∧ (watchful.run false programWithDeclaration).program.db.snapshot = .ok after
      ∧ after.Keeps before
      ∧ (after.isSupersetOf before = true ↔ ∀ stored ∈ before.types, ∀ offered ∈ merged,
          stored ≤ offered → offered = stored) := by
  have hkey : programWithDeclaration.db.HasNamesAsKey := by
    intro rows hrows
    cases hrows
    decide
  have hhealthy : ∃ before, programWithDeclaration.db.snapshot = .ok before := by
    refine Database.snapshot_ok_iff.mpr ⟨listTypes_ok_iff.mpr ⟨_, rfl, ?_⟩, rfl, rfl, rfl⟩
    intro row hrow
    exact ⟨_, List.mem_singleton.mp hrow ▸ toRecord_toRow ⟨"Node", .struct, 0, []⟩⟩
  obtain ⟨before, hbefore⟩ := hhealthy
  obtain ⟨after, merged, hafter, -, hkeeps, -, hsuperset⟩ :=
    run_retains watchful false programWithDeclaration before hkey hbefore
  exact ⟨before, after, merged, hbefore, hafter, hkeeps, hsuperset⟩

/-- The load is done and completes the declaration, which the later snapshot then lacks. -/
theorem completed_declaration_is_missing :
    ∃ before after, programWithDeclaration.db.snapshot = .ok before
      ∧ (watchful.run false programWithDeclaration).program.db.snapshot = .ok after
      ∧ after.isSupersetOf before = false := by
  -- the kernel evaluates the run and both snapshots
  have hlacks : (programWithDeclaration.db.snapshot.toOption.any fun before =>
      (watchful.run false programWithDeclaration).program.db.snapshot.toOption.any fun after =>
        !after.isSupersetOf before) = true := by
    decide +kernel
  cases hbefore : programWithDeclaration.db.snapshot with
  | error e =>
    rw [hbefore] at hlacks
    cases hlacks
  | ok before =>
    cases hafter : (watchful.run false programWithDeclaration).program.db.snapshot with
    | error e =>
      rw [hbefore, hafter] at hlacks
      cases hlacks
    | ok after =>
      rw [hbefore, hafter] at hlacks
      exact ⟨before, after, rfl, rfl, (Bool.not_eq_true' _).mp hlacks⟩

end LoadJob

end DebugMerge
