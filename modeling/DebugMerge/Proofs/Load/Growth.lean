/-
  DebugMerge.Proofs.Load.Growth
  ─────────────────────────────
  **What is stored only grows.**

  A run may be of any load, may be stopped anywhere and may end in any way.  It
  never takes anything away: a type name keeps its kind, and its definition is
  what it was unless that was a forward declaration or had no members; a symbol
  keeps its place and may get its readable name once; comments and lines stay;
  and what is recorded about the program is not touched.  The relation holds
  between the databases before and after one run, it is transitive, and so it
  holds between the databases before and after any sequence of runs.

  Main statements
    • `TypeRecord.GivesWayTo`, `TypeRow.GrowsTo`, `SymbolRow.GrowsTo` — single rows
    • `Database.GrowsTo`, `Database.growsTo_trans`   — whole databases
    • `Database.growsTo_of_merges`                   — one merge, one pass
    • `LoadJob.run_growsTo`                          — one run
    • `Program.growsTo_afterRuns`                    — sequences of runs of any loads
-/
import DebugMerge.Proofs.Load.Retention

namespace DebugMerge

open TypeRow TypeRecord

/-! ## §1. Definitions. -/

/-- What a definition may be replaced by: a forward declaration by anything, and a definition
without members by one of its size that has some. -/
def TypeRecord.GivesWayTo (earlier later : TypeRecord) : Prop :=
  earlier.isPlaceholder = true
    ∨ (later.size = earlier.size ∧ earlier.members = [] ∧ later.members ≠ [])

/-- What a row of data types may become: name and kind stay, and so does the rest of the row,
unless its definition gives way to another one. -/
def TypeRow.GrowsTo (row row' : TypeRow) : Prop :=
  row'.name = row.name ∧ row'.kind = row.kind
    ∧ (row' = row ∨ ∃ earlier later, row.toRecord = .ok earlier ∧ row'.toRecord = .ok later
        ∧ earlier.GivesWayTo later)

/-- Every name of the table stays, and its row grows. -/
def TypesGrow (rows rows' : List TypeRow) : Prop :=
  ∀ name row, at? name rows = some row → ∃ row', at? name rows' = some row' ∧ row.GrowsTo row'

section Types

variable {a b c : TypeRow} {rows rows' rows'' : List TypeRow} {record stored : TypeRecord}
  {types : List TypeRecord}

theorem TypeRow.growsTo_refl (row : TypeRow) : row.GrowsTo row :=
  ⟨rfl, rfl, .inl rfl⟩

/-- What gave way to a definition with members does not give way again. -/
theorem TypeRecord.givesWayTo_trans {x y z : TypeRecord} (h : x.GivesWayTo y)
    (h' : y.GivesWayTo z) : x.GivesWayTo z := by
  rcases h with hplaceholder | ⟨-, -, hmembers⟩
  · exact .inl hplaceholder
  · have hempty : y.members = [] := by
      rcases h' with hplaceholder | ⟨-, hempty, -⟩
      · exact ((isPlaceholder_iff y).mp hplaceholder).2
      · exact hempty
    exact absurd hempty hmembers

theorem TypeRow.growsTo_trans (h : a.GrowsTo b) (h' : b.GrowsTo c) : a.GrowsTo c := by
  obtain ⟨hname, hkind, hrow⟩ := h
  obtain ⟨hname', hkind', hrow'⟩ := h'
  refine ⟨hname'.trans hname, hkind'.trans hkind, ?_⟩
  rcases hrow with rfl | ⟨x, y, hx, hy, hxy⟩
  · exact hrow'
  rcases hrow' with rfl | ⟨y', z, hy', hz, hyz⟩
  · exact .inr ⟨x, y, hx, hy, hxy⟩
  · -- the row between them reads as one definition
    cases hy.symm.trans hy'
    exact .inr ⟨x, z, hx, hz, givesWayTo_trans hxy hyz⟩

theorem typesGrow_refl (rows : List TypeRow) : TypesGrow rows rows :=
  fun _ row hfind => ⟨row, hfind, row.growsTo_refl⟩

theorem typesGrow_trans (h : TypesGrow rows rows') (h' : TypesGrow rows' rows'') :
    TypesGrow rows rows'' := by
  intro name row hfind
  obtain ⟨row', hfind', hgrows⟩ := h name row hfind
  obtain ⟨row'', hfind'', hgrows'⟩ := h' name row' hfind'
  exact ⟨row'', hfind'', growsTo_trans hgrows hgrows'⟩

/-- A definition gives way to another one that says more. -/
theorem TypeRecord.givesWayTo_of_le (hle : stored ≤ record) (hne : stored ≠ record) :
    stored.GivesWayTo record := by
  rcases hle with heq | ⟨hname, hkind, hyield⟩
  · exact absurd heq hne
  obtain ⟨hempty, hzero | hsize⟩ := (yieldsTo_iff stored record.size).mp hyield
  · exact .inl ((isPlaceholder_iff stored).mpr ⟨hzero, hempty⟩)
  · -- of one size, they differ in their members
    refine .inr ⟨hsize.symm, hempty, fun hnone => hne ?_⟩
    exact eq_of_parts hname hkind hsize (hempty.trans hnone.symm)

/-- A completed row grows. -/
theorem TypeRow.growsTo_complete {row : TypeRow} (hread : row.toRecord = .ok stored)
    (hle : stored ≤ record) (hne : stored ≠ record) : row.GrowsTo (row.complete record) := by
  have hcompleted := toRecord_complete hread (name_eq_of_le hle) (kind_eq_of_le hle)
  exact ⟨rfl, rfl, .inr ⟨stored, record, hread, hcompleted, givesWayTo_of_le hle hne⟩⟩

/-- **Merging a definition takes nothing away**: its name was free, or it is known, or it
completes what is stored under its name. -/
theorem typesGrow_mergeType (h : mergeType rows record = .ok rows') : TypesGrow rows rows' := by
  intro name row hfind
  rcases mergeType_cases h with ⟨-, rfl⟩ | ⟨-, rfl⟩ | ⟨stored, hstored, hle, hne, rfl⟩
  · refine ⟨row, ?_, row.growsTo_refl⟩
    rw [at?_append_singleton, hfind]
    rfl
  · exact ⟨row, hfind, row.growsTo_refl⟩
  · refine ⟨if name = record.name then row.complete record else row, ?_, ?_⟩
    · rw [at?_completeAll, hfind]
      rfl
    · by_cases hname : name = record.name
      · -- the row of the name is the one that was compared with the record
        obtain ⟨row', hfind', hread⟩ := hstored
        rw [name_eq_of_le hle, ← hname, hfind] at hfind'
        cases hfind'
        rw [if_pos hname]
        exact growsTo_complete hread hle hne
      · rw [if_neg hname]
        exact row.growsTo_refl

theorem typesGrow_foldlM (h : types.foldlM mergeType rows = .ok rows') : TypesGrow rows rows' :=
  foldlM_invariant (P := fun m => TypesGrow rows m)
    (fun _ _ _ hs hstep => typesGrow_trans hs (typesGrow_mergeType hstep)) (typesGrow_refl rows) h

end Types

/-! ## §2. Symbols. -/

/-- What a stored symbol may become: it may get a readable name if it has none. -/
def SymbolRow.GrowsTo (row row' : SymbolRow) : Prop :=
  row' = row ∨ (row.demangled = none ∧ ∃ readable, row' = { row with demangled := some readable })

/-- Every symbol of the table stays where it is, and its row grows. -/
def SymbolsGrow (rows rows' : List SymbolRow) : Prop :=
  ∀ (i : Nat) (row : SymbolRow), rows[i]? = some row →
    ∃ row', rows'[i]? = some row' ∧ row.GrowsTo row'

section Symbols

variable {a b c : SymbolRow} {rows rows' rows'' : List SymbolRow} {blocks : List MemoryBlock}

theorem SymbolRow.growsTo_refl (row : SymbolRow) : row.GrowsTo row :=
  .inl rfl

/-- A symbol that got its name is no symbol without a name. -/
theorem SymbolRow.growsTo_trans (h : a.GrowsTo b) (h' : b.GrowsTo c) : a.GrowsTo c := by
  rcases h with rfl | ⟨hnone, readable, rfl⟩
  · exact h'
  rcases h' with rfl | ⟨hnone', -⟩
  · exact .inr ⟨hnone, readable, rfl⟩
  · cases hnone'

theorem symbolsGrow_refl (rows : List SymbolRow) : SymbolsGrow rows rows :=
  fun _ row hrow => ⟨row, hrow, row.growsTo_refl⟩

theorem symbolsGrow_trans (h : SymbolsGrow rows rows') (h' : SymbolsGrow rows' rows'') :
    SymbolsGrow rows rows'' := by
  intro i row hrow
  obtain ⟨row', hrow', hgrows⟩ := h i row hrow
  obtain ⟨row'', hrow'', hgrows'⟩ := h' i row' hrow'
  exact ⟨row'', hrow'', SymbolRow.growsTo_trans hgrows hgrows'⟩

/-- New symbols stand behind the stored ones. -/
theorem symbolsGrow_append (rows fresh : List SymbolRow) : SymbolsGrow rows (rows ++ fresh) := by
  intro i row hrow
  obtain ⟨hi, -⟩ := List.getElem?_eq_some_iff.mp hrow
  refine ⟨row, ?_, row.growsTo_refl⟩
  rw [List.getElem?_append_left hi]
  exact hrow

/-- **The pass names symbols that have no name**, and does nothing else to them. -/
theorem SymbolRow.growsTo_decorateRow (blocks : List MemoryBlock) (row : SymbolRow) :
    row.GrowsTo (decorateRow blocks row) := by
  rcases decorateRow_cases blocks row with heq | ⟨-, hnone, readable, -, hnamed⟩
  · exact .inl heq
  · exact .inr ⟨hnone, readable, hnamed⟩

theorem symbolsGrow_of_partly (h : PartlyDecorated blocks rows rows') :
    SymbolsGrow rows rows' := by
  intro i row hrow
  rcases h i with hsame | hnamed
  · exact ⟨row, hsame.trans hrow, row.growsTo_refl⟩
  · refine ⟨decorateRow blocks row, ?_, row.growsTo_decorateRow blocks⟩
    rw [hnamed, hrow]
    rfl

end Symbols

/-! ## §3. Databases. -/

/-- A table that gains rows behind its own is there if it was there. -/
theorem optionRel_append {α : Type} {R : List α → List α → Prop} {fresh : List α}
    (hR : ∀ rows, R rows (rows ++ fresh)) (rows : Option (List α)) :
    Option.Rel R rows (rows.map (· ++ fresh)) := by
  cases rows with
  | none => exact .none
  | some rows => exact .some (hR rows)

namespace Database

/-- **What a database may become**: definitions and symbols grow, comments and lines stay in
front of the new ones, and the attributes, the memory map and the options do not change. -/
structure GrowsTo (db db' : Database) : Prop where
  types : Option.Rel TypesGrow db.dataTypes db'.dataTypes
  symbols : Option.Rel SymbolsGrow db.symbols db'.symbols
  comments : Option.Rel (· <+: ·) db.comments db'.comments
  lines : Option.Rel (· <+: ·) db.lineNumbers db'.lineNumbers
  programInfo : db'.programInfo = db.programInfo
  memoryBlocks : db'.memoryBlocks = db.memoryBlocks
  options : db'.options = db.options

variable {site : Site} {done : List Record} {db m db' db'' : Database}

theorem growsTo_refl (db : Database) : db.GrowsTo db where
  types := optionRel_refl typesGrow_refl db.dataTypes
  symbols := optionRel_refl symbolsGrow_refl db.symbols
  comments := optionRel_refl List.prefix_refl db.comments
  lines := optionRel_refl List.prefix_refl db.lineNumbers
  programInfo := rfl
  memoryBlocks := rfl
  options := rfl

theorem growsTo_trans (h : db.GrowsTo db') (h' : db'.GrowsTo db'') : db.GrowsTo db'' where
  types := optionRel_trans typesGrow_trans h.types h'.types
  symbols := optionRel_trans symbolsGrow_trans h.symbols h'.symbols
  comments := optionRel_trans List.IsPrefix.trans h.comments h'.comments
  lines := optionRel_trans List.IsPrefix.trans h.lines h'.lines
  programInfo := h'.programInfo.trans h.programInfo
  memoryBlocks := h'.memoryBlocks.trans h.memoryBlocks
  options := h'.options.trans h.options

/-- The history does not count. -/
theorem growsTo_withRuns (db : Database) (runs : List RunRow) : db.GrowsTo (db.withRuns runs) :=
  ⟨(growsTo_refl db).types, (growsTo_refl db).symbols, (growsTo_refl db).comments,
    (growsTo_refl db).lines, rfl, rfl, rfl⟩

/-- The definitions of a merge. -/
theorem types_grow_of_merges (h : Merges site done db m) :
    Option.Rel TypesGrow db.dataTypes m.dataTypes := by
  have htypes := h.types
  cases hrows : db.dataTypes with
  | none =>
    rw [hrows] at htypes
    obtain ⟨-, hnone⟩ := foldlM_onTable_none htypes
    rw [hnone]
    exact .none
  | some rows =>
    rw [hrows, mergeTypes, foldlM_onTable_some] at htypes
    obtain ⟨rows', hmerged, heq⟩ := map_ok.mp htypes
    rw [← heq]
    exact .some (typesGrow_foldlM hmerged)

/-- Merging records takes nothing away. -/
theorem growsTo_of_mergeAll (h : Merges site done db m) : db.GrowsTo m := by
  obtain ⟨symbols, hsymbols, -⟩ := foldlM_onTable_mergeRow h.symbols
  obtain ⟨lines, hlines, -⟩ := foldlM_onTable_mergeRow h.lines
  obtain ⟨comments, hcomments, -⟩ := foldlM_onTable_mergeRow h.comments
  refine ⟨types_grow_of_merges h, ?_, ?_, ?_, ?_, ?_, ?_⟩
  · rw [hsymbols]
    exact optionRel_append (symbolsGrow_append · symbols) db.symbols
  · rw [hcomments]
    exact optionRel_append (List.prefix_append · comments) db.comments
  · rw [hlines]
    exact optionRel_append (List.prefix_append · lines) db.lineNumbers
  · rw [h.others]
  · rw [h.others]
  · rw [h.others]

/-- Naming symbols takes nothing away. -/
theorem growsTo_of_partly (h : m.IsPartlyDecorated db') : m.GrowsTo db' := by
  obtain ⟨rows', rfl, hrel⟩ := h
  have hsymbols : Option.Rel SymbolsGrow m.symbols rows' := by
    revert hrel
    generalize m.symbols = rows
    intro hrel
    cases hrel with
    | none => exact .none
    | some hpart => exact .some (symbolsGrow_of_partly hpart)
  exact ⟨(growsTo_refl m).types, hsymbols, (growsTo_refl m).comments, (growsTo_refl m).lines,
    rfl, rfl, rfl⟩

/-- **A merge and a pass, whole or stopped, take nothing away.** -/
theorem growsTo_of_merges (hmerges : Merges site done db m) (hpart : m.IsPartlyDecorated db') :
    db.GrowsTo db' :=
  growsTo_trans (growsTo_of_mergeAll hmerges) (growsTo_of_partly hpart)

end Database

/-! ## §4. Runs. -/

/-- **A run takes nothing away**, whatever its content and settings and however it ends. -/
theorem LoadJob.run_growsTo (job : LoadJob) (shutDown : Bool) (program : Program) :
    program.db.GrowsTo (job.run shutDown program).program.db := by
  obtain ⟨db, runs, hdb, hchanges⟩ := job.run_changes shutDown program
  obtain ⟨site, done, m, hmerges, hpart, -⟩ := merges_of_changes hchanges
  have hstore : program.db.GrowsTo db := Database.growsTo_of_merges hmerges hpart
  rw [hdb]
  exact Database.growsTo_trans hstore (db.growsTo_withRuns runs)

/-- The program after a sequence of runs.  Every run is of a load of its own, with its own
backend, settings and answer of the operator; its attempt says when it is asked to stop and what
it finds when it asks for the slot. -/
def Program.afterRuns (program : Program) (runs : List (LoadJob × Attempt)) : Program :=
  runs.foldl (fun program run => (run.2.run run.1 program).program) program

/-- **What is stored only grows**, over any sequence of runs of any loads.  A type name keeps its
kind, and its definition, unless that was a forward declaration or had no members and got some; a
symbol keeps everything and may get a readable name if it has none; comments and lines stay; the
attributes, the memory map and the options do not change. -/
theorem Program.growsTo_afterRuns (program : Program) (runs : List (LoadJob × Attempt)) :
    program.db.GrowsTo (program.afterRuns runs).db := by
  -- by induction on the runs: each one starts from the database that the ones before it left
  induction runs generalizing program with
  | nil => exact Database.growsTo_refl program.db
  | cons run runs ih =>
    obtain ⟨job, attempt⟩ := run
    have hfirst : program.db.GrowsTo (attempt.run job program).program.db :=
      (job.during attempt).run_growsTo attempt.shutDown { program with slot := attempt.slot }
    exact Database.growsTo_trans hfirst (ih (attempt.run job program).program)

end DebugMerge
