/-
  DebugMerge.Proofs.Store.Contents
  ────────────────────────────────
  **What a list of records makes of one table.**

  A table with keys keeps its rows and gains, for each key that it did not
  have, the first row of that key among those that were offered.  A table of
  data types ends with the most complete of all definitions that it knew or was
  offered under a name; if two of them disagree there is no such definition,
  and the merge ends in a conflict.  Only the definitions that the merge gets
  to see count: it ends at the first name whose row cannot be read.

  Main statements
    • `foldlM_mergeRow`         — the rows that a table with keys gains
    • `stores_of_foldlM`        — the definition that is stored in the end
    • `foldlM_conflict_iff`     — when a list of definitions conflicts
-/
import DebugMerge.Proofs.Store.Tables

namespace DebugMerge

/-! ## §1. Rows with keys. -/

section Keyed

variable {α β κ : Type} {key : α → κ}

/-- The row is the first of its key in the list. -/
def IsFirst (key : α → κ) (offered : List α) (row : α) : Prop :=
  ∃ before after, offered = before ++ row :: after ∧ key row ∉ before.map key

theorem not_isFirst_nil (row : α) : ¬ IsFirst key [] row := by
  intro h
  obtain ⟨before, after, heq, -⟩ := h
  exact List.append_ne_nil_of_right_ne_nil before (List.cons_ne_nil row after) heq.symm

/-- The first row of a key is in front, or it is the first one behind a row of another key. -/
theorem isFirst_cons {x row : α} {offered : List α} :
    IsFirst key (x :: offered) row ↔ row = x ∨ (key row ≠ key x ∧ IsFirst key offered row) := by
  constructor
  · intro h
    obtain ⟨before, after, heq, hfree⟩ := h
    cases before with
    | nil =>
      injection heq with hx
      exact .inl hx.symm
    | cons y before =>
      injection heq with hx heq
      subst hx
      rw [List.map_cons, List.mem_cons, not_or] at hfree
      exact .inr ⟨hfree.1, before, after, heq, hfree.2⟩
  · intro h
    rcases h with rfl | ⟨hne, before, after, rfl, hfree⟩
    · exact ⟨[], offered, rfl, List.not_mem_nil⟩
    · refine ⟨x :: before, after, rfl, ?_⟩
      rw [List.map_cons, List.mem_cons, not_or]
      exact ⟨hne, hfree⟩

/-- If a row is its own key, being in the list is enough. -/
theorem isFirst_id {offered : List α} {row : α} : IsFirst id offered row ↔ row ∈ offered := by
  induction offered with
  | nil => exact iff_of_false (not_isFirst_nil row) List.not_mem_nil
  | cons x offered ih =>
    rw [isFirst_cons, ih, List.mem_cons]
    constructor
    · exact fun h => h.imp_right (·.2)
    · intro h
      by_cases hx : row = x
      · exact .inl hx
      · exact .inr ⟨hx, h.resolve_left hx⟩

/-- The first row of a key, told by what the rows are made of. -/
theorem isFirst_filterMap {f : β → Option α} {xs : List β} {row : α} :
    IsFirst key (xs.filterMap f) row
      ↔ ∃ before x after, xs = before ++ x :: after ∧ f x = some row
          ∧ ∀ y ∈ before, ∀ other, f y = some other → key other ≠ key row := by
  constructor
  · intro h
    obtain ⟨before, after, heq, hfree⟩ := h
    obtain ⟨front, rest, rfl, hfront, hrest⟩ := List.filterMap_eq_append_iff.mp heq
    obtain ⟨skipped, x, behind, rfl, hskipped, hx, -⟩ := List.filterMap_eq_cons_iff.mp hrest
    refine ⟨front ++ skipped, x, behind, (List.append_assoc _ _ _).symm, hx, ?_⟩
    intro y hy other hother hkey
    rcases List.mem_append.mp hy with hy | hy
    · refine hfree (List.mem_map.mpr ⟨other, ?_, hkey⟩)
      rw [← hfront]
      exact List.mem_filterMap.mpr ⟨y, hy, hother⟩
    · rw [hskipped y hy] at hother
      cases hother
  · intro h
    obtain ⟨before, x, after, rfl, hx, hbefore⟩ := h
    refine ⟨before.filterMap f, after.filterMap f, ?_, ?_⟩
    · rw [List.filterMap_append, List.filterMap_cons_some hx]
    · intro hmem
      obtain ⟨other, hother, hkey⟩ := List.mem_map.mp hmem
      obtain ⟨y, hy, hfy⟩ := List.mem_filterMap.mp hother
      exact hbefore y hy other hfy hkey

variable [BEq κ] [LawfulBEq κ]

/-- **What a table with keys gains**: its rows stay, and behind them comes the first row of
each key that was not there. -/
theorem foldlM_mergeRow {rows rows' offered : List α}
    (h : offered.foldlM (mergeRow key) rows = .ok rows') :
    ∃ fresh, rows' = rows ++ fresh ∧ (fresh.map key).Nodup
      ∧ ∀ row, row ∈ fresh ↔ key row ∉ rows.map key ∧ IsFirst key offered row := by
  induction offered generalizing rows with
  | nil =>
    cases h
    refine ⟨[], (List.append_nil _).symm, List.nodup_nil, fun row => ?_⟩
    exact iff_of_false List.not_mem_nil fun hrow => not_isFirst_nil row hrow.2
  | cons x offered ih =>
    obtain ⟨m, hx, hrest⟩ := foldlM_cons_ok.mp h
    obtain ⟨fresh, rfl, hnodup, hfresh⟩ := ih hrest
    rcases mergeRow_cases hx with ⟨hmem, rfl⟩ | ⟨hnew, rfl⟩
    · -- the key was there: no row that is new has it
      refine ⟨fresh, rfl, hnodup, fun row => ?_⟩
      rw [hfresh row, isFirst_cons]
      refine and_congr_right fun hrow => ?_
      have hkey : key row ≠ key x := fun heq => hrow (heq ▸ hmem)
      have hne : row ≠ x := fun heq => hkey (congrArg key heq)
      simp [hkey, hne]
    · -- the row is the first of the new ones
      have hkeys : ∀ row ∈ fresh, key row ∉ rows.map key ∧ key row ≠ key x := by
        intro row hrow
        have hfree := ((hfresh row).mp hrow).1
        rw [List.map_append, List.mem_append, not_or] at hfree
        exact ⟨hfree.1, fun heq => hfree.2 (List.mem_singleton.mpr heq)⟩
      refine ⟨x :: fresh, List.append_assoc _ _ _, ?_, fun row => ?_⟩
      · rw [List.map_cons, List.nodup_cons]
        refine ⟨fun hmem => ?_, hnodup⟩
        obtain ⟨row, hrow, heq⟩ := List.mem_map.mp hmem
        exact (hkeys row hrow).2 heq
      · rw [List.mem_cons, hfresh row, isFirst_cons, List.map_append, List.mem_append, not_or]
        constructor
        · intro hrow
          rcases hrow with rfl | ⟨⟨hfree, hne⟩, hfirst⟩
          · exact ⟨hnew, .inl rfl⟩
          · exact ⟨hfree, .inr ⟨fun heq => hne (List.mem_singleton.mpr heq), hfirst⟩⟩
        · intro hrow
          obtain ⟨hfree, rfl | ⟨hne, hfirst⟩⟩ := hrow
          · exact .inl rfl
          · exact .inr ⟨⟨hfree, fun hmem => hne (List.mem_singleton.mp hmem)⟩, hfirst⟩

/-- The same of a table that may be absent. -/
theorem foldlM_onTable_mergeRow {table : Table} {rows rows' : Option (List α)}
    {offered : List α} (h : offered.foldlM (onTable table (mergeRow key)) rows = .ok rows') :
    ∃ fresh, rows' = rows.map (· ++ fresh) ∧ (fresh.map key).Nodup
      ∧ ∀ row, row ∈ fresh ↔ key row ∉ (rows.getD []).map key ∧ IsFirst key offered row := by
  cases rows with
  | none =>
    obtain ⟨rfl, rfl⟩ := foldlM_onTable_none h
    refine ⟨[], rfl, List.nodup_nil, fun row => ?_⟩
    exact iff_of_false List.not_mem_nil fun hrow => not_isFirst_nil row hrow.2
  | some rows =>
    rw [foldlM_onTable_some] at h
    obtain ⟨after, hafter, rfl⟩ := map_ok.mp h
    obtain ⟨fresh, rfl, hfresh⟩ := foldlM_mergeRow hafter
    exact ⟨fresh, rfl, hfresh⟩

end Keyed

/-! ## §2. The names of the data types. -/

open TypeRow TypeRecord

section Types

variable {rows rows' m : List TypeRow} {types : List TypeRecord} {record : TypeRecord}

theorem at?_eq_none_iff {name : String} :
    at? name rows = none ↔ name ∉ rows.map (·.name) := by
  unfold at?
  rw [List.find?_eq_none]
  constructor
  · intro h hmem
    obtain ⟨row, hrow, hname⟩ := List.mem_map.mp hmem
    exact h row hrow (decide_eq_true hname)
  · intro h row hrow hname
    exact h (List.mem_map.mpr ⟨row, hrow, of_decide_eq_true hname⟩)

/-- The names of a completed table are what they were. -/
theorem names_completeAll (record : TypeRecord) (rows : List TypeRow) :
    (completeAll record rows).map (·.name) = rows.map (·.name) := by
  unfold completeAll
  rw [List.map_map]
  refine List.map_congr_left fun row _ => ?_
  show (if row.name = record.name then row.complete record else row).name = row.name
  split <;> rfl

/-- The stored definition is found under its name. -/
theorem mem_names_of_stores {stored : TypeRecord} (h : Stores rows stored) :
    stored.name ∈ rows.map (·.name) := by
  obtain ⟨row, hfind, -⟩ := h
  rw [← name_of_at? hfind]
  exact List.mem_map.mpr ⟨row, mem_of_at? hfind, rfl⟩

/-- To the names a data type is a row that is its own key. -/
theorem mergeType_names (h : mergeType rows record = .ok rows') :
    mergeRow id (rows.map (·.name)) record.name = .ok (rows'.map (·.name)) := by
  rcases mergeType_cases h with ⟨hfree, rfl⟩ | ⟨⟨stored, hstored, hle⟩, rfl⟩
    | ⟨stored, hstored, hle, -, rfl⟩
  · have hnew : id record.name ∉ (rows.map (·.name)).map id := by
      rw [List.map_id]
      exact at?_eq_none_iff.mp hfree
    rw [mergeRow_of_not_mem hnew, List.map_append]
    rfl
  · refine mergeRow_of_mem ?_
    rw [List.map_id, id_eq, name_eq_of_le hle]
    exact mem_names_of_stores hstored
  · rw [names_completeAll]
    refine mergeRow_of_mem ?_
    rw [List.map_id, id_eq, ← name_eq_of_le hle]
    exact mem_names_of_stores hstored

/-- **The names that a table of data types gains** are those that are new to it, once. -/
theorem names_of_foldlM (h : types.foldlM mergeType rows = .ok rows') :
    ∃ fresh, rows'.map (·.name) = rows.map (·.name) ++ fresh ∧ fresh.Nodup
      ∧ ∀ name, name ∈ fresh ↔ name ∈ types.map (·.name) ∧ name ∉ rows.map (·.name) := by
  have hnames : (types.map (·.name)).foldlM (mergeRow id) (rows.map (·.name))
      = .ok (rows'.map (·.name)) := by
    induction types generalizing rows with
    | nil =>
      cases h
      rfl
    | cons record types ih =>
      obtain ⟨m, hrecord, hrest⟩ := foldlM_cons_ok.mp h
      exact foldlM_cons_ok.mpr ⟨_, mergeType_names hrecord, ih hrest⟩
  obtain ⟨fresh, heq, hnodup, hfresh⟩ := foldlM_mergeRow hnames
  rw [List.map_id] at hnodup hfresh
  refine ⟨fresh, heq, hnodup, fun name => ?_⟩
  rw [hfresh name, isFirst_id]
  exact and_comm

/-- The rows whose names are not among the given ones. -/
def rowsBut (names : List String) (rows : List TypeRow) : List TypeRow :=
  rows.filter fun row => row.name ∉ names

/-- A completed row is left out, and every other row is as it was. -/
theorem rowsBut_completeAll {names : List String} (hname : record.name ∈ names)
    (rows : List TypeRow) : rowsBut names (completeAll record rows) = rowsBut names rows := by
  unfold rowsBut completeAll
  induction rows with
  | nil => rfl
  | cons row rows ih =>
    rw [List.map_cons, List.filter_cons, List.filter_cons, ih]
    by_cases hrow : row.name = record.name
    · simp [hrow, hname]
    · simp [hrow]

theorem rowsBut_mergeType {names : List String} (hname : record.name ∈ names)
    (h : mergeType rows record = .ok rows') : rowsBut names rows' = rowsBut names rows := by
  rcases mergeType_cases h with ⟨-, rfl⟩ | ⟨-, rfl⟩ | ⟨-, -, -, -, rfl⟩
  · unfold rowsBut
    rw [List.filter_append]
    simp [hname]
  · rfl
  · exact rowsBut_completeAll hname rows

/-- Rows of names that are not offered are not touched. -/
theorem rowsBut_foldlM {names : List String} (hnames : ∀ record ∈ types, record.name ∈ names)
    (h : types.foldlM mergeType rows = .ok rows') : rowsBut names rows' = rowsBut names rows := by
  induction types generalizing rows with
  | nil =>
    cases h
    rfl
  | cons record types ih =>
    obtain ⟨m, hrecord, hrest⟩ := foldlM_cons_ok.mp h
    rw [ih (fun r hr => hnames r (List.mem_cons_of_mem record hr)) hrest]
    exact rowsBut_mergeType (hnames record List.mem_cons_self) hrecord

/-! ## §3. The definition that is stored in the end. -/

/-- What is stored was stored before, or it was just merged. -/
theorem stores_of_mergeType {stored : TypeRecord} (h : mergeType rows record = .ok rows')
    (hstored : Stores rows' stored) : Stores rows stored ∨ stored = record := by
  by_cases hname : stored.name = record.name
  · rcases mergeType_cases h with ⟨hfree, rfl⟩ | ⟨-, rfl⟩ | ⟨before, hbefore, hle, -, rfl⟩
    · exact .inr (stores_unique hstored (stores_append hfree) hname)
    · exact .inl hstored
    · exact .inr (stores_unique hstored (stores_completeAll hbefore hle) hname)
  · obtain ⟨change, -, rfl⟩ := exists_change h
    exact .inl (stores_congr (at?_on_of_ne rows hname change) hstored)

/-- What is stored in the end was stored before or offered. -/
theorem stored_or_offered {stored : TypeRecord} (h : types.foldlM mergeType rows = .ok rows')
    (hstored : Stores rows' stored) : Stores rows stored ∨ stored ∈ types := by
  induction types generalizing rows with
  | nil =>
    cases h
    exact .inl hstored
  | cons record types ih =>
    obtain ⟨m, hrecord, hrest⟩ := foldlM_cons_ok.mp h
    rcases ih hrest with hm | hmem
    · rcases stores_of_mergeType hrecord hm with hrows | rfl
      · exact .inl hrows
      · exact .inr List.mem_cons_self
    · exact .inr (List.mem_cons_of_mem record hmem)

/-- What was held before or offered is held in the end. -/
theorem holds_of_foldlM (h : types.foldlM mergeType rows = .ok rows')
    (hrecord : Stores rows record ∨ record ∈ types) : Holds rows' record := by
  rcases hrecord with hstored | hmem
  · have hholds : Holds rows record := ⟨record, hstored, le_refl record⟩
    exact foldlM_invariant (P := fun rows => Holds rows record)
      (fun _ _ _ hs hstep => holds_mono hstep hs) hholds h
  · exact holds_of_mergeType (mergeType_absorbing.absorbed h record hmem)

namespace TypeRecord

/-- The definitions of a name that a table knows or is offered. -/
def Known (rows : List TypeRow) (types : List TypeRecord) (name : String) (record : TypeRecord) :
    Prop :=
  record.name = name ∧ (Stores rows record ∨ record ∈ types)

/-- One of the definitions says everything that any of them says. -/
def IsMostComplete (among : TypeRecord → Prop) (top : TypeRecord) : Prop :=
  among top ∧ ∀ record, among record → record ≤ top

end TypeRecord

/-- **The definition that is stored in the end** is the most complete of those that the table
knew or was offered. -/
theorem stores_of_foldlM (h : types.foldlM mergeType rows = .ok rows') (hrecord : record ∈ types) :
    ∃ top, Stores rows' top ∧ IsMostComplete (Known rows types record.name) top := by
  obtain ⟨top, hstores, hle⟩ := holds_of_foldlM h (.inr hrecord)
  refine ⟨top, hstores, ⟨(name_eq_of_le hle).symm, stored_or_offered h hstores⟩, ?_⟩
  intro other hother
  obtain ⟨hname, hknown⟩ := hother
  -- whatever is known is held, and under one name one definition is stored
  obtain ⟨top', hstores', hle'⟩ := holds_of_foldlM h hknown
  have hsame : top'.name = top.name :=
    (name_eq_of_le hle').symm.trans (hname.trans (name_eq_of_le hle))
  rw [stores_unique hstores hstores' hsame.symm]
  exact hle'

/-! ## §4. Conflicts. -/

/-- The row under the name, if there is one, can be read. -/
def readsAt (rows : List TypeRow) (name : String) : Bool :=
  (at? name rows).all fun row => row.toRecord.isOk

/-- The definitions that a merge gets to see: those before the first one under whose name
there is a row that cannot be read. -/
def reached (rows : List TypeRow) (types : List TypeRecord) : List TypeRecord :=
  types.takeWhile fun record => readsAt rows record.name

theorem readsAt_of_stores {stored : TypeRecord} (h : Stores rows stored) :
    readsAt rows stored.name = true := by
  obtain ⟨row, hfind, hread⟩ := h
  unfold readsAt
  rw [hfind]
  show row.toRecord.isOk = true
  rw [hread]
  rfl

theorem readsAt_of_free {name : String} (h : at? name rows = none) : readsAt rows name = true := by
  unfold readsAt
  rw [h]
  rfl

/-- What can be read under a name is stored. -/
theorem stores_of_readsAt {name : String} {row : TypeRow} (h : readsAt rows name = true)
    (hfind : at? name rows = some row) : ∃ stored, Stores rows stored ∧ stored.name = name := by
  unfold readsAt at h
  rw [hfind] at h
  cases hread : row.toRecord with
  | error e =>
    have hnot : row.toRecord.isOk = true := h
    rw [hread] at hnot
    cases hnot
  | ok stored =>
    have hname : stored.name = name := (name_of_toRecord hread).trans (name_of_at? hfind)
    exact ⟨stored, ⟨row, hname ▸ hfind, hread⟩, hname⟩

/-- Merging what can be merged does not change what can be read. -/
theorem readsAt_mergeType (name : String) (h : mergeType rows record = .ok rows') :
    readsAt rows' name = readsAt rows name := by
  by_cases hname : name = record.name
  · -- the name of the record can be read before and after
    subst hname
    have hafter : readsAt rows' record.name = true := by
      obtain ⟨stored, hstored, hle⟩ := holds_of_mergeType h
      rw [name_eq_of_le hle]
      exact readsAt_of_stores hstored
    rw [hafter]
    rcases mergeType_cases h with ⟨hfree, -⟩ | ⟨⟨stored, hstored, hle⟩, -⟩
      | ⟨stored, hstored, hle, -, -⟩
    · exact (readsAt_of_free hfree).symm
    · rw [name_eq_of_le hle]
      exact (readsAt_of_stores hstored).symm
    · rw [← name_eq_of_le hle]
      exact (readsAt_of_stores hstored).symm
  · obtain ⟨change, -, rfl⟩ := exists_change h
    unfold readsAt
    rw [at?_on_of_ne rows hname change]

theorem readsAt_foldlM (name : String) (h : types.foldlM mergeType rows = .ok rows') :
    readsAt rows' name = readsAt rows name :=
  foldlM_invariant (P := fun m => readsAt m name = readsAt rows name)
    (fun _ _ _ hs hstep => (readsAt_mergeType name hstep).trans hs) rfl h

/-- Everything that was merged could be read under its name. -/
theorem readsAt_of_mem (h : types.foldlM mergeType rows = .ok rows') (hrecord : record ∈ types) :
    readsAt rows record.name = true := by
  obtain ⟨top, hstores, ⟨hname, -⟩, -⟩ := stores_of_foldlM h hrecord
  rw [← readsAt_foldlM record.name h, ← hname]
  exact readsAt_of_stores hstores

/-- Where the stored definition can be read, nothing but a conflict fails. -/
theorem conflict_of_error {e : LoadError} (hreads : readsAt rows record.name = true)
    (h : mergeType rows record = .error e) : e = .typeConflict record.name := by
  rcases mergeType_error_cases h with ⟨row, cause, hfind, hfails, -⟩ | ⟨hconflict, -⟩
  · obtain ⟨stored, ⟨row', hfind', hread⟩, hname⟩ := stores_of_readsAt hreads hfind
    rw [hname, hfind] at hfind'
    cases hfind'
    cases hfails.symm.trans hread
  · exact hconflict

/-- A conflict is with the stored definition, and neither of the two says less. -/
theorem clash_of_conflict {name : String}
    (h : mergeType rows record = .error (.typeConflict name)) :
    record.name = name ∧ ∃ stored, Stores rows stored ∧ stored.name = record.name
      ∧ ¬ record ≤ stored ∧ ¬ stored ≤ record := by
  rcases mergeType_error_cases h with ⟨row, cause, -, -, hstore⟩ | ⟨hconflict, hclash⟩
  · cases hstore
  · cases hconflict
    exact ⟨rfl, hclash⟩

/-- Two definitions of one name that are known disagree. -/
def Disagree (rows : List TypeRow) (types : List TypeRecord) (name : String) : Prop :=
  ∃ a b, Known rows types name a ∧ Known rows types name b ∧ ¬ a ≤ b ∧ ¬ b ≤ a

/-- Definitions that were merged do not disagree. -/
theorem not_disagree_of_foldlM {name : String} (h : types.foldlM mergeType rows = .ok rows') :
    ¬ Disagree rows types name := by
  intro hdisagree
  obtain ⟨a, b, ⟨ha, hknown⟩, ⟨hb, hknown'⟩, hab, hba⟩ := hdisagree
  -- both are below what is stored in the end, and everything below it is a chain
  obtain ⟨top, hstores, hle⟩ := holds_of_foldlM h hknown
  obtain ⟨top', hstores', hle'⟩ := holds_of_foldlM h hknown'
  have hsame : top'.name = top.name := by
    rw [← name_eq_of_le hle', ← name_eq_of_le hle, ha, hb]
  rw [stores_unique hstores' hstores hsame] at hle'
  exact (le_or_le_of_le hle hle').elim hab hba

/-- Where every name can be read, a merge that fails is a conflict. -/
theorem exists_conflict {e : LoadError}
    (hreads : ∀ record ∈ types, readsAt rows record.name = true)
    (h : types.foldlM mergeType rows = .error e) : ∃ name, e = .typeConflict name := by
  obtain ⟨done, record, rest, m, rfl, hdone, hrecord⟩ := foldlM_error_iff.mp h
  have hread : readsAt m record.name = true := by
    rw [readsAt_foldlM record.name hdone]
    exact hreads record (List.mem_append_right done List.mem_cons_self)
  exact ⟨record.name, conflict_of_error hread hrecord⟩

/-- A conflict is about definitions that disagree, and the merge got to see them. -/
theorem disagree_of_conflict {name : String}
    (h : types.foldlM mergeType rows = .error (.typeConflict name)) :
    Disagree rows (reached rows types) name := by
  obtain ⟨done, record, rest, m, rfl, hdone, hrecord⟩ := foldlM_error_iff.mp h
  obtain ⟨rfl, stored, hstored, hname, hle, hle'⟩ := clash_of_conflict hrecord
  -- names that were merged can be read, and so can the name that clashed
  have hreads : ∀ other ∈ done ++ [record], readsAt rows other.name = true := by
    intro other hother
    rcases List.mem_append.mp hother with hother | hother
    · exact readsAt_of_mem hdone hother
    · rw [List.mem_singleton.mp hother, ← hname, ← readsAt_foldlM stored.name hdone]
      exact readsAt_of_stores hstored
  -- so the merge got to see the clash, and everything before it
  have hreached : ∀ other ∈ done ++ [record], other ∈ reached rows (done ++ record :: rest) := by
    intro other hother
    have hsplit : done ++ record :: rest = (done ++ [record]) ++ rest :=
      (List.append_assoc done [record] rest).symm
    unfold reached
    rw [hsplit, List.takeWhile_append_of_pos hreads]
    exact List.mem_append_left _ hother
  refine ⟨stored, record, ⟨hname, ?_⟩, ⟨rfl, .inr ?_⟩, hle', hle⟩
  · exact (stored_or_offered hdone hstored).imp_right fun hmem =>
      hreached stored (List.mem_append_left _ hmem)
  · exact hreached record (List.mem_append_right _ List.mem_cons_self)

/-- **When a list of definitions conflicts**: two of those that are known disagree, and the
merge gets to see them. -/
theorem foldlM_conflict_iff :
    (∃ name, types.foldlM mergeType rows = .error (.typeConflict name))
      ↔ ∃ name, Disagree rows (reached rows types) name := by
  constructor
  · exact fun h => h.imp fun name => disagree_of_conflict
  · intro h
    obtain ⟨name, hdisagree⟩ := h
    have hsplit : types = reached rows types ++ types.dropWhile fun r => readsAt rows r.name :=
      List.takeWhile_append_dropWhile.symm
    cases hreached : (reached rows types).foldlM mergeType rows with
    | ok m => exact absurd hdisagree (not_disagree_of_foldlM hreached)
    | error e =>
      -- what is reached can be read, so it can only end in a conflict
      obtain ⟨other, rfl⟩ := exists_conflict
        (fun record hrecord => List.all_eq_true.mp List.all_takeWhile record hrecord) hreached
      refine ⟨other, ?_⟩
      rw [hsplit]
      exact foldlM_append_error.mpr (.inl hreached)

end Types

end DebugMerge
