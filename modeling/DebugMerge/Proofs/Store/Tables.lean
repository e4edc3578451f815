/-
  DebugMerge.Proofs.Store.Tables
  ──────────────────────────────
  **Merging into one table.**

  What a record does to the rows of its table, without the rest of the
  database.  A symbol, a line or a comment is appended unless a row of its key
  is present.  A data type is appended, completes the rows of its name, or is
  present already.  Both kinds of steps are absorbed once taken, and both can
  be swapped: rows end up in another order, and of two symbols with one key
  another one is kept, but that is all.

  Main statements
    • `mergeRow_absorbing`, `mergeRow_swappable`     — rows with keys
    • `mergeType_cases`, `TypeRow.Holds`             — data types by their order
    • `mergeType_absorbing`, `mergeType_swappable`   — data types
-/
import DebugMerge.Proofs.Folds
import DebugMerge.Proofs.Store.DataTypes

namespace DebugMerge

/-! ## §1. Rows with keys. -/

section Keyed

variable {α κ : Type} [BEq κ] [LawfulBEq κ] {key : α → κ}

theorem appendNew_of_any {same : α → Bool} {rows : List α} (h : rows.any same = true) (row : α) :
    Database.appendNew same row rows = (rows, false) :=
  if_pos h

theorem appendNew_of_not_any {same : α → Bool} {rows : List α} (h : ¬ rows.any same = true)
    (row : α) : Database.appendNew same row rows = (rows ++ [row], true) :=
  if_neg h

/-- Append a row unless one of its key is present. -/
def mergeRow (key : α → κ) (rows : List α) (row : α) : Except LoadError (List α) :=
  .ok (Database.appendNew (fun r => key r == key row) row rows).1

theorem mergeRow_of_mem {rows : List α} {row : α} (h : key row ∈ rows.map key) :
    mergeRow key rows row = .ok rows := by
  obtain ⟨r, hr, hkey⟩ := List.mem_map.mp h
  have hany : (rows.any fun r => key r == key row) = true :=
    List.any_eq_true.mpr ⟨r, hr, beq_iff_eq.mpr hkey⟩
  unfold mergeRow
  rw [appendNew_of_any hany]

theorem mergeRow_of_not_mem {rows : List α} {row : α} (h : key row ∉ rows.map key) :
    mergeRow key rows row = .ok (rows ++ [row]) := by
  have hany : ¬ (rows.any fun r => key r == key row) = true := by
    intro hany
    obtain ⟨r, hr, hkey⟩ := List.any_eq_true.mp hany
    exact h (List.mem_map.mpr ⟨r, hr, beq_iff_eq.mp hkey⟩)
  unfold mergeRow
  rw [appendNew_of_not_any hany]

/-- A row was present by its key, or it was appended. -/
theorem mergeRow_cases {rows rows' : List α} {row : α} (h : mergeRow key rows row = .ok rows') :
    (key row ∈ rows.map key ∧ rows' = rows)
      ∨ (key row ∉ rows.map key ∧ rows' = rows ++ [row]) := by
  by_cases hmem : key row ∈ rows.map key
  · rw [mergeRow_of_mem hmem] at h
    cases h
    exact .inl ⟨hmem, rfl⟩
  · rw [mergeRow_of_not_mem hmem] at h
    cases h
    exact .inr ⟨hmem, rfl⟩

/-- What was merged is present by its key. -/
theorem key_mem_of_mergeRow {rows rows' : List α} {row : α}
    (h : mergeRow key rows row = .ok rows') : key row ∈ rows'.map key := by
  rcases mergeRow_cases h with ⟨hmem, rfl⟩ | ⟨-, rfl⟩
  · exact hmem
  · rw [List.map_append]
    exact List.mem_append_right _ (List.mem_singleton_self _)

/-- Keys stay. -/
theorem mem_of_mergeRow {rows rows' : List α} {row : α} {k : κ}
    (h : mergeRow key rows row = .ok rows') (hk : k ∈ rows.map key) : k ∈ rows'.map key := by
  rcases mergeRow_cases h with ⟨-, rfl⟩ | ⟨-, rfl⟩
  · exact hk
  · rw [List.map_append]
    exact List.mem_append_left _ hk

theorem mergeRow_absorbing : Absorbing (mergeRow key) where
  again h := mergeRow_of_mem (key_mem_of_mergeRow h)
  stays h h' := mergeRow_of_mem (mem_of_mergeRow h' (key_mem_of_mergeRow h))

/-- A key behind the others, unless it is among them. -/
def addKey (k : κ) (keys : List κ) : List κ :=
  if k ∈ keys then keys else keys ++ [k]

theorem addKey_perm (k : κ) {keys keys' : List κ} (h : keys.Perm keys') :
    (addKey k keys).Perm (addKey k keys') := by
  unfold addKey
  by_cases hmem : k ∈ keys
  · rw [if_pos hmem, if_pos (h.mem_iff.mp hmem)]
    exact h
  · rw [if_neg hmem, if_neg (fun h' => hmem (h.mem_iff.mpr h'))]
    exact h.append_right _

theorem addKey_comm (a b : κ) (keys : List κ) :
    (addKey b (addKey a keys)).Perm (addKey a (addKey b keys)) := by
  by_cases hab : a = b
  · rw [hab]
  · by_cases ha : a ∈ keys <;> by_cases hb : b ∈ keys
    · simp [addKey, ha, hb]
    · simp [addKey, ha, hb]
    · simp [addKey, ha, hb]
    · have hba : b ≠ a := fun h => hab h.symm
      simp only [addKey, ha, hb, hab, hba, if_false, List.mem_append, List.mem_singleton, or_self,
        List.append_assoc, List.singleton_append]
      exact (List.Perm.swap b a []).append_left keys

/-- The keys after a merge depend on the keys before it. -/
theorem mergeRow_keys (key : α → κ) (rows : List α) (row : α) :
    ∃ rows', mergeRow key rows row = .ok rows'
      ∧ rows'.map key = addKey (key row) (rows.map key) := by
  unfold addKey
  by_cases hmem : key row ∈ rows.map key
  · exact ⟨rows, mergeRow_of_mem hmem, by rw [if_pos hmem]⟩
  · refine ⟨rows ++ [row], mergeRow_of_not_mem hmem, ?_⟩
    rw [if_neg hmem, List.map_append]
    rfl

theorem keys_of_mergeRow {rows rows' : List α} {row : α} (h : mergeRow key rows row = .ok rows') :
    rows'.map key = addKey (key row) (rows.map key) := by
  obtain ⟨rows'', h', hkeys⟩ := mergeRow_keys key rows row
  rw [h] at h'
  cases h'
  exact hkeys

/-- Rows can be merged in any order, up to the order of their keys. -/
theorem mergeRow_swappable :
    Swappable (mergeRow key) (fun rows rows' => (rows.map key).Perm (rows'.map key)) where
  refl _ := .refl _
  trans h h' := h.trans h'
  congr {rows rows' t x} hperm hx := by
    obtain ⟨t', hx', hkeys⟩ := mergeRow_keys key rows' x
    refine ⟨t', hx', ?_⟩
    rw [hkeys, keys_of_mergeRow hx]
    exact addKey_perm _ hperm
  swap {rows m t x y} hx hy := by
    obtain ⟨m', hy', hkeys⟩ := mergeRow_keys key rows y
    obtain ⟨t', hx', hkeys'⟩ := mergeRow_keys key m' x
    refine ⟨m', t', hy', hx', ?_⟩
    rw [keys_of_mergeRow hy, keys_of_mergeRow hx, hkeys', hkeys]
    exact addKey_comm _ _ _

end Keyed

/-! ## §2. Data types: what a record does. -/

/-- What a record does to the rows of data types. -/
inductive TypeChange where
  | append
  | keep
  | complete
  deriving DecidableEq

/-- The rows after a change. -/
def TypeChange.on (record : TypeRecord) (rows : List TypeRow) : TypeChange → List TypeRow
  | append => rows ++ [record.toRow]
  | keep => rows
  | complete => TypeRow.completeAll record rows

/-- What a record does, by the row that is found under its name. -/
def typeChange (found : Option TypeRow) (record : TypeRecord) : Except LoadError TypeChange :=
  match found with
  | none => .ok .append
  | some row =>
      match row.toRecord with
      | .error e => .error (.store e)
      | .ok stored =>
          match stored.merge record with
          | .conflict _ => .error (.typeConflict record.name)
          | .replaced => .ok .complete
          | _ => .ok .keep

/-- Merge a data type. -/
def mergeType (rows : List TypeRow) (record : TypeRecord) : Except LoadError (List TypeRow) :=
  (typeChange (TypeRow.at? record.name rows) record).map (TypeChange.on record rows)

namespace TypeRow

/-- The rows store the definition: the first row of its name reads as it. -/
def Stores (rows : List TypeRow) (stored : TypeRecord) : Prop :=
  ∃ row, at? stored.name rows = some row ∧ row.toRecord = .ok stored

/-- The rows store a definition that says everything the record says. -/
def Holds (rows : List TypeRow) (record : TypeRecord) : Prop :=
  ∃ stored, Stores rows stored ∧ record ≤ stored

theorem stores_unique {rows : List TypeRow} {a b : TypeRecord} (ha : Stores rows a)
    (hb : Stores rows b) (hname : a.name = b.name) : a = b := by
  obtain ⟨row, hfind, hread⟩ := ha
  obtain ⟨row', hfind', hread'⟩ := hb
  rw [hname, hfind'] at hfind
  cases hfind
  rw [hread] at hread'
  cases hread'
  rfl

/-- What is stored depends on what is found. -/
theorem stores_congr {rows rows' : List TypeRow} {stored : TypeRecord}
    (h : at? stored.name rows = at? stored.name rows') (hs : Stores rows stored) :
    Stores rows' stored := by
  obtain ⟨row, hfind, hread⟩ := hs
  exact ⟨row, h ▸ hfind, hread⟩

end TypeRow

open TypeRow TypeRecord

theorem mergeType_of_free {rows : List TypeRow} {record : TypeRecord}
    (h : at? record.name rows = none) : mergeType rows record = .ok (rows ++ [record.toRow]) := by
  unfold mergeType typeChange
  rw [h]
  rfl

theorem typeChange_of_merge {row : TypeRow} {stored record : TypeRecord}
    (hread : row.toRecord = .ok stored) :
    typeChange (some row) record = match stored.merge record with
      | .conflict _ => .error (.typeConflict record.name)
      | .replaced => .ok .complete
      | _ => .ok .keep := by
  show (match row.toRecord with
    | .error e => _
    | .ok stored => _) = _
  rw [hread]

theorem mergeType_of_holds {rows : List TypeRow} {record : TypeRecord} (h : Holds rows record) :
    mergeType rows record = .ok rows := by
  obtain ⟨stored, ⟨row, hfind, hread⟩, hle⟩ := h
  unfold mergeType
  rw [name_eq_of_le hle, hfind, typeChange_of_merge hread, merge_eq_existing hle]
  rfl

theorem mergeType_of_le {rows : List TypeRow} {stored record : TypeRecord}
    (hstored : Stores rows stored) (hle : stored ≤ record) (hne : stored ≠ record) :
    mergeType rows record = .ok (completeAll record rows) := by
  obtain ⟨row, hfind, hread⟩ := hstored
  unfold mergeType
  rw [← name_eq_of_le hle, hfind, typeChange_of_merge hread, merge_eq_replaced hle hne]
  rfl

/-- **What a successful merge did**: the record's name was free, or the stored definition
says everything already, or it says less and was completed. -/
theorem mergeType_cases {rows rows' : List TypeRow} {record : TypeRecord}
    (h : mergeType rows record = .ok rows') :
    (at? record.name rows = none ∧ rows' = rows ++ [record.toRow])
      ∨ (Holds rows record ∧ rows' = rows)
      ∨ (∃ stored, Stores rows stored ∧ stored ≤ record ∧ stored ≠ record
          ∧ rows' = completeAll record rows) := by
  cases hfind : at? record.name rows with
  | none =>
    rw [mergeType_of_free hfind] at h
    cases h
    exact .inl ⟨rfl, rfl⟩
  | some row =>
    refine .inr ?_
    cases hread : row.toRecord with
    | error e =>
      unfold mergeType typeChange at h
      rw [hfind] at h
      dsimp only at h
      rw [hread] at h
      cases h
    | ok stored =>
      have hname : stored.name = record.name :=
        (name_of_toRecord hread).trans (name_of_at? hfind)
      have hstored : Stores rows stored := ⟨row, hname ▸ hfind, hread⟩
      -- the verdict follows the order of the two definitions
      rcases merge_cases stored record hname with ⟨hle, -⟩ | ⟨hle, hnotle, -⟩ | ⟨-, -, hmerge⟩
      · have hholds : Holds rows record := ⟨stored, hstored, hle⟩
        rw [mergeType_of_holds hholds] at h
        cases h
        exact .inl ⟨hholds, rfl⟩
      · have hne : stored ≠ record := fun heq => hnotle (.inl heq.symm)
        rw [mergeType_of_le hstored hle hne] at h
        cases h
        exact .inr ⟨stored, hstored, hle, hne, rfl⟩
      · unfold mergeType at h
        rw [hfind, typeChange_of_merge hread, hmerge] at h
        cases h

/-- **Why a merge failed**: the stored row cannot be read, or neither the stored definition nor
the record says everything that the other one says. -/
theorem mergeType_error_cases {rows : List TypeRow} {record : TypeRecord} {e : LoadError}
    (h : mergeType rows record = .error e) :
    (∃ row cause, at? record.name rows = some row ∧ row.toRecord = .error cause
        ∧ e = .store cause)
      ∨ (e = .typeConflict record.name ∧ ∃ stored, Stores rows stored
          ∧ stored.name = record.name ∧ ¬ record ≤ stored ∧ ¬ stored ≤ record) := by
  cases hfind : at? record.name rows with
  | none =>
    rw [mergeType_of_free hfind] at h
    cases h
  | some row =>
    unfold mergeType at h
    rw [hfind, map_error] at h
    cases hread : row.toRecord with
    | error cause =>
      unfold typeChange at h
      dsimp only at h
      rw [hread] at h
      cases h
      exact .inl ⟨row, cause, rfl, hread, rfl⟩
    | ok stored =>
      have hname : stored.name = record.name :=
        (name_of_toRecord hread).trans (name_of_at? hfind)
      rw [typeChange_of_merge hread] at h
      -- only one of the three verdicts is an error
      rcases merge_cases stored record hname with hc | hc | hc
      · rw [hc.2] at h
        cases h
      · rw [hc.2.2] at h
        cases h
      · rw [hc.2.2] at h
        cases h
        exact .inr ⟨rfl, stored, ⟨row, hname ▸ hfind, hread⟩, hname, hc.1, hc.2.1⟩

/-! ## §3. Data types are absorbed. -/

theorem stores_append {rows : List TypeRow} {record : TypeRecord}
    (h : at? record.name rows = none) : Stores (rows ++ [record.toRow]) record := by
  refine ⟨record.toRow, ?_, toRecord_toRow record⟩
  rw [at?_append_singleton, h, name_toRow, if_pos rfl]
  rfl

theorem stores_completeAll {rows : List TypeRow} {stored record : TypeRecord}
    (hstored : Stores rows stored) (hle : stored ≤ record) :
    Stores (completeAll record rows) record := by
  obtain ⟨row, hfind, hread⟩ := hstored
  rw [name_eq_of_le hle] at hfind
  refine ⟨row.complete record, ?_, toRecord_complete hread (name_eq_of_le hle) (kind_eq_of_le hle)⟩
  rw [at?_completeAll, hfind]
  simp

/-- What was merged is held. -/
theorem holds_of_mergeType {rows rows' : List TypeRow} {record : TypeRecord}
    (h : mergeType rows record = .ok rows') : Holds rows' record := by
  rcases mergeType_cases h with ⟨hfree, rfl⟩ | ⟨hholds, rfl⟩ | ⟨stored, hstored, hle, -, rfl⟩
  · exact ⟨record, stores_append hfree, le_refl record⟩
  · exact hholds
  · exact ⟨record, stores_completeAll hstored hle, le_refl record⟩

/-- A change does not touch other names. -/
theorem at?_on_of_ne {name : String} {record : TypeRecord} (rows : List TypeRow)
    (h : name ≠ record.name) (change : TypeChange) :
    at? name (change.on record rows) = at? name rows := by
  cases change with
  | append =>
    show at? name (rows ++ [record.toRow]) = _
    rw [at?_append_singleton, if_neg (fun heq => h heq.symm), Option.or_none]
  | keep => rfl
  | complete =>
    show at? name (completeAll record rows) = _
    rw [at?_completeAll]
    simp [h]

theorem exists_change {rows rows' : List TypeRow} {record : TypeRecord}
    (h : mergeType rows record = .ok rows') :
    ∃ change, typeChange (at? record.name rows) record = .ok change
      ∧ rows' = change.on record rows := by
  unfold mergeType at h
  cases hchange : typeChange (at? record.name rows) record with
  | error e =>
    rw [hchange] at h
    cases h
  | ok change =>
    rw [hchange] at h
    cases h
    exact ⟨change, rfl, rfl⟩

/-- What is held stays held. -/
theorem holds_mono {rows rows' : List TypeRow} {held record : TypeRecord}
    (h : mergeType rows record = .ok rows') (hholds : Holds rows held) : Holds rows' held := by
  obtain ⟨stored, hstored, hle⟩ := hholds
  by_cases hname : stored.name = record.name
  · rcases mergeType_cases h with ⟨hfree, rfl⟩ | ⟨-, rfl⟩ | ⟨before, hbefore, hle', -, rfl⟩
    · obtain ⟨row, hfind, -⟩ := hstored
      rw [hname, hfree] at hfind
      cases hfind
    · exact ⟨stored, hstored, hle⟩
    · have heq : stored = before :=
        stores_unique hstored hbefore (hname.trans (name_eq_of_le hle').symm)
      exact ⟨record, stores_completeAll hbefore hle', TypeRecord.le_trans hle (heq ▸ hle')⟩
  · obtain ⟨change, -, rfl⟩ := exists_change h
    exact ⟨stored, stores_congr (at?_on_of_ne rows hname change).symm hstored, hle⟩

theorem mergeType_absorbing : Absorbing mergeType where
  again h := mergeType_of_holds (holds_of_mergeType h)
  stays h h' := mergeType_of_holds (holds_mono h' (holds_of_mergeType h))

/-! ## §4. Data types can be swapped. -/

/-- The same rows in some order, and under each name the same row is found. -/
def SameTypes (rows rows' : List TypeRow) : Prop :=
  rows.Perm rows' ∧ ∀ name, at? name rows = at? name rows'

/-- What is found after a change depends on what was found before it. -/
theorem at?_on_congr {name : String} {rows rows' : List TypeRow} (record : TypeRecord)
    (h : at? name rows = at? name rows') (change : TypeChange) :
    at? name (change.on record rows) = at? name (change.on record rows') := by
  cases change with
  | append =>
    show at? name (rows ++ [record.toRow]) = at? name (rows' ++ [record.toRow])
    rw [at?_append_singleton, at?_append_singleton, h]
  | keep => exact h
  | complete =>
    show at? name (completeAll record rows) = at? name (completeAll record rows')
    rw [at?_completeAll, at?_completeAll, h]

theorem sameTypes_on {rows rows' : List TypeRow} (record : TypeRecord) (h : SameTypes rows rows')
    (change : TypeChange) : SameTypes (change.on record rows) (change.on record rows') := by
  refine ⟨?_, fun name => at?_on_congr record (h.2 name) change⟩
  cases change with
  | append => exact h.1.append_right _
  | keep => exact h.1
  | complete => exact h.1.map _

theorem completeAll_append_of_ne {record other : TypeRecord} (rows : List TypeRow)
    (h : other.name ≠ record.name) :
    completeAll record (rows ++ [other.toRow]) = completeAll record rows ++ [other.toRow] := by
  unfold completeAll
  rw [List.map_append, List.map_singleton, name_toRow, if_neg h]

theorem completeAll_comm {a b : TypeRecord} (rows : List TypeRow) (h : a.name ≠ b.name) :
    completeAll b (completeAll a rows) = completeAll a (completeAll b rows) := by
  unfold completeAll
  rw [List.map_map, List.map_map]
  refine List.map_congr_left fun row _ => ?_
  show (if (if row.name = a.name then row.complete a else row).name = b.name then _ else _)
    = (if (if row.name = b.name then row.complete b else row).name = a.name then _ else _)
  by_cases ha : row.name = a.name
  · simp [ha, h]
  · by_cases hb : row.name = b.name
    · simp [hb, Ne.symm h]
    · simp [ha, hb]

/-- Changes under different names can be swapped. -/
theorem sameTypes_on_comm {a b : TypeRecord} (rows : List TypeRow) (h : a.name ≠ b.name)
    (change change' : TypeChange) :
    SameTypes (change'.on b (change.on a rows)) (change.on a (change'.on b rows)) := by
  constructor
  · cases change with
    | keep => exact .refl _
    | append =>
      cases change' with
      | keep => exact .refl _
      | append =>
        show ((rows ++ [a.toRow]) ++ [b.toRow]).Perm ((rows ++ [b.toRow]) ++ [a.toRow])
        rw [List.append_assoc, List.append_assoc]
        exact (List.Perm.swap b.toRow a.toRow []).append_left rows
      | complete => exact .of_eq (completeAll_append_of_ne rows h)
    | complete =>
      cases change' with
      | keep => exact .refl _
      | append => exact .of_eq (completeAll_append_of_ne rows (Ne.symm h)).symm
      | complete => exact .of_eq (completeAll_comm rows h)
  · intro name
    by_cases hname : name = a.name
    · have hother : name ≠ b.name := fun heq => h (hname.symm.trans heq)
      rw [at?_on_of_ne _ hother]
      exact at?_on_congr a (at?_on_of_ne rows hother change').symm change
    · rw [at?_on_of_ne (change'.on b rows) hname]
      exact at?_on_congr b (at?_on_of_ne rows hname change) change'

/-- Of two completions of one name the last one counts. -/
theorem completeAll_completeAll {a b : TypeRecord} (rows : List TypeRow) (h : a.name = b.name) :
    completeAll b (completeAll a rows) = completeAll b rows := by
  unfold completeAll
  rw [List.map_map]
  refine List.map_congr_left fun row _ => ?_
  show (if (if row.name = a.name then row.complete a else row).name = b.name then _ else _) = _
  by_cases hrow : row.name = b.name
  · simp [hrow, h, complete_complete]
  · simp [hrow, h]

/-- A name that is free is completed nowhere. -/
theorem completeAll_of_free {record : TypeRecord} {rows : List TypeRow}
    (h : at? record.name rows = none) : completeAll record rows = rows := by
  have hother : ∀ row ∈ rows,
      (if row.name = record.name then row.complete record else row) = row := by
    intro row hrow
    have hname := List.find?_eq_none.mp h row hrow
    rw [decide_eq_true_eq] at hname
    rw [if_neg hname]
  exact (List.map_congr_left hother).trans (List.map_id rows)

/-- Completing the row that was just appended is appending the completion. -/
theorem completeAll_append_of_le {a b : TypeRecord} {rows : List TypeRow}
    (h : at? b.name rows = none) (hle : a ≤ b) :
    completeAll b (rows ++ [a.toRow]) = rows ++ [b.toRow] := by
  have hrows := completeAll_of_free h
  unfold completeAll at hrows ⊢
  rw [List.map_append, hrows, List.map_singleton, name_toRow, if_pos (name_eq_of_le hle),
    complete_toRow (name_eq_of_le hle) (kind_eq_of_le hle)]

/-- A merge that meets a known definition: it is present, or it completes what is known. -/
theorem mergeType_cases_of_stores {rows t : List TypeRow} {x y : TypeRecord}
    (hstores : Stores rows x) (hname : x.name = y.name) (h : mergeType rows y = .ok t) :
    (y ≤ x ∧ t = rows) ∨ (x ≤ y ∧ x ≠ y ∧ t = completeAll y rows) := by
  rcases mergeType_cases h with ⟨hfree, -⟩ | ⟨⟨u, hu, hyu⟩, ht⟩ | ⟨u, hu, huy, hne, ht⟩
  · obtain ⟨row, hfind, -⟩ := hstores
    rw [hname, hfree] at hfind
    cases hfind
  · have hux : u = x := stores_unique hu hstores ((name_eq_of_le hyu).symm.trans hname.symm)
    subst hux
    exact .inl ⟨hyu, ht⟩
  · have hux : u = x := stores_unique hu hstores ((name_eq_of_le huy).trans hname.symm)
    subst hux
    exact .inr ⟨huy, hne, ht⟩

/-- Two definitions of one name lead to the same rows in either order. -/
theorem mergeType_swap {rows m t : List TypeRow} {x y : TypeRecord} (hname : x.name = y.name)
    (hx : mergeType rows x = .ok m) (hy : mergeType m y = .ok t) :
    ∃ m', mergeType rows y = .ok m' ∧ mergeType m' x = .ok t := by
  rcases mergeType_cases hx with ⟨hfree, rfl⟩ | ⟨hholds, rfl⟩ | ⟨s, hs, hsx, hsne, rfl⟩
  · -- the name was free: the larger of the two is appended in the end
    have hfree' : at? y.name rows = none := hname ▸ hfree
    have hstores := stores_append hfree
    have hstores' := stores_append hfree'
    refine ⟨rows ++ [y.toRow], mergeType_of_free hfree', ?_⟩
    rcases mergeType_cases_of_stores hstores hname hy with ⟨hyx, rfl⟩ | ⟨hxy, hne, rfl⟩
    · by_cases heq : y = x
      · rw [heq]
        exact mergeType_of_holds ⟨x, hstores, le_refl x⟩
      · rw [mergeType_of_le hstores' hyx heq, completeAll_append_of_le hfree hyx]
    · rw [completeAll_append_of_le hfree' hxy]
      exact mergeType_of_holds ⟨y, hstores', hxy⟩
  · -- the first was present: it is present after the second
    exact ⟨t, hy, mergeType_of_holds (holds_mono hy hholds)⟩
  · -- the first completed what is stored
    have hstores := stores_completeAll hs hsx
    rcases mergeType_cases_of_stores hstores hname hy with ⟨hyx, rfl⟩ | ⟨hxy, hne, rfl⟩
    · by_cases hys : y ≤ s
      · exact ⟨rows, mergeType_of_holds ⟨s, hs, hys⟩, hx⟩
      · -- everything below the first is a chain
        have hsy : s ≤ y := (le_or_le_of_le hsx hyx).resolve_right hys
        have hsney : s ≠ y := fun heq => hys (.inl heq.symm)
        refine ⟨completeAll y rows, mergeType_of_le hs hsy hsney, ?_⟩
        have hstores' := stores_completeAll hs hsy
        by_cases heq : y = x
        · rw [heq]
          exact mergeType_of_holds ⟨x, hstores, le_refl x⟩
        · rw [mergeType_of_le hstores' hyx heq, completeAll_completeAll rows hname.symm]
    · have hsy : s ≤ y := TypeRecord.le_trans hsx hxy
      have hsney : s ≠ y := fun heq => hne (TypeRecord.le_antisymm hxy (heq ▸ hsx))
      refine ⟨completeAll y rows, mergeType_of_le hs hsy hsney, ?_⟩
      rw [completeAll_completeAll rows hname]
      exact mergeType_of_holds ⟨y, stores_completeAll hs hsy, hxy⟩

theorem mergeType_of_change {rows : List TypeRow} {record : TypeRecord} {change : TypeChange}
    (h : typeChange (at? record.name rows) record = .ok change) :
    mergeType rows record = .ok (change.on record rows) := by
  unfold mergeType
  rw [h]
  rfl

/-- **Data types can be merged in any order**, up to the order of the rows. -/
theorem mergeType_swappable : Swappable mergeType SameTypes where
  refl _ := ⟨.refl _, fun _ => rfl⟩
  trans h h' := ⟨h.1.trans h'.1, fun name => (h.2 name).trans (h'.2 name)⟩
  congr {rows rows' t x} h hx := by
    obtain ⟨change, hchange, rfl⟩ := exists_change hx
    rw [h.2 x.name] at hchange
    exact ⟨change.on x rows', mergeType_of_change hchange, sameTypes_on x h change⟩
  swap {rows m t x y} hx hy := by
    by_cases hname : x.name = y.name
    · obtain ⟨m', hy', hx'⟩ := mergeType_swap hname hx hy
      exact ⟨m', t, hy', hx', .refl _, fun _ => rfl⟩
    · -- neither sees what the other did
      obtain ⟨change, hchange, rfl⟩ := exists_change hx
      obtain ⟨change', hchange', rfl⟩ := exists_change hy
      rw [at?_on_of_ne rows (Ne.symm hname) change] at hchange'
      refine ⟨change'.on y rows, change.on x (change'.on y rows), mergeType_of_change hchange',
        mergeType_of_change ?_, sameTypes_on_comm rows hname change change'⟩
      rw [at?_on_of_ne rows hname change']
      exact hchange

/-! ## §5. Rows that can be read. -/

namespace TypeRow

/-- Every row reads as a data type. -/
def Readable (rows : List TypeRow) : Prop :=
  ∀ row ∈ rows, ∃ record, row.toRecord = .ok record

/-- A completed row reads, whatever it was. -/
theorem exists_toRecord_complete (row : TypeRow) (record : TypeRecord) :
    ∃ completed, (row.complete record).toRecord = .ok completed := by
  unfold toRecord complete
  rw [decodeMembers?_encodeMembers]
  exact ⟨_, rfl⟩

theorem readTypes_of_readable {rows : List TypeRow} (h : Readable rows) :
    ∃ records, Database.readTypes rows = .ok records := by
  induction rows with
  | nil => exact ⟨[], rfl⟩
  | cons row rows ih =>
    obtain ⟨record, hrecord⟩ := h row List.mem_cons_self
    obtain ⟨records, hrecords⟩ := ih fun row' hrow' => h row' (List.mem_cons_of_mem row hrow')
    exact ⟨record :: records, bind_ok.mpr ⟨record, hrecord, bind_ok.mpr ⟨records, hrecords, rfl⟩⟩⟩

theorem readable_of_readTypes {rows : List TypeRow} {records : List TypeRecord}
    (h : Database.readTypes rows = .ok records) : Readable rows := by
  induction rows generalizing records with
  | nil =>
    intro row hrow
    cases hrow
  | cons row rows ih =>
    obtain ⟨record, hrecord, hrest⟩ := bind_ok.mp h
    obtain ⟨rest, hrest, -⟩ := bind_ok.mp hrest
    intro row' hrow'
    rcases List.mem_cons.mp hrow' with rfl | hrow'
    · exact ⟨record, hrecord⟩
    · exact ih hrest row' hrow'

end TypeRow

/-- The data types can be listed exactly if the table exists and every row reads. -/
theorem listTypes_ok_iff {db : Database} :
    (∃ records, db.listTypes = .ok records) ↔ ∃ rows, db.dataTypes = some rows ∧ Readable rows := by
  unfold Database.listTypes rowsOf
  cases db.dataTypes with
  | none =>
    constructor
    · intro h
      obtain ⟨records, h⟩ := h
      cases h
    · intro h
      obtain ⟨rows, h, -⟩ := h
      cases h
  | some rows =>
    have hsorted : Readable (rows.mergeSort TypeRow.listLe) ↔ Readable rows :=
      forall_congr' fun row => by rw [List.mem_mergeSort]
    constructor
    · intro h
      obtain ⟨records, h⟩ := h
      exact ⟨rows, rfl, hsorted.mp (readable_of_readTypes h)⟩
    · intro h
      obtain ⟨rows', h, hreadable⟩ := h
      cases h
      exact readTypes_of_readable (hsorted.mpr hreadable)

/-- Merging keeps rows readable. -/
theorem readable_of_mergeType {rows rows' : List TypeRow} {record : TypeRecord}
    (hreadable : Readable rows) (h : mergeType rows record = .ok rows') : Readable rows' := by
  intro row hrow
  rcases mergeType_cases h with ⟨-, rfl⟩ | ⟨-, rfl⟩ | ⟨stored, -, -, -, rfl⟩
  · rcases List.mem_append.mp hrow with hrow | hrow
    · exact hreadable row hrow
    · rw [List.mem_singleton.mp hrow]
      exact ⟨record, toRecord_toRow record⟩
  · exact hreadable row hrow
  · obtain ⟨before, hbefore, rfl⟩ := List.mem_map.mp hrow
    split
    · exact exists_toRecord_complete before record
    · exact hreadable before hbefore

/-- Among rows that can be read nothing but a conflict fails. -/
theorem mergeType_error {rows : List TypeRow} {record : TypeRecord} {e : LoadError}
    (hreadable : Readable rows) (h : mergeType rows record = .error e) :
    e = .typeConflict record.name := by
  rcases mergeType_error_cases h with ⟨row, cause, hfind, hfails, -⟩ | ⟨hconflict, -⟩
  · obtain ⟨stored, hread⟩ := hreadable row (mem_of_at? hfind)
    cases hfails.symm.trans hread
  · exact hconflict

end DebugMerge
