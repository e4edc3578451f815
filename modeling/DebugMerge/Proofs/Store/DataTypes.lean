/-
  DebugMerge.Proofs.Store.DataTypes
  ─────────────────────────────────
  **Offering data types to the table.**

  A data type is stored as a row whose member list is a text; what was stored
  reads back.  Offering a record to the table appends a row, completes the rows
  of its name, or changes nothing, and the verdict depends on the stored
  definition alone.

  A forward declaration is meant to conflict with nothing.  It does conflict
  with a definition of another kind, because kinds are compared before anything
  else; this is the only exception.

  Main statements
    • `TypeRecord.toRecord_toRow`, `TypeRow.toRecord_complete` — rows read back
    • `Database.upsertType_eq`                      — what an offer does
    • `Database.upsertType_conflict_iff`            — exactly when it conflicts
-/
import DebugMerge.Proofs.Records.RoundTrip
import DebugMerge.Proofs.Store.TypeOrder
import DebugMerge.Store.Schema

namespace DebugMerge

/-! ## §1. Rows read back. -/

/-- A stored data type reads back. -/
theorem TypeRecord.toRecord_toRow (record : TypeRecord) : record.toRow.toRecord = .ok record := by
  unfold TypeRow.toRecord TypeRecord.toRow
  rw [decodeMembers?_encodeMembers]
  show Except.ok (TypeRecord.mk _ ((TypeKind.ofWord? record.kind.word).getD .struct) _ _) = _
  rw [TypeKind.ofWord?_word]
  rfl

@[simp] theorem TypeRecord.name_toRow (record : TypeRecord) :
    record.toRow.name = record.name := rfl

namespace TypeRow

/-- A row that reads has its own name. -/
theorem name_of_toRecord {row : TypeRow} {record : TypeRecord} (h : row.toRecord = .ok record) :
    record.name = row.name := by
  unfold toRecord at h
  split at h
  · cases h
  · injection h with h
    rw [← h]

/-- **A completed row reads back as the completing record**, if the two have one name and
one kind. -/
theorem toRecord_complete {row : TypeRow} {stored record : TypeRecord}
    (h : row.toRecord = .ok stored) (hname : stored.name = record.name)
    (hkind : stored.kind = record.kind) : (row.complete record).toRecord = .ok record := by
  unfold toRecord at h
  split at h
  · cases h
  · injection h with h
    subst h
    unfold toRecord complete
    rw [decodeMembers?_encodeMembers]
    exact congrArg Except.ok (TypeRecord.eq_of_parts hname hkind rfl rfl)

@[simp] theorem name_complete (record : TypeRecord) (row : TypeRow) :
    (row.complete record).name = row.name := rfl

/-- Completing twice is completing once, with what came last. -/
theorem complete_complete (a b : TypeRecord) (row : TypeRow) :
    (row.complete a).complete b = row.complete b := rfl

/-- A row that was stored from a record of one name and kind completes to the other
record's row. -/
theorem complete_toRow {a b : TypeRecord} (hname : a.name = b.name) (hkind : a.kind = b.kind) :
    a.toRow.complete b = b.toRow := by
  unfold complete TypeRecord.toRow
  rw [hname, hkind]

/-! ## §2. The table of data types. -/

/-- The row under a name. -/
def at? (name : String) (rows : List TypeRow) : Option TypeRow :=
  rows.find? fun row => row.name = name

/-- The rows with every one of the record's name completed. -/
def completeAll (record : TypeRecord) (rows : List TypeRow) : List TypeRow :=
  rows.map fun row => if row.name = record.name then row.complete record else row

theorem name_of_at? {name : String} {rows : List TypeRow} {row : TypeRow}
    (h : at? name rows = some row) : row.name = name := by
  have := List.find?_some h
  simpa using this

theorem mem_of_at? {name : String} {rows : List TypeRow} {row : TypeRow}
    (h : at? name rows = some row) : row ∈ rows :=
  List.mem_of_find?_eq_some h

/-- After an append the new row is found under its name, if the name was free. -/
theorem at?_append_singleton (name : String) (rows : List TypeRow) (row : TypeRow) :
    at? name (rows ++ [row])
      = (at? name rows).or (if row.name = name then some row else none) := by
  unfold at?
  rw [List.find?_append]
  by_cases h : row.name = name <;> simp [h]

/-- Completion acts on the row that is found. -/
theorem at?_completeAll (name : String) (record : TypeRecord) (rows : List TypeRow) :
    at? name (completeAll record rows)
      = (at? name rows).map fun row => if name = record.name then row.complete record else row := by
  unfold at? completeAll
  induction rows with
  | nil => rfl
  | cons row rows ih =>
    rw [List.map_cons, List.find?_cons, List.find?_cons]
    have hname : (if row.name = record.name then row.complete record else row).name = row.name := by
      split <;> rfl
    rw [hname]
    by_cases h : row.name = name
    · simp [h]
    · simp [h, ih]

end TypeRow

/-! ## §3. What an offer does. -/

namespace Database

variable {db : Database} {rows : List TypeRow} {record : TypeRecord}

/-- **What an offer does**: a record under a free name is appended; under a taken name it
meets the stored definition, and only a completion changes rows. -/
theorem upsertType_eq (hrows : db.dataTypes = some rows) :
    db.upsertType record
      = (TypeRow.at? record.name rows).elim
        (.ok ({ db with dataTypes := some (rows ++ [record.toRow]) }, TypeInsert.added))
        fun row => do
          let stored ← row.toRecord
          return (if stored.merge record = .replaced
              then { db with dataTypes := some (TypeRow.completeAll record rows) } else db,
            stored.merge record) := by
  unfold upsertType rowsOf TypeRow.at?
  rw [hrows]
  dsimp only [bind, Except.bind]
  cases rows.find? fun row => decide (row.name = record.name) with
  | none => rfl
  | some row =>
    dsimp only [Option.elim]
    cases row.toRecord with
    | error e => rfl
    | ok stored =>
      -- a verdict other than a completion keeps the database
      dsimp only
      cases stored.merge record <;> rfl

/-- A record whose name is free is stored. -/
theorem upsertType_of_free (hrows : db.dataTypes = some rows)
    (hfind : TypeRow.at? record.name rows = none) :
    db.upsertType record
      = .ok ({ db with dataTypes := some (rows ++ [record.toRow]) }, .added) := by
  rw [upsertType_eq hrows, hfind]
  rfl

/-- A record whose name is taken meets the stored definition. -/
theorem upsertType_of_taken {row : TypeRow} {stored : TypeRecord}
    (hrows : db.dataTypes = some rows) (hfind : TypeRow.at? record.name rows = some row)
    (hread : row.toRecord = .ok stored) :
    db.upsertType record
      = .ok (if stored.merge record = .replaced
          then { db with dataTypes := some (TypeRow.completeAll record rows) } else db,
        stored.merge record) := by
  rw [upsertType_eq hrows, hfind]
  show row.toRecord.bind _ = _
  rw [hread]
  rfl

/-- A row that cannot be read fails every offer of its name. -/
theorem upsertType_of_unreadable {row : TypeRow} {e : StoreError}
    (hrows : db.dataTypes = some rows) (hfind : TypeRow.at? record.name rows = some row)
    (hread : row.toRecord = .error e) : db.upsertType record = .error e := by
  rw [upsertType_eq hrows, hfind]
  show row.toRecord.bind _ = _
  rw [hread]
  rfl

/-- Without the table there is nothing to offer to. -/
theorem upsertType_missing (hrows : db.dataTypes = none) :
    db.upsertType record = .error (.missingTable .dataTypes) := by
  unfold upsertType rowsOf
  rw [hrows]
  rfl

end Database

/-! ## §4. Conflicts. -/

namespace TypeRecord

/-- Neither definition is a forward declaration, and no definition unites them. -/
def Clashes (stored offered : TypeRecord) : Prop :=
  stored.isPlaceholder = false ∧ offered.isPlaceholder = false ∧ ¬ Reconcilable stored offered

/-- One of two definitions of different kinds is a forward declaration. -/
def IsForeignForward (stored offered : TypeRecord) : Prop :=
  (stored.isPlaceholder = true ∨ offered.isPlaceholder = true) ∧ stored.kind ≠ offered.kind

/-- Definitions conflict if they clash, and besides only if a forward declaration meets
another kind. -/
theorem merge_eq_conflict_iff_clashes (stored offered : TypeRecord)
    (hname : stored.name = offered.name) :
    stored.merge offered = .conflict stored
      ↔ Clashes stored offered ∨ IsForeignForward stored offered := by
  rw [merge_eq_conflict_iff stored offered hname]
  unfold Clashes IsForeignForward
  constructor
  · intro h
    rcases h with hkind | h
    · by_cases hforward : stored.isPlaceholder = true ∨ offered.isPlaceholder = true
      · exact .inr ⟨hforward, hkind⟩
      · rw [not_or, Bool.not_eq_true, Bool.not_eq_true] at hforward
        exact .inl ⟨hforward.1, hforward.2, fun h => hkind h.1⟩
    · exact .inl h
  · intro h
    rcases h with h | h
    · exact .inr h
    · exact .inl h.2

/-- A clash is never between a forward declaration and another kind. -/
theorem not_isForeignForward_of_clashes {stored offered : TypeRecord}
    (h : Clashes stored offered) : ¬ IsForeignForward stored offered := by
  intro h
  rcases h with ⟨hforward | hforward, -⟩
  · rw [h.1] at hforward
    exact Bool.false_ne_true hforward
  · rw [h.2.1] at hforward
    exact Bool.false_ne_true hforward

end TypeRecord

namespace Database

open TypeRecord in
/-- **Exactly when an offer conflicts**: the definitions clash, or a forward declaration
meets another kind.  So the verdict is a conflict for clashes alone exactly if no forward
declaration meets another kind. -/
theorem upsertType_conflict_iff (db : Database) (rows : List TypeRow) (row : TypeRow)
    (stored offered : TypeRecord) (hrows : db.dataTypes = some rows)
    (hfind : TypeRow.at? offered.name rows = some row) (hread : row.toRecord = .ok stored) :
    ∃ after verdict, db.upsertType offered = .ok (after, verdict)
      ∧ ((∃ existing, verdict = .conflict existing)
          ↔ Clashes stored offered ∨ IsForeignForward stored offered)
      ∧ (((∃ existing, verdict = .conflict existing) ↔ Clashes stored offered)
          ↔ ¬ IsForeignForward stored offered) := by
  have hname : stored.name = offered.name :=
    (TypeRow.name_of_toRecord hread).trans (TypeRow.name_of_at? hfind)
  have hiff : (∃ existing, stored.merge offered = .conflict existing)
      ↔ Clashes stored offered ∨ IsForeignForward stored offered := by
    rw [← merge_eq_conflict_iff_clashes stored offered hname]
    constructor
    · intro h
      obtain ⟨existing, h⟩ := h
      rcases merge_cases stored offered hname with hc | hc | hc
      · rw [hc.2] at h
        cases h
      · rw [hc.2.2] at h
        cases h
      · exact hc.2.2
    · exact fun h => ⟨stored, h⟩
  refine ⟨_, _, upsertType_of_taken hrows hfind hread, hiff, ?_⟩
  rw [hiff]
  constructor
  · intro h hforeign
    exact not_isForeignForward_of_clashes (h.mp (.inr hforeign)) hforeign
  · intro h
    exact ⟨fun hc => hc.resolve_right h, .inl⟩

/-- A new database with one data type. -/
def holding (record : TypeRecord) : Database :=
  { fresh with dataTypes := some [record.toRow] }

/-- A stored forward declaration of a struct meets a class: a conflict without a clash. -/
theorem upsertType_conflict_iff_at_forward :
    ∃ after verdict,
      (holding ⟨"Node", .struct, 0, []⟩).upsertType ⟨"Node", .class, 16, []⟩ = .ok (after, verdict)
        ∧ (∃ existing, verdict = .conflict existing)
        ∧ ¬ TypeRecord.Clashes ⟨"Node", .struct, 0, []⟩ ⟨"Node", .class, 16, []⟩ := by
  have hforeign : TypeRecord.IsForeignForward ⟨"Node", .struct, 0, []⟩ ⟨"Node", .class, 16, []⟩ :=
    ⟨.inl rfl, by decide⟩
  obtain ⟨after, verdict, heq, hconflict, -⟩ :=
    upsertType_conflict_iff (holding ⟨"Node", .struct, 0, []⟩) _ _ _ ⟨"Node", .class, 16, []⟩
      rfl rfl (TypeRecord.toRecord_toRow _)
  exact ⟨after, verdict, heq, hconflict.mpr (.inr hforeign), fun h =>
    TypeRecord.not_isForeignForward_of_clashes h hforeign⟩

/-- Conflicts are not the clashes: the offer of the class is refused, although the stored
forward declaration clashes with nothing. -/
theorem conflict_with_forward_declaration :
    (holding ⟨"Node", .struct, 0, []⟩).upsertType ⟨"Node", .class, 16, []⟩
        = .ok (holding ⟨"Node", .struct, 0, []⟩, .conflict ⟨"Node", .struct, 0, []⟩)
      ∧ ¬ TypeRecord.Clashes ⟨"Node", .struct, 0, []⟩ ⟨"Node", .class, 16, []⟩ := by
  constructor
  · have hread := TypeRecord.toRecord_toRow ⟨"Node", .struct, 0, []⟩
    rw [upsertType_of_taken rfl rfl hread]
    rfl
  · exact fun h => absurd h.1 (by decide)

end Database

end DebugMerge
