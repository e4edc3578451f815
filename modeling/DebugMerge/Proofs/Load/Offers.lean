/-
  DebugMerge.Proofs.Load.Offers
  ─────────────────────────────
  **Everything that one record can do to a merge.**

  A record that does not fail the merge takes one of nine ways through it: a
  data type is known or changes its table, a symbol lies outside memory, is new
  or is known, a source line or a comment is new or makes no difference.  The
  ways are written down once, each with all that it changes, so what is kept by
  a merge is proved way by way.

  Main definitions
    • `Application.Offers`           — the ways of one record
  Main statements
    • `Database.addRow_new`          — a new row stands at the end of its table
    • `Application.offer_cases`      — there are no other ways
    • `Application.rel_of_complete`  — from one record to a complete walk
-/
import DebugMerge.Proofs.Load.Merging

namespace DebugMerge

/-! ## §1. Tables that grow. -/

/-- A table with one more row is another table. -/
theorem append_singleton_ne {α : Type} (rows : List α) (row : α) : rows ++ [row] ≠ rows := by
  intro heq
  have hlength := congrArg List.length heq
  rw [List.length_append, List.length_singleton] at hlength
  omega

/-- A completion changes the rows: they store the completing record, and did not before. -/
theorem completeAll_ne {rows : List TypeRow} {stored record : TypeRecord}
    (hstored : TypeRow.Stores rows stored) (hle : stored ≤ record) (hne : stored ≠ record) :
    TypeRow.completeAll record rows ≠ rows := by
  intro heq
  have hafter := stores_completeAll hstored hle
  rw [heq] at hafter
  exact hne (TypeRow.stores_unique hstored hafter (TypeRecord.name_eq_of_le hle))

namespace Database

/-- A row that is new stands at the end of its table. -/
theorem addRow_new {α κ : Type} [BEq κ] {key : α → κ} {table : Table} {rows : Option (List α)}
    {withRows : Option (List α) → Database} {row : α} {db : Database}
    (h : addRow key table rows withRows row = .ok (db, true)) :
    ∃ old, rows = some old ∧ db = withRows (some (old ++ [row])) := by
  cases rows with
  | none => cases h
  | some old =>
    have hadd : addRow key table (some old) withRows row
        = .ok (withRows (some (appendNew (fun r => key r == key row) row old).1),
          (appendNew (fun r => key r == key row) row old).2) := rfl
    rw [hadd] at h
    unfold appendNew at h
    split at h
    · cases h
    · cases h
      exact ⟨old, rfl, rfl⟩

end Database

/-! ## §2. One record. -/

namespace Application

/-- The ways that a record takes through a merge. -/
inductive Offers (site : Site) (a : Application) : Record → Application → Prop
  | typeKnown {record : TypeRecord} (h : a.db.upsertType record = .ok (a.db, .existing)) :
      Offers site a (.dataType record)
        { a with applied := { a.applied with typesExisting := a.applied.typesExisting + 1 } }
  | typeChanged {record : TypeRecord} {rows : List TypeRow} {verdict : TypeInsert}
      (hne : some rows ≠ a.db.dataTypes)
      (h : a.db.upsertType record = .ok (a.db.withTypes (some rows), verdict)) :
      Offers site a (.dataType record)
        { a with
          db := a.db.withTypes (some rows)
          applied := { a.applied with typesAdded := a.applied.typesAdded + 1 } }
  | symbolUnplaced {record : SymbolRecord}
      (hplace : place site.imageBase record.rva site.blocks = none) :
      Offers site a (.symbol record)
        { a with
          log := a.log ++ [unplacedMessage site record]
          applied := { a.applied with symbolsSkipped := a.applied.symbolsSkipped + 1 } }
  | symbolNew {record : SymbolRecord} {address : UInt64} {rows : List SymbolRow}
      (hplace : place site.imageBase record.rva site.blocks = some address)
      (hrows : a.db.symbols = some rows) :
      Offers site a (.symbol record)
        { a with
          db := a.db.withSymbols (some (rows ++ [record.rowAt address]))
          applied := { a.applied with symbolsAdded := a.applied.symbolsAdded + 1 } }
  | symbolKnown {record : SymbolRecord} {address : UInt64} {rows : List SymbolRow}
      (hplace : place site.imageBase record.rva site.blocks = some address)
      (hrows : a.db.symbols = some rows) :
      Offers site a (.symbol record)
        { a with
          db := a.db.withSkips (Database.passOver rows.length a.db.symbolSkips)
          applied := { a.applied with symbolsExisting := a.applied.symbolsExisting + 1 } }
  | lineNew {record : LineRecord} {row : LineRow} {rows : List LineRow}
      (hrows : a.db.lineNumbers = some rows) :
      Offers site a (.line record)
        { a with
          db := a.db.withLines (some (rows ++ [row]))
          applied := { a.applied with linesAdded := a.applied.linesAdded + 1 } }
  | lineKept {record : LineRecord} : Offers site a (.line record) a
  | commentNew {record : CommentRecord} {row : CommentRow} {rows : List CommentRow}
      (hrows : a.db.comments = some rows) :
      Offers site a (.comment record)
        { a with
          db := a.db.withComments (some (rows ++ [row]))
          applied := { a.applied with commentsAdded := a.applied.commentsAdded + 1 } }
  | commentKept {record : CommentRecord} : Offers site a (.comment record) a

variable {site : Site} {a a' : Application}

/-- A data type is known, or its table is another one afterwards. -/
theorem offerType_cases {record : TypeRecord} (h : a.offerType record = .ok a') :
    Offers site a (.dataType record) a' := by
  unfold offerType at h
  cases hrows : a.db.dataTypes with
  | none =>
    rw [Database.upsertType_missing hrows] at h
    cases h
  | some rows =>
    have hchanged : ∀ rows', rows' ≠ rows → some rows' ≠ a.db.dataTypes := by
      intro rows' hne
      rw [hrows]
      exact fun heq => hne (Option.some.inj heq)
    cases hfind : TypeRow.at? record.name rows with
    | none =>
      have hupsert := Database.upsertType_of_free hrows hfind
      rw [hupsert] at h
      cases h
      exact .typeChanged (hchanged _ (append_singleton_ne _ _)) hupsert
    | some row =>
      cases hread : row.toRecord with
      | error e =>
        rw [Database.upsertType_of_unreadable hrows hfind hread] at h
        cases h
      | ok stored =>
        have hname : stored.name = record.name :=
          (TypeRow.name_of_toRecord hread).trans (TypeRow.name_of_at? hfind)
        have hstores : TypeRow.Stores rows stored := ⟨row, hname ▸ hfind, hread⟩
        have hupsert := Database.upsertType_of_taken hrows hfind hread
        -- present, completed, or a conflict
        rcases TypeRecord.merge_cases stored record hname with hc | ⟨hle, hnot, hc⟩ | hc
        · rw [hc.2] at hupsert
          rw [hupsert] at h
          cases h
          exact .typeKnown hupsert
        · have hne : stored ≠ record := fun heq => hnot (.inl heq.symm)
          rw [hc] at hupsert
          rw [hupsert] at h
          cases h
          exact .typeChanged (hchanged _ (completeAll_ne hstores hle hne)) hupsert
        · rw [hupsert, hc.2.2] at h
          cases h

/-- A symbol lies outside memory, is new, or is known. -/
theorem offerSymbol_cases {record : SymbolRecord} (h : a.offerSymbol site record = .ok a') :
    Offers site a (.symbol record) a' := by
  unfold offerSymbol at h
  cases hplace : place site.imageBase record.rva site.blocks with
  | none =>
    rw [hplace] at h
    cases h
    exact .symbolUnplaced hplace
  | some address =>
    rw [hplace] at h
    dsimp only at h
    cases hrows : a.db.symbols with
    | none =>
      rw [Database.addSymbol_missing hrows] at h
      cases h
    | some rows =>
      rcases Database.addSymbol_cases hrows address record with ⟨-, hadd⟩ | ⟨-, hadd⟩
      · rw [hadd] at h
        cases h
        exact .symbolKnown hplace hrows
      · rw [hadd] at h
        cases h
        exact .symbolNew hplace hrows

/-- A source line is new, or nothing happens. -/
theorem offerLine_cases {record : LineRecord} (h : a.offerLine site record = .ok a') :
    Offers site a (.line record) a' := by
  unfold offerLine at h
  split at h
  · cases h
    exact .lineKept
  · rw [Database.addLine_eq] at h
    split at h
    · cases h
    · next db hadd =>
      cases h
      obtain ⟨rows, hrows, rfl⟩ := Database.addRow_new hadd
      exact .lineNew hrows
    · cases h
      exact .lineKept

/-- A comment is new, or nothing happens. -/
theorem offerComment_cases {record : CommentRecord} (h : a.offerComment site record = .ok a') :
    Offers site a (.comment record) a' := by
  unfold offerComment at h
  split at h
  · cases h
    exact .commentKept
  · rw [Database.addComment_eq] at h
    split at h
    · cases h
    · next db hadd =>
      cases h
      obtain ⟨rows, hrows, rfl⟩ := Database.addRow_new hadd
      exact .commentNew hrows
    · cases h
      exact .commentKept

/-- **There are no other ways** through a merge. -/
theorem offer_cases {record : Record} (h : a.offer site record = .ok a') :
    Offers site a record a' := by
  cases record with
  | dataType record => exact offerType_cases h
  | symbol record => exact offerSymbol_cases h
  | line record => exact offerLine_cases h
  | comment record => exact offerComment_cases h

/-! ## §3. A complete walk. -/

/-- **What is kept record by record is kept by a complete walk.**  A filtered record is only
counted; an allowed one is counted as a unit of work and offered. -/
theorem rel_of_complete {restrictions : Restrictions} {checkpoint : Checkpoint}
    {R : List Record → Application → Application → Prop} (hnil : ∀ a, R [] a a)
    (hfiltered : ∀ {record rest a a'}, restrictions.allows record.kind = false →
      R rest (filter a) a' → R (record :: rest) a a')
    (hoffered : ∀ {record rest a m a'}, restrictions.allows record.kind = true →
      offer site (tick a) record = .ok m → R rest m a' → R (record :: rest) a a')
    {records : List Record}
    (h : applyRecords site restrictions checkpoint a records = (a', .complete)) :
    R records a a' := by
  induction records generalizing a with
  | nil =>
    cases h
    exact hnil a'
  | cons record records ih =>
    unfold applyRecords at h
    by_cases hallowed : restrictions.allows record.kind = true
    · rw [if_pos hallowed] at h
      dsimp only at h
      -- neither a checkpoint nor a failure ends the walk here
      split at h
      · cases h
      · split at h
        · cases h
        · next m hoffer => exact hoffered hallowed hoffer (ih h)
    · rw [if_neg hallowed] at h
      exact hfiltered (Bool.not_eq_true _ ▸ hallowed) (ih h)

end Application

end DebugMerge
