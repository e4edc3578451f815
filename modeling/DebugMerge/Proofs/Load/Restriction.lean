/-
  DebugMerge.Proofs.Load.Restriction
  ──────────────────────────────────
  **Restrictions are a filter in front of the merge.**

  A record of a category that is not allowed is passed over before anything is
  asked of it: it is not counted as a unit of work, it meets no checkpoint, it
  is neither placed nor looked up.  So a merge under restrictions is a merge
  without them of a file from which those records were removed, and the two
  differ in the count of the filtered records alone.

  The walk under restrictions is related to the walk without them by forgetting
  that count.  One record keeps the relation: an allowed record is the same step
  of both, and a filtered one is a step of the first that the relation does not
  see.  The induction on the records carries it through the four lists, whatever
  stands between the allowed records.

  Main definitions
    • `DebugInfo.restrictedTo`                  — a file without the filtered records
    • `Application.unfiltered`, `ApplyResult.withoutFiltered` — the count forgotten
  Main statements
    • `Application.offer_unfiltered`            — one record
    • `Application.applyRecords_unfiltered`     — the walk
    • `apply_restricted`                        — the whole merge
-/
import DebugMerge.Proofs.Load.Confluence
import DebugMerge.Proofs.Load.Tally

namespace DebugMerge

/-! ## §1. A file without the filtered records. -/

namespace Restrictions

@[simp] theorem allows_none (kind : RecordKind) : none.allows kind = true := by
  cases kind <;> rfl

end Restrictions

namespace DebugInfo

/-- The records of the allowed categories; a symbol belongs to the category of its scope. -/
def restrictedTo (info : DebugInfo) (restrictions : Restrictions) : DebugInfo where
  types := info.types.filter fun _ => restrictions.allows .dataType
  symbols := info.symbols.filter fun record => restrictions.allows record.scope.recordKind
  lines := info.lines.filter fun _ => restrictions.allows .lineNumber
  comments := info.comments.filter fun _ => restrictions.allows .comment

theorem records_restrictedTo (info : DebugInfo) (restrictions : Restrictions) :
    (info.restrictedTo restrictions).records = info.allowed restrictions := by
  simp only [allowed, records, restrictedTo, List.filter_append, List.filter_map]
  rfl

/-- The removed records are those that are not allowed. -/
theorem count_removed (info : DebugInfo) (restrictions : Restrictions) :
    (info.records.countP fun record => !restrictions.allows record.kind)
      + (info.restrictedTo restrictions).recordCount = info.recordCount := by
  have hallowed : (info.restrictedTo restrictions).recordCount
      = info.records.countP fun record => restrictions.allows record.kind := by
    rw [← length_records, records_restrictedTo, List.countP_eq_length_filter]
    rfl
  rw [hallowed, ← length_records, Nat.add_comm]
  simpa using (List.length_eq_countP_add_countP (l := info.records)
    fun record => restrictions.allows record.kind).symm

end DebugInfo

/-! ## §2. The count of the filtered records, forgotten. -/

/-- The merge in progress, as if no record had been filtered. -/
def Application.unfiltered (a : Application) : Application :=
  { a with applied := { a.applied with recordsFiltered := 0 } }

/-- The merge, as if no record had been filtered. -/
def ApplyResult.withoutFiltered (r : ApplyResult) : ApplyResult :=
  { r with result := r.result.map fun p => (p.1, { p.2 with recordsFiltered := 0 }) }

namespace Application

/-- To filter a record is nothing but to count it. -/
@[simp] theorem unfiltered_filter (a : Application) : a.filter.unfiltered = a.unfiltered := rfl

@[simp] theorem unfiltered_tick (a : Application) : a.tick.unfiltered = a.unfiltered.tick := rfl

@[simp] theorem unfiltered_seen (a : Application) : a.unfiltered.seen = a.seen := rfl

/-- **One record**: what it does has nothing to do with how many were filtered. -/
theorem offer_unfiltered (site : Site) (a : Application) (record : Record) :
    a.unfiltered.offer site record = (a.offer site record).map unfiltered := by
  cases record with
  | dataType record =>
    show a.unfiltered.offerType record = (a.offerType record).map unfiltered
    unfold offerType
    rw [show a.unfiltered.db = a.db from rfl]
    rcases a.db.upsertType record with e | ⟨db, _ | _ | _ | _⟩ <;> rfl
  | symbol record =>
    show a.unfiltered.offerSymbol site record = (a.offerSymbol site record).map unfiltered
    unfold offerSymbol
    rcases place site.imageBase record.rva site.blocks with _ | address
    · rfl
    · dsimp only
      rw [show a.unfiltered.db = a.db from rfl]
      rcases a.db.addSymbol address record with e | ⟨db, _ | _⟩ <;> rfl
  | line record =>
    show a.unfiltered.offerLine site record = (a.offerLine site record).map unfiltered
    unfold offerLine
    rcases place site.imageBase record.rva site.blocks with _ | address
    · rfl
    · dsimp only
      rw [show a.unfiltered.db = a.db from rfl]
      rcases a.db.addLine address record.file record.line with e | ⟨db, _ | _⟩ <;> rfl
  | comment record =>
    show a.unfiltered.offerComment site record = (a.offerComment site record).map unfiltered
    unfold offerComment
    rcases place site.imageBase record.rva site.blocks with _ | address
    · rfl
    · dsimp only
      rw [show a.unfiltered.db = a.db from rfl]
      rcases a.db.addComment address record.text with e | ⟨db, _ | _⟩ <;> rfl

/-- **The walk** without restrictions over the allowed records is the walk under restrictions
over all of them: it ends in the same way, after as many units of work. -/
theorem applyRecords_unfiltered (site : Site) (restrictions : Restrictions)
    (checkpoint : Checkpoint) (a : Application) (records : List Record) :
    applyRecords site .none checkpoint a.unfiltered
        (records.filter fun record => restrictions.allows record.kind)
      = Prod.map unfiltered id (applyRecords site restrictions checkpoint a records) := by
  induction records generalizing a with
  | nil => rfl
  | cons record records ih =>
    by_cases hallowed : restrictions.allows record.kind = true
    · -- one step of both: the same count, the same checkpoint, the same record
      rw [List.filter_cons, if_pos hallowed]
      unfold applyRecords
      rw [if_pos (Restrictions.allows_none _), if_pos hallowed]
      dsimp only
      rw [← unfiltered_tick, unfiltered_seen, offer_unfiltered]
      by_cases hstops : checkpoint.stops a.tick.seen = true
      · rw [if_pos hstops, if_pos hstops]
        rfl
      · rw [if_neg hstops, if_neg hstops]
        cases a.tick.offer site record with
        | error e => rfl
        | ok a' => exact ih a'
    · -- a step of the restricted walk alone, which only counts
      rw [List.filter_cons, if_neg hallowed, ← unfiltered_filter]
      conv_rhs => unfold applyRecords
      rw [if_neg hallowed]
      exact ih a.filter

end Application

/-! ## §3. The whole merge. -/

/-- What a merge does with a file under restrictions, it does with the allowed records of the
file without restrictions. -/
theorem apply_restrictedTo (options : ApplyOptions) (info : DebugInfo) (imageBase : UInt64)
    (isSet : Nat → Bool) (db : Database) :
    apply { options with restrictions := .none } (info.restrictedTo options.restrictions) imageBase
        isSet db
      = (apply options info imageBase isSet db).withoutFiltered := by
  unfold apply
  cases db.blocks with
  | error e => rfl
  | ok blocks =>
    dsimp only
    have hwalk := Application.applyRecords_unfiltered ⟨imageBase, blocks⟩ options.restrictions
      ⟨options.checkInterval.toNat, isSet⟩ (.start db) info.records
    rw [show (Application.start db).unfiltered = .start db from rfl] at hwalk
    rw [DebugInfo.records_restrictedTo, DebugInfo.allowed, hwalk]
    obtain ⟨a, ending⟩ := applyRecords _ _ _ _ info.records
    cases ending <;> rfl

/-- **Restrictions are exactly a filter in front of the merge.**  A merge under restrictions has
the outcome, the database, the messages and the counters of a merge without restrictions of the
file from which the records that are not allowed were removed; only the count of the filtered
records differs, and unless the merge was stopped it is the number of the removed records.  So
two files that differ in filtered records are merged alike; and both walks end in the same way,
after as many units of work. -/
theorem apply_restricted (options : ApplyOptions) (info : DebugInfo) (imageBase : UInt64)
    (isSet : Nat → Bool) (db : Database) :
    apply { options with restrictions := .none } (info.restrictedTo options.restrictions) imageBase
          isSet db
        = (apply options info imageBase isSet db).withoutFiltered
      ∧ (∀ db' applied, (apply options info imageBase isSet db).result = .ok (db', applied) →
          applied.cancelled = false →
            applied.recordsFiltered + (info.restrictedTo options.restrictions).recordCount
              = info.recordCount)
      ∧ (∀ info' : DebugInfo,
          info'.restrictedTo options.restrictions = info.restrictedTo options.restrictions →
            (apply options info' imageBase isSet db).withoutFiltered
              = (apply options info imageBase isSet db).withoutFiltered)
      ∧ ∀ site checkpoint, ∃ plain restricted ending,
          applyRecords site .none checkpoint (.start db)
              (info.restrictedTo options.restrictions).records = (plain, ending)
            ∧ applyRecords site options.restrictions checkpoint (.start db) info.records
              = (restricted, ending)
            ∧ plain.seen = restricted.seen := by
  refine ⟨apply_restrictedTo options info imageBase isSet db, ?_, ?_, ?_⟩
  · intro db' applied h hrunning
    obtain ⟨blocks, hblocks⟩ := blocks_of_apply h
    rw [(apply_passesOver hblocks h hrunning).filtered]
    exact info.count_removed options.restrictions
  · intro info' hsame
    rw [← apply_restrictedTo options info', ← apply_restrictedTo options info, hsame]
  · intro site checkpoint
    rw [DebugInfo.records_restrictedTo]
    exact ⟨_, _, _, Application.applyRecords_unfiltered site _ checkpoint (.start db) info.records,
      rfl, rfl⟩

/-- A file with a definition that contradicts another, and a symbol outside memory. -/
def clashing : DebugInfo :=
  ⟨[⟨"Node", .struct, 8, []⟩, ⟨"Node", .enum, 4, []⟩],
    [⟨"lost", 8192, none, .data, .globalTable⟩, ⟨"main", 16, none, .function, .publicTable⟩],
    [], []⟩

/-- The store with the public symbol of that file. -/
def withMain : Database :=
  { withText with symbols := some [⟨16, "main", "function", "public", none, none⟩] }

/-- Restricted to public symbols the file is merged: neither the contradiction nor the symbol
outside memory is noticed, and three records were removed. -/
theorem apply_restricted_on_clashing :
    ∃ db' applied,
      apply ⟨.only [.publicSymbol], 1⟩ clashing 0 (fun _ => false) withText
          = ⟨[], .ok (db', applied)⟩
        ∧ apply ⟨.none, 1⟩ ⟨[], [⟨"main", 16, none, .function, .publicTable⟩], [], []⟩ 0
            (fun _ => false) withText = ⟨[], .ok (db', { applied with recordsFiltered := 0 })⟩
        ∧ applied.recordsFiltered = 3
        ∧ (apply ⟨.none, 1⟩ clashing 0 (fun _ => false) withText).result
          = .error (.typeConflict "Node") := by
  have hlog : (apply ⟨.only [.publicSymbol], 1⟩ clashing 0 (fun _ => false) withText).log = [] := by
    decide +kernel
  have hresult : (apply ⟨.only [.publicSymbol], 1⟩ clashing 0 (fun _ => false) withText).result
      = .ok (withMain, ⟨0, 0, 1, 0, 0, 0, 0, 3, false⟩) := by
    decide +kernel
  obtain ⟨hrestricted, hcount, -, -⟩ :=
    apply_restricted ⟨.only [.publicSymbol], 1⟩ clashing 0 (fun _ => false) withText
  have h := congrArg₂ ApplyResult.mk hlog hresult
  refine ⟨_, _, h, ?_, ?_, by decide +kernel⟩
  · exact hrestricted.trans (congrArg ApplyResult.withoutFiltered h)
  · have hremoved := hcount _ _ hresult rfl
    exact Nat.add_right_cancel (m := 1) hremoved

end DebugMerge
