/-
  DebugMerge.Proofs.Load.Tally
  ────────────────────────────
  **What a merge counts and logs.**

  A record counts as added exactly if it changes a table; a known symbol passes
  a number over, but changes no row.  What is passed
  over does not depend on the database at all: which records are not allowed is
  a matter of the restrictions, and which symbols lie outside memory, with the
  messages about them, is a matter of the site.  So a file that was merged
  before is counted and logged as it was then, except that nothing is added.

  Main statements
    • `Application.offer_tallied`           — added exactly if something changes
    • `Application.tallies_of_complete`     — what is passed over and logged
    • `Application.applyRecords_absorbed`   — a file that was merged before
    • `apply_absorbed`                      — the whole merge of such a file
-/
import DebugMerge.Proofs.Load.Offers

namespace DebugMerge

/-! ## §1. One record. -/

/-- The message about the record, if it is a symbol outside memory. -/
def Record.unplaced? (site : Site) : Record → Option String
  | symbol record =>
      match place site.imageBase record.rva site.blocks with
      | none => some (unplacedMessage site record)
      | some _ => none
  | _ => none

namespace Application

/-- What one record is counted as: it is logged and skipped, or neither. -/
structure Tallied (site : Site) (a : Application) (record : Record) (a' : Application) : Prop where
  log : a'.log = a.log ++ (record.unplaced? site).toList
  skipped : a'.applied.symbolsSkipped
    = a.applied.symbolsSkipped + (record.unplaced? site).toList.length
  filtered : a'.applied.recordsFiltered = a.applied.recordsFiltered
  /-- It is added exactly if it changes a table; otherwise it may pass a number over. -/
  added : ((∃ skips, a'.db = a.db.withSkips skips)
      ∧ a'.applied.recordsAdded = a.applied.recordsAdded)
    ∨ ((∀ skips, a'.db ≠ a.db.withSkips skips)
      ∧ a'.applied.recordsAdded = a.applied.recordsAdded + 1)

variable {site : Site} {a a' : Application} {record : Record} {applied : Applied}

/-- A record that changes a table and is counted as added. -/
theorem tallied_of_added {db : Database} (hplaced : record.unplaced? site = none)
    (hne : ∀ skips, db ≠ a.db.withSkips skips)
    (hskipped : applied.symbolsSkipped = a.applied.symbolsSkipped)
    (hfiltered : applied.recordsFiltered = a.applied.recordsFiltered)
    (hadded : applied.recordsAdded = a.applied.recordsAdded + 1) :
    Tallied site a record { a with db, applied } := by
  refine ⟨?_, ?_, hfiltered, .inr ⟨hne, hadded⟩⟩
  · rw [hplaced]
    exact (List.append_nil _).symm
  · rw [hplaced]
    exact hskipped

/-- A record that is present already, or passed over in silence. -/
theorem tallied_of_kept (skips : List Nat) (hplaced : record.unplaced? site = none)
    (hskipped : applied.symbolsSkipped = a.applied.symbolsSkipped)
    (hfiltered : applied.recordsFiltered = a.applied.recordsFiltered)
    (hadded : applied.recordsAdded = a.applied.recordsAdded) :
    Tallied site a record { a with db := a.db.withSkips skips, applied } := by
  refine ⟨?_, ?_, hfiltered, .inl ⟨⟨skips, rfl⟩, hadded⟩⟩
  · rw [hplaced]
    exact (List.append_nil _).symm
  · rw [hplaced]
    exact hskipped

/-- One more added type, symbol, line or comment is one more added record. -/
theorem recordsAdded_succ (applied : Applied) :
    { applied with typesAdded := applied.typesAdded + 1 }.recordsAdded = applied.recordsAdded + 1
      ∧ { applied with symbolsAdded := applied.symbolsAdded + 1 }.recordsAdded
        = applied.recordsAdded + 1
      ∧ { applied with linesAdded := applied.linesAdded + 1 }.recordsAdded
        = applied.recordsAdded + 1
      ∧ { applied with commentsAdded := applied.commentsAdded + 1 }.recordsAdded
        = applied.recordsAdded + 1 := by
  unfold Applied.recordsAdded
  dsimp only
  omega

/-- A database with a row more in one table is another database. -/
theorem db_ne_of_append {α : Type} {rows : List α} {row : α} {db db' : Database}
    (rowsOf : Database → Option (List α))
    (hskips : ∀ skips, rowsOf (db.withSkips skips) = rowsOf db)
    (hrows : rowsOf db = some rows) (hrows' : rowsOf db' = some (rows ++ [row])) :
    ∀ skips, db' ≠ db.withSkips skips := by
  intro skips heq
  rw [heq, hskips, hrows] at hrows'
  exact append_singleton_ne rows row (Option.some.inj hrows').symm

/-- **What one record is counted as**, whichever way it takes. -/
theorem offer_tallied (h : a.offer site record = .ok a') : Tallied site a record a' := by
  obtain ⟨htype, hsymbol, hline, hcomment⟩ := recordsAdded_succ a.applied
  have hplaced : ∀ {record : SymbolRecord} {address : UInt64},
      place site.imageBase record.rva site.blocks = some address →
        (Record.symbol record).unplaced? site = none := by
    intro record address hplace
    unfold Record.unplaced?
    dsimp only
    rw [hplace]
  cases offer_cases h with
  | typeKnown _ => exact tallied_of_kept a.db.symbolSkips rfl rfl rfl rfl
  | typeChanged hne _ =>
    exact tallied_of_added rfl (fun _ heq => hne (congrArg Database.dataTypes heq)) rfl rfl htype
  | @symbolUnplaced record hplace =>
    -- outside memory: logged and skipped
    have hunplaced : (Record.symbol record).unplaced? site
        = some (unplacedMessage site record) := by
      unfold Record.unplaced?
      dsimp only
      rw [hplace]
    refine ⟨?_, ?_, rfl, .inl ⟨⟨a.db.symbolSkips, rfl⟩, rfl⟩⟩
    · rw [hunplaced]
      rfl
    · rw [hunplaced]
      rfl
  | symbolNew hplace hrows =>
    exact tallied_of_added (hplaced hplace)
      (db_ne_of_append Database.symbols (fun _ => rfl) hrows rfl) rfl rfl hsymbol
  | symbolKnown hplace _ => exact tallied_of_kept _ (hplaced hplace) rfl rfl rfl
  | lineNew hrows =>
    exact tallied_of_added rfl (db_ne_of_append Database.lineNumbers (fun _ => rfl) hrows rfl) rfl
      rfl hline
  | lineKept => exact tallied_of_kept a.db.symbolSkips rfl rfl rfl rfl
  | commentNew hrows =>
    exact tallied_of_added rfl (db_ne_of_append Database.comments (fun _ => rfl) hrows rfl) rfl
      rfl hcomment
  | commentKept => exact tallied_of_kept a.db.symbolSkips rfl rfl rfl rfl

/-! ## §2. The walk. -/

/-- What a list of records is passed over for: those that are not allowed are counted, and
the allowed symbols outside memory are counted and logged. -/
structure Tallies (site : Site) (restrictions : Restrictions) (records : List Record)
    (a a' : Application) : Prop where
  log : a'.log = a.log
    ++ (records.filter fun r => restrictions.allows r.kind).filterMap (Record.unplaced? site)
  skipped : a'.applied.symbolsSkipped = a.applied.symbolsSkipped
    + ((records.filter fun r => restrictions.allows r.kind).filterMap
      (Record.unplaced? site)).length
  filtered : a'.applied.recordsFiltered
    = a.applied.recordsFiltered + records.countP fun r => !restrictions.allows r.kind

variable {restrictions : Restrictions} {checkpoint : Checkpoint} {records : List Record}

/-- **What a complete walk passes over** has nothing to do with the database. -/
theorem tallies_of_complete
    (h : applyRecords site restrictions checkpoint a records = (a', .complete)) :
    Tallies site restrictions records a a' := by
  refine rel_of_complete (R := Tallies site restrictions)
    (fun a => ⟨(List.append_nil _).symm, rfl, rfl⟩) ?_ ?_ h
  · intro record records a a' hfiltered hrest
    have hnot : ¬ restrictions.allows record.kind = true := by
      rw [hfiltered]
      exact Bool.false_ne_true
    refine ⟨?_, ?_, ?_⟩
    · rw [hrest.log, List.filter_cons, if_neg hnot]
      rfl
    · rw [hrest.skipped, List.filter_cons, if_neg hnot]
      rfl
    · rw [hrest.filtered, List.countP_cons_of_pos (by rw [hfiltered]; rfl)]
      show _ + 1 + _ = _ + (_ + 1)
      omega
  · intro record records a m a' hallowed hoffer hrest
    -- the record, and then the rest
    obtain ⟨hlog, hskipped, hfiltered, -⟩ := offer_tallied hoffer
    have hrecords : ((record :: records).filter fun r => restrictions.allows r.kind).filterMap
        (Record.unplaced? site) = (record.unplaced? site).toList
          ++ (records.filter fun r => restrictions.allows r.kind).filterMap
            (Record.unplaced? site) := by
      rw [List.filter_cons, if_pos hallowed, List.filterMap_cons]
      cases record.unplaced? site <;> rfl
    refine ⟨?_, ?_, ?_⟩
    · rw [hrest.log, hlog, hrecords, List.append_assoc]
      rfl
    · rw [hrest.skipped, hskipped, hrecords, List.length_append, Nat.add_assoc]
      rfl
    · rw [hrest.filtered, hfiltered,
        List.countP_cons_of_neg (by rw [hallowed]; exact Bool.false_ne_true)]
      rfl

/-- Records that are absorbed change no table, and none of them counts as added. -/
theorem applyRecords_absorbed (hnever : ∀ n, checkpoint.isSet n = false)
    (habsorbed : ∀ record ∈ records, restrictions.allows record.kind = true → ∀ skips, ∃ skips',
      (a.db.withSkips skips).mergeRecord site record = .ok (a.db.withSkips skips')) :
    ∃ a' skips, applyRecords site restrictions checkpoint a records = (a', .complete)
      ∧ a'.db = a.db.withSkips skips ∧ a'.applied.recordsAdded = a.applied.recordsAdded := by
  induction records generalizing a with
  | nil => exact ⟨a, a.db.symbolSkips, rfl, rfl, rfl⟩
  | cons record records ih =>
    have hrest : ∀ r ∈ records, restrictions.allows r.kind = true → ∀ skips, ∃ skips',
        (a.db.withSkips skips).mergeRecord site r = .ok (a.db.withSkips skips') :=
      fun r hr => habsorbed r (List.mem_cons_of_mem record hr)
    unfold applyRecords
    by_cases hallowed : restrictions.allows record.kind = true
    · rw [if_pos hallowed]
      dsimp only
      rw [if_neg (by rw [Checkpoint.not_stops hnever]; exact Bool.false_ne_true)]
      -- the record is offered to the database that it was merged into
      have hmerge := offer_db site a.tick record
      obtain ⟨skips, hrecord⟩ := habsorbed record List.mem_cons_self hallowed a.db.symbolSkips
      rw [show a.tick.db.mergeRecord site record = .ok (a.db.withSkips skips) from hrecord]
        at hmerge
      obtain ⟨middle, hoffer, hdb⟩ := map_ok.mp hmerge
      rw [hoffer]
      have hadded : middle.applied.recordsAdded = a.applied.recordsAdded := by
        rcases (offer_tallied hoffer).added with ⟨-, hkept⟩ | ⟨hne, -⟩
        · exact hkept
        · exact absurd hdb (hne skips)
      obtain ⟨a', skips', hwalk, hdb', hadded'⟩ := ih (a := middle) (by rw [hdb]; exact hrest)
      refine ⟨a', skips', hwalk, ?_, hadded'.trans hadded⟩
      rw [hdb', hdb]
      rfl
    · rw [if_neg hallowed]
      exact ih (a := a.filter) hrest

end Application

/-! ## §3. The whole merge. -/

section Apply

variable {options : ApplyOptions} {info : DebugInfo} {imageBase : UInt64} {isSet : Nat → Bool}
  {db db' : Database} {blocks : List MemoryBlock} {applied : Applied}

/-- What a merge passes over in a file at a site. -/
structure Applied.PassesOver (site : Site) (restrictions : Restrictions) (info : DebugInfo)
    (log : Log) (applied : Applied) : Prop where
  log : log = (info.allowed restrictions).filterMap (Record.unplaced? site)
  skipped : applied.symbolsSkipped
    = ((info.allowed restrictions).filterMap (Record.unplaced? site)).length
  filtered : applied.recordsFiltered
    = info.records.countP fun record => !restrictions.allows record.kind

open Application in
/-- **What a merge passes over** depends on the file, the restrictions and the site alone. -/
theorem apply_passesOver (hblocks : db.blocks = .ok blocks)
    (h : (apply options info imageBase isSet db).result = .ok (db', applied))
    (hrunning : applied.cancelled = false) :
    applied.PassesOver ⟨imageBase, blocks⟩ options.restrictions info
      (apply options info imageBase isSet db).log := by
  obtain ⟨a, hwalk, -, rfl, hsame⟩ := complete_of_apply hblocks h hrunning
  obtain ⟨hlog, hskipped, hfiltered⟩ := tallies_of_complete hwalk
  exact ⟨hsame.trans hlog, hskipped.trans (Nat.zero_add _), hfiltered.trans (Nat.zero_add _)⟩

/-- Records that are merged without effect are so one by one, whatever numbers were passed
over. -/
theorem mergeRecord_of_isMerged {site : Site} {records : List Record}
    (h : Database.IsMerged site records db) {record : Record} (hmem : record ∈ records)
    (skips : List Nat) :
    ∃ skips', (db.withSkips skips).mergeRecord site record = .ok (db.withSkips skips') := by
  obtain ⟨_, h⟩ := h
  have hsub : ∀ {α : Type} (f : Record → Option α), ∀ x ∈ [record].filterMap f,
      x ∈ records.filterMap f :=
    fun f => ((List.singleton_sublist.mpr hmem).filterMap f).subset
  obtain ⟨skips', hmerges⟩ : ∃ skips', Database.Merges site [record] (db.withSkips skips)
      (((((db.withSkips skips).withTypes db.dataTypes).withSymbols db.symbols).withLines
        db.lineNumbers).withComments db.comments |>.withSkips skips') := Database.exists_merges
    (Absorbing.foldlM_absorbed fun x hx =>
      mergeType_absorbing.onTable.absorbed h.types x (hsub Record.type? x hx))
    (Absorbing.foldlM_absorbed fun x hx =>
      mergeRow_absorbing.onTable.absorbed h.symbols x (hsub (Record.symbolRow? site) x hx))
    (Absorbing.foldlM_absorbed fun x hx =>
      mergeRow_absorbing.onTable.absorbed h.lines x (hsub (Record.lineRow? site) x hx))
    (Absorbing.foldlM_absorbed fun x hx =>
      mergeRow_absorbing.onTable.absorbed h.comments x (hsub (Record.commentRow? site) x hx))
  exact ⟨skips', Database.mergeRecord_iff.mpr hmerges⟩

/-- **A file that was merged before** is merged without adding anything. -/
theorem apply_absorbed (hblocks : db.blocks = .ok blocks) (hnever : ∀ n, isSet n = false)
    (hmerged : Database.IsMerged ⟨imageBase, blocks⟩ (info.allowed options.restrictions) db) :
    ∃ applied skips,
      (apply options info imageBase isSet db).result = .ok (db.withSkips skips, applied)
        ∧ applied.recordsAdded = 0 := by
  have habsorbed : ∀ record ∈ info.records, options.restrictions.allows record.kind = true →
      ∀ skips, ∃ skips', (db.withSkips skips).mergeRecord ⟨imageBase, blocks⟩ record
        = .ok (db.withSkips skips') := by
    intro record hmem hallowed
    exact mergeRecord_of_isMerged hmerged (List.mem_filter.mpr ⟨hmem, hallowed⟩)
  have hrunning : ∀ n, (Checkpoint.mk options.checkInterval.toNat isSet).isSet n = false := hnever
  obtain ⟨a, skips, hwalk, hdb, hadded⟩ :=
    Application.applyRecords_absorbed (a := .start db) hrunning habsorbed
  refine ⟨a.applied, skips, ?_, hadded⟩
  unfold apply
  rw [hblocks]
  dsimp only
  rw [hwalk]
  exact congrArg (fun d => Except.ok (d, a.applied)) hdb

end Apply

end DebugMerge
