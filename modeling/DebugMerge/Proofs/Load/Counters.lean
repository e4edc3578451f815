/-
  DebugMerge.Proofs.Load.Counters
  ───────────────────────────────
  **The counters account for every record.**

  The counters of a merge are kept beside the tables, not computed from them.
  Every way of a record through a merge changes both so that they agree again:
  an added row is counted where its table grew, a known one beside it, and a
  symbol outside memory where the log grew.  So in the end every allowed data
  type and every allowed symbol is in exactly one counter, and the counters of
  added rows are the growth of the tables.

  The data types are counted by what they change, so that count is said of the
  table that each of them met: what is still to come is counted from the table
  that the record leaves behind.

  Main definitions
    • `Database.typeChanges`        — how many data types change their table
    • `Site.misses`                 — the offsets that lie outside memory
    • `Application.Counts`          — counters and tables between two moments
    • `Applied.AccountsFor`         — the account of a whole merge
  Main statements
    • `Application.offer_counts`    — one record
    • `Application.counts_of_complete` — the walk
    • `apply_accounts`              — the whole merge
-/
import DebugMerge.Proofs.Load.Messages
import DebugMerge.Proofs.Load.Offers

namespace DebugMerge

/-! ## §1. What is counted. -/

/-- How many rows a table holds; one that does not exist holds none. -/
def rowCount {α : Type} (rows : Option (List α)) : Nat :=
  (rows.getD []).length

/-- A row more counts one more. -/
theorem rowCount_append {α : Type} (rows : List α) (row : α) :
    rowCount (some (rows ++ [row])) = rowCount (some rows) + 1 :=
  List.length_append

/-- The symbol, if the record is one. -/
def Record.symbol? : Record → Option SymbolRecord
  | symbol record => some record
  | _ => none

/-- The offset misses memory: its sum with the image base leaves the address space, or no block
holds it. -/
def Site.misses (site : Site) (rva : UInt64) : Bool :=
  decide (Text.limit64 ≤ site.imageBase.toNat + rva.toNat)
    || site.blocks.all fun block =>
      !(decide (block.start.toNat ≤ site.imageBase.toNat + rva.toNat)
        && decide (site.imageBase.toNat + rva.toNat < block.stop.toNat))

theorem Site.misses_eq (site : Site) (rva : UInt64) :
    site.misses rva = (place site.imageBase rva site.blocks).isNone := by
  rw [Bool.eq_iff_iff, Option.isNone_iff_eq_none, Option.eq_none_iff_forall_ne_some]
  simp only [ne_eq, place_eq_some_iff]
  unfold misses Lands
  simp only [Bool.or_eq_true, decide_eq_true_eq, List.all_eq_true, Bool.not_eq_true',
    Bool.and_eq_false_iff, decide_eq_false_iff_not]
  constructor
  · intro h address hlands
    obtain ⟨hsum, block, hmem, hstart, hstop⟩ := hlands
    rw [hsum] at h
    rcases h with hlarge | hall
    · exact absurd address.toNat_lt (Nat.not_lt_of_le hlarge)
    · rcases hall block hmem with hout | hout
      · exact hout hstart
      · exact hout hstop
  · intro h
    by_cases hlarge : Text.limit64 ≤ site.imageBase.toNat + rva.toNat
    · exact .inl hlarge
    · -- the sum is an address, so no block holds it
      have hsum : (UInt64.ofNat (site.imageBase.toNat + rva.toNat)).toNat
          = site.imageBase.toNat + rva.toNat :=
        UInt64.toNat_ofNat_of_lt' (Nat.lt_of_not_le hlarge)
      refine .inr fun block hmem => ?_
      by_contra hin
      rw [not_or, Decidable.not_not, Decidable.not_not] at hin
      refine h _ ⟨hsum.symm, block, hmem, ?_⟩
      rw [hsum]
      exact hin

namespace Database

/-- How many of the data types change the table of data types when they are offered one after the
other. -/
def typeChanges : Database → List TypeRecord → Nat
  | _, [] => 0
  | db, record :: rest =>
    match db.upsertType record with
    | .error _ => 0
    | .ok (db', _) => (if db'.dataTypes = db.dataTypes then 0 else 1) + db'.typeChanges rest

variable {db db' : Database} {record : TypeRecord} {rest : List TypeRecord} {verdict : TypeInsert}

/-- A data type meets its table alone. -/
theorem upsertType_dataTypes (hsame : db.dataTypes = db'.dataTypes) (record : TypeRecord) :
    (db.upsertType record).map (·.1.dataTypes) = (db'.upsertType record).map (·.1.dataTypes) := by
  cases hrows : db.dataTypes with
  | none =>
    rw [upsertType_missing hrows, upsertType_missing (hsame ▸ hrows)]
  | some rows =>
    have hrows' : db'.dataTypes = some rows := hsame ▸ hrows
    rw [upsertType_eq hrows, upsertType_eq hrows']
    cases TypeRow.at? record.name rows with
    | none => rfl
    | some row =>
      cases hread : row.toRecord with
      | error e =>
        simp only [Option.elim, hread]
        rfl
      | ok stored =>
        simp only [Option.elim, hread]
        show Except.ok _ = Except.ok _
        by_cases hcompleted : stored.merge record = .replaced
        · rw [if_pos hcompleted, if_pos hcompleted]
        · rw [if_neg hcompleted, if_neg hcompleted]
          exact congrArg Except.ok hsame

/-- How many data types change the table depends on that table alone. -/
theorem typeChanges_congr (db db' : Database) (hsame : db.dataTypes = db'.dataTypes)
    (records : List TypeRecord) : db.typeChanges records = db'.typeChanges records := by
  induction records generalizing db db' with
  | nil => rfl
  | cons record rest ih =>
    have hupsert := upsertType_dataTypes hsame record
    unfold typeChanges
    cases hleft : db.upsertType record with
    | error e =>
      cases hright : db'.upsertType record with
      | error e' => rfl
      | ok r' =>
        rw [hleft, hright] at hupsert
        cases hupsert
    | ok r =>
      cases hright : db'.upsertType record with
      | error e' =>
        rw [hleft, hright] at hupsert
        cases hupsert
      | ok r' =>
        rw [hleft, hright] at hupsert
        injection hupsert with hafter
        have hafter : r.1.dataTypes = r'.1.dataTypes := hafter
        show (if r.1.dataTypes = db.dataTypes then 0 else 1) + r.1.typeChanges rest
          = (if r'.1.dataTypes = db'.dataTypes then 0 else 1) + r'.1.typeChanges rest
        rw [ih _ _ hafter, hafter, hsame]

/-- A data type that is known changes nothing. -/
theorem typeChanges_of_known (h : db.upsertType record = .ok (db, verdict)) :
    db.typeChanges (record :: rest) = db.typeChanges rest := by
  rw [typeChanges, h]
  dsimp only
  rw [if_pos rfl, Nat.zero_add]

/-- A data type after which the table is another one is one change. -/
theorem typeChanges_of_changed (h : db.upsertType record = .ok (db', verdict))
    (hne : db'.dataTypes ≠ db.dataTypes) :
    db.typeChanges (record :: rest) = db'.typeChanges rest + 1 := by
  rw [typeChanges, h]
  dsimp only
  rw [if_neg hne, Nat.add_comm]

end Database

/-! ## §2. One record. -/

namespace Application

/-- Counters and tables at two moments between which the records were offered. -/
structure Counts (records : List Record) (a a' : Application) : Prop where
  types : a'.applied.typesAdded + a'.applied.typesExisting
    = a.applied.typesAdded + a.applied.typesExisting + (records.filterMap Record.type?).length
  /-- What is added here and what will be added behind it is what was to be added before. -/
  typesAdded : ∀ rest, a.applied.typesAdded
      + a.db.typeChanges (records.filterMap Record.type? ++ rest)
    = a'.applied.typesAdded + a'.db.typeChanges rest
  symbols : a'.applied.symbolsAdded + a'.applied.symbolsExisting + a'.applied.symbolsSkipped
    = a.applied.symbolsAdded + a.applied.symbolsExisting + a.applied.symbolsSkipped
      + (records.filterMap Record.symbol?).length
  symbolRows : rowCount a'.db.symbols + a.applied.symbolsAdded
    = rowCount a.db.symbols + a'.applied.symbolsAdded
  lineRows : rowCount a'.db.lineNumbers + a.applied.linesAdded
    = rowCount a.db.lineNumbers + a'.applied.linesAdded
  commentRows : rowCount a'.db.comments + a.applied.commentsAdded
    = rowCount a.db.comments + a'.applied.commentsAdded

/-- Nothing offered, nothing counted. -/
theorem Counts.refl (a : Application) : Counts [] a a :=
  ⟨rfl, fun _ => rfl, rfl, rfl, rfl, rfl⟩

/-- What is counted up to a moment and from it on is counted. -/
theorem Counts.trans {before after : List Record} {a b c : Application} (h : Counts before a b)
    (h' : Counts after b c) : Counts (before ++ after) a c := by
  obtain ⟨htypes, hadded, hsymbols, hsymbolRows, hlineRows, hcommentRows⟩ := h
  obtain ⟨htypes', hadded', hsymbols', hsymbolRows', hlineRows', hcommentRows'⟩ := h'
  refine ⟨?_, fun rest => ?_, ?_, by omega, by omega, by omega⟩
  · rw [List.filterMap_append, List.length_append]
    omega
  · rw [List.filterMap_append, List.append_assoc, hadded, hadded']
  · rw [List.filterMap_append, List.length_append]
    omega

variable {site : Site} {a a' : Application} {record : Record}

/-- A record that is no data type leaves to be added what was to be added before. -/
theorem typesAdded_of_kept (htypes : a'.db.dataTypes = a.db.dataTypes)
    (hadded : a'.applied.typesAdded = a.applied.typesAdded) (rest : List TypeRecord) :
    a.applied.typesAdded + a.db.typeChanges rest
      = a'.applied.typesAdded + a'.db.typeChanges rest := by
  rw [hadded, Database.typeChanges_congr a'.db a.db htypes]

/-- **One record** is counted where its table grew, or beside it, or where the log grew. -/
theorem offer_counts (h : a.offer site record = .ok a') : Counts [record] a a' := by
  cases offer_cases h with
  | typeKnown hupsert =>
    exact ⟨(Nat.add_assoc _ _ _).symm,
      fun rest => congrArg _ (Database.typeChanges_of_known hupsert), rfl, rfl, rfl, rfl⟩
  | typeChanged hne hupsert =>
    refine ⟨Nat.add_right_comm _ _ _, fun rest => ?_, rfl, rfl, rfl, rfl⟩
    show a.applied.typesAdded + a.db.typeChanges (_ :: rest) = a.applied.typesAdded + 1 + _
    rw [Database.typeChanges_of_changed hupsert hne]
    exact (Nat.add_right_comm a.applied.typesAdded 1 _).symm
  | symbolUnplaced hplace =>
    exact ⟨rfl, fun _ => rfl, (Nat.add_assoc _ _ _).symm, rfl, rfl, rfl⟩
  | symbolNew hplace hrows =>
    refine ⟨rfl, typesAdded_of_kept rfl rfl, ?_, ?_, rfl, rfl⟩
    · show a.applied.symbolsAdded + 1 + a.applied.symbolsExisting + a.applied.symbolsSkipped
        = a.applied.symbolsAdded + a.applied.symbolsExisting + a.applied.symbolsSkipped + 1
      omega
    · show rowCount (some (_ ++ [_])) + a.applied.symbolsAdded
        = rowCount a.db.symbols + (a.applied.symbolsAdded + 1)
      rw [hrows, rowCount_append]
      omega
  | symbolKnown hplace _ =>
    refine ⟨rfl, typesAdded_of_kept rfl rfl, ?_, rfl, rfl, rfl⟩
    show a.applied.symbolsAdded + (a.applied.symbolsExisting + 1) + a.applied.symbolsSkipped
      = a.applied.symbolsAdded + a.applied.symbolsExisting + a.applied.symbolsSkipped + 1
    omega
  | lineNew hrows =>
    refine ⟨rfl, typesAdded_of_kept rfl rfl, rfl, rfl, ?_, rfl⟩
    show rowCount (some (_ ++ [_])) + a.applied.linesAdded
      = rowCount a.db.lineNumbers + (a.applied.linesAdded + 1)
    rw [hrows, rowCount_append]
    omega
  | lineKept => exact ⟨rfl, fun _ => rfl, rfl, rfl, rfl, rfl⟩
  | commentNew hrows =>
    refine ⟨rfl, typesAdded_of_kept rfl rfl, rfl, rfl, rfl, ?_⟩
    show rowCount (some (_ ++ [_])) + a.applied.commentsAdded
      = rowCount a.db.comments + (a.applied.commentsAdded + 1)
    rw [hrows, rowCount_append]
    omega
  | commentKept => exact ⟨rfl, fun _ => rfl, rfl, rfl, rfl, rfl⟩

/-! ## §3. The walk. -/

variable {restrictions : Restrictions} {checkpoint : Checkpoint} {records : List Record}

/-- **A complete walk counts every allowed record.** -/
theorem counts_of_complete
    (h : applyRecords site restrictions checkpoint a records = (a', .complete)) :
    Counts (records.filter fun record => restrictions.allows record.kind) a a' := by
  refine rel_of_complete
    (R := fun records => Counts (records.filter fun record => restrictions.allows record.kind))
    Counts.refl ?_ ?_ h
  · intro record records a a' hfiltered hrest
    -- a filtered record is in another counter, which is not looked at here
    rw [List.filter_cons, if_neg (by rw [hfiltered]; exact Bool.false_ne_true)]
    exact ⟨hrest.types, hrest.typesAdded, hrest.symbols, hrest.symbolRows, hrest.lineRows,
      hrest.commentRows⟩
  · intro record records a m a' hallowed hoffer hrest
    -- to count a unit of work is in no counter and in no table
    have hcounts := offer_counts hoffer
    have hhere : Counts [record] a m := ⟨hcounts.types, hcounts.typesAdded, hcounts.symbols,
      hcounts.symbolRows, hcounts.lineRows, hcounts.commentRows⟩
    rw [List.filter_cons, if_pos hallowed]
    exact hhere.trans hrest

end Application

/-! ## §4. The whole merge. -/

section Apply

variable {options : ApplyOptions} {info : DebugInfo} {imageBase : UInt64} {isSet : Nat → Bool}
  {db db' : Database} {blocks : List MemoryBlock} {log : Log} {applied : Applied}

/-- The allowed symbols, in the order of the file. -/
theorem filterMap_symbol? (info : DebugInfo) (restrictions : Restrictions) :
    (info.allowed restrictions).filterMap Record.symbol?
      = info.symbols.filter fun symbol => restrictions.allows symbol.scope.recordKind := by
  rw [filterMap_allowed, filterMap_admit_eq_nil .dataType fun _ => rfl,
    filterMap_admit_eq_nil .line fun _ => rfl, filterMap_admit_eq_nil .comment fun _ => rfl,
    List.nil_append, List.append_nil, List.append_nil, ← List.filterMap_eq_filter]
  refine List.filterMap_congr fun symbol _ => ?_
  rfl

/-- What the counters and the messages of a merge say about the file and about the tables before
and after it. -/
structure Applied.AccountsFor (site : Site) (restrictions : Restrictions) (info : DebugInfo)
    (db db' : Database) (log : Log) (applied : Applied) : Prop where
  types : applied.typesAdded + applied.typesExisting
    = if restrictions.allows .dataType then info.types.length else 0
  typesAdded : applied.typesAdded
    = db.typeChanges (if restrictions.allows .dataType then info.types else [])
  symbols : applied.symbolsAdded + applied.symbolsExisting + applied.symbolsSkipped
    = info.symbols.countP fun symbol => restrictions.allows symbol.scope.recordKind
  symbolRows : rowCount db'.symbols = rowCount db.symbols + applied.symbolsAdded
  lineRows : rowCount db'.lineNumbers = rowCount db.lineNumbers + applied.linesAdded
  commentRows : rowCount db'.comments = rowCount db.comments + applied.commentsAdded
  skipped : log.length = applied.symbolsSkipped
  /-- The address in a message is the sum with the image base, which may have wrapped. -/
  log : log = (info.symbols.filter fun symbol =>
      restrictions.allows symbol.scope.recordKind && site.misses symbol.rva).map fun symbol =>
        "Unable to place symbol " ++ symbol.name ++ " at 0x"
          ++ Text.hexUpper ((site.imageBase.toNat + symbol.rva.toNat) % Text.limit64)
          ++ ": address is outside program memory"

/-- **The counters account for every record.**  A merge that succeeds and was not stopped counts
every allowed data type as added or existing, and it is added exactly if it changed the table;
every allowed symbol is counted as added, as existing or as skipped; what is added to a table is
what it grew by; and there is one message for each allowed symbol that misses memory, in the order
of the file, with its name and the address at which it was looked for. -/
theorem apply_accounts (options : ApplyOptions) (info : DebugInfo) (imageBase : UInt64)
    (isSet : Nat → Bool) (db db' : Database) (log : Log) (applied : Applied)
    (h : apply options info imageBase isSet db = ⟨log, .ok (db', applied)⟩)
    (hrunning : applied.cancelled = false) :
    ∃ blocks, db.blocks = .ok blocks
      ∧ applied.AccountsFor ⟨imageBase, blocks⟩ options.restrictions info db db' log := by
  have hresult := congrArg ApplyResult.result h
  obtain ⟨blocks, hblocks⟩ := blocks_of_apply hresult
  obtain ⟨a, hwalk, rfl, rfl, -⟩ := complete_of_apply hblocks hresult hrunning
  have hcounts : Application.Counts (info.allowed options.restrictions) (.start db) a :=
    Application.counts_of_complete hwalk
  obtain ⟨-, -, htypes⟩ := info.allowed_eq options.restrictions
  have htypes : (info.allowed options.restrictions).filterMap Record.type?
      = if options.restrictions.allows .dataType then info.types else [] := htypes
  have hpasses := apply_passesOver hblocks hresult hrunning
  have hwarns := apply_warns_all hblocks hresult hrunning
  rw [h] at hpasses hwarns
  have hlog : log = info.placementWarnings options.restrictions ⟨imageBase, blocks⟩ := hwarns
  -- before the first record every counter is zero
  refine ⟨blocks, hblocks, ?_, ?_, ?_, ?_, ?_, ?_, ?_, ?_⟩
  · rw [hcounts.types, htypes, apply_ite List.length]
    exact Nat.zero_add _
  · have hadded := hcounts.typesAdded []
    rw [List.append_nil, htypes] at hadded
    exact hadded.symm.trans (Nat.zero_add _)
  · rw [hcounts.symbols, filterMap_symbol?, List.countP_eq_length_filter]
    exact Nat.zero_add _
  · exact hcounts.symbolRows
  · exact hcounts.lineRows
  · exact hcounts.commentRows
  · rw [hpasses.skipped, ← hpasses.log]
  · rw [hlog]
    unfold DebugInfo.placementWarnings
    simp only [Site.misses_eq]
    rfl

end Apply

/-- A file in which a declared data type is defined twice, a symbol stands twice, and another
symbol lies behind the end of the address space. -/
def repeated : DebugInfo :=
  ⟨[⟨"Node", .struct, 0, []⟩, ⟨"Node", .struct, 8, []⟩, ⟨"Node", .struct, 8, []⟩],
    [⟨"main", 16, none, .function, .publicTable⟩, ⟨"main", 16, none, .function, .globalTable⟩,
      ⟨"lost", 18446744073709551615, none, .data, .publicTable⟩], [⟨16, "main.c", 1⟩], []⟩

/-- The store after that file; the known symbol used a number up behind the stored one. -/
def withNode : Database :=
  { withText with
    dataTypes := some [⟨"Node", "struct", 8, "[]"⟩]
    symbols := some [⟨17, "main", "function", "public", none, none⟩]
    lineNumbers := some [⟨17, "main.c", 1⟩]
    symbolSkips := [0, 1] }

/-- The declaration and its completion are added and the second definition is known; the second
symbol is known too, and the address of the third has wrapped in its message. -/
theorem apply_accounts_on_repeated :
    apply .standard repeated 1 (fun _ => false) withText
        = ⟨["Unable to place symbol lost at 0x0: address is outside program memory"],
          .ok (withNode, ⟨2, 1, 1, 1, 1, 1, 0, 0, false⟩)⟩
      ∧ Applied.AccountsFor ⟨1, [⟨".text", 0, 4096⟩]⟩ .none repeated withText withNode
        ["Unable to place symbol lost at 0x0: address is outside program memory"]
        ⟨2, 1, 1, 1, 1, 1, 0, 0, false⟩
      ∧ withText.typeChanges repeated.types = 2 := by
  have hlog : (apply .standard repeated 1 (fun _ => false) withText).log
      = ["Unable to place symbol lost at 0x0: address is outside program memory"] := by
    decide +kernel
  have hresult : (apply .standard repeated 1 (fun _ => false) withText).result
      = .ok (withNode, ⟨2, 1, 1, 1, 1, 1, 0, 0, false⟩) := by
    decide +kernel
  have h := congrArg₂ ApplyResult.mk hlog hresult
  obtain ⟨blocks, hblocks, haccount⟩ := apply_accounts .standard repeated 1 _ withText _ _ _ h rfl
  cases hblocks
  rw [List.mergeSort_singleton] at haccount
  exact ⟨h, haccount, haccount.typesAdded.symm⟩

end DebugMerge
