/-
  DebugMerge.Proofs.Load.Layouts
  ──────────────────────────────
  **Loads with and without members mix freely.**

  A content without members says of every type less than the content with them,
  or as much.  So wherever the whole content can be merged, the content without
  members can be merged first, and behind it the whole content leads to the same
  rows; behind the whole content it is absorbed.  This is the invariant of a
  sequence of loads: from where it is, merging the whole content leads to where
  it led in the beginning.  The first load with members goes there, and no later
  load leaves.

  Main statements
    • `foldlM_layouts`               — layouts first, definitions behind them
    • `Database.merges_layouts`      — the same for whole contents
    • `applyAll_mixed`               — sequences of merges
    • `LoadJob.mixed_resumable`      — sequences of runs
    • `Backend.layouts_mix`          — both backends
-/
import DebugMerge.Proofs.Load.Backends
import DebugMerge.Proofs.Load.Contents
import DebugMerge.Proofs.Load.Repetition

namespace DebugMerge

open TypeRow TypeRecord

/-! ## §1. Layouts first. -/

section Types

variable {rows m t : List TypeRow} {types : List TypeRecord} {x y : TypeRecord}

/-- A name that is taken stays taken. -/
theorem taken_of_mergeType {name : String} (htaken : name ∈ rows.map (·.name))
    (h : mergeType rows y = .ok m) : name ∈ m.map (·.name) := by
  have hnames := mem_of_mergeRow (mergeType_names h) (k := name)
  rw [List.map_id, List.map_id] at hnames
  exact hnames htaken

/-- Behind a merge its name is taken. -/
theorem taken_behind_mergeType (h : mergeType rows x = .ok m) : x.name ∈ m.map (·.name) := by
  have hname := key_mem_of_mergeRow (mergeType_names h)
  rw [List.map_id] at hname
  exact hname

/-- Under a taken name nothing is appended. -/
theorem typeChange_of_taken (htaken : x.name ∈ rows.map (·.name)) {change : TypeChange}
    (h : typeChange (at? x.name rows) x = .ok change) : change ≠ .append := by
  intro happend
  subst happend
  cases hfind : at? x.name rows with
  | none => exact at?_eq_none_iff.mp hfind htaken
  | some row =>
    rw [hfind] at h
    unfold typeChange at h
    dsimp only at h
    split at h
    · cases h
    · split at h <;> cases h

/-- **A record under a taken name can wait** until another one is merged: the rows are the same
in the end. -/
theorem mergeType_wait (htaken : x.name ∈ rows.map (·.name)) (hx : mergeType rows x = .ok m)
    (hy : mergeType m y = .ok t) :
    ∃ m', mergeType rows y = .ok m' ∧ mergeType m' x = .ok t := by
  by_cases hname : x.name = y.name
  · exact mergeType_swap hname hx hy
  · -- neither sees what the other did, and the first one appends no row
    obtain ⟨change, hchange, rfl⟩ := exists_change hx
    obtain ⟨change', hchange', rfl⟩ := exists_change hy
    rw [at?_on_of_ne rows (Ne.symm hname) change] at hchange'
    refine ⟨change'.on y rows, mergeType_of_change hchange', ?_⟩
    have hsame : change.on x (change'.on y rows) = change'.on y (change.on x rows) := by
      cases change with
      | append => exact absurd rfl (typeChange_of_taken htaken hchange)
      | keep => rfl
      | complete =>
        cases change' with
        | append => exact completeAll_append_of_ne rows (Ne.symm hname)
        | keep => rfl
        | complete => exact completeAll_comm rows (Ne.symm hname)
    rw [← hsame]
    refine mergeType_of_change ?_
    rw [at?_on_of_ne rows hname change']
    exact hchange

/-- It can wait until a whole list is merged. -/
theorem foldlM_wait (htaken : x.name ∈ rows.map (·.name)) (hx : mergeType rows x = .ok m)
    (h : types.foldlM mergeType m = .ok t) :
    ∃ m', types.foldlM mergeType rows = .ok m' ∧ mergeType m' x = .ok t := by
  induction types generalizing rows m with
  | nil =>
    cases h
    exact ⟨rows, rfl, hx⟩
  | cons y types ih =>
    obtain ⟨n, hy, hrest⟩ := foldlM_cons_ok.mp h
    obtain ⟨n', hy', hx'⟩ := mergeType_wait htaken hx hy
    obtain ⟨m', hrest', hx''⟩ := ih (taken_of_mergeType htaken hy') hx' hrest
    exact ⟨m', foldlM_cons_ok.mpr ⟨n', hy', hrest'⟩, hx''⟩

/-- Behind a definition everything below it is absorbed. -/
theorem mergeType_of_below (hle : x ≤ y) (h : mergeType rows y = .ok m) :
    mergeType m x = .ok m := by
  obtain ⟨top, hstored, hle'⟩ := holds_of_mergeType h
  exact mergeType_of_holds ⟨top, hstored, TypeRecord.le_trans hle hle'⟩

/-- **Layouts first.**  Where definitions can be merged, their layouts can be merged before them,
with the same rows in the end. -/
theorem foldlM_layouts (h : types.foldlM mergeType rows = .ok t) :
    ∃ m, (types.map layout).foldlM mergeType rows = .ok m
      ∧ types.foldlM mergeType m = .ok t := by
  induction types generalizing rows with
  | nil =>
    cases h
    exact ⟨t, rfl, rfl⟩
  | cons y types ih =>
    obtain ⟨n, hy, hrest⟩ := foldlM_cons_ok.mp h
    obtain ⟨u, hlayouts, hrest'⟩ := ih hrest
    -- the layout of the first definition goes in front of it, and takes its name
    have hname : y.name = y.layout.name := rfl
    obtain ⟨n', hlayout, hy'⟩ := mergeType_swap hname hy (mergeType_of_below (layout_le y) hy)
    have htaken : y.layout.name ∈ n'.map (·.name) := taken_behind_mergeType hlayout
    -- so the definition itself can wait for the other layouts
    obtain ⟨m, hlayouts', hy''⟩ := foldlM_wait (x := y) htaken hy' hlayouts
    exact ⟨m, foldlM_cons_ok.mpr ⟨n', hlayout, hlayouts'⟩, foldlM_cons_ok.mpr ⟨u, hy'', hrest'⟩⟩

/-- Behind the definitions their layouts are absorbed. -/
theorem foldlM_layouts_absorbed {rows : Option (List TypeRow)}
    (h : types.foldlM mergeTypes rows = .ok rows) :
    (types.map layout).foldlM mergeTypes rows = .ok rows := by
  have habsorbed := mergeType_absorbing.onTable.absorbed h
  refine Absorbing.foldlM_absorbed fun record hrecord => ?_
  obtain ⟨definition, hdefinition, rfl⟩ := List.mem_map.mp hrecord
  obtain ⟨stored, _, hrows, hmerge, heq⟩ := onTable_ok.mp (habsorbed definition hdefinition)
  rw [hrows] at heq
  cases heq
  exact onTable_ok.mpr ⟨_, _, hrows, mergeType_of_below (layout_le definition) hmerge, hrows⟩

theorem foldlM_layouts_onTable {rows t : Option (List TypeRow)}
    (h : types.foldlM mergeTypes rows = .ok t) :
    ∃ m, (types.map layout).foldlM mergeTypes rows = .ok m
      ∧ types.foldlM mergeTypes m = .ok t := by
  cases rows with
  | none =>
    obtain ⟨rfl, rfl⟩ := foldlM_onTable_none h
    exact ⟨none, rfl, rfl⟩
  | some rows =>
    rw [mergeTypes, foldlM_onTable_some] at h
    obtain ⟨t, ht, rfl⟩ := map_ok.mp h
    obtain ⟨m, hlayouts, hrest⟩ := foldlM_layouts ht
    refine ⟨some m, ?_, ?_⟩
    · rw [mergeTypes, foldlM_onTable_some, hlayouts]
      rfl
    · rw [mergeTypes, foldlM_onTable_some, hrest]
      rfl

end Types

/-! ## §2. Contents without members. -/

/-- The content as it is read with or without members. -/
def DebugInfo.reading (info : DebugInfo) (withMembers : Bool) : DebugInfo :=
  if withMembers then info else info.layoutOnly

namespace Database

variable {site : Site} {restrictions : Restrictions} {info : DebugInfo} {db m final : Database}

theorem types_layoutOnly :
    (info.layoutOnly.allowed restrictions).filterMap Record.type?
      = ((info.allowed restrictions).filterMap Record.type?).map layout := by
  obtain ⟨-, -, htypes⟩ := info.allowed_eq restrictions
  obtain ⟨-, -, hlayouts⟩ := info.layoutOnly.allowed_eq restrictions
  rw [htypes, hlayouts]
  unfold DebugInfo.allowedTypes
  cases restrictions.dataTypes <;> rfl

/-- Members make no difference to the tables of rows. -/
theorem merges_layoutOnly (h : Merges site (info.allowed restrictions) db final)
    {types : Option (List TypeRow)}
    (htypes : (((info.allowed restrictions).filterMap Record.type?).map layout).foldlM mergeTypes
      db.dataTypes = .ok types) :
    Merges site (info.layoutOnly.allowed restrictions) db (final.withTypes types) := by
  obtain ⟨-, hsymbols, hlines, hcomments, hothers⟩ := h
  rw [filterMap_symbolRow?] at hsymbols
  rw [filterMap_lineRow?] at hlines
  rw [filterMap_commentRow?] at hcomments
  refine ⟨?_, ?_, ?_, ?_, congrArg (withTypes · types) hothers⟩
  · rw [types_layoutOnly]
    exact htypes
  · rw [filterMap_symbolRow?]
    exact hsymbols
  · rw [filterMap_lineRow?]
    exact hlines
  · rw [filterMap_commentRow?]
    exact hcomments

/-- **Contents without members first.**  Where a content can be merged, it can be merged without
members before that, with the same rows in the end and all symbols in between under the numbers
that they have in the end. -/
theorem merges_layouts (h : Merges site (info.allowed restrictions) db final) :
    ∃ m skips, Merges site (info.layoutOnly.allowed restrictions) db m
      ∧ Merges site (info.allowed restrictions) m (final.withSkips skips)
      ∧ final.symbols = m.symbols ∧ m.numberedSymbols = final.numberedSymbols := by
  obtain ⟨types, hlayouts, hrest⟩ := foldlM_layouts_onTable h.types
  obtain ⟨_, hagain⟩ := isMerged_of_merges h
  obtain ⟨skips, hmerges⟩ : ∃ skips, Merges site (info.allowed restrictions)
      (final.withTypes types) (((((final.withTypes types).withTypes final.dataTypes).withSymbols
        final.symbols).withLines final.lineNumbers).withComments final.comments
          |>.withSkips skips) :=
    exists_merges hrest hagain.symbols hagain.lines hagain.comments
  exact ⟨final.withTypes types, skips, merges_layoutOnly h hlayouts, hmerges, rfl, rfl⟩

/-- Behind a content it is absorbed, with or without members. -/
theorem isMerged_reading (h : IsMerged site (info.allowed restrictions) m)
    (withMembers : Bool) : IsMerged site ((info.reading withMembers).allowed restrictions) m := by
  cases withMembers with
  | true => exact h
  | false =>
    obtain ⟨skips, h⟩ := h
    have hlayouts := merges_layoutOnly h (foldlM_layouts_absorbed h.types)
    exact ⟨skips, hlayouts⟩

end Database

/-! ## §3. Sequences of merges. -/

section Merges

variable {site : Site} {restrictions : Restrictions} {info : DebugInfo} {db m final : Database}

/-- Behind a content nothing of it changes a table any more. -/
theorem isMerged_mixed (h : Database.IsMerged site (info.allowed restrictions) m)
    (modes : List Bool) :
    Database.IsMerged site ((modes.map info.reading).flatMap (·.allowed restrictions)) m := by
  induction modes generalizing m with
  | nil => exact ⟨m.symbolSkips, Database.merges_nil.mpr rfl⟩
  | cons withMembers modes ih =>
    rw [List.map_cons, List.flatMap_cons]
    obtain ⟨skips, hfirst⟩ := Database.isMerged_reading h withMembers
    obtain ⟨skips', hrest⟩ := ih (Database.isMerged_withSkips h skips)
    exact ⟨skips', Database.merges_append.mpr ⟨_, hfirst, hrest⟩⟩

/-- The database has the rows of the other one, symbols under the same numbers; behind the last
symbol other numbers may have been passed over. -/
structure Database.HasRowsOf (db other : Database) : Prop where
  rows : db = other.withSkips db.symbolSkips
  numbers : db.numberedSymbols = other.numberedSymbols

/-- Where nothing is merged any more the rows stay. -/
theorem Database.hasRowsOf_of_merges {records : List Record} {skips : List Nat}
    (h : Database.Merges site records m (m.withSkips skips)) : (m.withSkips skips).HasRowsOf m :=
  ⟨rfl, h.numbers_same rfl⟩

/-- **A sequence of merges** with and without members can be taken wherever the content can be
merged.  From where it ends, merging the content leads to the rows to which it led in the
beginning; if members were among it, it has these rows itself. -/
theorem merges_mixed (h : Database.Merges site (info.allowed restrictions) db final)
    (modes : List Bool) :
    ∃ last, Database.Merges site ((modes.map info.reading).flatMap (·.allowed restrictions)) db last
      ∧ (∃ skips, Database.Merges site (info.allowed restrictions) last (final.withSkips skips))
      ∧ (true ∈ modes → last.HasRowsOf final) := by
  induction modes generalizing db final with
  | nil =>
    refine ⟨db, Database.merges_nil.mpr rfl, ⟨final.symbolSkips, h⟩, fun hmem => ?_⟩
    cases hmem
  | cons withMembers modes ih =>
    rw [List.map_cons, List.flatMap_cons]
    cases withMembers with
    | true =>
      -- the content itself leads to the end, and no later merge leaves it
      have hagain := Database.isMerged_of_merges h
      obtain ⟨skips, hrest⟩ := isMerged_mixed hagain modes
      obtain ⟨skips', hlast⟩ := Database.isMerged_withSkips hagain skips
      exact ⟨_, Database.merges_append.mpr ⟨final, h, hrest⟩, ⟨skips', hlast⟩,
        fun _ => Database.hasRowsOf_of_merges hrest⟩
    | false =>
      obtain ⟨m, skips, hlayouts, hrest, hsame, hnumbers⟩ := Database.merges_layouts h
      obtain ⟨last, hmixed, ⟨skips', hlast⟩, hend⟩ := ih hrest
      refine ⟨last, Database.merges_append.mpr ⟨m, hlayouts, hmixed⟩, ⟨skips', hlast⟩,
        fun hmem => ?_⟩
      rcases List.mem_cons.mp hmem with hfalse | hmem
      · cases hfalse
      · have hrows := hend hmem
        exact ⟨hrows.rows, hrows.numbers.trans ((hrest.numbers_same hsame).trans hnumbers)⟩

theorem applyAll_mixed {options : ApplyOptions} {imageBase : UInt64} {db' : Database}
    {applied : Applied}
    (h : (apply options info imageBase (fun _ => false) db).result = .ok (db', applied))
    (modes : List Bool) :
    ∃ last, applyAll options imageBase db (modes.map info.reading) = .ok last
      ∧ (true ∈ modes → last.HasRowsOf db') := by
  obtain ⟨blocks, hblocks, hmerges⟩ := merges_of_apply h
  obtain ⟨last, hmixed, -, hend⟩ := merges_mixed hmerges modes
  exact ⟨last, (applyAll_iff hblocks).mpr hmixed, hend⟩

end Merges

/-! ## §4. Sequences of runs. -/

/-- The load that reads members or leaves them out. -/
def LoadJob.reading (job : LoadJob) (withMembers : Bool) : LoadJob :=
  { job with settings := { job.settings with
      reading := { job.settings.reading with parseMembers := withMembers } } }

/-- One run of a sequence: whether it reads members, and when it takes place. -/
structure Turn where
  withMembers : Bool
  startedAt : String
  finishedAt : String

/-- The run of a load that a turn describes; nobody stops it. -/
def Turn.run (turn : Turn) (job : LoadJob) (program : Program) : RunResult :=
  (Attempt.undisturbed turn.startedAt turn.finishedAt).run (job.reading turn.withMembers) program

/-- The program after a sequence of turns. -/
def LoadJob.mixed (job : LoadJob) (program : Program) (turns : List Turn) : Program :=
  turns.foldl (fun program turn => (turn.run job program).program) program

namespace Database

variable {site : Site} {restrictions : Restrictions} {info : DebugInfo} {db m final : Database}

/-- Merging does not change what the pass examines. -/
theorem decoratedBlocks_of_merges {records : List Record} (h : Merges site records db m) :
    m.decoratedBlocks = db.decoratedBlocks := by
  rw [h.others]
  rfl

/-- **A load without members keeps the invariant.** -/
theorem isResumable_layouts (h : IsResumable site (info.allowed restrictions) final db)
    (hmerges : Merges site (info.layoutOnly.allowed restrictions) db m) (runs : List RunRow) :
    IsResumable site (info.allowed restrictions) final (m.decorated.withRuns runs) := by
  obtain ⟨u, hfull, rows', runs', skips', rfl, hrel⟩ := h
  obtain ⟨m', skips, hlayouts, hrest, hsame, -⟩ := merges_layouts hfull
  cases merges_unique hmerges hlayouts
  obtain ⟨rows'', hdecorated, hrel'⟩ := isPartlyDecorated_decorated m
  -- all symbols are there, so the content is merged under their names as well
  obtain ⟨skips'', hnamed⟩ := merges_withSymbols_of_eq hrest hsame hrel'
  rw [hdecorated]
  refine ⟨_, merges_withRuns hnamed runs, rows'', runs'.map (· ++ runs), skips'', rfl, ?_⟩
  rw [← decoratedBlocks_of_merges hrest, ← hsame] at hrel'
  exact optionRel_trans partlyDecorated_trans hrel hrel'

/-- The content is merged, the symbols are named, and the store is that of `final` when its
symbols are named. -/
structure IsAtEnd (site : Site) (records : List Record) (final db : Database) : Prop where
  merged : IsMerged site records db
  named : db.decorated = db
  store : db.snapshot = final.decorated.snapshot

/-- A load with members reaches the end. -/
theorem isAtEnd_of_merges {records : List Record} (h : IsResumable site records final db)
    (hmerges : Merges site records db m) (runs : List RunRow) :
    IsAtEnd site records final (m.decorated.withRuns runs) := by
  obtain ⟨u, hfull, hcontinues⟩ := h
  cases merges_unique hmerges hfull
  refine ⟨isMerged_withRuns (isMerged_decorated (isMerged_of_merges hmerges)) runs,
    congrArg (withRuns · runs) (decorated_decorated m), ?_⟩
  rw [snapshot_withRuns, decorated_of_continues hcontinues]
  rfl

/-- A load that changes no table but the history stays there. -/
theorem IsAtEnd.withRuns {records : List Record} (h : IsAtEnd site records final db)
    (skips : List Nat) (runs : List RunRow) :
    IsAtEnd site records final ((db.withSkips skips).decorated.withRuns runs) := by
  have hnamed : (db.withSkips skips).decorated = db.withSkips skips :=
    congrArg (withSkips · skips) h.named
  rw [hnamed]
  refine ⟨isMerged_withRuns (isMerged_withSkips h.merged skips) runs,
    congrArg (Database.withRuns · runs) hnamed, ?_⟩
  rw [snapshot_withRuns]
  exact h.store

end Database

namespace LoadJob

section Runs

variable {job : LoadJob} {identity : Identity} {info : DebugInfo} {site : Site}
  {program : Program} {m final : Database}

/-- A run that nobody stops is done where the content can be merged, and names the symbols. -/
theorem run_of_merges (hanswers : job.Answers identity info)
    (hadmits : job.Admits program.db identity) (hsite : program.db.IsAt site)
    (hmerges : Database.Merges site (job.records info) program.db m)
    (startedAt finishedAt : String) :
    ∃ outcome runs,
      ((Attempt.undisturbed startedAt finishedAt).run job program).outcome = some (.ok outcome)
        ∧ outcome.state = .done
        ∧ ((Attempt.undisturbed startedAt finishedAt).run job program).program.db
          = m.decorated.withRuns runs := by
  have hresult : (job.application info site program.db).result.map (·.1) = .ok m :=
    (apply_never hsite.2 fun _ => rfl).trans (Database.mergeAll_iff.mpr hmerges)
  obtain ⟨⟨_, applied⟩, happly, rfl⟩ := map_ok.mp hresult
  obtain ⟨outcome, runs, houtcome, hdone, -, -, -, hdb⟩ :=
    run_again hanswers hadmits hsite happly startedAt finishedAt
  exact ⟨outcome, runs, houtcome, hdone, hdb⟩

/-- What a backend answers with members it answers without them. -/
theorem answers_reading (hlayouts : job.backend.ReadsLayouts)
    (hanswers : (job.reading true).Answers identity info) (withMembers : Bool) :
    (job.reading withMembers).Answers identity (info.reading withMembers) := by
  cases withMembers with
  | true => exact hanswers
  | false => exact ⟨hanswers.identity, hlayouts _ _ _ _ hanswers.info⟩

/-- Members play no part at the gate. -/
theorem admits_reading {db : Database} (h : job.Admits db identity) (withMembers : Bool) :
    (job.reading withMembers).Admits db identity := by
  obtain ⟨expected, ⟨hexpects, hreads⟩, hpass⟩ := h
  exact ⟨expected, ⟨hexpects, hreads⟩, hpass⟩

/-- **A turn is done and keeps the invariant.**  With members it reaches the end; from the end
no turn leaves. -/
theorem turn_resumable (hlayouts : job.backend.ReadsLayouts)
    (hanswers : (job.reading true).Answers identity info) (hadmits : job.Admits final identity)
    (hsite : final.IsAt site)
    (h : Database.IsResumable site (job.records info) final program.db) (turn : Turn) :
    (∃ outcome, (turn.run job program).outcome = some (.ok outcome) ∧ outcome.state = .done)
      ∧ Database.IsResumable site (job.records info) final (turn.run job program).program.db
      ∧ (Database.IsAtEnd site (job.records info) final program.db ∨ turn.withMembers = true →
        Database.IsAtEnd site (job.records info) final (turn.run job program).program.db) := by
  obtain ⟨withMembers, startedAt, finishedAt⟩ := turn
  have hanswers' := answers_reading hlayouts hanswers withMembers
  have hadmits' : (job.reading withMembers).Admits program.db identity :=
    admits_reading (admits_congr (Database.expectedIdentity_of_isResumable h) hadmits) withMembers
  have hsite' := (Database.isAt_iff_of_isResumable h).mpr hsite
  unfold Turn.run
  cases withMembers with
  | true =>
    -- the whole content is merged, which is the last step of the invariant
    have hresumable := h
    obtain ⟨m, hmerges, -⟩ := h
    obtain ⟨outcome, runs, houtcome, hdone, hdb⟩ :=
      run_of_merges hanswers' hadmits' hsite' hmerges startedAt finishedAt
    refine ⟨⟨outcome, houtcome, hdone⟩, ?_, fun _ => ?_⟩
    · rw [hdb]
      have hstep : Database.IsStep site (job.records info) program.db m.decorated :=
        .inr ⟨m, hmerges, Database.isPartlyDecorated_decorated m⟩
      exact Database.isResumable_step hresumable hstep runs
    · rw [hdb]
      exact Database.isAtEnd_of_merges hresumable hmerges runs
  | false =>
    -- the layouts are merged in front of the content
    have hresumable := h
    obtain ⟨u, hfull, -⟩ := h
    obtain ⟨m, -, hmerges, -, -, -⟩ := Database.merges_layouts hfull
    obtain ⟨outcome, runs, houtcome, hdone, hdb⟩ :=
      run_of_merges hanswers' hadmits' hsite' hmerges startedAt finishedAt
    refine ⟨⟨outcome, houtcome, hdone⟩, ?_, fun hend => ?_⟩
    · rw [hdb]
      exact Database.isResumable_layouts hresumable hmerges runs
    · -- the layouts are absorbed at the end
      have hend := hend.resolve_right nofun
      obtain ⟨skips, hself⟩ := Database.isMerged_reading hend.merged false
      rw [hdb, ← Database.merges_unique hself hmerges]
      exact hend.withRuns skips runs

/-- **A sequence of turns keeps the invariant.** -/
theorem mixed_resumable (hlayouts : job.backend.ReadsLayouts)
    (hanswers : (job.reading true).Answers identity info) (hadmits : job.Admits final identity)
    (hsite : final.IsAt site)
    (h : Database.IsResumable site (job.records info) final program.db) (turns : List Turn) :
    Database.IsResumable site (job.records info) final (job.mixed program turns).db
      ∧ ((Database.IsAtEnd site (job.records info) final program.db
          ∨ ∃ turn ∈ turns, turn.withMembers = true) →
        Database.IsAtEnd site (job.records info) final (job.mixed program turns).db) := by
  induction turns generalizing program with
  | nil =>
    refine ⟨h, fun hend => ?_⟩
    rcases hend with hend | ⟨turn, hturn, -⟩
    · exact hend
    · cases hturn
  | cons turn turns ih =>
    obtain ⟨-, hnext, hreach⟩ := turn_resumable hlayouts hanswers hadmits hsite h turn
    obtain ⟨hafter, hstay⟩ := ih hnext
    refine ⟨hafter, fun hend => hstay ?_⟩
    -- the end was reached before, or by this turn, or it is reached by a later one
    rcases hend with hend | ⟨other, hother, hmembers⟩
    · exact .inl (hreach (.inl hend))
    · rcases List.mem_cons.mp hother with rfl | hother
      · exact .inl (hreach (.inr hmembers))
      · exact .inr ⟨other, hother, hmembers⟩

end Runs

end LoadJob

/-! ## §5. Both backends. -/

/-- The backends that settings choose from, whatever the tool prints. -/
inductive Backend.IsStandard : Backend → Prop
  | reader (files : Files) : IsStandard (readerBackend files)
  | tool (programs : Programs) (source : DumpSource) (s : Surroundings) :
      IsStandard (dumpBackendWith programs source s)

/-- Whatever settings choose is one of them. -/
theorem BackendChoice.backend_isStandard (choice : BackendChoice) (tool : Option String)
    (s : Surroundings) : (choice.backend tool s).IsStandard := by
  cases choice with
  | legacyInterop => exact .tool (runProgram s.files) ⟨tool, none⟩ s
  | universalReader => exact .reader s.files

theorem Backend.IsStandard.readsLayouts {backend : Backend} (h : backend.IsStandard) :
    backend.ReadsLayouts := by
  cases h with
  | reader files => exact readerBackend_readsLayouts files
  | tool programs source s => exact dumpBackend_readsLayouts programs source s

/-- Where a load with members is done, every sequence of loads with and without members is done,
and behind one with members the store is that of the single load. -/
theorem LoadJob.mixed_done {job : LoadJob} {identity : Identity} {info : DebugInfo}
    {program : Program} {single : Turn} {first : Outcome}
    (hlayouts : job.backend.ReadsLayouts) (hanswers : (job.reading true).Answers identity info)
    (hmembers : single.withMembers = true)
    (hfirst : (single.run job program).outcome = some (.ok first)) (hdone : first.state = .done)
    (turns : List Turn) :
    (∀ turn : Turn, ∃ outcome,
        (turn.run job (job.mixed program turns)).outcome = some (.ok outcome)
          ∧ outcome.state = .done)
      ∧ ((∃ turn ∈ turns, turn.withMembers = true) →
        (job.mixed program turns).db.snapshot = (single.run job program).program.db.snapshot) := by
  obtain ⟨withMembers, startedAt, finishedAt⟩ := single
  dsimp only at hmembers
  subst hmembers
  obtain ⟨-, hadmits, site, final, applied, hsite, happly⟩ :=
    undisturbed_of_done rfl (answers_again hanswers startedAt finishedAt) hfirst hdone
  -- the single load says where merging the content leads
  have hmerges : Database.Merges site (job.records info) program.db final :=
    merges_of_application hsite happly
  have hbefore : Database.IsResumable site (job.records info) final program.db :=
    ⟨final, hmerges, Database.continues_refl final⟩
  have hadmits' : job.Admits final identity := by
    obtain ⟨expected, ⟨hexpects, hreads⟩, hpass⟩ := hadmits
    exact admits_congr (expectedIdentity_of_merges hmerges) ⟨expected, ⟨hexpects, hreads⟩, hpass⟩
  have hsite' := isAt_of_merges hmerges hsite
  obtain ⟨hafter, hend⟩ := mixed_resumable hlayouts hanswers hadmits' hsite' hbefore turns
  refine ⟨fun turn => ?_, fun hturns => ?_⟩
  · exact (turn_resumable hlayouts hanswers hadmits' hsite' hafter turn).1
  · have hsingle := (turn_resumable hlayouts hanswers hadmits' hsite' hbefore
      ⟨true, startedAt, finishedAt⟩).2.2 (.inr rfl)
    exact (hend (.inr hturns)).store.trans hsingle.store.symm

/-- **Loads with and without members mix freely**, for both backends.  What is read with members
is read without them with every member list emptied.  Wherever a content can be merged, every
sequence of merges of it with and without members succeeds, and one that had members among it
ends with the rows and numbers of the single merge.  Wherever a load is done, every sequence of
such loads is done, and behind one with members the store is that of the single load. -/
theorem Backend.layouts_mix (backend : Backend) (hstandard : backend.IsStandard) :
    backend.ReadsLayouts
      ∧ (∀ (options : ApplyOptions) (info : DebugInfo) (imageBase : UInt64) (db db' : Database)
          (applied : Applied),
          (apply options info imageBase (fun _ => false) db).result = .ok (db', applied) →
          ∀ modes : List Bool, ∃ last,
            applyAll options imageBase db (modes.map info.reading) = .ok last
              ∧ (true ∈ modes → last.HasRowsOf db'))
      ∧ (∀ (job : LoadJob) (identity : Identity) (info : DebugInfo) (program : Program)
          (single : Turn) (first : Outcome), job.backend = backend →
          (job.reading true).Answers identity info → single.withMembers = true →
          (single.run job program).outcome = some (.ok first) → first.state = .done →
          ∀ turns : List Turn,
            (∀ turn : Turn, ∃ outcome,
                (turn.run job (job.mixed program turns)).outcome = some (.ok outcome)
                  ∧ outcome.state = .done)
              ∧ ((∃ turn ∈ turns, turn.withMembers = true) →
                (job.mixed program turns).db.snapshot
                  = (single.run job program).program.db.snapshot)) := by
  refine ⟨hstandard.readsLayouts, ?_, ?_⟩
  · intro options info imageBase db db' applied happly modes
    exact applyAll_mixed happly modes
  · intro job identity info program single first hbackend hanswers hmembers hfirst hdone turns
    have hlayouts : job.backend.ReadsLayouts := hbackend ▸ hstandard.readsLayouts
    exact LoadJob.mixed_done hlayouts hanswers hmembers hfirst hdone turns

/-- What a dump tool printed about a debug file: an identity and a type with one member. -/
def dumpedText : String :=
  "\x7b\"identity\":\x7b\"age\":1,\"signature\":1\x7d,\"types\":["
    ++ "\x7b\"name\":\"Node\",\"kind\":\"struct\",\"size\":8,"
    ++ "\"members\":[\x7b\"name\":\"next\",\"offset\":0,\"type_name\":\"u64\"\x7d]\x7d]\x7d"

/-- The debug file, and the document beside it. -/
def dumped : Surroundings :=
  ⟨⟨[], [(["app.pdb"], .file [] false),
    (["app.json"], .file (Text.Utf8.encode dumpedText).data.toList false)]⟩, []⟩

/-- Where the document is found. -/
def dumpSource : DumpSource :=
  ⟨none, some "app.json"⟩

/-- The content of the document. -/
def nodeWithNext : DebugInfo :=
  ⟨[⟨"Node", .struct, 8, [⟨"next", 0, "u64"⟩]⟩], [], [], []⟩

/-- The document itself. -/
def dumpedDocument : DumpDocument :=
  ⟨⟨none, some 1, 1, none⟩, nodeWithNext⟩

/-- The load of the document. -/
def dumpLoad : LoadJob :=
  { LoadJob.watchful with backend := dumpBackend dumpSource dumped }

/-- The backend answers the content of the document. -/
theorem answers_dumped : (dumpLoad.reading true).Answers
    ((Identity.ofSignature 1 1).withFile "app.pdb") nodeWithNext := by
  -- the kernel parses the text
  have hdocument : DumpDocument.parse? dumpedText = some dumpedDocument := by
    decide +kernel
  have hload : dumpSource.load (runProgram dumped.files) dumped "app.pdb" = .ok dumpedDocument :=
    DumpSource.load_of_document rfl (Files.readText_of_encode rfl) hdocument
  have hfile : DumpSource.requireFile dumped "app.pdb" = .ok () := rfl
  constructor
  · exact bind_ok.mpr ⟨(), hfile, bind_ok.mpr ⟨dumpedDocument, hload, rfl⟩⟩
  · exact bind_ok.mpr ⟨(), hfile, bind_ok.mpr ⟨dumpedDocument, hload, rfl⟩⟩

/-- A load without members, one with them and one without them. -/
def threeTurns : List Turn :=
  [⟨false, "", ""⟩, ⟨true, "", ""⟩, ⟨false, "", ""⟩]

/-- Layouts, definitions and layouts again, merged and loaded. -/
theorem layouts_mix_on_node :
    ∃ (merged last : Database) (applied : Applied) (outcome : Outcome),
      dumpLoad.backend.readInfo "app.pdb" (dumpLoad.reading false).settings.reading
          (fun _ => false) = .ok nodeWithNext.layoutOnly
        ∧ (apply dumpLoad.settings.applying nodeWithNext 0 (fun _ => false)
            LoadJob.programWithText.db).result = .ok (merged, applied)
        ∧ applyAll dumpLoad.settings.applying 0 LoadJob.programWithText.db
            [nodeWithNext.layoutOnly, nodeWithNext, nodeWithNext.layoutOnly] = .ok last
        ∧ last = merged
        ∧ ((⟨false, "", ""⟩ : Turn).run dumpLoad
            (dumpLoad.mixed LoadJob.programWithText threeTurns)).outcome = some (.ok outcome)
        ∧ outcome.state = .done
        ∧ (dumpLoad.mixed LoadJob.programWithText threeTurns).db.snapshot
          = ((⟨true, "", ""⟩ : Turn).run dumpLoad LoadJob.programWithText).program.db.snapshot := by
  obtain ⟨hlayouts, hmerges, hruns⟩ :=
    Backend.layouts_mix dumpLoad.backend (.tool (runProgram _) dumpSource dumped)
  have hanswers := answers_dumped
  have hread := hlayouts "app.pdb" dumpLoad.settings.reading (fun _ => false) nodeWithNext
    hanswers.info
  -- the kernel merges the content
  have hsome : (apply dumpLoad.settings.applying nodeWithNext 0 (fun _ => false)
      LoadJob.programWithText.db).result.toOption.isSome = true := by
    decide +kernel
  cases happly : (apply dumpLoad.settings.applying nodeWithNext 0 (fun _ => false)
      LoadJob.programWithText.db).result with
  | error e =>
    rw [happly] at hsome
    cases hsome
  | ok r =>
    obtain ⟨last, hall, hlast⟩ := hmerges dumpLoad.settings.applying nodeWithNext 0 _ r.1 r.2
      happly [false, true, false]
    -- so a load with members is done
    obtain ⟨blocks, hblocks, hmerged⟩ := merges_of_apply happly
    have hsite : LoadJob.programWithText.db.IsAt ⟨0, blocks⟩ := ⟨rfl, hblocks⟩
    have hadmits : (dumpLoad.reading true).Admits LoadJob.programWithText.db
        ((Identity.ofSignature 1 1).withFile "app.pdb") :=
      ⟨none, ⟨rfl, hanswers.identity⟩, .inr rfl⟩
    obtain ⟨first, -, hfirst, hdone, -⟩ :=
      LoadJob.run_of_merges hanswers hadmits hsite hmerged "" ""
    obtain ⟨hnext, hstore⟩ := hruns dumpLoad _ nodeWithNext LoadJob.programWithText
      ⟨true, "", ""⟩ first rfl hanswers rfl hfirst hdone threeTurns
    obtain ⟨outcome, houtcome, hstate⟩ := hnext ⟨false, "", ""⟩
    -- no symbol is offered, so no number is passed over
    have hskips : last.symbolSkips = r.1.symbolSkips := by
      have hnone : (applyAll dumpLoad.settings.applying 0 LoadJob.programWithText.db
          ([false, true, false].map nodeWithNext.reading)).toOption.map (·.symbolSkips)
            = (apply dumpLoad.settings.applying nodeWithNext 0 (fun _ => false)
                LoadJob.programWithText.db).result.toOption.map (·.1.symbolSkips) := by
        decide +kernel
      rw [hall, happly] at hnone
      exact Option.some.inj hnone
    have hsame : last = r.1 := by
      rw [(hlast (.tail _ (.head _))).rows, hskips]
      rfl
    exact ⟨r.1, last, r.2, outcome, hread, rfl, hall, hsame, houtcome, hstate,
      hstore ⟨⟨true, "", ""⟩, .tail _ (.head _), rfl⟩⟩

end DebugMerge
