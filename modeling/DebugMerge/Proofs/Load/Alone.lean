/-
  DebugMerge.Proofs.Load.Alone
  ────────────────────────────
  **A run merges as its backend does alone.**

  A backend can be called by itself: under the slot of the program it reads the
  file and merges it, and that is all.  A run does more around that call.  It
  compares identities and may ask the operator before it, and behind it the run
  names symbols and records itself.  None of these stages merges anything or
  adds to the messages of the merge, except that a naming that fails says so.

  So a run that nobody stops, and that is let through, ends with the counters
  and the messages of the backend alone, and with its database but for readable
  names and the history.  A snapshot lists symbols by address and name, and
  naming changes neither, so the snapshots differ in the readable names alone.

  Main definitions
    • `LoadJob.mergeAlone`           — the backend alone, under the slot
    • `Database.CanName`             — the tables that the naming of symbols reads
    • `Snapshot.IsNamed`             — two snapshots but for readable names
  Main statements
    • `Database.snapshot_decorated`  — the snapshot behind the naming of symbols
    • `LoadJob.run_like_alone`       — the whole run
-/
import DebugMerge.Proofs.Load.Confinement
import DebugMerge.Proofs.Load.Resume
import DebugMerge.Proofs.Load.Undisturbed

namespace DebugMerge

/-! ## §1. The backend alone. -/

/-- What a backend leaves behind that is called by itself. -/
structure AloneResult where
  log : Log
  result : Except LoadError Applied
  program : Program
  deriving DecidableEq, Repr

/-- The backend alone: if the slot is granted, it reads the file and merges it, and nobody asks it
to stop; a merge that fails leaves the database as it was, and one that reads forever leaves
nothing behind. -/
def LoadJob.mergeAlone (job : LoadJob) (shutDown : Bool) (program : Program) :
    Option AloneResult :=
  match program.acquire (job.slotRequest shutDown) with
  | .granted =>
      let merged := job.backend.merge job.file job.settings.applying job.settings.reading
        (fun _ => false) (fun _ => false) program.db
      match merged.result with
      | .ok (db, applied) => some ⟨merged.log, .ok applied, program.returned db⟩
      | .error .endless => none
      | .error e => some ⟨merged.log, .error e, program.returned program.db⟩
  | _ => none

namespace LoadJob

variable {job : LoadJob} {shutDown : Bool} {program alone : Program} {log : Log}
  {applied : Applied}

/-- A backend that succeeds alone got the slot, and read a content that it merged. -/
theorem mergeAlone_ok (h : job.mergeAlone shutDown program = some ⟨log, .ok applied, alone⟩) :
    program.acquire (job.slotRequest shutDown) = .granted
      ∧ ∃ info site m,
        job.backend.readInfo job.file job.settings.reading (fun _ => false) = .ok info
        ∧ program.db.IsAt site
        ∧ job.application info site program.db = ⟨log, .ok (m, applied)⟩
        ∧ alone = program.returned m := by
  unfold mergeAlone at h
  split at h
  · next hgranted =>
    refine ⟨hgranted, ?_⟩
    dsimp only at h
    split at h
    · next m applied' hmerged =>
      obtain ⟨info, site, hinfo, hsite, happly⟩ := merge_ok hmerged
      have hlog : (job.backend.merge job.file job.settings.applying job.settings.reading
          (fun _ => false) (fun _ => false) program.db).log
            = (job.application info site program.db).log := by
        unfold Backend.merge application
        rw [hinfo]
        dsimp only
        rw [hsite.1]
      cases h
      exact ⟨info, site, m, hinfo, hsite, congrArg₂ ApplyResult.mk hlog.symm happly, rfl⟩
    · cases h
    · cases h
  · cases h

end LoadJob

/-! ## §2. Naming without failure. -/

namespace Database

variable {db : Database}

/-- The tables that the naming of symbols reads exist. -/
structure CanName (db : Database) : Prop where
  options : db.options.isSome = true
  blocks : db.memoryBlocks.isSome = true
  symbols : db.symbols.isSome = true

/-- With its tables the naming of symbols does not fail. -/
theorem CanName.decorate_ok (h : db.CanName) (isSet : Nat → Bool) :
    ∃ r, decorate isSet db = .ok r := by
  obtain ⟨options, hoptions⟩ := Option.isSome_iff_exists.mp h.options
  obtain ⟨memory, hmemory⟩ := Option.isSome_iff_exists.mp h.blocks
  obtain ⟨rows, hrows⟩ := Option.isSome_iff_exists.mp h.symbols
  have hswitch : ∃ isOn, isDecorating db = .ok isOn := by
    unfold isDecorating optionsIn rowsOf
    rw [hoptions]
    exact ⟨_, rfl⟩
  have hblocks : db.blocks = .ok (memory.mergeSort MemoryBlock.listLe) := by
    unfold Database.blocks rowsOf
    rw [hmemory]
    rfl
  obtain ⟨isOn, hswitch⟩ := hswitch
  unfold decorate
  rw [hswitch, hblocks]
  cases isOn with
  | false => exact ⟨_, rfl⟩
  | true =>
    obtain ⟨rows', summary, hwalk, -⟩ := decorateBlocks_spec ⟨decorateInterval, isSet⟩
      (memory.mergeSort MemoryBlock.listLe) hrows .zero rfl
    show ∃ r, (decorateBlocks _ ⟨db, .zero⟩ _).bind _ = .ok r
    rw [hwalk]
    exact ⟨_, rfl⟩

theorem CanName.namingLog_eq_nil (h : db.CanName) : namingLog db = [] := by
  obtain ⟨r, hr⟩ := h.decorate_ok fun _ => false
  unfold namingLog
  rw [hr]

end Database

/-! ## §3. Snapshots. -/

/-- The snapshots are equal but for symbols without a readable name that got the one that their
name has. -/
structure Snapshot.IsNamed (s s' : Snapshot) : Prop where
  types : s'.types = s.types
  symbols : List.Forall₂ (fun row row' => row' = row ∨ row.IsNamed row') s.symbols s'.symbols
  comments : s'.comments = s.comments
  lines : s'.lines = s.lines

/-- Symbols are listed by what naming does not change. -/
theorem listLe_decorateRow (blocks : List MemoryBlock) (a b : SymbolRow) :
    SymbolRow.listLe (decorateRow blocks a) (decorateRow blocks b) = SymbolRow.listLe a b := by
  have haddress : ∀ row, (decorateRow blocks row).address = row.address :=
    fun row => congrArg Prod.fst (key_decorateRow blocks row)
  have hname : ∀ row, (decorateRow blocks row).name = row.name :=
    fun row => congrArg Prod.snd (key_decorateRow blocks row)
  unfold SymbolRow.listLe
  rw [haddress, haddress, hname, hname]

namespace Database

variable {db : Database}

theorem listSymbols_decorated (db : Database) :
    db.decorated.listSymbols = db.listSymbols.map (·.map (decorateRow db.decoratedBlocks)) := by
  unfold listSymbols decorated withSymbols rowsOf
  cases db.symbols with
  | none => rfl
  | some rows =>
    refine congrArg Except.ok ?_
    exact (List.map_mergeSort (s := SymbolRow.listLe) fun a _ b _ =>
      (listLe_decorateRow db.decoratedBlocks a b).symm).symm

/-- **The snapshot behind the naming of symbols** can be taken exactly if it could before, and
differs from it in readable names alone. -/
theorem snapshot_decorated (db : Database) :
    db.decorated.snapshot = db.snapshot.map fun s =>
      { s with symbols := s.symbols.map (decorateRow db.decoratedBlocks) } := by
  unfold snapshot
  rw [listSymbols_decorated]
  show db.listTypes.bind (fun types => _ ) = _
  cases db.listTypes with
  | error e => rfl
  | ok types =>
    cases db.listSymbols with
    | error e => rfl
    | ok symbols =>
      show db.listComments.bind _ = (db.listComments.bind _).map _
      cases db.listComments with
      | error e => rfl
      | ok comments =>
        show db.listLines.bind _ = (db.listLines.bind _).map _
        cases db.listLines <;> rfl

end Database

/-- What the naming of symbols makes of a snapshot. -/
theorem Snapshot.isNamed_map (blocks : List MemoryBlock) (s : Snapshot) :
    s.IsNamed { s with symbols := s.symbols.map (decorateRow blocks) } := by
  refine ⟨rfl, ?_, rfl, rfl⟩
  refine List.forall₂_map_right_iff.mpr (List.forall₂_same.mpr fun row _ => ?_)
  rcases decorateRow_cases blocks row with heq | ⟨-, hnamed⟩
  · exact .inl heq
  · exact .inr hnamed

/-! ## §4. The whole run. -/

namespace LoadJob

/-- **A run merges as its backend does alone.**  If nobody stops the run, the file passes the gate,
and the backend alone, under the slot of the same program, merges the file, then the run is done
with the same counters.  Its messages are those of the backend, and behind them at most that the
naming of symbols failed, which it does not if its tables exist.  The run's program is that of the
backend alone with named symbols and a longer history, and so the two snapshots are equal but for
readable names. -/
theorem run_like_alone (job : LoadJob) (shutDown : Bool) (program alone : Program)
    (identity : Identity) (log : Log) (applied : Applied) (hplan : job.plan = .never)
    (hadmits : job.Admits program.db identity)
    (halone : job.mergeAlone shutDown program = some ⟨log, .ok applied, alone⟩) :
    ∃ outcome runs, (job.run shutDown program).outcome = some (.ok outcome)
      ∧ outcome.state = .done
      ∧ outcome.applied = some applied
      ∧ outcome.messages = log ++ namingLog alone.db
      ∧ (alone.db.CanName → outcome.messages = log)
      ∧ (job.run shutDown program).program
        = { alone with db := alone.db.decorated.withRuns runs }
      ∧ (∀ s, alone.db.snapshot = .ok s →
          ∃ s', (job.run shutDown program).program.db.snapshot = .ok s' ∧ s.IsNamed s')
      ∧ ∀ e, alone.db.snapshot = .error e →
          (job.run shutDown program).program.db.snapshot = .error e := by
  obtain ⟨hgranted, info, site, m, hinfo, hsite, happly, rfl⟩ := mergeAlone_ok halone
  have hanswers : job.Answers identity info := by
    obtain ⟨expected, hcompares, -⟩ := hadmits
    exact ⟨hcompares.reads, hinfo⟩
  obtain ⟨outcome, runs, houtcome, hdone, happlied, -, hmessages, hprogram⟩ :=
    run_undisturbed hplan hanswers hgranted hadmits hsite (congrArg ApplyResult.result happly)
  rw [happly] at hmessages
  have hsnapshot : (job.run shutDown program).program.db.snapshot = m.snapshot.map fun s =>
      { s with symbols := s.symbols.map (decorateRow m.decoratedBlocks) } := by
    rw [hprogram]
    exact m.snapshot_decorated
  refine ⟨outcome, runs, houtcome, hdone, happlied, hmessages, fun hcan => ?_, hprogram,
    fun s hs => ?_, fun e he => ?_⟩
  · have hnil : namingLog m = [] := hcan.namingLog_eq_nil
    rw [hmessages, hnil, List.append_nil]
  · rw [hsnapshot, show m.snapshot = .ok s from hs]
    exact ⟨_, rfl, s.isNamed_map _⟩
  · rw [hsnapshot, show m.snapshot = .error e from he]
    rfl

/-- A file with a symbol whose name has a readable form, and one outside memory. -/
def writeAndLost : DebugInfo :=
  ⟨[], [⟨"_ZN4core3fmt5write17h0123456789abcdefE", 16, none, .function, .publicTable⟩,
    ⟨"lost", 8192, none, .data, .publicTable⟩], [], []⟩

/-- The program behind the backend alone: the symbol has no readable name. -/
def programWithWrite : Program :=
  { programWithText with
    db := { programWithText.db with
      symbols := some [⟨16, "_ZN4core3fmt5write17h0123456789abcdefE", "function", "public", none,
        none⟩] } }

/-- The operator accepts the file; the run counts and says what the backend alone does, and the
one symbol has its readable name besides. -/
theorem run_like_alone_on_write :
    ∃ outcome, ((ofInfo writeAndLost .never).run false programWithText).outcome = some (.ok outcome)
      ∧ (ofInfo writeAndLost .never).mergeAlone false programWithText
        = some ⟨outcome.messages, .ok ⟨0, 0, 1, 0, 1, 0, 0, 0, false⟩, programWithWrite⟩
      ∧ outcome.messages
        = ["Unable to place symbol lost at 0x2000: address is outside program memory"]
      ∧ outcome.applied = some ⟨0, 0, 1, 0, 1, 0, 0, 0, false⟩
      ∧ ((ofInfo writeAndLost .never).run false programWithText).program.db.snapshot.toOption.map
          (·.symbols.map SymbolRow.demangled) = some [some "core::fmt::write"] := by
  have halone : (ofInfo writeAndLost .never).mergeAlone false programWithText
      = some ⟨["Unable to place symbol lost at 0x2000: address is outside program memory"],
        .ok ⟨0, 0, 1, 0, 1, 0, 0, 0, false⟩, programWithWrite⟩ := by
    decide +kernel
  have hadmits : (ofInfo writeAndLost .never).Admits programWithText.db
      ((Identity.ofSignature 1 1).withFile "app.pdb") :=
    ⟨_, ⟨rfl, rfl⟩, .inr rfl⟩
  obtain ⟨outcome, runs, houtcome, -, happlied, -, hmessages, -⟩ :=
    run_like_alone _ false programWithText programWithWrite _ _ _ rfl hadmits halone
  have hmessages := hmessages ⟨rfl, rfl, rfl⟩
  refine ⟨outcome, houtcome, ?_, hmessages, happlied, by decide +kernel⟩
  rw [hmessages]
  exact halone

end LoadJob

end DebugMerge
