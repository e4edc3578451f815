/-
  DebugMerge.Proofs.Load.Stages
  ─────────────────────────────
  **The stages that a run can pass through.**

  The stages of a run are entered in three places: while the run waits for the
  slot, while it works, and between reading the file and merging its content.
  Together they spell a path of a small grammar, with one rule for every way in
  which a stage ends.  What the outcome tells besides its trace follows from
  the path, so the outcome can be read without knowing which stage wrote what.

  Main statements
    • `Findings`                          — what an outcome tells besides its trace
    • `AfterApplying`, `AfterParsing`, `AfterAsking`, `AfterVerifying`, `RunPath`
                                          — the grammar
    • `Agrees`, `agrees_of_runPath`       — what a path says about the findings
    • `decorating_path`, `merging_path`, `verifying_path` — one stage
    • `run_path`                          — the whole run
-/
import DebugMerge.Proofs.Load.Effect

namespace DebugMerge

/-! ## §1. The grammar of stages. -/

/-- What an outcome tells besides its trace. -/
structure Findings where
  applied : Option Applied
  demangled : Option DemangleSummary
  cancelled : Bool

/-- Nothing was found, and nothing was stopped. -/
def Findings.none : Findings := ⟨.none, .none, false⟩

/-- Nothing was found, because the run was stopped. -/
def Findings.stopped : Findings := ⟨.none, .none, true⟩

/-- The stages that can follow the stage of applying. -/
inductive AfterApplying : List Stage → Findings → Prop
  /-- A record was refused, or the database failed. -/
  | failed : AfterApplying [.failed] .none
  /-- Stopped at a record. -/
  | cut (applied : Applied) : AfterApplying [.done] ⟨some applied, none, true⟩
  /-- All records were merged, and symbols were given names; the pass counts as stopped if its
  summary says so. -/
  | named (applied : Applied) (summary : Option DemangleSummary) :
      AfterApplying [.demangling, .done] ⟨some applied, summary, summary.any (·.cancelled)⟩

/-- The stages that can follow the stage of parsing. -/
inductive AfterParsing : List Stage → Findings → Prop
  /-- The file could not be read. -/
  | failed : AfterParsing [.failed] .none
  /-- Stopped while the file was read. -/
  | cut : AfterParsing [.done] .stopped
  | applying {rest : List Stage} {found : Findings} (behind : AfterApplying rest found) :
      AfterParsing (.applying :: rest) found

/-- The stages that can follow the question to the operator. -/
inductive AfterAsking : List Stage → Findings → Prop
  | declined : AfterAsking [.aborted] .none
  | accepted {rest : List Stage} {found : Findings} (behind : AfterParsing rest found) :
      AfterAsking (.parsing :: rest) found

/-- The stages that can follow the stage of verifying.  `identity` is what the backend answers
about the identity of the file. -/
inductive AfterVerifying (identity : Except LoadError Identity) : List Stage → Findings → Prop
  /-- An identity could not be read. -/
  | failed : AfterVerifying identity [.failed] .none
  /-- Stopped while the identity was read. -/
  | cut (stopped : identity = .error .cancelled) : AfterVerifying identity [.done] .stopped
  /-- The identities match. -/
  | matching {rest : List Stage} {found : Findings} (behind : AfterParsing rest found) :
      AfterVerifying identity (.parsing :: rest) found
  | asking {rest : List Stage} {found : Findings} (behind : AfterAsking rest found) :
      AfterVerifying identity (.awaitingConfirmation :: rest) found

/-- The stages of a run, by the answer to its request for the slot. -/
inductive RunPath (answer : SlotAnswer) (identity : Except LoadError Identity) :
    List Stage → Findings → Prop
  /-- Stopped while it waited for the slot. -/
  | gaveUp (refused : answer = .refused .cancelled) :
      RunPath answer identity [.idle, .awaitingSlot, .done] .stopped
  | held (granted : answer = .granted) {rest : List Stage} {found : Findings}
      (behind : AfterVerifying identity rest found) :
      RunPath answer identity (.idle :: .awaitingSlot :: .verifying :: rest) found

/-! ## §2. What a path says about the findings. -/

/-- What an outcome tells agrees with its trace. -/
structure Agrees (trace : List Stage) (state : Stage) (found : Findings) : Prop where
  /-- The state is the last stage, and no stage before it is terminal. -/
  last : ∃ before, trace = before ++ [state] ∧ ∀ stage ∈ before, stage.isTerminal = false
  terminal : state.isTerminal = true
  /-- Counters of merged records are told exactly by a run that is done with them. -/
  applied : found.applied.isSome = true ↔ .applying ∈ trace ∧ state = .done
  demangled : found.demangled.isSome = true → .demangling ∈ trace
  /-- A run that is done was not stopped exactly if it got through the naming of symbols. -/
  cancelled : state = .done → (found.cancelled = false
    ↔ .demangling ∈ trace ∧ found.demangled.any (·.cancelled) = false)

/-- A stage in front changes nothing about the agreement, if it is none of those that the
findings are about. -/
theorem agrees_cons {stage : Stage} {trace : List Stage} {found : Findings}
    (hopen : stage.isTerminal = false) (happlying : stage ≠ .applying)
    (hdemangling : stage ≠ .demangling) (h : ∃ state, Agrees trace state found) :
    ∃ state, Agrees (stage :: trace) state found := by
  obtain ⟨state, h⟩ := h
  have hmem : ∀ wanted : Stage, stage ≠ wanted → (wanted ∈ stage :: trace ↔ wanted ∈ trace) := by
    intro wanted hne
    rw [List.mem_cons, or_iff_right (Ne.symm hne)]
  obtain ⟨before, htrace, hbefore⟩ := h.last
  refine ⟨state, ⟨stage :: before, ?_, ?_⟩, h.terminal, ?_, ?_, ?_⟩
  · rw [htrace, List.cons_append]
  · intro other hother
    rcases List.mem_cons.mp hother with heq | hother
    · rw [heq, hopen]
    · exact hbefore other hother
  · rw [hmem .applying happlying]
    exact h.applied
  · rw [hmem .demangling hdemangling]
    exact h.demangled
  · rw [hmem .demangling hdemangling]
    exact h.cancelled

/-- A run that fails or is declined tells nothing. -/
theorem agrees_of_none {state : Stage} (hterminal : state.isTerminal = true)
    (hdone : state ≠ .done) : ∃ state', Agrees [state] state' .none := by
  refine ⟨state, ⟨[], rfl, nofun⟩, hterminal, ?_, nofun, fun h => absurd h hdone⟩
  exact iff_of_false nofun fun h => hdone h.2

/-- A run that is stopped before anything is merged tells that it was stopped. -/
theorem agrees_of_stopped : ∃ state, Agrees [.done] state .stopped := by
  refine ⟨.done, ⟨[], rfl, nofun⟩, rfl, ?_, nofun, fun _ => ?_⟩
  · exact iff_of_false nofun (by decide)
  · exact iff_of_false nofun (by decide)

theorem agrees_of_afterApplying {rest : List Stage} {found : Findings}
    (h : AfterApplying rest found) : ∃ state, Agrees (.applying :: rest) state found := by
  cases h with
  | failed =>
    refine ⟨.failed, ⟨[.applying], rfl, by decide⟩, rfl, ?_, nofun, nofun⟩
    exact iff_of_false nofun (by decide)
  | cut applied =>
    refine ⟨.done, ⟨[.applying], rfl, by decide⟩, rfl, ?_, nofun, fun _ => ?_⟩
    · exact iff_of_true rfl (by decide)
    · exact iff_of_false nofun fun h => absurd h.1 (by decide)
  | named applied summary =>
    refine ⟨.done, ⟨[.applying, .demangling], rfl, by decide⟩, rfl, ?_, ?_, fun _ => ?_⟩
    · exact iff_of_true rfl (by decide)
    · intro _
      decide
    · exact (and_iff_right (by decide)).symm

theorem agrees_of_afterParsing {rest : List Stage} {found : Findings}
    (h : AfterParsing rest found) : ∃ state, Agrees rest state found := by
  cases h with
  | failed => exact agrees_of_none rfl nofun
  | cut => exact agrees_of_stopped
  | applying behind => exact agrees_of_afterApplying behind

theorem agrees_of_afterAsking {rest : List Stage} {found : Findings}
    (h : AfterAsking rest found) : ∃ state, Agrees rest state found := by
  cases h with
  | declined => exact agrees_of_none rfl nofun
  | accepted behind => exact agrees_cons rfl nofun nofun (agrees_of_afterParsing behind)

theorem agrees_of_afterVerifying {identity : Except LoadError Identity} {rest : List Stage}
    {found : Findings} (h : AfterVerifying identity rest found) :
    ∃ state, Agrees rest state found := by
  cases h with
  | failed => exact agrees_of_none rfl nofun
  | cut => exact agrees_of_stopped
  | matching behind => exact agrees_cons rfl nofun nofun (agrees_of_afterParsing behind)
  | asking behind => exact agrees_cons rfl nofun nofun (agrees_of_afterAsking behind)

/-- **What a path says about the findings.** -/
theorem agrees_of_runPath {answer : SlotAnswer} {identity : Except LoadError Identity}
    {trace : List Stage} {found : Findings} (h : RunPath answer identity trace found) :
    ∃ state, Agrees trace state found := by
  -- up to the stage of verifying no stage is one that the findings are about
  cases h with
  | gaveUp => exact agrees_cons rfl nofun nofun (agrees_cons rfl nofun nofun agrees_of_stopped)
  | held _ behind =>
    refine agrees_cons rfl nofun nofun (agrees_cons rfl nofun nofun ?_)
    exact agrees_cons rfl nofun nofun (agrees_of_afterVerifying behind)

/-! ## §3. The stages of the work. -/

/-- What an outcome tells besides its trace. -/
def Outcome.findings (o : Outcome) : Findings := ⟨o.applied, o.demangled, o.cancelled⟩

namespace Progress

/-- What the outcome of a run that ends here would tell. -/
def findings (p : Progress) : Findings := ⟨p.applied, p.demangled, p.cancelled⟩

/-- From `p` on, a run that ends in `r` went along a path; one that goes on forever has no path
yet. -/
def Follows (p : Progress) (path : List Stage → Findings → Prop) (r : Progress × RunEnding) :
    Prop :=
  r.2 ≠ .endless → ∃ rest, r.1.trace ++ [r.2.stage] = p.trace ++ rest ∧ path rest r.1.findings

variable {p q : Progress} {r : Progress × RunEnding} {path path' : List Stage → Findings → Prop}

/-- The run ends here. -/
theorem follows_end {ending : RunEnding} (htrace : q.trace = p.trace)
    (hpath : path [ending.stage] q.findings) : p.Follows path (q, ending) :=
  fun _ => ⟨[ending.stage], congrArg (· ++ [ending.stage]) htrace, hpath⟩

/-- The run enters a stage and follows a path from there. -/
theorem follows_enter {stage : Stage} (htrace : q.trace = (p.enter stage).trace)
    (hpath : ∀ rest found, path rest found → path' (stage :: rest) found)
    (h : q.Follows path r) : p.Follows path' r := by
  intro hends
  obtain ⟨rest, hrest, hbehind⟩ := h hends
  refine ⟨stage :: rest, ?_, hpath rest _ hbehind⟩
  rw [hrest, htrace]
  exact List.append_assoc p.trace [stage] rest

/-- A run whose backend fails or stops ends failed or stopped. -/
theorem follows_endWith {cause : LoadError} (hp : p.findings = .none)
    (hfailed : path [.failed] .none) (hcut : cause = .cancelled → path [.done] .stopped) :
    p.Follows path (p.endWith cause) := by
  cases cause with
  | cancelled =>
    refine follows_end rfl ?_
    show path [.done] ⟨p.applied, p.demangled, true⟩
    rw [show p.applied = none from congrArg Findings.applied hp,
      show p.demangled = none from congrArg Findings.demangled hp]
    exact hcut rfl
  | endless => exact fun hends => absurd rfl hends
  | missingFile | io | malformed | typeConflict | toolUnavailable | store =>
    refine follows_end rfl ?_
    show path [.failed] p.findings
    rw [hp]
    exact hfailed

end Progress

namespace LoadJob

open Progress

variable (job : LoadJob) {p : Progress}

/-- **Reading and merging**: the file is not read, or a step behind reading fails, which never
counts as stopped, or the content is merged. -/
theorem merged_cases (p : Progress) :
    (∃ e, job.merged p = ⟨false, [], .error e⟩)
      ∨ (∃ log e, job.merged p = ⟨true, log, .error e⟩ ∧ e ≠ .cancelled)
      ∨ ∃ log db applied, job.merged p = ⟨true, log, .ok (db, applied)⟩ := by
  unfold merged Backend.merge
  split
  · next e _ => exact .inl ⟨e, rfl⟩
  · next info _ =>
    split
    · next e _ => exact .inr (.inl ⟨[], .store e, rfl, nofun⟩)
    · next imageBase _ =>
      dsimp only
      cases hresult : (apply job.settings.applying info imageBase
          (fun n => CancelPlan.setApplying p.asked n job.plan) p.db).result with
      | error e =>
        refine .inr (.inl ⟨_, e, rfl, ?_⟩)
        intro heq
        rw [heq] at hresult
        exact apply_ne_cancelled hresult
      | ok merged => exact .inr (.inr ⟨_, merged.1, merged.2, rfl⟩)

/-- **The stage of naming.** -/
theorem decorating_path {applied : Applied} (hp : p.findings = ⟨some applied, none, false⟩) :
    p.Follows AfterApplying (job.decorating p) := by
  obtain ⟨trace, log, _, _, _, questions, db⟩ := p
  cases hp
  refine fun _ => ⟨[.demangling, .done], ?_, ?_⟩
  · rw [(decorating_spec job _).1, (decorating_spec job _).2]
    exact List.append_assoc trace [.demangling] [.done]
  · unfold decorating
    dsimp only
    split
    · exact .named applied none
    · next db' summary _ =>
      -- both ways to end are the same rule: the summary says which one was taken
      have hpath := AfterApplying.named applied summary
      cases hcancelled : summary.any (·.cancelled) with
      | true =>
        rw [hcancelled] at hpath
        exact hpath
      | false =>
        rw [hcancelled] at hpath
        exact hpath

/-- **The stage of parsing**, and of applying what was read. -/
theorem merging_path (hp : p.findings = .none) :
    (p.enter .parsing).Follows AfterParsing (job.merging p) := by
  unfold merging
  dsimp only
  rcases job.merged_cases (p.enter .parsing)
    with ⟨e, hmerged⟩ | ⟨log, e, hmerged, hne⟩ | ⟨log, db, applied, hmerged⟩
  · -- the file was not read, so nothing was announced
    rw [show job.backend.merge _ _ _ _ _ _ = _ from hmerged]
    exact follows_endWith hp .failed fun _ => .cut
  · -- what fails behind reading never counts as stopped, so the run cannot be done here
    rw [show job.backend.merge _ _ _ _ _ _ = _ from hmerged]
    refine follows_enter rfl (fun _ _ => AfterParsing.applying) ?_
    exact follows_endWith hp .failed fun h => absurd h hne
  · rw [show job.backend.merge _ _ _ _ _ _ = _ from hmerged]
    refine follows_enter rfl (fun _ _ => AfterParsing.applying) ?_
    obtain ⟨trace, earlier, _, _, _, questions, before⟩ := p
    cases hp
    dsimp only
    split
    · exact follows_end rfl (.cut applied)
    · exact decorating_path job rfl

/-- **The stage of verifying**, and of asking the operator. -/
theorem verifying_path (hp : p.findings = .none) :
    (p.enter .verifying).Follows (AfterVerifying (job.backend.readIdentity job.file))
      (job.verifying p) := by
  unfold verifying
  dsimp only
  split
  · refine follows_end rfl ?_
    show AfterVerifying _ [.failed] p.findings
    rw [hp]
    exact .failed
  · split
    · next e hidentity =>
      refine follows_endWith hp .failed fun hcancelled => ?_
      rw [hidentity, hcancelled]
      exact .cut rfl
    · split
      · exact follows_enter rfl (fun _ _ => AfterVerifying.matching) (merging_path job hp)
      · next details _ =>
        have hasked : ((p.enter .verifying).ask (confirmation details)).findings = .none := hp
        refine follows_enter rfl (fun _ _ => AfterVerifying.asking) ?_
        split
        · exact follows_enter rfl (fun _ _ => AfterAsking.accepted) (merging_path job hasked)
        · refine follows_end rfl ?_
          rw [hasked]
          exact .declined

/-! ## §4. The whole run. -/

/-- **The stages of a run.**  The trace of every outcome is a path of the grammar, and the
outcome tells what agrees with its trace. -/
theorem run_path (shutDown : Bool) (program : Program) (outcome : Outcome)
    (h : (job.run shutDown program).outcome = some (.ok outcome)) :
    RunPath (program.acquire (job.slotRequest shutDown)) (job.backend.readIdentity job.file)
        outcome.trace outcome.findings
      ∧ Agrees outcome.trace outcome.state outcome.findings := by
  have hpath : RunPath (program.acquire (job.slotRequest shutDown))
      (job.backend.readIdentity job.file) outcome.trace outcome.findings
      ∧ outcome.state = outcome.trace.getLast?.getD .idle := by
    unfold run at h
    split at h
    · cases h
    · cases h
    · next hacquire =>
      cases h
      rw [hacquire]
      exact ⟨.gaveUp rfl, rfl⟩
    · next hacquire =>
      have hends := ends_of_leaving h
      cases leaving_outcome h
      rw [hacquire]
      obtain ⟨rest, hrest, hbehind⟩ := verifying_path job (p := .start program.db) rfl hends
      refine ⟨?_, rfl⟩
      show RunPath _ _ (job.work program.db).trace (job.verifying (.start program.db)).1.findings
      rw [(work_eq job program.db).1, hrest]
      exact .held rfl hbehind
  obtain ⟨hpath, hstate⟩ := hpath
  obtain ⟨state, hagrees⟩ := agrees_of_runPath hpath
  obtain ⟨before, htrace, -⟩ := hagrees.last
  rw [htrace, List.getLast?_concat] at hstate
  rw [show outcome.state = state from hstate]
  exact ⟨hpath, hagrees⟩

/-- A run that fails at a conflict began to apply the file, so it tells no counters. -/
theorem run_path_of_conflict :
    ∃ outcome,
      ((ofInfo leafAndNode .never).run false programWithNode).outcome = some (.ok outcome)
        ∧ RunPath .granted (.ok ((Identity.ofSignature 1 1).withFile "app.pdb"))
          [.idle, .awaitingSlot, .verifying, .awaitingConfirmation, .parsing, .applying, .failed]
          outcome.findings
        ∧ outcome.applied = none := by
  obtain ⟨hpath, hagrees⟩ := run_path (ofInfo leafAndNode .never) false programWithNode _ rfl
  refine ⟨_, rfl, hpath, ?_⟩
  have htold := mt hagrees.applied.mp fun h => nomatch h.2
  exact Option.not_isSome_iff_eq_none.mp htold

end LoadJob

end DebugMerge
