/-
  DebugMerge.Proofs.Slot.Turns
  ────────────────────────────
  **The slot over any sequence of units of work.**

  A unit of work is a tree: it looks at the database and goes on as it likes,
  it changes the database, it asks for the slot that it holds and goes on with
  the answer.  So what holds of every unit is proved by induction on that tree,
  with one lemma for each kind of step: a held slot is granted to nobody, and a
  step on the database keeps what its transactions keep.

  What a unit leaves is told by its events alone: the changes outside
  transactions and those of the transactions that were committed, in their
  order.  A unit that unwinds leaves a poisoned slot, and from then on every
  request is refused, so that the database stays what it is.

  Main definitions
    • `StoreStep.keeps`, `durable`         — the changes that are kept
    • `Work.Runs`                          — what a unit does from beginning to end
    • `Waiter.IsAnswered`, `Work.IsAnswered` — requests that are not left waiting
    • `Program.TakesTurn`                  — what holds of one request
  Main statements
    • `Program.poll_eq_acquire`            — waiting comes to the answer of a request
    • `Holding.carries_on`, `Work.exec_runs` — one step, and a whole unit
    • `durable_of_committed`, `durable_of_uncommitted` — whole transactions
    • `Program.turn_cases`, `.takesTurn`   — one request
    • `Program.units_take_turns`           — a sequence of requests
    • `LoadJob.run_eq_turn`                — a load is a unit of work
-/
import DebugMerge.Proofs.Load.Gate
import DebugMerge.Slot.Work

namespace DebugMerge

/-! ## §1. Waiting for an answer. -/

/-- A time limit that is over counts. -/
theorem Look.request_of_le {look : Look} {ms : UInt64} (h : ms.toNat ≤ look.elapsed) :
    look.request (some ms) = ⟨some ms, look.cancelled, look.shutDown⟩ := by
  unfold request
  rw [Option.filter_some_pos]
  exact decide_eq_true h

theorem Look.request_of_not_le {look : Look} {ms : UInt64} (h : ¬ ms.toNat ≤ look.elapsed) :
    look.request (some ms) = ⟨none, look.cancelled, look.shutDown⟩ := by
  unfold request
  rw [Option.filter_some_neg]
  exact decide_eq_false h

namespace Program

variable {p : Program} {request : SlotRequest} {timeout : Option UInt64} {looks : List Look}
  {waiter : Waiter}

theorem acquire_eq_granted_iff :
    p.acquire request = .granted ↔ p.slot = .free ∧ request.shutDown = false := by
  unfold acquire
  cases request.shutDown with
  | true => exact iff_of_false nofun fun h => nomatch h.2
  | false =>
    rw [if_neg Bool.false_ne_true]
    cases p.slot with
    | free => exact iff_of_true rfl ⟨rfl, rfl⟩
    | poisoned => exact iff_of_false nofun fun h => nomatch h.1
    | held =>
      refine iff_of_false ?_ fun h => nomatch h.1
      dsimp only
      split
      · exact nofun
      · split <;> exact nofun

theorem acquire_eq_waiting_iff :
    p.acquire request = .waiting ↔ p.slot = .held ∧ request.shutDown = false
      ∧ request.cancelled = false ∧ request.timeout = none := by
  unfold acquire
  cases request.shutDown with
  | true => exact iff_of_false nofun fun h => nomatch h.2.1
  | false =>
    rw [if_neg Bool.false_ne_true]
    cases p.slot with
    | free => exact iff_of_false nofun fun h => nomatch h.1
    | poisoned => exact iff_of_false nofun fun h => nomatch h.1
    | held =>
      dsimp only
      cases request.cancelled with
      | true => exact iff_of_false nofun fun h => nomatch h.2.2.1
      | false =>
        rw [if_neg Bool.false_ne_true]
        cases request.timeout with
        | some ms => exact iff_of_false nofun fun h => nomatch h.2.2.2
        | none => exact iff_of_true rfl ⟨rfl, rfl, rfl, rfl⟩

/-- A poisoned slot is unavailable, whoever asks. -/
theorem acquire_of_poisoned (h : p.slot = .poisoned) (request : SlotRequest) :
    ∃ reason, p.acquire request = .refused (.unavailable reason) := by
  unfold acquire
  rw [h]
  split
  · exact ⟨_, rfl⟩
  · exact ⟨_, rfl⟩

/-- A look that is answered ends the wait. -/
theorem poll_cons_of_answered {look : Look}
    (h : p.acquire (look.request timeout) ≠ .waiting) (looks : List Look) :
    p.poll timeout (look :: looks) = p.acquire (look.request timeout) := by
  unfold poll
  split
  · next hwaiting => exact absurd hwaiting h
  · rfl

theorem poll_cons_of_waiting {look : Look}
    (h : p.acquire (look.request timeout) = .waiting) (looks : List Look) :
    p.poll timeout (look :: looks) = p.poll timeout looks := by
  rw [poll, h]

/-- **A slot that is held is granted to nobody**, however long the asker waits. -/
theorem poll_of_held (h : p.slot = .held) (timeout : Option UInt64) (looks : List Look) :
    p.poll timeout looks ≠ .granted := by
  induction looks with
  | nil => exact nofun
  | cons look looks ih =>
    by_cases hwaiting : p.acquire (look.request timeout) = .waiting
    · rw [poll_cons_of_waiting hwaiting]
      exact ih
    · rw [poll_cons_of_answered hwaiting]
      intro hgranted
      rw [acquire_eq_granted_iff, h] at hgranted
      exact nomatch hgranted.1

/-- Only a held slot is waited for: otherwise the first look is answered. -/
theorem answer_of_not_held (h : p.slot ≠ .held) (waiter : Waiter) :
    p.answer waiter = p.acquire (waiter.first.request waiter.timeout) :=
  poll_cons_of_answered (fun hwaiting => h (acquire_eq_waiting_iff.mp hwaiting).1) _

/-- **What is granted**: a free slot, unless no more work is scheduled. -/
theorem answer_eq_granted_iff :
    p.answer waiter = .granted ↔ p.slot = .free ∧ waiter.first.shutDown = false := by
  by_cases hheld : p.slot = .held
  · refine iff_of_false (poll_of_held hheld _ _) fun h => ?_
    rw [hheld] at h
    exact nomatch h.1
  · rw [answer_of_not_held hheld]
    exact acquire_eq_granted_iff

theorem answer_of_poisoned (h : p.slot = .poisoned) (waiter : Waiter) :
    ∃ reason, p.answer waiter = .refused (.unavailable reason) := by
  rw [answer_of_not_held (by rw [h]; exact nofun)]
  exact acquire_of_poisoned h _

/-- A request that is answered without a time limit gets that answer with any. -/
theorem acquire_of_answered {cancelled shutDown : Bool}
    (h : p.acquire ⟨none, cancelled, shutDown⟩ ≠ .waiting) (timeout : Option UInt64) :
    p.acquire ⟨timeout, cancelled, shutDown⟩ = p.acquire ⟨none, cancelled, shutDown⟩ := by
  unfold acquire at h ⊢
  cases shutDown with
  | true => rfl
  | false =>
    cases hslot : p.slot with
    | free => rfl
    | poisoned => rfl
    | held =>
      cases cancelled with
      | true => rfl
      | false =>
        rw [hslot] at h
        exact absurd rfl h

/-- **Waiting comes to the answer of a request**: an asker that finds the same at every look, and
looks until its time is over, gets the answer that the request gets at once. -/
theorem poll_eq_acquire {shutDown cancelled : Bool}
    (hsame : ∀ look ∈ looks, look.shutDown = shutDown ∧ look.cancelled = cancelled)
    (hlooks : looks ≠ [])
    (hover : ∀ ms, timeout = some ms → ∃ look ∈ looks, ms.toNat ≤ look.elapsed) :
    p.poll timeout looks = p.acquire ⟨timeout, cancelled, shutDown⟩ := by
  induction looks with
  | nil => exact absurd rfl hlooks
  | cons look looks ih =>
    obtain ⟨⟨rfl, rfl⟩, hrest⟩ := List.forall_mem_cons.mp hsame
    by_cases hwaiting : p.acquire (look.request timeout) = .waiting
    · rw [poll_cons_of_waiting hwaiting]
      -- the time is not over at this look, so it is over at a later one
      have hlimit := (acquire_eq_waiting_iff.mp hwaiting).2.2.2
      have hlater : ∀ ms, timeout = some ms → ∃ later ∈ looks, ms.toNat ≤ later.elapsed := by
        intro ms hms
        obtain ⟨later, hmem, hle⟩ := hover ms hms
        rcases List.mem_cons.mp hmem with rfl | hmem
        · rw [hms, Look.request_of_le hle] at hlimit
          cases hlimit
        · exact ⟨later, hmem, hle⟩
      cases looks with
      | nil =>
        cases timeout with
        | none => exact hwaiting.symm
        | some ms =>
          obtain ⟨_, hmem, -⟩ := hlater ms rfl
          cases hmem
      | cons next looks => exact ih hrest (List.cons_ne_nil _ _) hlater
    · rw [poll_cons_of_answered hwaiting]
      cases timeout with
      | none => rfl
      | some ms =>
        by_cases hle : ms.toNat ≤ look.elapsed
        · rw [Look.request_of_le hle]
        · rw [Look.request_of_not_le hle] at hwaiting ⊢
          exact (acquire_of_answered hwaiting _).symm

/-- An asker is answered as soon as one look is. -/
theorem poll_ne_waiting (h : ∃ look ∈ looks, p.acquire (look.request timeout) ≠ .waiting) :
    p.poll timeout looks ≠ .waiting := by
  induction looks with
  | nil =>
    obtain ⟨_, hmem, -⟩ := h
    cases hmem
  | cons look looks ih =>
    by_cases hwaiting : p.acquire (look.request timeout) = .waiting
    · rw [poll_cons_of_waiting hwaiting]
      obtain ⟨later, hmem, hlater⟩ := h
      rcases List.mem_cons.mp hmem with rfl | hmem
      · exact absurd hwaiting hlater
      · exact ih ⟨later, hmem, hlater⟩
    · rw [poll_cons_of_answered hwaiting]
      exact hwaiting

end Program

/-- A request that is answered in the end, also if the slot stays held: at some look no more work
is scheduled, or the asker has been told to stop, or its time is over. -/
def Waiter.IsAnswered (waiter : Waiter) : Prop :=
  ∃ look ∈ waiter.first :: waiter.more, look.shutDown = true ∨ look.cancelled = true
    ∨ ∃ ms, waiter.timeout = some ms ∧ ms.toNat ≤ look.elapsed

theorem Program.answer_of_isAnswered {waiter : Waiter} (h : waiter.IsAnswered) (p : Program) :
    p.answer waiter ≠ .waiting := by
  obtain ⟨look, hmem, hends⟩ := h
  refine poll_ne_waiting ⟨look, hmem, fun hwaiting => ?_⟩
  obtain ⟨-, hshutDown, hcancelled, hlimit⟩ := acquire_eq_waiting_iff.mp hwaiting
  rcases hends with hends | hends | ⟨ms, htimeout, hle⟩
  · exact nomatch hends.symm.trans hshutDown
  · exact nomatch hends.symm.trans hcancelled
  · rw [htimeout, Look.request_of_le hle] at hlimit
    cases hlimit

/-! ## §2. What transactions keep. -/

/-- Changes that are made one after the other. -/
def replay (changes : List (Database → Database)) (db : Database) : Database :=
  changes.foldl (fun db f => f db) db

theorem replay_append (changes more : List (Database → Database)) (db : Database) :
    replay (changes ++ more) db = replay more (replay changes db) :=
  List.foldl_append

/-- The changes that a step keeps for good, and those of the transaction that is open then;
`pending` are those of the transaction that is open before. -/
def StoreStep.keeps (pending : Option (List (Database → Database))) :
    StoreStep → List (Database → Database) × Option (List (Database → Database))
  | change f =>
      match pending with
      | none => ([f], none)
      | some changes => ([], some (changes ++ [f]))
  | begin => ([], some (pending.getD []))
  | commit => (pending.getD [], none)
  | rollback => ([], none)

/-- The changes that are kept for good: those outside transactions, and those of transactions
that are committed. -/
def durable (pending : Option (List (Database → Database))) :
    List WorkEvent → List (Database → Database)
  | [] => []
  | .stepped s :: events => (s.keeps pending).1 ++ durable (s.keeps pending).2 events
  | .started _ :: events | .answered _ :: events => durable pending events

/-- A transaction that is open before the events is open behind them. -/
def StaysOpen (events : List WorkEvent) : Prop :=
  .stepped .commit ∉ events ∧ .stepped .rollback ∉ events

theorem StaysOpen.tail {event : WorkEvent} {events : List WorkEvent}
    (h : StaysOpen (event :: events)) : StaysOpen events :=
  ⟨fun hmem => h.1 (List.mem_cons_of_mem _ hmem), fun hmem => h.2 (List.mem_cons_of_mem _ hmem)⟩

/-- What happens in an open transaction is not kept for good. -/
theorem durable_of_staysOpen {events : List WorkEvent} (h : StaysOpen events)
    (changes : List (Database → Database)) : durable (some changes) events = [] := by
  induction events generalizing changes with
  | nil => rfl
  | cons event events ih =>
    have hrest := h.tail
    cases event with
    | started worker => exact ih hrest changes
    | answered answer => exact ih hrest changes
    | stepped s =>
      cases s with
      | change f => exact ih hrest (changes ++ [f])
      | begin => exact ih hrest changes
      | commit => exact absurd List.mem_cons_self h.1
      | rollback => exact absurd List.mem_cons_self h.2

theorem durable_append (pending : Option (List (Database → Database)))
    (events more : List WorkEvent) : ∃ pending',
      durable pending (events ++ more) = durable pending events ++ durable pending' more := by
  induction events generalizing pending with
  | nil => exact ⟨pending, rfl⟩
  | cons event events ih =>
    cases event with
    | started worker => exact ih pending
    | answered answer => exact ih pending
    | stepped s =>
      obtain ⟨pending', hmore⟩ := ih (s.keeps pending).2
      refine ⟨pending', ?_⟩
      show (s.keeps pending).1 ++ durable _ (events ++ more)
        = ((s.keeps pending).1 ++ durable _ events) ++ durable pending' more
      rw [hmore, List.append_assoc]

/-- The change that is made. -/
def WorkEvent.change? : WorkEvent → Option (Database → Database)
  | stepped (.change f) => some f
  | stepped _ | started _ | answered _ => none

/-- The changes of an open transaction are kept when it is committed. -/
theorem durable_commit {events : List WorkEvent} (h : StaysOpen events)
    (changes : List (Database → Database)) (after : List WorkEvent) :
    durable (some changes) (events ++ .stepped .commit :: after)
      = changes ++ events.filterMap WorkEvent.change? ++ durable none after := by
  induction events generalizing changes with
  | nil => rw [List.filterMap_nil, List.append_nil]; rfl
  | cons event events ih =>
    have hrest := h.tail
    cases event with
    | started worker => exact ih hrest changes
    | answered answer => exact ih hrest changes
    | stepped s =>
      cases s with
      | change f =>
        refine (ih hrest (changes ++ [f])).trans ?_
        rw [List.append_assoc changes]
        rfl
      | begin => exact ih hrest changes
      | commit => exact absurd List.mem_cons_self h.1
      | rollback => exact absurd List.mem_cons_self h.2

/-- **What is committed is kept**, in one piece. -/
theorem durable_of_committed {before inner after : List WorkEvent} (h : StaysOpen inner) :
    inner.filterMap WorkEvent.change?
      <:+: durable none (before ++ .stepped .begin :: (inner ++ .stepped .commit :: after)) := by
  obtain ⟨pending, happend⟩ :=
    durable_append none before (.stepped .begin :: (inner ++ .stepped .commit :: after))
  have hinner : durable pending (.stepped .begin :: (inner ++ .stepped .commit :: after))
      = pending.getD [] ++ inner.filterMap WorkEvent.change? ++ durable none after :=
    durable_commit h _ after
  refine ⟨durable none before ++ pending.getD [], durable none after, ?_⟩
  rw [happend, hinner, List.append_assoc, List.append_assoc, List.append_assoc]

/-- **What is not committed is not kept**: only what happened before the transaction began is. -/
theorem durable_of_uncommitted {before after : List WorkEvent} (h : StaysOpen after) :
    durable none (before ++ .stepped .begin :: after) = durable none before := by
  obtain ⟨pending, happend⟩ := durable_append none before (.stepped .begin :: after)
  have hafter : durable pending (.stepped .begin :: after) = [] := durable_of_staysOpen h _
  rw [happend, hafter, List.append_nil]

namespace Holding

/-- The copy is what the changes of the open transaction make of the database. -/
def Carries (h : Holding) (pending : Option (List (Database → Database))) : Prop :=
  h.copy = pending.map fun changes => replay changes h.program.db

/-- At first no transaction is open. -/
theorem carries_none (p : Program) : (⟨p, none⟩ : Holding).Carries none :=
  rfl

theorem on_slot (h : Holding) (s : StoreStep) : (h.on s).program.slot = h.program.slot := by
  cases s with
  | change f =>
    unfold on
    dsimp only
    split <;> rfl
  | begin => rfl
  | commit => rfl
  | rollback => rfl

theorem on_name (h : Holding) (s : StoreStep) : (h.on s).program.name = h.program.name := by
  cases s with
  | change f =>
    unfold on
    dsimp only
    split <;> rfl
  | begin => rfl
  | commit => rfl
  | rollback => rfl

/-- What the holder of the slot sees. -/
theorem view_of_carries {h : Holding} {pending : Option (List (Database → Database))}
    (hcarries : h.Carries pending) : h.view = replay (pending.getD []) h.program.db := by
  unfold view
  rw [hcarries]
  cases pending <;> rfl

/-- **One step** makes of the database what it keeps, and of the copy what it does not. -/
theorem carries_on {h : Holding} {pending : Option (List (Database → Database))}
    (hcarries : h.Carries pending) (s : StoreStep) :
    (h.on s).program.db = replay (s.keeps pending).1 h.program.db
      ∧ (h.on s).Carries (s.keeps pending).2 := by
  have hview := view_of_carries hcarries
  unfold Carries at hcarries ⊢
  cases s with
  | change f =>
    unfold on
    dsimp only
    rw [hcarries]
    cases pending with
    | none => exact ⟨rfl, rfl⟩
    | some changes => exact ⟨rfl, congrArg some (replay_append changes [f] _).symm⟩
  | begin => exact ⟨rfl, congrArg some hview⟩
  | commit => exact ⟨hview, rfl⟩
  | rollback => exact ⟨rfl, rfl⟩

end Holding

/-! ## §3. A unit of work that holds the slot. -/

/-- What a unit of work does from its beginning to its end, at a database and with the changes of
the transaction that is open: it goes on with what it sees and with the answers that it gets. -/
inductive Work.Runs (name : String) : Database → Option (List (Database → Database)) → Work →
    List WorkEvent → WorkEnding → Prop
  | returns {db pending succeeded} :
      Runs name db pending (.returns succeeded) [] (.returned succeeded)
  | panics {db pending} : Runs name db pending .panics [] .unwound
  /-- It sees its own changes. -/
  | look {db pending rest events ending} :
      Runs name db pending (rest (replay (pending.getD []) db)) events ending →
      Runs name db pending (.look rest) events ending
  | step {db pending s rest events ending} :
      Runs name (replay (s.keeps pending).1 db) (s.keeps pending).2 rest events ending →
      Runs name db pending (.step s rest) (.stepped s :: events) ending
  /-- What a refused request was for is not done. -/
  | refused {db pending waiter nested rest cause events ending} :
      (⟨name, db, .held⟩ : Program).answer waiter = .refused cause →
      Runs name db pending (rest (.refused cause)) events ending →
      Runs name db pending (.ask waiter nested rest) (.answered (.refused cause) :: events) ending
  | waiting {db pending waiter nested rest} :
      (⟨name, db, .held⟩ : Program).answer waiter = .waiting →
      Runs name db pending (.ask waiter nested rest) [.answered .waiting] .waiting

/-- A run that held the slot all the time. -/
structure WorkRun.IsHeld (run : WorkRun) : Prop where
  slot : run.holding.program.slot = .held
  /-- No other work was started. -/
  unstarted : ∀ worker, .started worker ∉ run.events
  /-- No request for the slot was granted. -/
  ungranted : .answered .granted ∉ run.events
  /-- A run that waits waits for an answer. -/
  waits : run.ending = .waiting → .answered .waiting ∈ run.events

namespace WorkRun.IsHeld

variable {run : WorkRun} {event : WorkEvent}

/-- One event more. -/
theorem behind (h : run.IsHeld) (hstart : ∀ worker, event ≠ .started worker)
    (hgrant : event ≠ .answered .granted) : (run.behind [event]).IsHeld where
  slot := h.slot
  unstarted worker hmem := by
    rcases List.mem_cons.mp hmem with heq | hmem
    · exact hstart worker heq.symm
    · exact h.unstarted worker hmem
  ungranted hmem := by
    rcases List.mem_cons.mp hmem with heq | hmem
    · exact hgrant heq.symm
    · exact h.ungranted hmem
  waits hwaiting := List.mem_cons_of_mem _ (h.waits hwaiting)

end WorkRun.IsHeld

namespace WorkRun

variable {run : WorkRun}

/-- A unit that returns gives the slot back. -/
theorem leaves_of_returned {succeeded : Bool} (h : run.ending = .returned succeeded) :
    run.leaves.slot = .free := by
  unfold leaves
  rw [h]
  rfl

/-- A unit that unwinds poisons the slot. -/
theorem leaves_of_unwound (h : run.ending = .unwound) : run.leaves.slot = .poisoned := by
  unfold leaves
  rw [h]
  rfl

/-- A unit that waits keeps the slot. -/
theorem leaves_of_waiting (h : run.ending = .waiting) : run.leaves = run.holding.program := by
  unfold leaves
  rw [h]

theorem leaves_db (run : WorkRun) : run.leaves.db = run.holding.program.db := by
  unfold leaves
  split <;> rfl

end WorkRun

namespace Work

/-- **A unit that holds the slot** keeps it, and nobody else gets it meanwhile. -/
theorem exec_isHeld (work : Work) {h : Holding} (hheld : h.program.slot = .held) :
    (work.exec h).IsHeld := by
  induction work generalizing h with
  | returns succeeded => exact ⟨hheld, nofun, nofun, nofun⟩
  | panics => exact ⟨hheld, nofun, nofun, nofun⟩
  | look rest ih => exact ih _ hheld
  | step s rest ih => exact (ih ((h.on_slot s).trans hheld)).behind nofun nofun
  | ask waiter nested rest _ ih =>
    unfold exec
    split
    · exact ⟨hheld, nofun, nofun, fun _ => List.mem_cons_self⟩
    · exact (ih _ hheld).behind nofun nofun
    · next hgranted => exact absurd hgranted (Program.poll_of_held hheld _ _)

/-- **A unit that holds the slot runs**, from its beginning to its end. -/
theorem exec_runs (work : Work) {h : Holding} {pending : Option (List (Database → Database))}
    (hheld : h.program.slot = .held) (hcarries : h.Carries pending) :
    Runs h.program.name h.program.db pending work (work.exec h).events (work.exec h).ending := by
  induction work generalizing h pending with
  | returns succeeded => exact .returns
  | panics => exact .panics
  | look rest ih =>
    refine .look ?_
    rw [← Holding.view_of_carries hcarries]
    exact ih _ hheld hcarries
  | step s rest ih =>
    obtain ⟨hdb, hcarries'⟩ := Holding.carries_on hcarries s
    refine .step ?_
    rw [← hdb, ← h.on_name s]
    exact ih ((h.on_slot s).trans hheld) hcarries'
  | ask waiter nested rest _ ih =>
    have hprogram : h.program = ⟨h.program.name, h.program.db, .held⟩ := by
      rw [← hheld]
    unfold exec
    split
    · next hwaiting => exact .waiting (hprogram ▸ hwaiting)
    · next cause hrefused => exact .refused (hprogram ▸ hrefused) (ih _ hheld hcarries)
    · next hgranted => exact absurd hgranted (Program.poll_of_held hheld _ _)

/-- **What a unit does to the database** is told by its events. -/
theorem exec_db (work : Work) {h : Holding} {pending : Option (List (Database → Database))}
    (hheld : h.program.slot = .held) (hcarries : h.Carries pending) :
    (work.exec h).holding.program.db
      = replay (durable pending (work.exec h).events) h.program.db := by
  induction work generalizing h pending with
  | returns succeeded => rfl
  | panics => rfl
  | look rest ih => exact ih _ hheld hcarries
  | step s rest ih =>
    obtain ⟨hdb, hcarries'⟩ := Holding.carries_on hcarries s
    refine (ih ((h.on_slot s).trans hheld) hcarries').trans ?_
    rw [hdb, ← replay_append]
    rfl
  | ask waiter nested rest _ ih =>
    unfold exec
    split
    · rfl
    · exact ih _ hheld hcarries
    · next hgranted => exact absurd hgranted (Program.poll_of_held hheld _ _)

/-- Every request that the unit makes is answered in the end. -/
def IsAnswered : Work → Prop
  | returns _ | panics => True
  | look rest => ∀ db, (rest db).IsAnswered
  | step _ rest => rest.IsAnswered
  | ask waiter _ rest => waiter.IsAnswered ∧ ∀ answer, (rest answer).IsAnswered

/-- **A unit whose requests are answered ends.** -/
theorem exec_of_isAnswered {work : Work} (hanswered : work.IsAnswered) {h : Holding}
    (hheld : h.program.slot = .held) : (work.exec h).ending ≠ .waiting := by
  induction work generalizing h with
  | returns succeeded => exact nofun
  | panics => exact nofun
  | look rest ih => exact ih _ (hanswered _) hheld
  | step s rest ih => exact ih hanswered ((h.on_slot s).trans hheld)
  | ask waiter nested rest _ ih =>
    unfold exec
    split
    · next hwaiting => exact absurd hwaiting (h.program.answer_of_isAnswered hanswered.1)
    · exact ih _ (hanswered.2 _) hheld
    · next hgranted => exact absurd hgranted (Program.poll_of_held hheld _ _)

end Work

/-! ## §4. One request. -/

/-- The worker whose work is started. -/
def WorkEvent.worker? : WorkEvent → Option String
  | started worker => some worker
  | stepped _ | answered _ => none

/-- The workers whose work was started, in their order. -/
def SlotTurn.workers (turn : SlotTurn) : List String :=
  turn.events.filterMap WorkEvent.worker?

theorem WorkEvent.workers_of_unstarted {events : List WorkEvent}
    (h : ∀ worker, .started worker ∉ events) :
    events.filterMap worker? = [] := by
  refine List.filterMap_eq_nil_iff.mpr fun event hmem => ?_
  cases event with
  | started worker => exact absurd hmem (h worker)
  | stepped s => rfl
  | answered answer => rfl

/-- The changes that a turn keeps. -/
def SlotTurn.changes (turn : SlotTurn) : List (Database → Database) :=
  durable none turn.events

/-- The turn ran no work, or its work returned. -/
def SlotTurn.Returned (turn : SlotTurn) : Prop :=
  turn.ending = none ∨ ∃ succeeded, turn.ending = some (.returned succeeded)

/-- A request that is unavailable leaves everything as it is. -/
def SlotTurn.IsUnavailable (turn : SlotTurn) (p : Program) : Prop :=
  ∃ reason, turn = ⟨.refused (.unavailable reason), [], none, p⟩

/-- What holds of a request, whatever its work is. -/
structure Program.TakesTurn (p : Program) (unit : WorkUnit) : Prop where
  /-- A free slot is granted, and no other, as long as work is scheduled. -/
  granted_iff : (p.turn unit).answer = .granted
    ↔ p.slot = .free ∧ unit.waiter.first.shutDown = false
  /-- Work that is granted the slot runs from its beginning to its end. -/
  runs : (p.turn unit).answer = .granted → ∃ events ending,
    (p.turn unit).events = .started unit.waiter.worker :: events
      ∧ (p.turn unit).ending = some ending ∧ unit.work.Runs p.name p.db none events ending
  /-- It is started once, and no work of its own requests ever. -/
  once : (p.turn unit).answer = .granted → (p.turn unit).workers = [unit.waiter.worker]
  nested : .answered .granted ∉ (p.turn unit).events
  /-- It returns or unwinds, unless it waits for the slot that it holds. -/
  ends : (p.turn unit).answer = .granted →
    (∃ succeeded, (p.turn unit).ending = some (.returned succeeded))
      ∨ (p.turn unit).ending = some .unwound
      ∨ (p.turn unit).ending = some .waiting ∧ .answered .waiting ∈ (p.turn unit).events
        ∧ ¬ unit.work.IsAnswered
  /-- Work that is not granted the slot is not started. -/
  refused : (p.turn unit).answer ≠ .granted →
    (p.turn unit).events = [] ∧ (p.turn unit).ending = none ∧ (p.turn unit).program = p
  freed : ∀ succeeded, (p.turn unit).ending = some (.returned succeeded) →
    (p.turn unit).program.slot = .free
  /-- Work that unwinds makes the slot unavailable for good, and nothing is written any more. -/
  poisoned : (p.turn unit).ending = some .unwound →
    (p.turn unit).program.slot = .poisoned ∧ ∀ later,
      (p.turn unit).program.afterTurns later = (p.turn unit).program
        ∧ ∀ turn ∈ (p.turn unit).program.turns later, turn.IsUnavailable (p.turn unit).program
  /-- Readers see the changes that are kept, and no others. -/
  read : (p.turn unit).program.slot ≠ .held → ∀ {α : Type} (reader : Database → α),
    (p.turn unit).program.view? reader = some (reader (replay (p.turn unit).changes p.db))
  /-- The changes of a transaction that is committed are kept. -/
  committed : ∀ before inner after, StaysOpen inner → (p.turn unit).events
      = before ++ .stepped .begin :: (inner ++ .stepped .commit :: after) →
    inner.filterMap WorkEvent.change? <:+: (p.turn unit).changes
  /-- What follows the beginning of a transaction that is not committed is not kept. -/
  uncommitted : ∀ before after, (p.turn unit).events = before ++ .stepped .begin :: after →
    StaysOpen after → (p.turn unit).changes = durable none before

namespace Program

variable {p : Program} {unit : WorkUnit}

theorem holds_taken (p : Program) : (⟨p.taken, none⟩ : Holding).program.slot = .held :=
  rfl

theorem turn_of_granted (h : p.answer unit.waiter = .granted) :
    p.turn unit = ⟨.granted, .started unit.waiter.worker :: (unit.work.exec ⟨p.taken, none⟩).events,
      some (unit.work.exec ⟨p.taken, none⟩).ending, (unit.work.exec ⟨p.taken, none⟩).leaves⟩ := by
  unfold turn
  rw [h]

theorem turn_of_not_granted (h : p.answer unit.waiter ≠ .granted) :
    p.turn unit = ⟨p.answer unit.waiter, [], none, p⟩ := by
  unfold turn
  split
  · next hgranted => exact absurd hgranted h
  · rfl

/-- A slot that is not free is not granted, so nothing changes. -/
theorem turn_program_of_not_free (h : p.slot ≠ .free) (unit : WorkUnit) :
    (p.turn unit).program = p := by
  rw [turn_of_not_granted fun hgranted => h (answer_eq_granted_iff.mp hgranted).1]

theorem afterTurns_of_not_free (h : p.slot ≠ .free) (units : List WorkUnit) :
    p.afterTurns units = p := by
  induction units with
  | nil => rfl
  | cons unit units ih =>
    unfold afterTurns at ih ⊢
    rw [List.foldl_cons, turn_program_of_not_free h]
    exact ih

/-- **A poisoned slot stays unavailable.** -/
theorem turns_of_poisoned (h : p.slot = .poisoned) (units : List WorkUnit) :
    ∀ turn ∈ p.turns units, turn.IsUnavailable p := by
  induction units with
  | nil => exact List.forall_mem_nil _
  | cons unit units ih =>
    have hfree : p.slot ≠ .free := by
      rw [h]
      exact nofun
    obtain ⟨reason, hreason⟩ := answer_of_poisoned h unit.waiter
    unfold turns
    rw [turn_program_of_not_free hfree]
    refine List.forall_mem_cons.mpr ⟨⟨reason, ?_⟩, ih⟩
    rw [turn_of_not_granted (by rw [hreason]; exact nofun), hreason]

/-- **What a turn leaves in the database** is told by its events. -/
theorem turn_db (p : Program) (unit : WorkUnit) :
    (p.turn unit).program.db = replay (p.turn unit).changes p.db := by
  by_cases h : p.answer unit.waiter = .granted
  · rw [turn_of_granted h]
    exact (WorkRun.leaves_db _).trans
      (unit.work.exec_db (holds_taken p) (Holding.carries_none p.taken))
  · rw [turn_of_not_granted h]
    rfl

/-- A database whose slot is not held can be read. -/
theorem view?_of_not_held {α : Type} (h : p.slot ≠ .held) (reader : Database → α) :
    p.view? reader = some (reader p.db) := by
  unfold view?
  split
  · next hheld => exact absurd hheld h
  · rfl
  · rfl

/-- **What comes of a request**: the slot is free and a unit of work holds it for a while, or
nothing is done. -/
theorem turn_cases (p : Program) (unit : WorkUnit) :
    ((p.slot = .free ∧ unit.waiter.first.shutDown = false) ∧ ∃ run : WorkRun, run.IsHeld
        ∧ unit.work.Runs p.name p.db none run.events run.ending
        ∧ (unit.work.IsAnswered → run.ending ≠ .waiting)
        ∧ p.turn unit = ⟨.granted, .started unit.waiter.worker :: run.events, some run.ending,
            run.leaves⟩)
      ∨ ¬ (p.slot = .free ∧ unit.waiter.first.shutDown = false)
        ∧ ∃ answer, answer ≠ .granted ∧ p.turn unit = ⟨answer, [], none, p⟩ := by
  by_cases h : p.answer unit.waiter = .granted
  · have hruns : unit.work.Runs p.name p.db none (unit.work.exec ⟨p.taken, none⟩).events
        (unit.work.exec ⟨p.taken, none⟩).ending :=
      unit.work.exec_runs (holds_taken p) (Holding.carries_none p.taken)
    exact .inl ⟨answer_eq_granted_iff.mp h, _, unit.work.exec_isHeld (holds_taken p), hruns,
      fun hanswered => Work.exec_of_isAnswered hanswered (holds_taken p), turn_of_granted h⟩
  · exact .inr ⟨fun hfree => h (answer_eq_granted_iff.mpr hfree), _, h, turn_of_not_granted h⟩

/-- **One request**, whatever its work does. -/
theorem takesTurn (p : Program) (unit : WorkUnit) : p.TakesTurn unit where
  granted_iff := by
    rcases turn_cases p unit with ⟨hfree, run, -, -, -, hturn⟩ | ⟨hfree, answer, hrefused, hturn⟩
    · rw [hturn]
      exact iff_of_true rfl hfree
    · rw [hturn]
      exact iff_of_false hrefused hfree
  runs := by
    rcases turn_cases p unit with ⟨-, run, -, hruns, -, hturn⟩ | ⟨-, answer, hrefused, hturn⟩
    · rw [hturn]
      exact fun _ => ⟨run.events, run.ending, rfl, rfl, hruns⟩
    · rw [hturn]
      exact fun hgranted => absurd hgranted hrefused
  once := by
    rcases turn_cases p unit with ⟨-, run, hheld, -, -, hturn⟩ | ⟨-, answer, hrefused, hturn⟩
    · rw [hturn]
      intro _
      exact congrArg (unit.waiter.worker :: ·) (WorkEvent.workers_of_unstarted hheld.unstarted)
    · rw [hturn]
      exact fun hgranted => absurd hgranted hrefused
  nested := by
    rcases turn_cases p unit with ⟨-, run, hheld, -, -, hturn⟩ | ⟨-, answer, -, hturn⟩
    · rw [hturn]
      intro hmem
      rcases List.mem_cons.mp hmem with heq | hmem
      · cases heq
      · exact hheld.ungranted hmem
    · rw [hturn]
      exact List.not_mem_nil
  ends := by
    rcases turn_cases p unit with ⟨-, run, hheld, -, hends, hturn⟩ | ⟨-, answer, hrefused, hturn⟩
    · rw [hturn]
      intro _
      cases hending : run.ending with
      | returned succeeded => exact .inl ⟨succeeded, rfl⟩
      | unwound => exact .inr (.inl rfl)
      | waiting =>
        exact .inr (.inr ⟨rfl, List.mem_cons_of_mem _ (hheld.waits hending),
          fun hanswered => hends hanswered hending⟩)
    · rw [hturn]
      exact fun hgranted => absurd hgranted hrefused
  refused := by
    rcases turn_cases p unit with ⟨-, run, -, -, -, hturn⟩ | ⟨-, answer, -, hturn⟩
    · rw [hturn]
      exact fun hrefused => absurd rfl hrefused
    · rw [hturn]
      exact fun _ => ⟨rfl, rfl, rfl⟩
  freed := by
    rcases turn_cases p unit with ⟨-, run, -, -, -, hturn⟩ | ⟨-, answer, -, hturn⟩
    · rw [hturn]
      intro succeeded hending
      exact WorkRun.leaves_of_returned (Option.some.inj hending)
    · rw [hturn]
      exact nofun
  poisoned := by
    rcases turn_cases p unit with ⟨-, run, -, -, -, hturn⟩ | ⟨-, answer, -, hturn⟩
    · rw [hturn]
      intro hending
      have hpoisoned := WorkRun.leaves_of_unwound (Option.some.inj hending)
      have hfree : run.leaves.slot ≠ .free := by
        rw [hpoisoned]
        exact nofun
      exact ⟨hpoisoned, fun later =>
        ⟨afterTurns_of_not_free hfree later, turns_of_poisoned hpoisoned later⟩⟩
    · rw [hturn]
      exact nofun
  read hheld _ reader := by
    rw [view?_of_not_held hheld, turn_db]
  committed before inner after hopen hevents := by
    unfold SlotTurn.changes
    rw [hevents]
    exact durable_of_committed hopen
  uncommitted before after hevents hopen := by
    unfold SlotTurn.changes
    rw [hevents]
    exact durable_of_uncommitted hopen

/-- A free slot is free behind a turn that ran no work or whose work returned. -/
theorem turn_slot_iff (h : p.slot = .free) (unit : WorkUnit) :
    (p.turn unit).program.slot = .free ↔ (p.turn unit).Returned := by
  rcases turn_cases p unit with ⟨-, run, hheld, -, -, hturn⟩ | ⟨-, answer, -, hturn⟩
  · rw [hturn]
    unfold SlotTurn.Returned
    dsimp only
    cases hending : run.ending with
    | returned succeeded =>
      exact iff_of_true (WorkRun.leaves_of_returned hending) (.inr ⟨succeeded, rfl⟩)
    | unwound =>
      rw [WorkRun.leaves_of_unwound hending]
      refine iff_of_false nofun fun hreturned => ?_
      rcases hreturned with heq | ⟨_, heq⟩ <;> cases heq
    | waiting =>
      rw [WorkRun.leaves_of_waiting hending, hheld.slot]
      refine iff_of_false nofun fun hreturned => ?_
      rcases hreturned with heq | ⟨_, heq⟩ <;> cases heq
  · rw [hturn]
    exact iff_of_true h (.inl rfl)

/-! ## §5. Sequences of requests. -/

/-- The turns of a sequence, one after the other. -/
theorem turns_append (p : Program) (units later : List WorkUnit) :
    p.turns (units ++ later) = p.turns units ++ (p.afterTurns units).turns later := by
  induction units generalizing p with
  | nil => rfl
  | cons unit units ih => exact congrArg (p.turn unit :: ·) (ih (p.turn unit).program)

/-- **What a sequence leaves in the database**: the changes that its turns keep, in their
order. -/
theorem afterTurns_db (p : Program) (units : List WorkUnit) :
    (p.afterTurns units).db = replay ((p.turns units).flatMap SlotTurn.changes) p.db := by
  induction units generalizing p with
  | nil => rfl
  | cons unit units ih =>
    unfold turns
    rw [List.flatMap_cons, replay_append, ← turn_db]
    exact ih (p.turn unit).program

/-- **The slot after a sequence**: it is free as long as no unit has unwound, and none waits. -/
theorem afterTurns_slot (h : p.slot = .free) (units : List WorkUnit) :
    (p.afterTurns units).slot = .free ↔ ∀ turn ∈ p.turns units, turn.Returned := by
  induction units generalizing p with
  | nil => exact iff_of_true h (List.forall_mem_nil _)
  | cons unit units ih =>
    show ((p.turn unit).program.afterTurns units).slot = .free
      ↔ ∀ turn ∈ p.turn unit :: (p.turn unit).program.turns units, turn.Returned
    have hturn := turn_slot_iff h unit
    by_cases hfree : (p.turn unit).program.slot = .free
    · rw [List.forall_mem_cons, ih hfree]
      exact (and_iff_right (hturn.mp hfree)).symm
    · -- a slot that is not free now is not free later
      rw [afterTurns_of_not_free hfree, List.forall_mem_cons]
      exact iff_of_false hfree fun hall => hfree (hturn.mpr hall.1)

/-- **Units of work take turns at the slot of a program**, in every sequence of requests on it.
Each request is one turn, which finds what the turns before it have left.  The database is
what their kept changes make of it, and the slot is free exactly if all of them have run no work
or have returned. -/
theorem units_take_turns (name : String) (db : Database) (earlier later : List WorkUnit)
    (unit : WorkUnit) :
    ((ofDatabase name db).afterTurns earlier).TakesTurn unit
      ∧ (ofDatabase name db).turns (earlier ++ unit :: later)
        = (ofDatabase name db).turns earlier
          ++ ((ofDatabase name db).afterTurns earlier).turn unit
          :: (((ofDatabase name db).afterTurns earlier).turn unit).program.turns later
      ∧ ((ofDatabase name db).afterTurns earlier).db
        = replay (((ofDatabase name db).turns earlier).flatMap SlotTurn.changes) db
      ∧ (((ofDatabase name db).afterTurns earlier).slot = .free
        ↔ ∀ turn ∈ (ofDatabase name db).turns earlier, turn.Returned) := by
  refine ⟨takesTurn _ unit, turns_append _ earlier (unit :: later), ?_, ?_⟩
  · exact afterTurns_db _ earlier
  · exact afterTurns_slot rfl earlier

/-- A unit that commits a change, makes another one in a transaction, asks in vain for the slot
that it holds, and panics. -/
def unluckyUnit : WorkUnit :=
  ⟨⟨"first", none, ⟨false, false, 0⟩, []⟩,
    .step .begin (.step (.change fun db => { db with options := none }) (.step .commit
      (.step .begin (.step (.change fun db => { db with comments := none })
        (.ask ⟨"second", some 20, ⟨false, false, 0⟩, [⟨false, false, 20⟩]⟩ (.returns true)
          fun _ => .panics)))))⟩

/-- The first change is seen behind it, and the second one is not. -/
example : (((ofDatabase "app" .fresh).turn unluckyUnit).program.view? fun db =>
    (db.options.isSome, db.comments.isSome)) = some (false, true) := rfl

end Program

/-! ## §6. Loads. -/

/-- A load as a unit of work. -/
def LoadJob.asUnit (job : LoadJob) (waiter : Waiter) : WorkUnit :=
  ⟨waiter, .step (.change fun db => (job.work db).db) (.returns true)⟩

/-- **A load takes its turn at the slot**: a run that does not go on forever leaves what the unit of
work leaves that waits as long as the settings say. -/
theorem LoadJob.run_eq_turn (job : LoadJob) (shutDown : Bool) (program : Program) {waiter : Waiter}
    (htimeout : waiter.timeout = job.settings.slotTimeout)
    (hsame : ∀ look ∈ waiter.first :: waiter.more,
      look.shutDown = shutDown ∧ look.cancelled = job.plan.setWaiting)
    (hover : ∀ ms, waiter.timeout = some ms →
      ∃ look ∈ waiter.first :: waiter.more, ms.toNat ≤ look.elapsed)
    (hends : (job.verifying (.start program.db)).2 ≠ .endless) :
    (job.run shutDown program).program = (program.turn (job.asUnit waiter)).program := by
  have hanswer : program.answer waiter = program.acquire (job.slotRequest shutDown) := by
    unfold Program.answer
    rw [Program.poll_eq_acquire hsame (List.cons_ne_nil _ _) hover, htimeout]
    rfl
  by_cases hacquire : program.acquire (job.slotRequest shutDown) = .granted
  · rw [Program.turn_of_granted (hanswer.trans hacquire)]
    unfold run
    rw [hacquire]
    dsimp only
    rw [leaving_of_ends hends]
    rfl
  · have hrefused : program.answer (job.asUnit waiter).waiter ≠ .granted :=
      fun hgranted => hacquire (hanswer.symm.trans hgranted)
    rw [(run_of_not_granted hacquire).1, Program.turn_of_not_granted hrefused]

end DebugMerge
