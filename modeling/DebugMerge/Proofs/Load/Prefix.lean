/-
  DebugMerge.Proofs.Load.Prefix
  ─────────────────────────────
  **A merge that is stopped is a merge of a prefix.**

  One counter runs through the four lists of a file, and only records that may
  be merged advance it.  So the place at which a merge stops depends on the
  restrictions, on the interval between two checkpoints and on the moment of the
  request together.  Up to that place, the merge that is asked to stop and the
  one that is never asked do the same, record by record: the induction walks
  both over one list and keeps them in one state.

  A request may arrive between any two records, also behind the last one, and
  is not taken back.  Between two checkpoints there are fewer allowed records
  than the interval says, and so many at most are merged behind the request.

  Main definitions
    • `DebugInfo.takeRecords`         — the first records of a file, in their order
    • `DebugInfo.askedBehind`         — a request that arrives behind some records
    • `Checkpoint.FirstStop`          — the count at which a walk stops
    • `DebugInfo.IsBeforeAllowed`     — a prefix that ends before an allowed record
  Main statements
    • `Application.applyRecords_passes` — the walk passes a prefix
    • `askedBehind_iff`               — when a request has arrived
    • `countAllowed_behind_request`   — how much is merged behind a request
    • `apply_first_records`           — the whole merge
-/
import DebugMerge.Proofs.Load.Confluence
import DebugMerge.Proofs.Load.Offers

namespace DebugMerge

variable {info : DebugInfo} {restrictions : Restrictions} {checkpoint : Checkpoint} {site : Site}

/-! ## §1. Prefixes of a file. -/

namespace DebugInfo

/-- The first `n` records of a file: types, then symbols, source lines and comments. -/
def takeRecords (info : DebugInfo) (n : Nat) : DebugInfo where
  types := info.types.take n
  symbols := info.symbols.take (n - info.types.length)
  lines := info.lines.take (n - (info.types.length + info.symbols.length))
  comments := info.comments.take
    (n - (info.types.length + info.symbols.length + info.lines.length))

theorem records_takeRecords (info : DebugInfo) (n : Nat) :
    (info.takeRecords n).records = info.records.take n := by
  simp only [records, takeRecords, List.take_append, List.map_take, List.length_append,
    List.length_map]

end DebugInfo

/-- How many of the records may be merged. -/
def Restrictions.countAllowed (restrictions : Restrictions) (records : List Record) : Nat :=
  records.countP fun record => restrictions.allows record.kind

theorem countAllowed_cons_of_allowed {record : Record}
    (h : restrictions.allows record.kind = true) (records : List Record) :
    restrictions.countAllowed (record :: records) = restrictions.countAllowed records + 1 :=
  List.countP_cons_of_pos h

theorem countAllowed_cons_of_filtered {record : Record}
    (h : restrictions.allows record.kind = false) (records : List Record) :
    restrictions.countAllowed (record :: records) = restrictions.countAllowed records :=
  List.countP_cons_of_neg (Bool.not_eq_true _ ▸ h)

namespace DebugInfo

/-- A request that arrives behind the first `moment` records: has it arrived when the allowed
record number `n` is counted? -/
def askedBehind (info : DebugInfo) (restrictions : Restrictions) (moment n : Nat) : Bool :=
  decide (restrictions.countAllowed (info.records.take moment) < n)

/-- Behind the first `m` records stands the allowed record number `k`. -/
def IsBeforeAllowed (info : DebugInfo) (restrictions : Restrictions) (m k : Nat) : Prop :=
  ∃ record, info.records[m]? = some record ∧ restrictions.allows record.kind = true
    ∧ restrictions.countAllowed (info.records.take m) + 1 = k

end DebugInfo

/-! ## §2. Where a walk stops. -/

namespace Checkpoint

variable {total k : Nat}

/-- The first multiple of the interval that is reached with the request there; an interval of
zero counts as one. -/
structure FirstStop (c : Checkpoint) (total k : Nat) : Prop where
  positive : 0 < k
  reached : k ≤ total
  due : max c.interval 1 ∣ k
  asked : c.isSet k = true
  first : ∀ j, 0 < j → j < k → max c.interval 1 ∣ j → c.isSet j = false

theorem stops_iff (c : Checkpoint) (seen : Nat) :
    c.stops seen = true ↔ max c.interval 1 ∣ seen ∧ c.isSet seen = true := by
  unfold stops
  rw [Bool.and_eq_true, beq_iff_eq, Nat.dvd_iff_mod_eq_zero]

theorem not_stops_iff (c : Checkpoint) (seen : Nat) :
    c.stops seen = false ↔ (max c.interval 1 ∣ seen → c.isSet seen = false) := by
  rw [← Bool.not_eq_true, stops_iff, not_and, Bool.not_eq_true]

/-- A walk stops first at no two places. -/
theorem FirstStop.unique {c : Checkpoint} {k' : Nat} (h : c.FirstStop total k)
    (h' : c.FirstStop total k') : k = k' := by
  rcases Nat.lt_trichotomy k k' with hlt | heq | hlt
  · have hunasked := h'.first k h.positive hlt h.due
    rw [h.asked] at hunasked
    cases hunasked
  · exact heq
  · have hunasked := h.first k' h'.positive hlt h'.due
    rw [h'.asked] at hunasked
    cases hunasked

/-- The same checkpoints, at which nobody asks to stop. -/
def unasked (c : Checkpoint) : Checkpoint :=
  { c with isSet := fun _ => false }

theorem not_stops_unasked (c : Checkpoint) (seen : Nat) : c.unasked.stops seen = false :=
  not_stops (fun _ => rfl) seen

end Checkpoint

/-! ## §3. The walk passes a prefix. -/

namespace Application

variable {a a' b : Application} {record : Record} {records done : List Record}

/-- Offering a record does not count it. -/
theorem offer_seen (h : a.offer site record = .ok a') : a'.seen = a.seen := by
  cases offer_cases h <;> rfl

/-- The records are passed: no checkpoint among them stops the walk, and the walk that is never
asked to stop leads to the same state. -/
structure Passes (site : Site) (restrictions : Restrictions) (checkpoint : Checkpoint)
    (a : Application) (done : List Record) (b : Application) : Prop where
  running : ∀ j, a.seen < j → j ≤ a.seen + restrictions.countAllowed done →
    checkpoint.stops j = false
  unasked : applyRecords site restrictions checkpoint.unasked a done = (b, .complete)

theorem passes_nil (a : Application) : Passes site restrictions checkpoint a [] a := by
  refine ⟨fun j hlt hle => ?_, rfl⟩
  have hnone : restrictions.countAllowed [] = 0 := rfl
  omega

/-- A record that may not be merged is passed over. -/
theorem Passes.cons_filtered (hfiltered : restrictions.allows record.kind = false)
    (h : Passes site restrictions checkpoint a.filter done b) :
    Passes site restrictions checkpoint a (record :: done) b := by
  constructor
  · rw [countAllowed_cons_of_filtered hfiltered]
    exact h.running
  · rw [applyRecords, if_neg (by rw [hfiltered]; exact Bool.false_ne_true)]
    exact h.unasked

/-- A record that may be merged is counted, is not stopped at, and is offered. -/
theorem Passes.cons_allowed (hallowed : restrictions.allows record.kind = true)
    (hrunning : checkpoint.stops (a.seen + 1) = false) (hoffer : a.tick.offer site record = .ok a')
    (h : Passes site restrictions checkpoint a' done b) :
    Passes site restrictions checkpoint a (record :: done) b := by
  have hseen : a'.seen = a.seen + 1 := offer_seen hoffer
  constructor
  · rw [countAllowed_cons_of_allowed hallowed]
    intro j hlt hle
    by_cases hhere : j = a.seen + 1
    · rw [hhere]
      exact hrunning
    · exact h.running j (by omega) (by omega)
  · rw [applyRecords, if_pos hallowed]
    dsimp only
    rw [checkpoint.not_stops_unasked, if_neg Bool.false_ne_true, hoffer]
    exact h.unasked

/-- A complete walk passed every record.  One that was cut passed the first ones, and counted
the next one that may be merged. -/
def PassesPrefix (site : Site) (restrictions : Restrictions) (checkpoint : Checkpoint)
    (a : Application) (records : List Record) : Application × Ending → Prop
  | (b, .complete) => Passes site restrictions checkpoint a records b
  | (b, .cut) => ∃ done record rest before, records = done ++ record :: rest
      ∧ restrictions.allows record.kind = true
      ∧ Passes site restrictions checkpoint a done before ∧ b = before.tick
      ∧ checkpoint.stops (a.seen + restrictions.countAllowed done + 1) = true
  | (_, .failed _) => True

/-- What holds of the walk over the rest holds of the walk from here on. -/
theorem PassesPrefix.cons {r : Application × Ending}
    (hpasses : ∀ done b, Passes site restrictions checkpoint a' done b →
      Passes site restrictions checkpoint a (record :: done) b)
    (hcount : ∀ done, a'.seen + restrictions.countAllowed done
      = a.seen + restrictions.countAllowed (record :: done))
    (h : PassesPrefix site restrictions checkpoint a' records r) :
    PassesPrefix site restrictions checkpoint a (record :: records) r := by
  obtain ⟨b, ending⟩ := r
  cases ending with
  | complete => exact hpasses records b h
  | cut =>
    obtain ⟨done, next, rest, before, rfl, hnext, hdone, hb, hstops⟩ := h
    refine ⟨record :: done, next, rest, before, rfl, hnext, hpasses done before hdone, hb, ?_⟩
    rw [← hcount]
    exact hstops
  | failed e => trivial

/-- **The walk passes a prefix of the records**, all of them unless it is cut. -/
theorem applyRecords_passes (site : Site) (restrictions : Restrictions) (checkpoint : Checkpoint)
    (a : Application) (records : List Record) :
    PassesPrefix site restrictions checkpoint a records
      (applyRecords site restrictions checkpoint a records) := by
  induction records generalizing a with
  | nil => exact passes_nil a
  | cons record records ih =>
    unfold applyRecords
    cases hallowed : restrictions.allows record.kind with
    | true =>
      rw [if_pos rfl]
      dsimp only
      split
      · next hstops => exact ⟨[], record, records, a, rfl, hallowed, passes_nil a, rfl, hstops⟩
      · next hrunning =>
        rw [Bool.not_eq_true] at hrunning
        split
        · trivial
        · next a' hoffer =>
          refine .cons (fun done b => Passes.cons_allowed hallowed hrunning hoffer)
            (fun done => ?_) (ih a')
          have hseen : a'.seen = a.seen + 1 := offer_seen hoffer
          rw [hseen, countAllowed_cons_of_allowed hallowed, Nat.add_right_comm, Nat.add_assoc]
    | false =>
      rw [if_neg Bool.false_ne_true]
      refine .cons (fun done b => Passes.cons_filtered hallowed) (fun done => ?_) (ih a.filter)
      rw [countAllowed_cons_of_filtered hallowed]
      rfl

end Application

/-! ## §4. The whole merge. -/

section Request

variable {moment m k : Nat}

theorem countAllowed_mono (restrictions : Restrictions) (records : List Record) {i j : Nat}
    (hle : i ≤ j) :
    restrictions.countAllowed (records.take i) ≤ restrictions.countAllowed (records.take j) :=
  List.Sublist.countP_le (List.take_sublist_take_left hle)

/-- The record behind the prefix is counted next. -/
theorem DebugInfo.IsBeforeAllowed.countAllowed_eq (h : info.IsBeforeAllowed restrictions m k) :
    restrictions.countAllowed (info.records.take (m + 1)) = k := by
  obtain ⟨record, hrecord, hallowed, rfl⟩ := h
  unfold Restrictions.countAllowed
  rw [List.take_add_one, hrecord, List.countP_append]
  exact congrArg _ (List.countP_cons_of_pos hallowed)

/-- **When a request has arrived**: when the walk counts the allowed record behind the first `m`
records, the request behind the first `moment` ones is there if these have been passed. -/
theorem askedBehind_iff (h : info.IsBeforeAllowed restrictions m k) :
    info.askedBehind restrictions moment k = true ↔ moment ≤ m := by
  have hnext := h.countAllowed_eq
  obtain ⟨-, -, -, rfl⟩ := h
  unfold DebugInfo.askedBehind
  rw [decide_eq_true_iff, Nat.lt_add_one_iff]
  constructor
  · intro hle
    by_contra hlater
    -- the record itself would have been counted before the request
    have hmono := countAllowed_mono restrictions info.records (Nat.lt_of_not_le hlater)
    rw [Nat.succ_eq_add_one, hnext] at hmono
    exact absurd (Nat.le_trans hmono hle) (Nat.not_succ_le_self _)
  · exact countAllowed_mono restrictions info.records

/-- A checkpoint that stops behind records among which none does is the first one. -/
theorem Checkpoint.firstStop_of_running {c : Checkpoint}
    (hbefore : info.IsBeforeAllowed restrictions m k) (hstops : c.stops k = true)
    (hrunning : ∀ j, 0 < j → j ≤ restrictions.countAllowed (info.records.take m) →
      c.stops j = false) :
    c.FirstStop (restrictions.countAllowed info.records) k := by
  obtain ⟨hdue, hasked⟩ := (c.stops_iff k).mp hstops
  have hreached : k ≤ restrictions.countAllowed info.records := by
    rw [← hbefore.countAllowed_eq]
    exact List.Sublist.countP_le (List.take_sublist _ _)
  obtain ⟨-, -, -, rfl⟩ := hbefore
  exact ⟨Nat.succ_pos _, hreached, hdue, hasked, fun j hj hlt =>
    (c.not_stops_iff j).mp (hrunning j hj (Nat.lt_succ_iff.mp hlt))⟩

/-- A walk that passes more units of work than there are between two checkpoints passes a
checkpoint. -/
theorem Checkpoint.sub_le_of_running {c : Checkpoint} {asked total : Nat}
    (hasked : ∀ j, asked < j → c.isSet j = true)
    (hrunning : ∀ j, 0 < j → j ≤ total → c.stops j = false) :
    total - asked ≤ max c.interval 1 - 1 := by
  by_contra hmore
  have hpositive : 0 < max c.interval 1 := Nat.lt_of_lt_of_le Nat.one_pos (Nat.le_max_right _ _)
  have hdivision := Nat.div_add_mod asked (max c.interval 1)
  have hrest := Nat.mod_lt asked hpositive
  -- the first checkpoint behind the request
  obtain ⟨next, hnext⟩ : ∃ next, next = max c.interval 1 * (asked / max c.interval 1 + 1) :=
    ⟨_, rfl⟩
  rw [Nat.mul_succ] at hnext
  have hbehind : asked < next := by omega
  have hstops : c.stops next = true := by
    refine (c.stops_iff next).mpr ⟨?_, hasked next hbehind⟩
    rw [hnext, ← Nat.mul_succ]
    exact Nat.dvd_mul_right _ _
  rw [hrunning next (by omega) (by omega)] at hstops
  cases hstops

/-- **What is merged behind a request** is less than the work between two checkpoints. -/
theorem countAllowed_behind_request {c : Checkpoint}
    (hasked : c.isSet = info.askedBehind restrictions moment)
    (hrunning : ∀ j, 0 < j → j ≤ restrictions.countAllowed (info.records.take m) →
      c.stops j = false) :
    restrictions.countAllowed ((info.records.take m).drop moment) ≤ max c.interval 1 - 1 := by
  have hbehind : restrictions.countAllowed (info.records.take m)
      - restrictions.countAllowed (info.records.take moment) ≤ max c.interval 1 - 1 :=
    Checkpoint.sub_le_of_running (fun j hj => by rw [hasked]; exact decide_eq_true hj) hrunning
  have hsplit : restrictions.countAllowed (info.records.take m)
      = restrictions.countAllowed ((info.records.take m).take moment)
        + restrictions.countAllowed ((info.records.take m).drop moment) :=
    (congrArg _ (List.take_append_drop moment _)).symm.trans List.countP_append
  rw [List.take_take] at hsplit
  by_cases hle : moment ≤ m
  · rw [Nat.min_eq_left hle] at hsplit
    omega
  · rw [List.drop_eq_nil_of_le ?_]
    · exact Nat.zero_le _
    · rw [List.length_take]
      omega

end Request

section Merge

variable {options : ApplyOptions} {imageBase : UInt64} {isSet : Nat → Bool} {db db' : Database}
  {blocks : List MemoryBlock} {log : Log} {applied : Applied} {a : Application} {m : Nat}

open Application

/-- The records that a walk passes are merged as a file of their own. -/
theorem apply_of_passes (hblocks : db.blocks = .ok blocks)
    (h : Passes ⟨imageBase, blocks⟩ options.restrictions ⟨options.checkInterval.toNat, isSet⟩
      (.start db) info.records a) :
    apply options info imageBase (fun _ => false) db
        = ⟨a.log, .ok (a.db, { a.applied with cancelled := false })⟩ := by
  have hwalk : applyRecords ⟨imageBase, blocks⟩ options.restrictions
      ⟨options.checkInterval.toNat, fun _ => false⟩ (.start db) info.records = (a, .complete) :=
    h.unasked
  -- a walk that is complete does not say that it was stopped
  have hrunning : a.applied.cancelled = false := by
    have hunstopped := applyRecords_unstopped ⟨imageBase, blocks⟩ options.restrictions
      ⟨options.checkInterval.toNat, fun _ => false⟩ (.start db) info.records
    rw [hwalk] at hunstopped
    exact hunstopped.1
  unfold apply
  rw [hblocks]
  dsimp only
  rw [hwalk, ← hrunning]

/-- **Where a merge ends**: behind the records that its walk passes, which are all of them, or
all up to the first checkpoint that stops it. -/
theorem apply_passes (hblocks : db.blocks = .ok blocks)
    (h : apply options info imageBase isSet db = ⟨log, .ok (db', applied)⟩) :
    ∃ m ≤ info.records.length, ∃ a,
      Passes ⟨imageBase, blocks⟩ options.restrictions ⟨options.checkInterval.toNat, isSet⟩
          (.start db) (info.records.take m) a
        ∧ log = a.log ∧ db' = a.db
        ∧ { applied with cancelled := false } = { a.applied with cancelled := false }
        ∧ (applied.cancelled = false ∧ m = info.records.length
          ∨ applied.cancelled = true ∧ ∃ k, info.IsBeforeAllowed options.restrictions m k
            ∧ (⟨options.checkInterval.toNat, isSet⟩ : Checkpoint).stops k = true) := by
  have hpasses := applyRecords_passes ⟨imageBase, blocks⟩ options.restrictions
    ⟨options.checkInterval.toNat, isSet⟩ (.start db) info.records
  have hunstopped := applyRecords_unstopped ⟨imageBase, blocks⟩ options.restrictions
    ⟨options.checkInterval.toNat, isSet⟩ (.start db) info.records
  unfold apply at h
  rw [hblocks] at h
  dsimp only at h
  obtain ⟨⟨b, ending⟩, hwalk⟩ : ∃ r, r = applyRecords ⟨imageBase, blocks⟩ options.restrictions
    ⟨options.checkInterval.toNat, isSet⟩ (.start db) info.records := ⟨_, rfl⟩
  rw [← hwalk] at h hpasses hunstopped
  cases ending with
  | complete =>
    cases h
    refine ⟨info.records.length, Nat.le_refl _, b, ?_, rfl, rfl, rfl, .inl ⟨hunstopped.1, rfl⟩⟩
    rw [List.take_length]
    exact hpasses
  | cut =>
    cases h
    obtain ⟨done, record, rest, before, hrecords, hallowed, hdone, rfl, hstops⟩ := hpasses
    have htake : info.records.take done.length = done := by
      rw [hrecords, List.take_left]
    refine ⟨done.length, ?_, before, ?_, rfl, rfl, rfl,
      .inr ⟨rfl, _, ⟨record, ?_, hallowed, rfl⟩, ?_⟩⟩
    · rw [hrecords, List.length_append]
      exact Nat.le_add_right _ _
    · rw [htake]
      exact hdone
    · rw [hrecords, List.getElem?_append_right (Nat.le_refl _), Nat.sub_self]
      rfl
    · rw [htake, ← hstops]
      exact congrArg _ (congrArg (· + 1) (Nat.zero_add _).symm)
  | failed e => cases h

/-- **A merge that is stopped is a merge of a prefix.**  Whenever the request to stop arrives, a
merge that succeeds has the database, the messages and the counters of a merge of the first
records of the file that is never asked to stop.  It says that it was cancelled exactly if some
checkpoint stops it.  Then the prefix ends before the allowed record that is counted at the
first such checkpoint, and otherwise it is the whole file; and of the records behind the
request fewer are merged than there are between two checkpoints. -/
theorem apply_first_records (options : ApplyOptions) (info : DebugInfo) (imageBase : UInt64)
    (db db' : Database) (log : Log) (applied : Applied) (moment : Nat)
    (h : apply options info imageBase (info.askedBehind options.restrictions moment) db
      = ⟨log, .ok (db', applied)⟩) :
    ∃ m ≤ info.records.length,
      apply options (info.takeRecords m) imageBase (fun _ => false) db
          = ⟨log, .ok (db', { applied with cancelled := false })⟩
        ∧ (applied.cancelled = true ↔ ∃ k, Checkpoint.FirstStop ⟨options.checkInterval.toNat,
            info.askedBehind options.restrictions moment⟩
            (options.restrictions.countAllowed info.records) k)
        ∧ (∀ k, Checkpoint.FirstStop ⟨options.checkInterval.toNat,
            info.askedBehind options.restrictions moment⟩
            (options.restrictions.countAllowed info.records) k →
              info.IsBeforeAllowed options.restrictions m k)
        ∧ (applied.cancelled = false → m = info.records.length)
        ∧ options.restrictions.countAllowed ((info.records.take m).drop moment)
          ≤ max options.checkInterval.toNat 1 - 1 := by
  obtain ⟨blocks, hblocks⟩ := blocks_of_apply (congrArg ApplyResult.result h)
  obtain ⟨m, hle, a, hpasses, rfl, rfl, happlied, hend⟩ := apply_passes hblocks h
  obtain ⟨checkpoint, hcheckpoint⟩ : ∃ c : Checkpoint, c = ⟨options.checkInterval.toNat,
    info.askedBehind options.restrictions moment⟩ := ⟨_, rfl⟩
  -- among the records that were passed there is no checkpoint that stops
  have hrunning : ∀ j, 0 < j → j ≤ options.restrictions.countAllowed (info.records.take m) →
      checkpoint.stops j = false := by
    rw [hcheckpoint]
    exact fun j hj hjle => hpasses.running j hj (Nat.zero_add _ ▸ hjle)
  rw [← hcheckpoint] at hend ⊢
  have hfirst : ∀ k, checkpoint.FirstStop (options.restrictions.countAllowed info.records) k →
      applied.cancelled = true ∧ info.IsBeforeAllowed options.restrictions m k := by
    intro k hk
    have hstops : checkpoint.stops k = true := (checkpoint.stops_iff k).mpr ⟨hk.due, hk.asked⟩
    rcases hend with ⟨-, rfl⟩ | ⟨hcancelled, k', hbefore, hstops'⟩
    · rw [List.take_length] at hrunning
      rw [hrunning k hk.positive hk.reached] at hstops
      cases hstops
    · rw [hk.unique (Checkpoint.firstStop_of_running hbefore hstops' hrunning)]
      exact ⟨hcancelled, hbefore⟩
  refine ⟨m, hle, ?_, ⟨?_, fun hstop => ?_⟩, fun k hk => (hfirst k hk).2, ?_, ?_⟩
  · rw [happlied]
    rw [← DebugInfo.records_takeRecords] at hpasses
    exact apply_of_passes hblocks hpasses
  · intro hcancelled
    rcases hend with ⟨hfalse, -⟩ | ⟨-, k, hbefore, hstops⟩
    · rw [hfalse] at hcancelled
      cases hcancelled
    · exact ⟨k, Checkpoint.firstStop_of_running hbefore hstops hrunning⟩
  · obtain ⟨k, hk⟩ := hstop
    exact (hfirst k hk).1
  · rcases hend with ⟨-, hall⟩ | ⟨hcancelled, -⟩
    · exact fun _ => hall
    · intro hfalse
      rw [hfalse] at hcancelled
      cases hcancelled
  · rw [hcheckpoint] at hrunning
    exact countAllowed_behind_request rfl hrunning

/-- The request arrives behind the first of three records, and every second one is a checkpoint:
the merge is cut behind that first record. -/
theorem apply_first_records_on_forward :
    ∃ log db' applied,
      apply ⟨.none, 2⟩ forward 0 (forward.askedBehind .none 1) withText
          = ⟨log, .ok (db', applied)⟩
        ∧ applied.cancelled = true
        ∧ apply ⟨.none, 2⟩ (forward.takeRecords 1) 0 (fun _ => false) withText
          = ⟨log, .ok (db', { applied with cancelled := false })⟩ := by
  have hsome : (apply ⟨.none, 2⟩ forward 0 (forward.askedBehind .none 1)
      withText).result.toOption.isSome = true := by decide +kernel
  cases h : apply ⟨.none, 2⟩ forward 0 (forward.askedBehind .none 1) withText with
  | mk log result =>
    rw [h] at hsome
    cases result with
    | error e => cases hsome
    | ok r =>
      obtain ⟨m, hle, hstart, hcancelled, hbefore, -, -⟩ :=
        apply_first_records ⟨.none, 2⟩ forward 0 withText r.1 log r.2 1 h
      have hstop : Checkpoint.FirstStop ⟨2, forward.askedBehind .none 1⟩ 3 2 :=
        ⟨by decide, by decide, by decide, by decide +kernel, fun j hj hlt hdue =>
          absurd (Nat.le_of_dvd hj hdue) (Nat.not_le_of_lt hlt)⟩
      have hone : m = 1 := by
        have hall : ∀ m ≤ forward.records.length,
            Restrictions.none.countAllowed (forward.records.take m) + 1 = 2 → m = 1 := by
          decide +kernel
        obtain ⟨-, -, -, hcount⟩ := hbefore 2 hstop
        exact hall m hle hcount
      rw [hone] at hstart
      exact ⟨log, r.1, r.2, rfl, hcancelled.mpr ⟨2, hstop⟩, hstart⟩

end Merge

end DebugMerge
