/-
  DebugMerge.Proofs.Load.Interruption
  ───────────────────────────────────
  **Reading is all or nothing.**

  A reading that may be stopped is compared with one that nobody stops and that
  looks for a request as often as it likes.  Both pass the same records and count
  them alike, so there is only one way in which they can differ: the first one
  finds a request at a record that it passes, and then it answers that and nothing
  of what it read.  The record is told by a third reading, which looks for a
  request everywhere and for which one arrives just there.  What a reading makes
  of its checkpoints is kept by every step, so it is proved once for sequences
  and once for each loop.

  Main statements
    • `AllOrNothing`, `AllOrNothing.bind`    — a reading and its checkpoints
    • `Pdb.readSymbols_allOrNothing`, `Pdb.readTypes_allOrNothing` — the loops
    • `readerBackend_passes`, `dumpBackend_passes` — the records that are passed
    • `Backend.IsStandard.isAllOrNothing`    — both backends
    • `Backend.reading_all_or_nothing`       — readings, merges and whole loads
-/
import DebugMerge.Proofs.Load.Layouts
import DebugMerge.Proofs.Pdb.Extraction

namespace DebugMerge

/-! ## §1. A reading and its checkpoints. -/

/-- Every unit of work is a checkpoint, and no request arrives. -/
def Checkpoint.never : Checkpoint :=
  ⟨1, fun _ => false⟩

/-- Every unit of work is a checkpoint, and a request is there just at unit number `n`. -/
def Checkpoint.only (n : Nat) : Checkpoint :=
  ⟨1, fun m => m == n⟩

@[simp] theorem Checkpoint.never_stops (n : Nat) : never.stops n = false :=
  not_stops (fun _ => rfl) n

@[simp] theorem Checkpoint.only_stops (n m : Nat) : (only n).stops m = (m == n) := by
  simp [only, stops, Nat.mod_one]

section Readings

variable {α β ε ε' : Type} {stopped : ε} {r : Checkpoint → Except ε α} {c : Checkpoint} {n k : Nat}

/-- The reading passes unit number `n`: a request that is there just then stops it. -/
def Passes (stopped : ε) (r : Checkpoint → Except ε α) (n : Nat) : Prop :=
  r (.only n) = .error stopped

/-- The reading finds a request: one has arrived at a checkpoint that it passes. -/
def FindsRequest (stopped : ε) (r : Checkpoint → Except ε α) (c : Checkpoint) : Prop :=
  ∃ n, Passes stopped r n ∧ c.stops n = true

/-- A reading that answers that it was stopped just if it finds a request, and answers the same as
without any request if it finds none. -/
structure AllOrNothing (stopped : ε) (r : Checkpoint → Except ε α) : Prop where
  never_ne : r .never ≠ .error stopped
  of_finds : ∀ c, FindsRequest stopped r c → r c = .error stopped
  of_not_finds : ∀ c, ¬ FindsRequest stopped r c → r c = r .never

namespace AllOrNothing

/-- A request only at a unit that the reading does not pass changes nothing. -/
theorem only_of_not_passes (h : AllOrNothing stopped r) (hn : ¬ Passes stopped r n) :
    r (.only n) = r .never := by
  refine h.of_not_finds _ ?_
  rintro ⟨m, hm, hstops⟩
  rw [Checkpoint.only_stops, beq_iff_eq] at hstops
  exact hn (hstops ▸ hm)

/-- Without any request it does not matter where the reading looks for one. -/
theorem eq_never (h : AllOrNothing stopped r) (hnone : ∀ n, c.isSet n = false) :
    r c = r .never := by
  refine h.of_not_finds c ?_
  rintro ⟨n, -, hstops⟩
  rw [Checkpoint.not_stops hnone] at hstops
  cases hstops

/-- A part that looks for no request answers the same. -/
theorem same {full : Except ε α} (h : full ≠ .error stopped) :
    AllOrNothing stopped fun _ => full :=
  ⟨h, fun _ ⟨_, hn, _⟩ => hn, fun _ _ => rfl⟩

theorem ok (a : α) : AllOrNothing stopped fun _ => (.ok a : Except ε α) :=
  same nofun

theorem error {e : ε} (h : e ≠ stopped) : AllOrNothing stopped fun _ => (.error e : Except ε α) :=
  same (mt Except.error.inj h)

/-- What two parts pass: what the first one passes, and what the second one passes if the first
one answers. -/
theorem passes_bind {f : α → Checkpoint → Except ε β} (h : AllOrNothing stopped r) :
    Passes stopped (fun c => r c >>= fun a => f a c) n
      ↔ Passes stopped r n ∨ ∃ a, r .never = .ok a ∧ Passes stopped (f a) n := by
  by_cases hn : Passes stopped r n
  · refine iff_of_true ?_ (.inl hn)
    show r (.only n) >>= _ = _
    rw [hn]
    rfl
  · unfold Passes
    dsimp only
    rw [h.only_of_not_passes hn]
    cases hfull : r .never with
    | error e =>
      have hne : e ≠ stopped := fun he => h.never_ne (hfull.trans (congrArg _ he))
      simp [bind, Except.bind, hne]
    | ok a => simp [bind, Except.bind]

theorem passes_map {g : α → β} (h : AllOrNothing stopped r) :
    Passes stopped (fun c => r c >>= fun a => pure (g a)) n ↔ Passes stopped r n := by
  rw [h.passes_bind, or_iff_left]
  rintro ⟨a, -, hpasses⟩
  cases hpasses

/-- **One part behind another.** -/
theorem bind {f : α → Checkpoint → Except ε β} (h : AllOrNothing stopped r)
    (hnext : ∀ a, AllOrNothing stopped (f a)) :
    AllOrNothing stopped fun c => r c >>= fun a => f a c := by
  have hfinds (c : Checkpoint) : FindsRequest stopped (fun c => r c >>= fun a => f a c) c
      ↔ FindsRequest stopped r c ∨ ∃ a, r .never = .ok a ∧ FindsRequest stopped (f a) c := by
    simp only [FindsRequest, h.passes_bind]
    grind
  refine ⟨?_, fun c hc => ?_, fun c hc => ?_⟩
  · cases hfull : r .never with
    | error e => exact fun he => h.never_ne (hfull.trans (congrArg _ (Except.error.inj he)))
    | ok a => exact (hnext a).never_ne
  · by_cases hfirst : FindsRequest stopped r c
    · rw [h.of_finds c hfirst]
      rfl
    · obtain ⟨a, ha, hsecond⟩ := ((hfinds c).mp hc).resolve_left hfirst
      rw [h.of_not_finds c hfirst, ha]
      exact (hnext a).of_finds c hsecond
  · have hnone := mt (hfinds c).mpr hc
    rw [not_or] at hnone
    rw [h.of_not_finds c hnone.1]
    cases hfull : r .never with
    | error e => rfl
    | ok a => exact (hnext a).of_not_finds c fun hsecond => hnone.2 ⟨a, hfull, hsecond⟩

theorem passes_checked : Passes stopped (fun c => if c.stops k then .error stopped else r c) n
    ↔ n = k ∨ Passes stopped r n := by
  unfold Passes
  dsimp only
  rw [Checkpoint.only_stops]
  by_cases hk : k = n
  · simp [hk]
  · simp [hk, Ne.symm hk]

/-- A checkpoint in front. -/
theorem checked (h : AllOrNothing stopped r) (k : Nat) :
    AllOrNothing stopped fun c => if c.stops k then .error stopped else r c := by
  refine ⟨?_, fun c ⟨n, hn, hstops⟩ => ?_, fun c hc => ?_⟩
  · rw [Checkpoint.never_stops]
    exact h.never_ne
  · split
    · rfl
    · rename_i hk
      rcases passes_checked.mp hn with rfl | hn
      · exact absurd hstops hk
      · exact h.of_finds c ⟨n, hn, hstops⟩
  · have hk : c.stops k ≠ true := fun hk => hc ⟨k, passes_checked.mpr (.inl rfl), hk⟩
    rw [if_neg hk, Checkpoint.never_stops]
    exact h.of_not_finds c fun ⟨n, hn, hstops⟩ => hc ⟨n, passes_checked.mpr (.inr hn), hstops⟩

end AllOrNothing

theorem mapError_eq_error {f : ε → ε'} (hf : ∀ e, f e = f stopped → e = stopped)
    {full : Except ε α} : full.mapError f = .error (f stopped) ↔ full = .error stopped := by
  cases full with
  | ok a => simp [Except.mapError]
  | error e =>
    simp only [Except.mapError, Except.error.injEq]
    exact ⟨hf e, congrArg f⟩

/-- Failures under other names. -/
theorem AllOrNothing.mapError {f : ε → ε'} (hf : ∀ e, f e = f stopped → e = stopped)
    (h : AllOrNothing stopped r) :
    AllOrNothing (f stopped) fun c => (r c).mapError f := by
  have hpasses (n : Nat) : Passes (f stopped) (fun c => (r c).mapError f) n ↔ Passes stopped r n :=
    mapError_eq_error hf
  refine ⟨mt (mapError_eq_error hf).mp h.never_ne, fun c ⟨n, hn, hstops⟩ => ?_, fun c hc => ?_⟩
  · exact (mapError_eq_error hf).mpr (h.of_finds c ⟨n, (hpasses n).mp hn, hstops⟩)
  · have hnone : ¬ FindsRequest stopped r c :=
      fun ⟨n, hn, hstops⟩ => hc ⟨n, (hpasses n).mpr hn, hstops⟩
    rw [h.of_not_finds c hnone]

end Readings

/-! ## §2. The built-in reader. -/

namespace Pdb

/-- **The loop over symbols.** -/
theorem readSymbols_allOrNothing (map : AddressMap) (failure : Option PdbError) (seen : Nat)
    (records : List (List UInt8)) :
    AllOrNothing .cancelled fun c => readSymbols map c failure seen records := by
  induction records generalizing seen with
  | nil =>
    simp only [readSymbols]
    cases failure with
    | none => exact .ok _
    | some e => exact .error (by simp)
  | cons record records ih =>
    simp only [readSymbols]
    exact ((ih (seen + 1)).bind fun _ => .ok _).checked (seen + 1)

/-- **The loop over types.** -/
theorem readTypes_allOrNothing (table : TypeTable) (wantsMembers : Bool) (seen k : Nat)
    (records : List (List UInt8)) :
    AllOrNothing .cancelled fun c => readTypes table wantsMembers c seen k records := by
  induction records generalizing seen k with
  | nil =>
    simp only [readTypes]
    cases table.failure with
    | none => exact .ok _
    | some e => exact .error (by simp)
  | cons record records ih =>
    simp only [readTypes]
    refine AllOrNothing.checked ?_ (seen + 1)
    cases readDefinition table wantsMembers k record with
    | endless => exact .error (by simp)
    | nothing => exact ih (seen + 1) (k + 1)
    | type definition => exact (ih (seen + 1) (k + 1)).bind fun _ => .ok _

/-- The loop over symbols passes all its records. -/
theorem readSymbols_passes {map : AddressMap} {failure : Option PdbError} {seen n : Nat}
    {records : List (List UInt8)} :
    Passes .cancelled (fun c => readSymbols map c failure seen records) n
      ↔ seen < n ∧ n ≤ seen + records.length := by
  induction records generalizing seen with
  | nil =>
    have hnone : ¬ Passes .cancelled (fun c => readSymbols map c failure seen []) n := by
      cases failure <;> simp [Passes, readSymbols]
    exact iff_of_false hnone (by rw [List.length_nil]; omega)
  | cons record records ih =>
    simp only [readSymbols]
    refine AllOrNothing.passes_checked.trans ?_
    rw [(readSymbols_allOrNothing map failure (seen + 1) records).passes_map, ih, List.length_cons]
    omega

/-- The loop over types passes no more than its records. -/
theorem seen_of_readTypes_passes {table : TypeTable} {wantsMembers : Bool} {seen k n : Nat}
    {records : List (List UInt8)}
    (h : Passes .cancelled (fun c => readTypes table wantsMembers c seen k records) n) :
    seen < n ∧ n ≤ seen + records.length := by
  induction records generalizing seen k with
  | nil =>
    unfold Passes readTypes at h
    cases hfailure : table.failure <;> rw [hfailure] at h <;> cases h
  | cons record records ih =>
    simp only [readTypes] at h
    rw [AllOrNothing.passes_checked] at h
    rw [List.length_cons]
    rcases h with rfl | h
    · omega
    · have hrest : Passes .cancelled
          (fun c => readTypes table wantsMembers c (seen + 1) (k + 1) records) n := by
        cases hreading : readDefinition table wantsMembers k record with
        | endless =>
          rw [hreading] at h
          cases h
        | nothing =>
          rw [hreading] at h
          exact h
        | type definition =>
          rw [hreading] at h
          exact (readTypes_allOrNothing table wantsMembers (seen + 1) (k + 1)
            records).passes_map.mp h
      have := ih hrest
      omega

/-- Behind all symbols, all their records are counted. -/
theorem seen_of_readSymbols {map : AddressMap} {checkpoint : Checkpoint}
    {failure : Option PdbError} {seen : Nat} {records : List (List UInt8)}
    {r : List SymbolRecord × Nat} (h : readSymbols map checkpoint failure seen records = .ok r) :
    r.2 = seen + records.length := by
  induction records generalizing seen r with
  | nil =>
    unfold readSymbols at h
    cases failure <;> cases h
    rfl
  | cons record records ih =>
    unfold readSymbols at h
    dsimp only at h
    split at h
    · cases h
    · obtain ⟨more, hmore, hr⟩ := bind_ok.mp h
      cases hr
      rw [List.length_cons, ih hmore]
      omega

/-- How many records a file has: those of its symbol streams and those of its type stream. -/
def Container.recordCount (c : Container) : Nat :=
  (symbolStreams c).toOption.elim 0 (·.records.length)
    + (typeTable c).toOption.elim 0 (·.records.size)

/-- A failure of the structure is no stop. -/
theorem orMalformed_ne_cancelled {α : Type} (r : Except PdbError α) :
    orMalformed r ≠ .error .cancelled := by
  cases r <;> simp [orMalformed]

/-- The whole reading. -/
theorem readInfo_allOrNothing (bytes : List UInt8) (wantsMembers : Bool) :
    AllOrNothing .cancelled (readInfo bytes wantsMembers) :=
  (AllOrNothing.same (orMalformed_ne_cancelled _)).bind fun _ =>
    (AllOrNothing.same (orMalformed_ne_cancelled _)).bind fun _ =>
    (AllOrNothing.same (orMalformed_ne_cancelled _)).bind fun _ =>
    (readSymbols_allOrNothing _ _ _ _).bind fun _ =>
    (AllOrNothing.same (orMalformed_ne_cancelled _)).bind fun _ =>
    (readTypes_allOrNothing _ _ _ _ _).bind fun _ => .ok _

theorem of_orMalformed {α : Type} {r : Except PdbError α} {a : α} (h : orMalformed r = .ok a) :
    r = .ok a := by
  cases r with
  | ok b => exact congrArg _ (Except.ok.inj h)
  | error e => cases h

/-- What the whole reading passes are records of the file. -/
theorem readInfo_passes {bytes : List UInt8} {wantsMembers : Bool} {n : Nat}
    (h : Passes .cancelled (readInfo bytes wantsMembers) n) :
    ∃ c, Container.open? bytes = .ok c ∧ 0 < n ∧ n ≤ c.recordCount := by
  unfold Passes readInfo at h
  rcases bind_error.mp h with hc | ⟨c, hc, h⟩
  · exact absurd hc (orMalformed_ne_cancelled _)
  refine ⟨c, of_orMalformed hc, ?_⟩
  rcases bind_error.mp h with hmap | ⟨map, -, h⟩
  · exact absurd hmap (orMalformed_ne_cancelled _)
  rcases bind_error.mp h with hrecords | ⟨records, hrecords, h⟩
  · exact absurd hrecords (orMalformed_ne_cancelled _)
  have hsymbols : (symbolStreams c).toOption.elim 0 (·.records.length)
      = records.records.length := by
    rw [of_orMalformed hrecords]
    rfl
  unfold Container.recordCount
  rw [hsymbols]
  rcases bind_error.mp h with hstopped | ⟨⟨symbols, seen⟩, hread, h⟩
  · have := readSymbols_passes.mp hstopped
    omega
  rcases bind_error.mp h with htable | ⟨table, htable, h⟩
  · exact absurd htable (orMalformed_ne_cancelled _)
  have htypes : (typeTable c).toOption.elim 0 (·.records.size) = table.records.size := by
    rw [of_orMalformed htable]
    rfl
  rw [htypes]
  rcases bind_error.mp h with hstopped | ⟨types, -, h⟩
  · have hseen := seen_of_readSymbols hread
    have := seen_of_readTypes_passes hstopped
    rw [Array.length_toList] at this
    omega
  · cases h

theorem toLoadError_eq_cancelled {path : String} {e : ReadFailure}
    (h : e.toLoadError path = ReadFailure.cancelled.toLoadError path) : e = .cancelled := by
  cases e with
  | cancelled => rfl
  | malformed cause => cases h
  | endless => cases h

end Pdb

/-! ## §3. Both backends. -/

/-- The answer of a reading that nobody stops. -/
def Backend.fullReading (backend : Backend) (path : String) (options : ReaderOptions) :
    Except LoadError DebugInfo :=
  backend.readInfo path options fun _ => false

/-- The reading passes record number `n`: one that looks for a request at every record is stopped
if a request is there just then. -/
def Backend.Passes (backend : Backend) (path : String) (parseMembers : Bool) (n : Nat) : Prop :=
  backend.readInfo path ⟨1, parseMembers⟩ (fun m => m == n) = .error .cancelled

/-- The request had arrived at a record that the reading passes and at which it looks for it. -/
def ReaderOptions.Notices (options : ReaderOptions) (backend : Backend) (path : String)
    (isSet : Nat → Bool) : Prop :=
  ∃ n, backend.Passes path options.parseMembers n ∧ n % max options.checkInterval.toNat 1 = 0
    ∧ isSet n = true

/-- A backend whose readings are all or nothing. -/
def Backend.IsAllOrNothing (backend : Backend) : Prop :=
  ∀ (path : String) (parseMembers : Bool), ∃ r : Checkpoint → Except LoadError DebugInfo,
    AllOrNothing .cancelled r
      ∧ ∀ (interval : UInt64) (isSet : Nat → Bool),
        backend.readInfo path ⟨interval, parseMembers⟩ isSet = r ⟨interval.toNat, isSet⟩

section AllOrNothing

variable {backend : Backend} (h : backend.IsAllOrNothing) (path : String) (options : ReaderOptions)
  (interval : UInt64) (isSet : Nat → Bool)
include h

/-- However often a reading looks for a request and whenever one arrives: it notices none and
answers the same as a reading that nobody stops, or it notices one and answers that it was
stopped. -/
theorem Backend.IsAllOrNothing.either :
    (backend.readInfo path options isSet
          = backend.fullReading path { options with checkInterval := interval }
        ∧ ¬ options.Notices backend path isSet)
      ∨ backend.readInfo path options isSet = .error .cancelled
        ∧ options.Notices backend path isSet := by
  obtain ⟨r, hr, hread⟩ := h path options.parseMembers
  have hnotices : options.Notices backend path isSet
      ↔ FindsRequest .cancelled r ⟨options.checkInterval.toNat, isSet⟩ := by
    unfold ReaderOptions.Notices FindsRequest Backend.Passes
    simp only [hread, Checkpoint.stops, Bool.and_eq_true, beq_iff_eq]
    rfl
  have hfull : backend.fullReading path { options with checkInterval := interval } = r .never :=
    (hread interval fun _ => false).trans (hr.eq_never fun _ => rfl)
  have hr' : backend.readInfo path options isSet = r ⟨options.checkInterval.toNat, isSet⟩ :=
    hread options.checkInterval isSet
  rw [hr', hfull, hnotices]
  by_cases hfinds : FindsRequest .cancelled r ⟨options.checkInterval.toNat, isSet⟩
  · exact .inr ⟨hr.of_finds _ hfinds, hfinds⟩
  · exact .inl ⟨hr.of_not_finds _ hfinds, hfinds⟩

/-- A reading that nobody stops is never stopped. -/
theorem Backend.IsAllOrNothing.fullReading_ne :
    backend.fullReading path options ≠ .error .cancelled := by
  obtain ⟨r, hr, hread⟩ := h path options.parseMembers
  have hfull : backend.fullReading path options = r .never :=
    (hread options.checkInterval fun _ => false).trans (hr.eq_never fun _ => rfl)
  rw [hfull]
  exact hr.never_ne

end AllOrNothing

theorem debugFileBytes_ne_cancelled (files : Files) (path : String) :
    debugFileBytes files path ≠ .error .cancelled := by
  unfold debugFileBytes
  split
  · exact nofun
  · split <;> exact nofun

theorem readerBackend_isAllOrNothing (files : Files) : (readerBackend files).IsAllOrNothing := by
  intro path parseMembers
  have hreading (bytes : List UInt8) := (Pdb.readInfo_allOrNothing bytes parseMembers).mapError
    (f := Pdb.ReadFailure.toLoadError path) fun _ => Pdb.toLoadError_eq_cancelled
  exact ⟨_, (AllOrNothing.same (debugFileBytes_ne_cancelled files path)).bind hreading,
    fun interval isSet => readerBackend_readInfo_eq files path ⟨interval, parseMembers⟩ isSet⟩

/-- What the built-in reader passes are records of the file. -/
theorem readerBackend_passes {files : Files} {path : String} {parseMembers : Bool} {n : Nat}
    (h : (readerBackend files).Passes path parseMembers n) :
    ∃ bytes c, debugFileBytes files path = .ok bytes ∧ Pdb.Container.open? bytes = .ok c
      ∧ 0 < n ∧ n ≤ c.recordCount := by
  unfold Backend.Passes at h
  rw [readerBackend_readInfo_eq] at h
  rcases bind_error.mp h with hbytes | ⟨bytes, hbytes, hread⟩
  · exact absurd hbytes (debugFileBytes_ne_cancelled files path)
  · have hstopped := (mapError_eq_error (f := Pdb.ReadFailure.toLoadError path)
      fun _ => Pdb.toLoadError_eq_cancelled).mp hread
    obtain ⟨c, hc, hbounds⟩ := Pdb.readInfo_passes hstopped
    exact ⟨bytes, c, hbytes, hc, hbounds⟩

/-- A tool is never stopped while it prints. -/
theorem runTool_ne_cancelled (programs : Programs) (tool mode path : String) :
    runTool programs tool mode path ≠ .error .cancelled := by
  unfold runTool
  split
  · exact nofun
  · split <;> exact nofun

theorem DumpSource.load_ne_cancelled (programs : Programs) (source : DumpSource)
    (s : Surroundings) (path : String) : source.load programs s path ≠ .error .cancelled := by
  intro h
  unfold DumpSource.load at h
  -- the text comes from a document or from the tool, and is parsed afterwards
  cases hpath : source.documentPath? s with
  | some document =>
    rw [hpath] at h
    dsimp only at h
    split at h
    · rcases bind_error.mp h with htext | ⟨text, -, hdocument⟩
      · cases htext
      · split at hdocument <;> cases hdocument
    · cases h
  | none =>
    rw [hpath] at h
    rcases bind_error.mp h with htext | ⟨text, -, hdocument⟩
    · exact runTool_ne_cancelled _ _ _ _ htext
    · dsimp only at hdocument
      split at hdocument <;> cases hdocument

theorem DumpSource.requireFile_ne_cancelled (s : Surroundings) (path : String) :
    DumpSource.requireFile s path ≠ .error .cancelled := by
  unfold DumpSource.requireFile
  split <;> exact nofun

theorem dumpBackend_isAllOrNothing (programs : Programs) (source : DumpSource)
    (s : Surroundings) : (dumpBackendWith programs source s).IsAllOrNothing := by
  intro path parseMembers
  -- a request is looked for once, before the document is loaded
  have hloading := (AllOrNothing.same
    (DumpSource.load_ne_cancelled programs source s path)).bind fun document =>
      .ok (if parseMembers then document.info else document.info.layoutOnly)
  refine ⟨_, (AllOrNothing.same (DumpSource.requireFile_ne_cancelled s path)).bind
    fun _ => hloading.checked 0, fun interval isSet => ?_⟩
  have hstops : (Checkpoint.mk interval.toNat isSet).stops 0 = isSet 0 := by
    simp [Checkpoint.stops]
  simp only [hstops]
  rfl

/-- The tool is asked at once for the whole document. -/
theorem dumpBackend_passes {programs : Programs} {source : DumpSource} {s : Surroundings}
    {path : String} {parseMembers : Bool} {n : Nat}
    (h : (dumpBackendWith programs source s).Passes path parseMembers n) : n = 0 := by
  rcases bind_error.mp h with hfile | ⟨_, -, hload⟩
  · exact absurd hfile (DumpSource.requireFile_ne_cancelled s path)
  · by_contra hn
    have hset : ¬ (0 == n) = true := by
      rw [beq_iff_eq]
      exact Ne.symm hn
    rw [if_neg hset] at hload
    rcases bind_error.mp hload with hdocument | ⟨document, -, hinfo⟩
    · exact DumpSource.load_ne_cancelled programs source s path hdocument
    · cases hinfo

theorem Backend.IsStandard.isAllOrNothing {backend : Backend} (h : backend.IsStandard) :
    backend.IsAllOrNothing := by
  cases h with
  | reader files => exact readerBackend_isAllOrNothing files
  | tool programs source s => exact dumpBackend_isAllOrNothing programs source s

/-! ## §4. Merges and loads. -/

section Merges

variable {backend : Backend} {path : String} {options : ReaderOptions} {isSet : Nat → Bool}
  {interval : UInt64}

/-- What is merged was read to its end, or nothing is merged. -/
theorem Backend.merge_all_or_nothing (h : backend.IsAllOrNothing) (applying : ApplyOptions)
    (setApplying : Nat → Bool) (db : Database) :
    backend.merge path applying options isSet setApplying db
        = backend.merge path applying { options with checkInterval := interval } (fun _ => false)
          setApplying db
      ∨ backend.merge path applying options isSet setApplying db = ⟨false, [], .error .cancelled⟩
        ∧ options.Notices backend path isSet := by
  unfold Backend.merge
  rcases h.either path options interval isSet with ⟨hfull, -⟩ | ⟨hstopped, hnotices⟩
  · rw [hfull]
    exact .inl rfl
  · rw [hstopped]
    exact .inr ⟨rfl, hnotices⟩

/-- What a load merges was read to its end. -/
theorem LoadJob.run_merges_full {job : LoadJob} (h : job.backend.IsAllOrNothing)
    (interval : UInt64) (shutDown : Bool) (program : Program) :
    ∃ db runs, (job.run shutDown program).program.db = db.withRuns runs
      ∧ (db = program.db ∨ ∃ info site,
        job.backend.fullReading job.file { job.settings.reading with checkInterval := interval }
            = .ok info
          ∧ program.db.IsAt site ∧ Database.IsStep site (job.records info) program.db db) := by
  obtain ⟨db, runs, hrun, hchanges⟩ := LoadJob.run_changes job shutDown program
  refine ⟨db, runs, hrun, hchanges.imp_right ?_⟩
  rintro ⟨asked, info, site, hinfo, hsite, hstep⟩
  refine ⟨info, site, ?_, hsite, hstep⟩
  rcases h.either job.file job.settings.reading interval _ with ⟨hfull, -⟩ | ⟨hstopped, -⟩
  · exact hfull.symm.trans hinfo
  · cases hstopped.symm.trans hinfo

end Merges

/-- **Reading is all or nothing**, for both backends.  Whatever the interval of the checkpoints and
whenever a request arrives: if none had arrived at a record that the reading passes and at which
it looks for one, it answers the content or the failure of a reading that nobody stops, whatever
the interval of that one; otherwise it answers that it was stopped.  No part of a content is
merged: a merge goes as it goes with that full content, or it does not begin, and all that a load
merges are records of the full content. -/
theorem Backend.reading_all_or_nothing {backend : Backend} (hstandard : backend.IsStandard)
    (path : String) (options : ReaderOptions) (interval : UInt64) (isSet : Nat → Bool) :
    ((backend.readInfo path options isSet
            = backend.fullReading path { options with checkInterval := interval }
          ∧ ¬ options.Notices backend path isSet)
        ∨ backend.readInfo path options isSet = .error .cancelled
          ∧ options.Notices backend path isSet)
      ∧ backend.fullReading path { options with checkInterval := interval } ≠ .error .cancelled
      ∧ (∀ (applying : ApplyOptions) (setApplying : Nat → Bool) (db : Database),
        backend.merge path applying options isSet setApplying db
            = backend.merge path applying { options with checkInterval := interval }
              (fun _ => false) setApplying db
          ∨ backend.merge path applying options isSet setApplying db
              = ⟨false, [], .error .cancelled⟩ ∧ options.Notices backend path isSet)
      ∧ ∀ (job : LoadJob) (shutDown : Bool) (program : Program), job.backend = backend →
        ∃ db runs, (job.run shutDown program).program.db = db.withRuns runs
          ∧ (db = program.db ∨ ∃ info site,
            backend.fullReading job.file { job.settings.reading with checkInterval := interval }
                = .ok info
              ∧ program.db.IsAt site
              ∧ Database.IsStep site (job.records info) program.db db) := by
  have hall := hstandard.isAllOrNothing
  refine ⟨hall.either path options interval isSet, hall.fullReading_ne path _,
    Backend.merge_all_or_nothing hall, ?_⟩
  rintro job shutDown program rfl
  exact LoadJob.run_merges_full hall interval shutDown program

/-- Thirteen records are read at checkpoints of two.  A request at the third one stops the reading
at the fourth; one at the twentieth comes too late to be noticed, and the content is that of a
reading that nobody stops. -/
theorem reading_all_or_nothing_mixed :
    (readerBackend (loneFile Pdb.mixedFile)).readInfo "app.pdb" ⟨2, false⟩ (fun n => 3 ≤ n)
        = .error .cancelled
      ∧ (readerBackend (loneFile Pdb.mixedFile)).readInfo "app.pdb" ⟨2, false⟩ (fun n => 20 ≤ n)
        = .ok Pdb.mixedInfo
      ∧ ¬ ReaderOptions.Notices ⟨2, false⟩ (readerBackend (loneFile Pdb.mixedFile)) "app.pdb"
          (fun n => 20 ≤ n)
      ∧ (readerBackend (loneFile Pdb.mixedFile)).fullReading "app.pdb" ⟨100, false⟩
        = .ok Pdb.mixedInfo := by
  have hread := readerBackend_readInfo (debugFileBytes_loneFile Pdb.mixedFile) ⟨2, false⟩
  have hearly : (readerBackend (loneFile Pdb.mixedFile)).readInfo "app.pdb" ⟨2, false⟩
      (fun n => 3 ≤ n) = .error .cancelled := by
    rw [hread, Pdb.readInfo_of_areOf Pdb.areOf_mixed]
    decide +kernel
  have hlate : (readerBackend (loneFile Pdb.mixedFile)).readInfo "app.pdb" ⟨2, false⟩
      (fun n => 20 ≤ n) = .ok Pdb.mixedInfo := by
    rw [hread, Pdb.readInfo_of_areOf Pdb.areOf_mixed]
    decide +kernel
  obtain ⟨heither, -⟩ := Backend.reading_all_or_nothing (.reader (loneFile Pdb.mixedFile))
    "app.pdb" ⟨2, false⟩ 100 fun n => 20 ≤ n
  rcases heither with ⟨hfull, hnone⟩ | ⟨hstopped, -⟩
  · exact ⟨hearly, hlate, hnone, hfull.symm.trans hlate⟩
  · cases hstopped.symm.trans hlate

end DebugMerge
