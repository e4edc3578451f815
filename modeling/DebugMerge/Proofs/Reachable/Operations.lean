/-
  DebugMerge.Proofs.Reachable.Operations
  ──────────────────────────────────────
  **Every database that operations lead to.**

  A database begins without rows.  From then on programs are recorded, options
  are set, transactions are committed or dropped, passes name symbols, and
  loads are run; any of them in any order.  Each operation takes a database
  that represents values to one that represents the values that the operation
  writes: what the caller gave, and for a load the first records of the
  content that the backend answered.  So the readers tell these values, however
  the database was reached.

  Main definitions
    • `Operation`, `Operation.on`           — operations on a program
    • `Operation.Writes`                    — the values that they write
    • `StoredValues.Becomes`                — a sequence of operations
  Main statements
    • `LoadJob.run_leaves`                  — what a run leaves
    • `Database.Represents.names`, `.loads` — a pass, and a load
    • `Operation.represents_on`             — one operation
    • `Program.readsAs_afterAll`            — all sequences of operations
-/
import DebugMerge.Proofs.Reachable.Readers

namespace DebugMerge

/-! ## §1. A pass over the symbols. -/

/-- The symbol is what it was, or it had no readable name and has got its own. -/
def PlacedSymbol.IsNamed (s s' : PlacedSymbol) : Prop :=
  s' = s ∨ s.demangled = none ∧ ∃ readable, demangle s.name = some readable ∧ s' = s.named readable

/-- A symbol that is named keeps its number. -/
def NumberedSymbol.IsNamed (s s' : NumberedSymbol) : Prop :=
  s'.number = s.number ∧ s.symbol.IsNamed s'.symbol

/-- Some symbols have got their readable names, and nothing else has changed. -/
def StoredValues.Names (v v' : StoredValues) : Prop :=
  List.Forall₂ NumberedSymbol.IsNamed v.symbols.rows v'.symbols.rows
    ∧ v' = { v with symbols := v'.symbols }

theorem StoredValues.names_refl (v : StoredValues) : v.Names v :=
  ⟨List.forall₂_same.mpr fun _ _ => ⟨rfl, .inl rfl⟩, rfl⟩

/-- What a pass makes of the row of a symbol is the row of the symbol, named or not. -/
theorem exists_isNamed (blocks : List MemoryBlock) (s : NumberedSymbol) :
    ∃ s' : NumberedSymbol, s.IsNamed s' ∧ decorateRow blocks s.toRow = s'.toRow := by
  rcases decorateRow_cases blocks s.toRow with heq | ⟨-, hnone, readable, hreadable, hnamed⟩
  · exact ⟨s, ⟨rfl, .inl rfl⟩, heq⟩
  · exact ⟨s.named readable, ⟨rfl, .inr ⟨hnone, readable, hreadable, rfl⟩⟩, hnamed⟩

/-- A pass over the rows of symbols, stopped or not, leaves the rows of named symbols. -/
theorem exists_named {blocks : List MemoryBlock} {symbols : List NumberedSymbol}
    {rows : List SymbolRow} (h : PartlyDecorated blocks (symbols.map NumberedSymbol.toRow) rows) :
    ∃ symbols' : List NumberedSymbol, rows = symbols'.map NumberedSymbol.toRow
      ∧ List.Forall₂ NumberedSymbol.IsNamed symbols symbols' := by
  -- by induction on the symbols, each of them with its own row
  induction symbols generalizing rows with
  | nil =>
    have hlength := congrArg List.length (map_key_of_partly h)
    rw [List.length_map, List.length_map] at hlength
    exact ⟨[], List.eq_nil_of_length_eq_zero hlength, .nil⟩
  | cons s symbols ih =>
    cases rows with
    | nil => exact nomatch map_key_of_partly h
    | cons row rows =>
      obtain ⟨symbols', rfl, hrest⟩ := ih fun i => h (i + 1)
      -- the first row is as it was or as the pass makes it
      obtain ⟨s', hnamed, hrow⟩ : ∃ s' : NumberedSymbol, s.IsNamed s' ∧ row = s'.toRow := by
        rcases h 0 with hsame | hmade
        · exact ⟨s, ⟨rfl, .inl rfl⟩, Option.some.inj hsame⟩
        · obtain ⟨s', hnamed, hmakes⟩ := exists_isNamed blocks s
          exact ⟨s', hnamed, (Option.some.inj hmade).trans hmakes⟩
      exact ⟨s' :: symbols', by rw [hrow, List.map_cons], .cons hnamed hrest⟩

/-- Numbers stay. -/
theorem map_number_of_isNamed {symbols symbols' : List NumberedSymbol}
    (h : List.Forall₂ NumberedSymbol.IsNamed symbols symbols') :
    symbols'.map NumberedSymbol.number = symbols.map NumberedSymbol.number := by
  induction h with
  | nil => rfl
  | cons hnamed _ ih => rw [List.map_cons, List.map_cons, hnamed.1, ih]

namespace Database.Represents

variable {db db' : Database} {v : StoredValues}

/-- **A pass, stopped or not**, leaves a database that represents named symbols. -/
theorem names (h : db.Represents v) (hpass : db.IsPartlyDecorated db') :
    ∃ v', v.Names v' ∧ db'.Represents v' := by
  obtain ⟨rows', rfl, hrel⟩ := hpass
  rw [h.symbols] at hrel
  cases hrel with
  | some hpartly =>
    obtain ⟨symbols', rfl, hnamed⟩ := exists_named hpartly
    -- a pass touches no key, so keys stay distinct
    have hkeys : symbols'.map NumberedSymbol.key = v.symbols.rows.map NumberedSymbol.key := by
      have hrows := map_key_of_partly hpartly
      rw [List.map_map, List.map_map] at hrows
      exact hrows
    refine ⟨{ v with symbols := v.symbols.revise symbols' hkeys }, ⟨hnamed, rfl⟩, ?_⟩
    exact ⟨h.info, h.blocks, h.options, h.types, rfl,
      h.numbers.congr (map_number_of_isNamed hnamed), h.comments, h.lines, h.runs⟩

end Database.Represents

/-! ## §2. A merge of records. -/

/-- The write of a record that is merged at a place; a record outside memory writes nothing. -/
def Record.write? (site : Site) : Record → Option StoreWrite
  | dataType record => some (.dataType record)
  | symbol record => (place site.imageBase record.rva site.blocks).map (.symbol · record)
  | line record =>
      (place site.imageBase record.rva site.blocks).map (.line · record.file record.line)
  | comment record => (place site.imageBase record.rva site.blocks).map (.comment · record.text)

namespace Database

variable {site : Site} {db db' : Database}

/-- A data type that is merged is offered. -/
theorem on_of_mergeTypes {record : TypeRecord}
    (h : (mergeTypes db.dataTypes record).map db.withTypes = .ok db') :
    StoreWrite.on db (.dataType record) = .ok db' := by
  obtain ⟨types, hmerge, rfl⟩ := map_ok.mp h
  obtain ⟨rows, rows', hrows, hmerged, rfl⟩ := onTable_ok.mp hmerge
  refine map_ok.mpr ?_
  rcases mergeType_cases hmerged with ⟨hfree, rfl⟩
    | ⟨⟨stored, ⟨row, hfind, hread⟩, hle⟩, rfl⟩ | ⟨stored, ⟨row, hfind, hread⟩, hle, hne, rfl⟩
  · exact ⟨_, upsertType_of_free hrows hfree, rfl⟩
  · -- a definition that is held already is no change
    rw [← TypeRecord.name_eq_of_le hle] at hfind
    refine ⟨_, upsertType_of_taken hrows hfind hread, ?_⟩
    dsimp only
    rw [TypeRecord.merge_eq_existing hle, if_neg nofun, withTypes_of_eq hrows]
  · -- a definition that says less is completed
    rw [TypeRecord.name_eq_of_le hle] at hfind
    refine ⟨_, upsertType_of_taken hrows hfind hread, ?_⟩
    dsimp only
    rw [if_pos (TypeRecord.merge_eq_replaced hle hne)]
    rfl

/-- A row that is merged is added. -/
theorem addRow_of_merged {α κ : Type} [BEq κ] {key : α → κ} {table : Table}
    {rows : Option (List α)} {withRows : Option (List α) → Database} {row : α}
    (h : (onTable table (mergeRow key) rows row).map withRows = .ok db') :
    (addRow key table rows withRows row).map (·.1) = .ok db' := by
  rcases addRow_cases key table rows withRows row
    with ⟨-, hmerge⟩ | ⟨hadd, hmerge⟩ | ⟨after, hadd, hmerge⟩
  · exact nomatch hmerge.symm.trans h
  · exact map_ok.mpr ⟨_, hadd, Except.ok.inj (hmerge.symm.trans h)⟩
  · exact map_ok.mpr ⟨_, hadd, Except.ok.inj (hmerge.symm.trans h)⟩

/-- A symbol that is merged is added. -/
theorem on_of_mergeNumbered {address : UInt64} {record : SymbolRecord}
    (h : (mergeNumbered (db.symbols, db.symbolSkips) (record.rowAt address)).map db.withNumbered
      = .ok db') :
    StoreWrite.on db (.symbol address record) = .ok db' := by
  rw [← addSymbol_merged] at h
  show (db.addSymbol address record).map (·.1) = .ok db'
  cases hadded : (db.addSymbol address record).map (·.1) with
  | error e =>
    rw [hadded] at h
    cases h
  | ok added =>
    rw [hadded] at h
    cases h
    rfl

/-- A row that is merged where its offset lands is written there, if it lands in memory. -/
theorem writeAll_of_placed {α σ : Type} {merge : σ → α → Except LoadError σ} {table : σ}
    {withTable : σ → Database} {rva : UInt64} {rowAt : UInt64 → α} {write : UInt64 → StoreWrite}
    (hsame : withTable table = db)
    (hwrite : ∀ address, (merge table (rowAt address)).map withTable = .ok db' →
      (write address).on db = .ok db')
    (h : ((site.rowAt? rva rowAt).toList.foldlM merge table).map withTable = .ok db') :
    db.writeAll ((place site.imageBase rva site.blocks).map write).toList = .ok db' := by
  unfold Site.rowAt? at h
  cases hplace : place site.imageBase rva site.blocks with
  | none =>
    rw [hplace] at h
    exact congrArg Except.ok (hsame.symm.trans (Except.ok.inj h))
  | some address =>
    rw [hplace, Option.map_some, Option.toList_some, foldlM_singleton] at h
    rw [Option.map_some, Option.toList_some, writeAll, foldlM_singleton]
    exact hwrite address h

/-- **A record that is merged is written**, if it is inside memory. -/
theorem writeAll_of_mergeRecord {record : Record} (h : db.mergeRecord site record = .ok db') :
    db.writeAll (record.write? site).toList = .ok db' := by
  cases record with
  | dataType record =>
    rw [mergeRecord_dataType] at h
    exact (foldlM_singleton ..).trans (on_of_mergeTypes h)
  | symbol record =>
    rw [mergeRecord_symbol] at h
    exact writeAll_of_placed rfl (fun _ => on_of_mergeNumbered) h
  | line record =>
    rw [mergeRecord_line] at h
    exact writeAll_of_placed (show db.withLines db.lineNumbers = db from rfl)
      (fun _ => addRow_of_merged) h
  | comment record =>
    rw [mergeRecord_comment] at h
    exact writeAll_of_placed (show db.withComments db.comments = db from rfl)
      (fun _ => addRow_of_merged) h

/-- **Records that are merged are written**, one after the other. -/
theorem writeAll_of_mergeAll {records : List Record} (h : db.mergeAll site records = .ok db') :
    db.writeAll (records.filterMap (Record.write? site)) = .ok db' := by
  induction records generalizing db with
  | nil =>
    cases h
    rfl
  | cons record records ih =>
    obtain ⟨m, hrecord, hrest⟩ := foldlM_cons_ok.mp h
    rw [← List.singleton_append, List.filterMap_append, filterMap_singleton]
    exact foldlM_append_ok.mpr ⟨m, writeAll_of_mergeRecord hrecord, ih hrest⟩

end Database

/-! ## §3. Loads. -/

/-- **What a run leaves**: a change of the store and at most one entry of its own in the history. -/
theorem LoadJob.run_leaves (job : LoadJob) (shutDown : Bool) (program : Program) :
    ∃ (m : Database) (entries : List LoadRun), job.Changes program.db m
      ∧ (job.run shutDown program).program.db = m.withRuns (entries.map LoadRun.toRow)
      ∧ entries.length ≤ 1
      ∧ ∀ entry ∈ entries, ∃ status messages, entry = job.record status messages := by
  by_cases hacquire : program.acquire (job.slotRequest shutDown) = .granted
  · have hrun : (job.run shutDown program).program.db = (job.work program.db).db := by
      unfold run
      rw [hacquire]
      exact LoadJob.leaving_db _ _ _ _
    refine ⟨(job.verifying (.start program.db)).1.db, (job.entry? (job.verifying
      (.start program.db)).2 (job.work program.db).log.length).toList,
      verifying_changes job (.start program.db), ?_, ?_, ?_⟩
    · rw [hrun, (work_eq job program.db).2, recorded_eq_entries]
      rfl
    · exact Option.length_toList_le
    · intro entry hentry
      unfold entry? at hentry
      split at hentry
      · obtain ⟨status, -, hrecord⟩ := Option.map_eq_some_iff.mp (Option.mem_toList.mp hentry)
        exact ⟨status, _, hrecord.symm⟩
      · cases hentry
  · -- a run without the slot changes nothing and is not recorded
    refine ⟨program.db, [], .inl rfl, ?_, Nat.zero_le 1, fun entry hentry => nomatch hentry⟩
    rw [(run_of_not_granted hacquire).1, List.map_nil, Database.withRuns_nil]

namespace StoredValues

/-- Where records of the program are placed. -/
def IsAt (v : StoredValues) (site : Site) : Prop :=
  ∃ info, v.info = some info ∧ site = ⟨info.imageBase, v.blocks.mergeSort MemoryBlock.listLe⟩

/-- Nothing was merged, or the first ones of the records that the load may merge of a content that
its backend answered were. -/
def Merges (job : LoadJob) (v m : StoredValues) : Prop :=
  m = v ∨ ∃ asked info site done rest, job.readIn asked = .ok info ∧ v.IsAt site
    ∧ job.records info = done ++ rest ∧ m = v.writeAll (done.filterMap (Record.write? site))

/-- What a load writes: records, readable names, and at most one entry of its own. -/
def Loads (job : LoadJob) (v v' : StoredValues) : Prop :=
  ∃ (m named : StoredValues) (entries : List LoadRun), v.Merges job m ∧ m.Names named
    ∧ entries.length ≤ 1
    ∧ (∀ entry ∈ entries, ∃ status messages, entry = job.record status messages)
    ∧ v' = { named with runs := named.runs ++ entries }

end StoredValues

namespace Database.Represents

variable {db db' : Database} {v : StoredValues} {job : LoadJob}

/-- The place of a program is where it was recorded. -/
theorem isAt {site : Site} (h : db.Represents v) (hsite : db.IsAt site) : v.IsAt site := by
  obtain ⟨imageBase, blocks⟩ := site
  obtain ⟨himage, hblocks⟩ := hsite
  cases h.listBlocks.symm.trans hblocks
  cases hinfo : v.info with
  | none =>
    rw [h.imageBase, hinfo] at himage
    cases himage
  | some info =>
    rw [h.imageBase, hinfo] at himage
    cases himage
    exact ⟨info, hinfo, rfl⟩

/-- Records that were merged were written. -/
theorem merges {site : Site} {done : List Record} (h : db.Represents v)
    (hmerges : Database.Merges site done db db') :
    db'.Represents (v.writeAll (done.filterMap (Record.write? site))) := by
  obtain ⟨db'', hwrites, h'⟩ := h.writeAll (done.filterMap (Record.write? site))
  rw [writeAll_of_mergeAll (mergeAll_iff.mpr hmerges)] at hwrites
  cases hwrites
  exact h'

/-- A change of the store is a merge and a pass. -/
theorem changes (h : db.Represents v) (hchanges : job.Changes db db') :
    ∃ m v', v.Merges job m ∧ m.Names v' ∧ db'.Represents v' := by
  rcases hchanges with rfl | ⟨asked, info, site, hinfo, hsite,
    ⟨done, rest, hrecords, hmerges⟩ | ⟨m, hmerges, hpass⟩⟩
  · exact ⟨v, v, .inl rfl, v.names_refl, h⟩
  · exact ⟨_, _, .inr ⟨asked, info, site, done, rest, hinfo, h.isAt hsite, hrecords, rfl⟩,
      StoredValues.names_refl _, h.merges hmerges⟩
  · obtain ⟨v', hnames, h'⟩ := (h.merges hmerges).names hpass
    refine ⟨_, v', .inr ⟨asked, info, site, job.records info, [], hinfo, h.isAt hsite, ?_, rfl⟩,
      hnames, h'⟩
    rw [List.append_nil]

/-- Entries of the history are told behind the earlier ones. -/
theorem withRuns (h : db.Represents v) (entries : List LoadRun) :
    (db.withRuns (entries.map LoadRun.toRow)).Represents
      { v with runs := v.runs ++ entries } := by
  refine ⟨h.info, h.blocks, h.options, h.types, h.symbols, h.numbers, h.comments, h.lines, ?_⟩
  unfold Database.withRuns
  dsimp only
  rw [h.runs, Option.map_some, List.map_append]

/-- **A load**, however it ends, leaves a database that represents what it wrote. -/
theorem loads {shutDown : Bool} {program : Program} (h : program.db.Represents v) :
    ∃ v', v.Loads job v' ∧ (job.run shutDown program).program.db.Represents v' := by
  obtain ⟨m, entries, hchanges, hdb, hlength, hentries⟩ := job.run_leaves shutDown program
  obtain ⟨merged, named, hmerges, hnames, hm⟩ := h.changes hchanges
  refine ⟨{ named with runs := named.runs ++ entries },
    ⟨merged, named, entries, hmerges, hnames, hlength, hentries, rfl⟩, ?_⟩
  rw [hdb]
  exact hm.withRuns entries

end Database.Represents

/-! ## §4. Operations. -/

/-- An operation on a program. -/
inductive Operation where
  | program (info : ProgramInfo) (blocks : List MemoryBlock)
  | option (category name value : String)
  /-- Writes that are committed or dropped. -/
  | transaction (writes : List StoreWrite) (isCommitted : Bool)
  /-- A pass over the symbols that may be asked to stop. -/
  | pass (isSet : Nat → Bool)
  | load (job : LoadJob) (attempt : Attempt)

/-- The program with a changed database; an operation that fails changes nothing. -/
def Program.changed (p : Program) : Except StoreError Database → Program
  | .ok db => { p with db }
  | .error _ => p

namespace Operation

/-- The program after an operation. -/
def on (p : Program) : Operation → Program
  | program info blocks => p.changed (p.db.recordProgram info blocks)
  | option category name value => p.changed (p.db.setOption category name value)
  | transaction writes isCommitted =>
      if isCommitted then p.changed (p.db.writeAll writes) else p
  | pass isSet => p.changed ((decorate isSet p.db).map (·.1))
  | load job attempt => (attempt.run job p).program

/-- The values that an operation makes of others. -/
def Writes (v v' : StoredValues) : Operation → Prop
  | program info blocks => v' = { v with info := some info, blocks }
  | option category name value => v' = { v with options := v.options.put ⟨category, name, value⟩ }
  | transaction writes isCommitted => v' = if isCommitted then v.writeAll writes else v
  | pass _ => v.Names v'
  | load job attempt => v.Loads (job.during attempt) v'

/-- **One operation**: whatever it is, it leaves a database that represents what it wrote. -/
theorem represents_on {p : Program} {v : StoredValues} (h : p.db.Represents v)
    (operation : Operation) :
    ∃ v', operation.Writes v v' ∧ (operation.on p).db.Represents v' := by
  cases operation with
  | program info blocks =>
    obtain ⟨db', hdb', h'⟩ := h.recordProgram info blocks
    refine ⟨_, rfl, ?_⟩
    show (p.changed (p.db.recordProgram info blocks)).db.Represents _
    rw [hdb']
    exact h'
  | option category name value =>
    obtain ⟨db', hdb', h'⟩ := h.setOption category name value
    refine ⟨_, rfl, ?_⟩
    show (p.changed (p.db.setOption category name value)).db.Represents _
    rw [hdb']
    exact h'
  | transaction writes isCommitted =>
    refine ⟨_, rfl, ?_⟩
    cases isCommitted with
    | false => exact h
    | true =>
      obtain ⟨db', hdb', h'⟩ := h.writeAll writes
      show (p.changed (p.db.writeAll writes)).db.Represents (v.writeAll writes)
      rw [hdb']
      exact h'
  | pass isSet =>
    have hpass := decorate_spec isSet p.db
    show ∃ v', v.Names v' ∧ (p.changed ((decorate isSet p.db).map (·.1))).db.Represents v'
    cases hresult : decorate isSet p.db with
    | error e => exact ⟨v, v.names_refl, h⟩
    | ok result =>
      obtain ⟨db', summary⟩ := result
      rw [hresult] at hpass
      exact h.names hpass.1
  | load job attempt =>
    have hfound : ({ p with slot := attempt.slot } : Program).db.Represents v := h
    exact hfound.loads

end Operation

/-- A sequence of operations makes the one values of the others. -/
inductive StoredValues.Becomes : StoredValues → List Operation → StoredValues → Prop
  | nil (v : StoredValues) : Becomes v [] v
  | cons {v m v' : StoredValues} {operation : Operation} {operations : List Operation} :
      operation.Writes v m → Becomes m operations v' → Becomes v (operation :: operations) v'

namespace Program

/-- The program after a sequence of operations. -/
def afterAll (p : Program) (operations : List Operation) : Program :=
  operations.foldl Operation.on p

/-- Operations lead from a database that represents values to one that represents what they
wrote. -/
theorem represents_afterAll {p : Program} {v : StoredValues} (h : p.db.Represents v)
    (operations : List Operation) :
    ∃ v', v.Becomes operations v' ∧ (p.afterAll operations).db.Represents v' := by
  -- by induction on the operations: each one finds the values that the ones before it wrote
  induction operations generalizing p v with
  | nil => exact ⟨v, .nil v, h⟩
  | cons operation operations ih =>
    obtain ⟨m, hfirst, hm⟩ := operation.represents_on h
    obtain ⟨v', hrest, h'⟩ := ih hm
    exact ⟨v', .cons hfirst hrest, h'⟩

/-- **Every database that operations lead to tells what they wrote.**  Whatever is recorded, set,
written, dropped, named and loaded, in any order: names of data types, addresses and names of
symbols, comments and lines are distinct; every symbol has a number of its own, under which it can
be named; words and member lists parse back to the values that wrote them; and no reader fails,
but answers exactly these values. -/
theorem readsAs_afterAll (name : String) (operations : List Operation) :
    ∃ v, StoredValues.empty.Becomes operations v
      ∧ ((Program.ofDatabase name .fresh).afterAll operations).db.ReadsAs v := by
  obtain ⟨v, hwrites, h⟩ :=
    represents_afterAll (p := Program.ofDatabase name .fresh) Database.represents_fresh operations
  exact ⟨v, hwrites, h.readsAs⟩

end Program

end DebugMerge
