/-
  DebugMerge.Proofs.Load.Decoration
  ─────────────────────────────────
  **What the naming pass does to the symbols.**

  The pass looks at every symbol that lies in one of the program's blocks and
  has no readable name yet, and gives it its readable name if it has one.  What
  a symbol becomes depends on the symbol and the blocks alone.  A pass that is
  stopped has done this to some symbols and left the others alone, so a later
  pass makes of its result what it would have made of the symbols at once.

  Main statements
    • `SymbolRow.decorated`, `decorateRow`, `decorateRow_cases` — what the pass makes of a symbol
    • `PartlyDecorated`                     — what a stopped pass leaves behind
    • `decorateSymbols_spec`, `decorateBlocks_spec` — the walk
    • `decorate_spec`                       — the whole pass
-/
import DebugMerge.Load.Decorate
import DebugMerge.Proofs.Load.Merging

namespace DebugMerge

/-! ## §1. What the pass makes of a symbol. -/

/-- The symbol with its readable name, if it has one. -/
def SymbolRow.decorated (row : SymbolRow) : SymbolRow :=
  match demangle row.name with
  | some readable => { row with demangled := some readable }
  | none => row

/-- What a pass over the blocks makes of a symbol. -/
def decorateRow (blocks : List MemoryBlock) (row : SymbolRow) : SymbolRow :=
  if blocks.any fun block => Database.isPending block.start block.stop row then row.decorated
  else row

/-- A symbol without a readable name got the one that its name has; nothing else changed. -/
def SymbolRow.IsNamed (row row' : SymbolRow) : Prop :=
  row.demangled = none ∧ ∃ readable, demangle row.name = some readable
    ∧ row' = { row with demangled := some readable }

theorem SymbolRow.decorated_of_some {row : SymbolRow} {readable : String}
    (h : demangle row.name = some readable) :
    row.decorated = { row with demangled := some readable } := by
  unfold decorated
  rw [h]

theorem SymbolRow.decorated_of_none {row : SymbolRow} (h : demangle row.name = none) :
    row.decorated = row := by
  unfold decorated
  rw [h]

@[simp] theorem SymbolRow.name_decorated (row : SymbolRow) : row.decorated.name = row.name := by
  unfold decorated
  split <;> rfl

theorem SymbolRow.key_decorated (row : SymbolRow) : row.decorated.key = row.key := by
  unfold decorated
  split <;> rfl

theorem SymbolRow.decorated_decorated (row : SymbolRow) :
    row.decorated.decorated = row.decorated := by
  cases h : demangle row.name with
  | none => rw [decorated_of_none h, decorated_of_none h]
  | some readable =>
    rw [decorated_of_some h]
    exact decorated_of_some h

/-- The pass asks for the symbols without a readable name between two signed bounds. -/
theorem isPending_iff_signed {start stop : UInt64} {row : SymbolRow} :
    Database.isPending start stop row = true
      ↔ row.demangled = none ∧ signedLe start row.address = true
        ∧ signedLt row.address stop = true := by
  unfold Database.isPending
  rw [Bool.and_eq_true, Bool.and_eq_true, Option.isNone_iff_eq_none, and_assoc]

/-- **What the pass makes of a symbol**: it leaves the symbol alone, or it names one that it asked
for. -/
theorem decorateRow_cases (blocks : List MemoryBlock) (row : SymbolRow) :
    decorateRow blocks row = row
      ∨ ((∃ block ∈ blocks, Database.isPending block.start block.stop row = true)
        ∧ row.IsNamed (decorateRow blocks row)) := by
  by_cases hasked : (blocks.any fun block => Database.isPending block.start block.stop row) = true
  · have hmade : decorateRow blocks row = row.decorated := if_pos hasked
    rw [hmade]
    obtain ⟨block, hmem, hpending⟩ := List.any_eq_true.mp hasked
    cases hreadable : demangle row.name with
    | none => exact .inl (SymbolRow.decorated_of_none hreadable)
    | some readable =>
      exact .inr ⟨⟨block, hmem, hpending⟩, (isPending_iff_signed.mp hpending).1, readable,
        hreadable, SymbolRow.decorated_of_some hreadable⟩
  · exact .inl (if_neg hasked)

theorem key_decorateRow (blocks : List MemoryBlock) (row : SymbolRow) :
    (decorateRow blocks row).key = row.key := by
  unfold decorateRow
  split
  · exact row.key_decorated
  · rfl

/-- A symbol with a readable name of its own is left alone by any further pass. -/
theorem decorateRow_decorated (blocks : List MemoryBlock) (row : SymbolRow) :
    decorateRow blocks row.decorated = row.decorated := by
  unfold decorateRow
  split
  · exact row.decorated_decorated
  · rfl

theorem decorateRow_decorateRow (blocks : List MemoryBlock) (row : SymbolRow) :
    decorateRow blocks (decorateRow blocks row) = decorateRow blocks row := by
  by_cases h : (blocks.any fun block => Database.isPending block.start block.stop row) = true
  · have heq : decorateRow blocks row = row.decorated := if_pos h
    rw [heq, decorateRow_decorated]
  · have heq : decorateRow blocks row = row := if_neg h
    rw [heq, heq]

/-- One block after the others is all of them at once. -/
theorem decorateRow_cons (block : MemoryBlock) (blocks : List MemoryBlock) (row : SymbolRow) :
    decorateRow blocks (decorateRow [block] row) = decorateRow (block :: blocks) row := by
  by_cases h : Database.isPending block.start block.stop row = true
  · have hone : decorateRow [block] row = row.decorated := by
      unfold decorateRow
      rw [List.any_cons, h, Bool.true_or, if_pos rfl]
    have hall : decorateRow (block :: blocks) row = row.decorated := by
      unfold decorateRow
      rw [List.any_cons, h, Bool.true_or, if_pos rfl]
    rw [hone, hall, decorateRow_decorated]
  · rw [Bool.not_eq_true] at h
    have hone : decorateRow [block] row = row := by
      unfold decorateRow
      rw [List.any_cons, h, Bool.false_or, List.any_nil]
      rfl
    rw [hone]
    unfold decorateRow
    rw [List.any_cons, h, Bool.false_or]

/-! ## §2. What a stopped pass leaves behind. -/

/-- Some symbols are as the pass makes them, the others as they were. -/
def PartlyDecorated (blocks : List MemoryBlock) (rows rows' : List SymbolRow) : Prop :=
  ∀ i : Nat, rows'[i]? = rows[i]? ∨ rows'[i]? = rows[i]?.map (decorateRow blocks)

theorem partlyDecorated_refl (blocks : List MemoryBlock) (rows : List SymbolRow) :
    PartlyDecorated blocks rows rows :=
  fun _ => .inl rfl

theorem map_map_decorateRow {blocks : List MemoryBlock} (row : Option SymbolRow) :
    (row.map (decorateRow blocks)).map (decorateRow blocks) = row.map (decorateRow blocks) := by
  cases row with
  | none => rfl
  | some row => exact congrArg some (decorateRow_decorateRow blocks row)

variable {blocks : List MemoryBlock} {rows rows' rows'' : List SymbolRow}

theorem partlyDecorated_trans (h : PartlyDecorated blocks rows rows')
    (h' : PartlyDecorated blocks rows' rows'') : PartlyDecorated blocks rows rows'' := by
  intro i
  rcases h' i with hlast | hlast
  · rw [hlast]
    exact h i
  · refine .inr ?_
    rw [hlast]
    rcases h i with hfirst | hfirst
    · rw [hfirst]
    · rw [hfirst, map_map_decorateRow]

/-- A pass over what a stopped pass left behind ends where a pass from the start ends. -/
theorem map_decorateRow_of_partly (h : PartlyDecorated blocks rows rows') :
    rows'.map (decorateRow blocks) = rows.map (decorateRow blocks) := by
  refine List.ext_getElem? fun i => ?_
  rw [List.getElem?_map, List.getElem?_map]
  rcases h i with h' | h'
  · rw [h']
  · rw [h', map_map_decorateRow]

/-- The pass touches no key. -/
theorem map_key_of_partly (h : PartlyDecorated blocks rows rows') :
    rows'.map SymbolRow.key = rows.map SymbolRow.key := by
  refine List.ext_getElem? fun i => ?_
  rw [List.getElem?_map, List.getElem?_map]
  rcases h i with h' | h'
  · rw [h']
  · rw [h']
    cases rows[i]? with
    | none => rfl
    | some row => exact congrArg some (key_decorateRow blocks row)

/-! ## §3. The symbols of one block. -/

/-- The entries are those symbols of a table that lie in a range without a readable name. -/
def ArePending (skips : List Nat) (start stop : UInt64) (rows : List SymbolRow)
    (entries : List (Nat × String)) : Prop :=
  ∀ n name, (n, name) ∈ entries ↔ ∃ i row, n = numberAt 0 skips i ∧ rows[i]? = some row
    ∧ row.name = name ∧ Database.isPending start stop row = true

theorem pendingSymbols_spec {db : Database} (hrows : db.symbols = some rows) (start stop : UInt64) :
    ∃ entries, db.pendingSymbols start stop = .ok entries
      ∧ ArePending db.symbolSkips start stop rows entries := by
  unfold Database.pendingSymbols rowsOf
  rw [hrows]
  refine ⟨_, rfl, ?_⟩
  intro n name
  rw [List.mem_map]
  constructor
  · intro h
    obtain ⟨⟨n', row⟩, hmem, heq⟩ := h
    cases heq
    rw [List.mem_mergeSort, List.mem_filter, Database.mem_numbered] at hmem
    obtain ⟨⟨i, rfl, hrow⟩, hpending⟩ := hmem
    exact ⟨i, row, rfl, hrow, rfl, hpending⟩
  · intro h
    obtain ⟨i, row, rfl, hrow, rfl, hpending⟩ := h
    refine ⟨(numberAt 0 db.symbolSkips i, row), ?_, rfl⟩
    rw [List.mem_mergeSort, List.mem_filter, Database.mem_numbered]
    exact ⟨⟨i, rfl, hrow⟩, hpending⟩

variable {skips : List Nat}

theorem ArePending.row {start stop : UInt64} {entries : List (Nat × String)}
    (h : ArePending skips start stop rows entries) {i : Nat} {name : String}
    (hentry : (numberAt 0 skips i, name) ∈ entries) :
    ∃ row, rows[i]? = some row ∧ Database.isPending start stop row = true := by
  obtain ⟨j, row, hj, hrow, -, hpending⟩ := (h (numberAt 0 skips i) name).mp hentry
  cases numberAt_inj hj
  exact ⟨row, hrow, hpending⟩

theorem getElem?_modify_decorated (i j : Nat) (rows : List SymbolRow) :
    (rows.modify i SymbolRow.decorated)[j]?
      = if i = j then rows[j]?.map SymbolRow.decorated else rows[j]? := by
  rw [List.getElem?_modify]
  split
  · rfl
  · cases rows[j]? <;> rfl

/-- Naming one symbol of the table. -/
theorem name_spec {db : Database} (hrows : db.symbols = some rows) {i : Nat} {row : SymbolRow}
    (hrow : rows[i]? = some row) (summary : DemangleSummary) :
    ∃ summary', (Decoration.mk db summary).name (numberAt 0 db.symbolSkips i) row.name
        = .ok ⟨db.withSymbols (some (rows.modify i SymbolRow.decorated)), summary'⟩
      ∧ summary'.cancelled = summary.cancelled := by
  unfold Decoration.name
  cases hreadable : demangle row.name with
  | none =>
    -- there is no readable name, so the symbol is as it would be made
    have hsame : rows.modify i SymbolRow.decorated = rows := by
      refine List.ext_getElem? fun j => ?_
      rw [getElem?_modify_decorated]
      split
      · next hij =>
        rw [← hij, hrow]
        exact congrArg some (SymbolRow.decorated_of_none hreadable)
      · rfl
    rw [hsame, Database.withSymbols_of_eq hrows]
    dsimp only
    split
    · exact ⟨_, rfl, rfl⟩
    · exact ⟨_, rfl, rfl⟩
  | some readable =>
    have hmodify : (rows.modify i fun row => { row with demangled := some readable })
        = rows.modify i SymbolRow.decorated := by
      refine List.ext_getElem? fun j => ?_
      rw [getElem?_modify_decorated, List.getElem?_modify]
      split
      · next hij =>
        rw [← hij, hrow]
        exact congrArg some (SymbolRow.decorated_of_some hreadable).symm
      · cases rows[j]? <;> rfl
    rw [← hmodify]
    refine ⟨{ summary with demangled := summary.demangled + 1 }, ?_, rfl⟩
    dsimp only
    have hfound : rowsOf .symbols db.symbols = .ok rows := by
      rw [hrows]
      rfl
    unfold Database.setDemangled
    rw [hfound, ← Database.map_numbered_eq_modify 0 db.symbolSkips]
    rfl

/-- Entries that name symbols of the table by their numbers. -/
def Entries (skips : List Nat) (rows : List SymbolRow) (entries : List (Nat × String)) : Prop :=
  ∀ n name, (n, name) ∈ entries →
    ∃ i row, n = numberAt 0 skips i ∧ rows[i]? = some row ∧ row.name = name

/-- Naming a symbol leaves the names in the table alone. -/
theorem entries_modify {entries : List (Nat × String)} (h : Entries skips rows entries) (j : Nat) :
    Entries skips (rows.modify j SymbolRow.decorated) entries := by
  intro n name hmem
  obtain ⟨i, row, hn, hrow, hname⟩ := h n name hmem
  by_cases hij : j = i
  · refine ⟨i, row.decorated, hn, ?_, row.name_decorated.trans hname⟩
    rw [getElem?_modify_decorated, if_pos hij, hrow]
    rfl
  · refine ⟨i, row, hn, ?_, hname⟩
    rw [getElem?_modify_decorated, if_neg hij, hrow]

theorem map_map_decorated (row : Option SymbolRow) :
    (row.map SymbolRow.decorated).map SymbolRow.decorated = row.map SymbolRow.decorated := by
  cases row with
  | none => rfl
  | some row => exact congrArg some row.decorated_decorated

/-- What holds of a walk over some symbols: only symbols of the list change, to what the pass
makes of them, and all of them unless the walk is stopped. -/
structure IsWalk (skips : List Nat) (entries : List (Nat × String)) (rows rows' : List SymbolRow)
    (isStopped : Bool) : Prop where
  partly : ∀ i : Nat, rows'[i]? = rows[i]?
    ∨ (rows'[i]? = rows[i]?.map SymbolRow.decorated
      ∧ ∃ name, (numberAt 0 skips i, name) ∈ entries)
  whole : isStopped = false → ∀ (i : Nat) (name : String),
    (numberAt 0 skips i, name) ∈ entries → rows'[i]? = rows[i]?.map SymbolRow.decorated

theorem isWalk_nil (rows : List SymbolRow) (isStopped : Bool) :
    IsWalk skips [] rows rows isStopped := by
  refine ⟨fun _ => .inl rfl, ?_⟩
  intro _ i name hmem
  cases hmem

/-- A walk may stop before any symbol. -/
theorem isWalk_stopped (entries : List (Nat × String)) (rows : List SymbolRow) :
    IsWalk skips entries rows rows true := by
  refine ⟨fun _ => .inl rfl, ?_⟩
  intro h
  cases h

/-- A symbol is named, and the walk goes on from there. -/
theorem isWalk_cons {entries : List (Nat × String)} {isStopped : Bool} (j : Nat) (name : String)
    (h : IsWalk skips entries (rows.modify j SymbolRow.decorated) rows' isStopped) :
    IsWalk skips ((numberAt 0 skips j, name) :: entries) rows rows' isStopped := by
  constructor
  · intro i
    rcases h.partly i with hi | ⟨hi, name', hmem⟩
    · rw [getElem?_modify_decorated] at hi
      split at hi
      · next hij =>
        refine .inr ⟨hi, name, ?_⟩
        rw [← hij]
        exact List.mem_cons_self
      · exact .inl hi
    · -- naming a symbol once more does not change it
      refine .inr ⟨?_, name', List.mem_cons_of_mem _ hmem⟩
      rw [hi, getElem?_modify_decorated]
      split
      · exact map_map_decorated _
      · rfl
  · intro hdone i name' hmem
    rcases List.mem_cons.mp hmem with heq | hmem
    · injection heq with hij _
      have hij : j = i := (numberAt_inj hij).symm
      rcases h.partly i with hi | ⟨hi, -⟩
      · rw [hi, getElem?_modify_decorated, if_pos hij]
      · rw [hi, getElem?_modify_decorated, if_pos hij]
        exact map_map_decorated _
    · rw [h.whole hdone i name' hmem, getElem?_modify_decorated]
      split
      · exact map_map_decorated _
      · rfl

/-- **The walk over some symbols.** -/
theorem decorateSymbols_spec (checkpoint : Checkpoint) {entries : List (Nat × String)}
    {db : Database} (hrows : db.symbols = some rows)
    (hentries : Entries db.symbolSkips rows entries) (summary : DemangleSummary) :
    ∃ rows' summary', decorateSymbols checkpoint ⟨db, summary⟩ entries
        = .ok ⟨db.withSymbols (some rows'), summary'⟩
      ∧ IsWalk db.symbolSkips entries rows rows' summary'.cancelled
      ∧ ((∀ n, checkpoint.isSet n = false) → summary'.cancelled = summary.cancelled) := by
  induction entries generalizing db rows summary with
  | nil =>
    refine ⟨rows, summary, ?_, isWalk_nil rows _, fun _ => rfl⟩
    rw [Database.withSymbols_of_eq hrows]
    rfl
  | cons entry entries ih =>
    obtain ⟨n, name⟩ := entry
    obtain ⟨j, row, rfl, hrow, rfl⟩ := hentries n name List.mem_cons_self
    unfold decorateSymbols
    by_cases hstops : checkpoint.stops (summary.examined + 1) = true
    · refine ⟨rows, { summary with cancelled := true }, ?_, isWalk_stopped _ rows, ?_⟩
      · rw [Database.withSymbols_of_eq hrows]
        exact if_pos hstops
      · intro hnever
        rw [Checkpoint.not_stops hnever] at hstops
        cases hstops
    · obtain ⟨summary₁, hname, hcancelled⟩ :=
        name_spec hrows hrow { summary with examined := summary.examined + 1 }
      have hrest : Entries db.symbolSkips (rows.modify j SymbolRow.decorated) entries :=
        entries_modify (fun n name hmem => hentries n name (List.mem_cons_of_mem _ hmem)) j
      have hmodified : (db.withSymbols (some (rows.modify j SymbolRow.decorated))).symbols
          = some (rows.modify j SymbolRow.decorated) := rfl
      obtain ⟨rows', summary', hwalk, hiswalk, hnever⟩ := ih hmodified hrest summary₁
      refine ⟨rows', summary', ?_, isWalk_cons j row.name hiswalk, fun h =>
        (hnever h).trans hcancelled⟩
      exact (if_neg hstops).trans (bind_ok.mpr ⟨_, hname, hwalk⟩)

/-! ## §4. All blocks. -/

theorem decorateRow_of_pending {block : MemoryBlock} {row : SymbolRow}
    (h : Database.isPending block.start block.stop row = true) :
    decorateRow [block] row = row.decorated := by
  unfold decorateRow
  rw [List.any_cons, h, Bool.true_or, if_pos rfl]

theorem decorateRow_of_not_pending {block : MemoryBlock} {row : SymbolRow}
    (h : Database.isPending block.start block.stop row = false) :
    decorateRow [block] row = row := by
  unfold decorateRow
  rw [List.any_cons, h, Bool.false_or, List.any_nil]
  rfl

theorem partlyDecorated_of_isWalk {block : MemoryBlock} {entries : List (Nat × String)}
    {isStopped : Bool} (h : ArePending skips block.start block.stop rows entries)
    (hwalk : IsWalk skips entries rows rows' isStopped) : PartlyDecorated [block] rows rows' := by
  intro i
  rcases hwalk.partly i with hi | ⟨hi, name, hentry⟩
  · exact .inl hi
  · refine .inr ?_
    obtain ⟨row, hrow, hpending⟩ := h.row hentry
    rw [hi, hrow, Option.map_some, Option.map_some, decorateRow_of_pending hpending]

/-- A walk that is not stopped makes of the table what the pass makes of every symbol. -/
theorem eq_map_of_isWalk {block : MemoryBlock} {entries : List (Nat × String)}
    (h : ArePending skips block.start block.stop rows entries)
    (hwalk : IsWalk skips entries rows rows' false) : rows' = rows.map (decorateRow [block]) := by
  refine List.ext_getElem? fun i => ?_
  rw [List.getElem?_map]
  rcases hwalk.partly i with hi | ⟨hi, name, hentry⟩
  · cases hrow : rows[i]? with
    | none =>
      rw [hi, hrow]
      rfl
    | some row =>
      rw [Option.map_some]
      cases hpending : Database.isPending block.start block.stop row with
      | true =>
        have hentry : (numberAt 0 skips i, row.name) ∈ entries :=
          (h _ row.name).mpr ⟨i, row, rfl, hrow, rfl, hpending⟩
        rw [hwalk.whole rfl i row.name hentry, hrow, Option.map_some,
          decorateRow_of_pending hpending]
      | false => rw [hi, hrow, decorateRow_of_not_pending hpending]
  · obtain ⟨row, hrow, hpending⟩ := h.row hentry
    rw [hi, hrow, Option.map_some, Option.map_some, decorateRow_of_pending hpending]

/-- **The pass over one block.** -/
theorem decorateBlock_spec (checkpoint : Checkpoint) (block : MemoryBlock) {db : Database}
    (hrows : db.symbols = some rows) (summary : DemangleSummary) :
    ∃ entries rows' summary', db.pendingSymbols block.start block.stop = .ok entries
      ∧ decorateSymbols checkpoint ⟨db, summary⟩ entries
        = .ok ⟨db.withSymbols (some rows'), summary'⟩
      ∧ PartlyDecorated [block] rows rows'
      ∧ (summary'.cancelled = false → rows' = rows.map (decorateRow [block]))
      ∧ ((∀ n, checkpoint.isSet n = false) → summary'.cancelled = summary.cancelled) := by
  obtain ⟨entries, hpending, hmem⟩ := pendingSymbols_spec hrows block.start block.stop
  have hentries : Entries db.symbolSkips rows entries := by
    intro n name h
    obtain ⟨i, row, hn, hrow, hname, -⟩ := (hmem n name).mp h
    exact ⟨i, row, hn, hrow, hname⟩
  obtain ⟨rows', summary', hrun, hwalk, hnever⟩ :=
    decorateSymbols_spec checkpoint hrows hentries summary
  refine ⟨entries, rows', summary', hpending, hrun, partlyDecorated_of_isWalk hmem hwalk, ?_,
    hnever⟩
  intro hdone
  rw [hdone] at hwalk
  exact eq_map_of_isWalk hmem hwalk

/-- What a pass over the first block leaves behind, a pass over all blocks that was stopped
leaves behind too. -/
theorem partlyDecorated_cons {block : MemoryBlock} (blocks : List MemoryBlock)
    (h : PartlyDecorated [block] rows rows') : PartlyDecorated (block :: blocks) rows rows' := by
  intro i
  rcases h i with hi | hi
  · exact .inl hi
  · cases hrow : rows[i]? with
    | none =>
      rw [hi, hrow]
      exact .inl rfl
    | some row =>
      rw [hi, hrow, Option.map_some, Option.map_some]
      cases hpending : Database.isPending block.start block.stop row with
      | true =>
        refine .inr (congrArg some ?_)
        rw [← decorateRow_cons block blocks, decorateRow_of_pending hpending, decorateRow_decorated]
      | false =>
        rw [decorateRow_of_not_pending hpending]
        exact .inl rfl

/-- A pass over the other blocks goes on where the first one is done. -/
theorem partlyDecorated_of_map {block : MemoryBlock} {blocks : List MemoryBlock}
    (h : PartlyDecorated blocks (rows.map (decorateRow [block])) rows') :
    PartlyDecorated (block :: blocks) rows rows' := by
  intro i
  rcases h i with hi | hi
  · have hfirst : PartlyDecorated [block] rows (rows.map (decorateRow [block])) :=
      fun _ => .inr List.getElem?_map
    rw [hi]
    exact partlyDecorated_cons blocks hfirst i
  · refine .inr ?_
    rw [hi, List.getElem?_map]
    cases rows[i]? with
    | none => rfl
    | some row => exact congrArg some (decorateRow_cons block blocks row)

/-- **The pass over all blocks.** -/
theorem decorateBlocks_spec (checkpoint : Checkpoint) (blocks : List MemoryBlock) {db : Database}
    (hrows : db.symbols = some rows) (summary : DemangleSummary)
    (hrunning : summary.cancelled = false) :
    ∃ rows' summary', decorateBlocks checkpoint ⟨db, summary⟩ blocks
        = .ok ⟨db.withSymbols (some rows'), summary'⟩
      ∧ PartlyDecorated blocks rows rows'
      ∧ (summary'.cancelled = false → rows' = rows.map (decorateRow blocks))
      ∧ ((∀ n, checkpoint.isSet n = false) → summary'.cancelled = false) := by
  induction blocks generalizing db rows summary with
  | nil =>
    refine ⟨rows, summary, ?_, partlyDecorated_refl [] rows, fun _ => ?_, fun _ => hrunning⟩
    · rw [Database.withSymbols_of_eq hrows]
      rfl
    · exact (List.map_id rows).symm
  | cons block blocks ih =>
    obtain ⟨entries, rows₁, summary₁, hpending, hwalk, hpart, hfull, hnever⟩ :=
      decorateBlock_spec checkpoint block hrows summary
    unfold decorateBlocks
    cases hstopped : summary₁.cancelled with
    | true =>
      -- stopped in this block: the blocks behind it are not examined
      refine ⟨rows₁, summary₁, ?_, partlyDecorated_cons blocks hpart, ?_, ?_⟩
      · refine bind_ok.mpr ⟨entries, hpending, bind_ok.mpr ⟨_, hwalk, ?_⟩⟩
        dsimp only
        rw [hstopped]
        rfl
      · intro h
        rw [hstopped] at h
        cases h
      · intro h
        rw [hnever h, hrunning] at hstopped
        cases hstopped
    | false =>
      -- this block is done, and the next one starts from what it left
      have hrows₁ := hfull hstopped
      subst hrows₁
      have hnext : (db.withSymbols (some (rows.map (decorateRow [block])))).symbols
          = some (rows.map (decorateRow [block])) := rfl
      obtain ⟨rows', summary', hrest, hpart', hfull', hnever'⟩ := ih hnext summary₁ hstopped
      refine ⟨rows', summary', ?_, ?_, ?_, hnever'⟩
      · refine bind_ok.mpr ⟨entries, hpending, bind_ok.mpr ⟨_, hwalk, ?_⟩⟩
        dsimp only
        rw [hstopped]
        exact hrest
      · exact partlyDecorated_of_map hpart'
      · intro hdone
        rw [hfull' hdone, List.map_map]
        exact List.map_congr_left fun row _ => decorateRow_cons block blocks row

/-! ## §5. The whole pass. -/

namespace Database

/-- The blocks whose symbols are examined: none if the pass is switched off or cannot say. -/
def decoratedBlocks (db : Database) : List MemoryBlock :=
  match isDecorating db, db.blocks with
  | .ok true, .ok blocks => blocks
  | _, _ => []

/-- The database behind a pass that is not stopped. -/
def decorated (db : Database) : Database :=
  db.withSymbols (db.symbols.map fun rows => rows.map (decorateRow db.decoratedBlocks))

/-- `db'` is what a pass over `db` leaves behind, stopped or not. -/
def IsPartlyDecorated (db db' : Database) : Prop :=
  ∃ rows', db' = db.withSymbols rows'
    ∧ Option.Rel (PartlyDecorated db.decoratedBlocks) db.symbols rows'

theorem isPartlyDecorated_refl (db : Database) : IsPartlyDecorated db db :=
  ⟨db.symbols, rfl, optionRel_refl (partlyDecorated_refl _) _⟩

/-- A pass to the end is one that was not stopped. -/
theorem isPartlyDecorated_decorated (db : Database) : IsPartlyDecorated db db.decorated := by
  refine ⟨db.symbols.map fun rows => rows.map (decorateRow db.decoratedBlocks), rfl, ?_⟩
  cases db.symbols with
  | none => exact .none
  | some rows => exact .some fun _ => .inr List.getElem?_map

/-- Without blocks to examine the pass changes nothing. -/
theorem decorated_of_no_blocks {db : Database} (h : db.decoratedBlocks = []) :
    db.decorated = db := by
  have hmap : (db.symbols.map fun rows => rows.map (decorateRow [])) = db.symbols := by
    cases db.symbols with
    | none => rfl
    | some rows => exact congrArg some (List.map_id rows)
  unfold decorated
  rw [h, hmap]
  rfl

/-- Without symbols the pass changes nothing. -/
theorem decorated_of_no_symbols {db : Database} (h : db.symbols = none) : db.decorated = db := by
  unfold decorated
  rw [h]
  exact withSymbols_of_eq h

end Database

/-- What holds of a pass: one that fails would not have changed anything, one that ends leaves
symbols as they were or as it makes them, and it makes all of them so unless it is stopped. -/
def IsPass (isSet : Nat → Bool) (db : Database) :
    Except StoreError (Database × Option DemangleSummary) → Prop
  | .error _ => db.decorated = db
  | .ok (db', summary) => db.IsPartlyDecorated db'
      ∧ (summary.any (·.cancelled) = false → db' = db.decorated)
      ∧ ((∀ n, isSet n = false) → summary.any (·.cancelled) = false)

/-- **The whole pass.** -/
theorem decorate_spec (isSet : Nat → Bool) (db : Database) :
    IsPass isSet db (decorate isSet db) := by
  unfold decorate
  cases hswitch : isDecorating db with
  | error e =>
    refine Database.decorated_of_no_blocks ?_
    unfold Database.decoratedBlocks
    rw [hswitch]
  | ok isOn =>
    cases isOn with
    | false =>
      have hnothing : db.decorated = db := by
        refine Database.decorated_of_no_blocks ?_
        unfold Database.decoratedBlocks
        rw [hswitch]
      exact ⟨Database.isPartlyDecorated_refl db, fun _ => hnothing.symm, fun _ => rfl⟩
    | true =>
      cases hblocks : db.blocks with
      | error e =>
        refine Database.decorated_of_no_blocks ?_
        unfold Database.decoratedBlocks
        rw [hswitch, hblocks]
      | ok blocks =>
        have hexamined : db.decoratedBlocks = blocks := by
          unfold Database.decoratedBlocks
          rw [hswitch, hblocks]
        show IsPass isSet db ((decorateBlocks ⟨decorateInterval, isSet⟩ ⟨db, .zero⟩ blocks).bind _)
        -- without symbols the first block fails the pass, and there is nothing to name
        cases hsymbols : db.symbols with
        | none =>
          have hnothing := Database.decorated_of_no_symbols hsymbols
          cases blocks with
          | nil => exact ⟨Database.isPartlyDecorated_refl db, fun _ => hnothing.symm, fun _ => rfl⟩
          | cons block blocks =>
            unfold decorateBlocks Database.pendingSymbols rowsOf
            rw [hsymbols]
            exact hnothing
        | some rows =>
          obtain ⟨rows', summary', hwalk, hpart, hfull, hnever⟩ :=
            decorateBlocks_spec ⟨decorateInterval, isSet⟩ blocks hsymbols .zero rfl
          rw [hwalk]
          refine ⟨⟨some rows', rfl, ?_⟩, ?_, hnever⟩
          · rw [hsymbols, hexamined]
            exact .some hpart
          · intro hdone
            unfold Database.decorated
            rw [hsymbols, hexamined, Option.map_some, ← hfull hdone]

end DebugMerge
