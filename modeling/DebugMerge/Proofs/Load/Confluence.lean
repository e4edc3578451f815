/-
  DebugMerge.Proofs.Load.Confluence
  ─────────────────────────────────
  **The order of documents and of their records does not matter.**

  Documents that are merged one after the other are one long list of records,
  so another order of the documents, and of the records in each of them, is
  another order of that list.  Each table forgets the order up to the order of
  its rows.  Of two symbols that claim one name at one address the first one
  is kept, so the rows of symbols agree in their keys only.

  A single document that conflicts with the store conflicts in every order of
  its records, as long as the stored types can be read.  A row that cannot be
  read fails the merge for another reason, and which of the two failures comes
  first is a matter of order.

  Main statements
    • `Database.SameContent`, `merges_perm` — a list of records in any order
    • `applyAll_iff`                        — documents are one list of records
    • `apply_conflict_iff`                  — where conflicts come from
    • `applyAll_confluent`                  — documents in any order
-/
import DebugMerge.Proofs.Load.Merging
import Mathlib.Data.List.Forall2

namespace DebugMerge

/-! ## §1. Lists of records in any order. -/

namespace Database

/-- Two databases with the same data types, comments and source lines, and with symbols of
the same names at the same addresses. -/
structure SameContent (db db' : Database) : Prop where
  types : Option.Rel List.Perm db.dataTypes db'.dataTypes
  comments : Option.Rel List.Perm db.comments db'.comments
  lines : Option.Rel List.Perm db.lineNumbers db'.lineNumbers
  symbols : Option.Rel (fun rows rows' => (rows.map SymbolRow.key).Perm (rows'.map SymbolRow.key))
    db.symbols db'.symbols

theorem rel_mono {α : Type} {R S : α → α → Prop} (h : ∀ a b, R a b → S a b) {x y : Option α}
    (hxy : Option.Rel R x y) : Option.Rel S x y := by
  cases hxy with
  | none => exact .none
  | some hab => exact .some (h _ _ hab)

theorem sameContent_refl (db : Database) : SameContent db db :=
  ⟨optionRel_refl .refl _, optionRel_refl .refl _, optionRel_refl .refl _,
    optionRel_refl (fun _ => .refl _) _⟩

/-- Records can be merged in any order. -/
theorem merges_perm {site : Site} {db db' : Database} {records records' : List Record}
    (hperm : records.Perm records') (h : Merges site records db db') :
    ∃ db'', Merges site records' db db'' ∧ SameContent db' db'' := by
  obtain ⟨types, htypes, hsameTypes⟩ :=
    mergeType_swappable.onTable.foldlM_perm (hperm.filterMap _) h.types
  obtain ⟨symbols, hsymbols, hsameSymbols⟩ :=
    mergeRow_swappable.onTable.foldlM_perm (hperm.filterMap _) h.symbols
  obtain ⟨lines, hlines, hsameLines⟩ :=
    mergeRow_swappable.onTable.foldlM_perm (hperm.filterMap _) h.lines
  obtain ⟨comments, hcomments, hsameComments⟩ :=
    mergeRow_swappable.onTable.foldlM_perm (hperm.filterMap _) h.comments
  -- lines and comments are their own keys
  have hrows : ∀ {α : Type} (rows rows' : List α), (rows.map id).Perm (rows'.map id) →
      rows.Perm rows' := by
    intro α rows rows' hmap
    rw [List.map_id, List.map_id] at hmap
    exact hmap
  -- another order may pass other numbers over
  obtain ⟨skips, hmerges⟩ := exists_merges htypes hsymbols hlines hcomments
  exact ⟨_, hmerges,
    ⟨rel_mono (fun _ _ hsame => hsame.1) hsameTypes, rel_mono hrows hsameComments,
      rel_mono hrows hsameLines, hsameSymbols⟩⟩

end Database

/-! ## §2. Documents in any order. -/

/-- The same records, each list in some order. -/
structure DebugInfo.Shuffle (info info' : DebugInfo) : Prop where
  types : info.types.Perm info'.types
  symbols : info.symbols.Perm info'.symbols
  lines : info.lines.Perm info'.lines
  comments : info.comments.Perm info'.comments

/-- The same documents in some order, each with its records in some order. -/
def Reordered (infos infos' : List DebugInfo) : Prop :=
  ∃ middle, infos.Perm middle ∧ List.Forall₂ DebugInfo.Shuffle middle infos'

/-- Merge documents one after the other without being stopped. -/
def applyAll (options : ApplyOptions) (imageBase : UInt64) (db : Database)
    (infos : List DebugInfo) : Except LoadError Database :=
  infos.foldlM (fun db info => (apply options info imageBase (fun _ => false) db).result.map (·.1))
    db

theorem allowed_perm (restrictions : Restrictions) {info info' : DebugInfo}
    (h : info.Shuffle info') : (info.allowed restrictions).Perm (info'.allowed restrictions) := by
  refine List.Perm.filter _ ?_
  unfold DebugInfo.records
  exact (((h.types.map _).append (h.symbols.map _)).append (h.lines.map _)).append
    (h.comments.map _)

theorem flatMap_perm_of_shuffle (restrictions : Restrictions) {infos infos' : List DebugInfo}
    (h : List.Forall₂ DebugInfo.Shuffle infos infos') :
    (infos.flatMap (·.allowed restrictions)).Perm (infos'.flatMap (·.allowed restrictions)) := by
  induction h with
  | nil => exact .refl _
  | cons hinfo _ ih =>
    rw [List.flatMap_cons, List.flatMap_cons]
    exact (allowed_perm restrictions hinfo).append ih

theorem flatMap_perm (restrictions : Restrictions) {infos infos' : List DebugInfo}
    (h : Reordered infos infos') :
    (infos.flatMap (·.allowed restrictions)).Perm (infos'.flatMap (·.allowed restrictions)) := by
  obtain ⟨middle, hperm, hshuffle⟩ := h
  exact (hperm.flatMap_right _).trans (flatMap_perm_of_shuffle restrictions hshuffle)

section Documents

variable {options : ApplyOptions} {imageBase : UInt64} {db db' : Database}
  {blocks : List MemoryBlock}

/-- A merge does not move the memory. -/
theorem blocks_of_merges {site : Site} {records : List Record}
    (h : Database.Merges site records db db') : db'.blocks = db.blocks := by
  rw [h.others]
  rfl

/-- **Documents merged one after the other are one list of records.** -/
theorem applyAll_iff (hblocks : db.blocks = .ok blocks) {infos : List DebugInfo} :
    applyAll options imageBase db infos = .ok db'
      ↔ Database.Merges ⟨imageBase, blocks⟩ (infos.flatMap (·.allowed options.restrictions))
          db db' := by
  induction infos generalizing db with
  | nil =>
    rw [List.flatMap_nil, Database.merges_nil]
    constructor
    · intro h
      cases h
      rfl
    · intro heq
      subst heq
      rfl
  | cons info infos ih =>
    rw [List.flatMap_cons, Database.merges_append]
    unfold applyAll at ih ⊢
    rw [foldlM_cons_ok]
    constructor
    · intro h
      -- the memory stays where it is, so the rest is merged at the same site
      obtain ⟨m, hm, hrest⟩ := h
      rw [apply_never hblocks (fun _ => rfl), Database.mergeAll_iff] at hm
      exact ⟨m, hm, (ih ((blocks_of_merges hm).trans hblocks)).mp hrest⟩
    · intro h
      obtain ⟨m, hm, hrest⟩ := h
      refine ⟨m, ?_, (ih ((blocks_of_merges hm).trans hblocks)).mpr hrest⟩
      rw [apply_never hblocks (fun _ => rfl), Database.mergeAll_iff]
      exact hm

/-- Without memory only no documents can be merged. -/
theorem applyAll_no_blocks {e : StoreError} (hblocks : db.blocks = .error e)
    {infos : List DebugInfo} (h : applyAll options imageBase db infos = .ok db') : infos = [] := by
  cases infos with
  | nil => rfl
  | cons info infos =>
    obtain ⟨m, hm, -⟩ := foldlM_cons_ok.mp h
    rw [apply_no_blocks hblocks] at hm
    cases hm

/-- Documents that are merged in one order are merged in every order, with the same
content. -/
theorem applyAll_reordered {infos infos' : List DebugInfo} (hreordered : Reordered infos infos')
    (h : applyAll options imageBase db infos = .ok db') :
    ∃ db'', applyAll options imageBase db infos' = .ok db'' ∧ Database.SameContent db' db'' := by
  cases hblocks : db.blocks with
  | error e =>
    -- a store without memory takes no document at all
    have hnil := applyAll_no_blocks hblocks h
    subst hnil
    obtain ⟨middle, hperm, hshuffle⟩ := hreordered
    rw [← hperm.nil_eq] at hshuffle
    cases hshuffle
    exact ⟨db', h, Database.sameContent_refl db'⟩
  | ok blocks =>
    have hmerges := (applyAll_iff hblocks).mp h
    obtain ⟨db'', hmerges', hsame⟩ :=
      Database.merges_perm (flatMap_perm options.restrictions hreordered) hmerges
    exact ⟨db'', (applyAll_iff hblocks).mpr hmerges', hsame⟩

end Documents

/-! ## §3. Where conflicts come from. -/

/-- Merging rows with keys fails only where there is no table. -/
theorem mergeRows_error {α κ : Type} [BEq κ] {key : α → κ} {table : Table} {rows : List α}
    {db : Option (List α)} {e : LoadError}
    (h : rows.foldlM (onTable table (mergeRow key)) db = .error e) :
    e = .store (.missingTable table) := by
  induction rows generalizing db with
  | nil => cases h
  | cons row rows ih =>
    rcases foldlM_cons_error.mp h with hrow | ⟨m, -, hrest⟩
    · cases db with
      | none =>
        cases hrow
        rfl
      | some stored =>
        rw [onTable_some, map_error] at hrow
        cases hrow
    · exact ih hrest

namespace Database

/-- Only a data type conflicts. -/
theorem mergeRecord_conflict {site : Site} {db : Database} {record : Record} {name : String}
    (h : db.mergeRecord site record = .error (.typeConflict name)) :
    record.type?.toList.foldlM mergeTypes db.dataTypes = .error (.typeConflict name) := by
  unfold mergeRecord at h
  rcases bind_error.mp h with htypes | ⟨types, -, h⟩
  · exact htypes
  rcases bind_error.mp h with hsymbols | ⟨symbols, -, h⟩
  · have hrows := map_fst_foldlM_mergeNumbered (db.symbols, db.symbolSkips)
      (record.symbolRow? site).toList
    rw [hsymbols] at hrows
    cases mergeRows_error hrows.symm
  rcases bind_error.mp h with hlines | ⟨lines, -, h⟩
  · cases mergeRows_error hlines
  rcases bind_error.mp h with hcomments | ⟨comments, -, h⟩
  · cases mergeRows_error hcomments
  cases h

/-- A conflict comes from merging the data types alone. -/
theorem mergeAll_conflict {site : Site} {db : Database} {records : List Record} {name : String}
    (h : db.mergeAll site records = .error (.typeConflict name)) :
    (records.filterMap Record.type?).foldlM mergeTypes db.dataTypes
      = .error (.typeConflict name) := by
  induction records generalizing db with
  | nil => cases h
  | cons record records ih =>
    show (([record] ++ records).filterMap Record.type?).foldlM mergeTypes db.dataTypes = _
    rw [List.filterMap_append]
    rcases foldlM_cons_error.mp h with hrecord | ⟨m, hrecord, hrest⟩
    · refine foldlM_append_error.mpr (.inl ?_)
      rw [filterMap_singleton]
      exact mergeRecord_conflict hrecord
    · exact foldlM_append_error.mpr (.inr ⟨_, (mergeRecord_iff.mp hrecord).types, ih hrest⟩)

/-- Data types are merged first, so their failure is the failure of the merge. -/
theorem mergeAll_types_error {site : Site} {db : Database} {types : List TypeRecord}
    {rest : List Record} {e : LoadError} (h : types.foldlM mergeTypes db.dataTypes = .error e) :
    db.mergeAll site (types.map .dataType ++ rest) = .error e := by
  induction types generalizing db with
  | nil => cases h
  | cons record types ih =>
    show (Record.dataType record :: (types.map .dataType ++ rest)).foldlM (mergeRecord site) db = _
    rw [foldlM_cons_error, mergeRecord_dataType]
    rcases foldlM_cons_error.mp h with hrecord | ⟨rows, hrecord, hrest⟩
    · exact .inl (map_error.mpr hrecord)
    · exact .inr ⟨db.withTypes rows, map_ok.mpr ⟨rows, hrecord, rfl⟩, ih hrest⟩

end Database

namespace DebugInfo

/-- The data types of a file that may be merged. -/
def allowedTypes (restrictions : Restrictions) (info : DebugInfo) : List TypeRecord :=
  if restrictions.dataTypes then info.types else []

/-- The allowed records begin with the allowed data types, and no others follow. -/
theorem allowed_eq (restrictions : Restrictions) (info : DebugInfo) :
    ∃ rest, info.allowed restrictions = (info.allowedTypes restrictions).map .dataType ++ rest
      ∧ (info.allowed restrictions).filterMap Record.type? = info.allowedTypes restrictions := by
  have htypes : (info.types.map Record.dataType).filter
      (fun record => restrictions.allows record.kind)
        = (info.allowedTypes restrictions).map .dataType := by
    unfold allowedTypes
    rw [List.filter_map]
    show (info.types.filter fun _ => restrictions.dataTypes).map Record.dataType = _
    cases restrictions.dataTypes <;> simp
  unfold allowed records
  rw [List.append_assoc, List.append_assoc, List.filter_append, htypes]
  refine ⟨_, rfl, ?_⟩
  -- no record behind the data types is one
  have hothers : ((info.symbols.map Record.symbol ++ (info.lines.map Record.line
      ++ info.comments.map Record.comment)).filter
        fun record => restrictions.allows (Record.kind record)).filterMap Record.type? = [] := by
    rw [List.filterMap_eq_nil_iff]
    intro record hrecord
    have hmem := List.mem_of_mem_filter hrecord
    simp only [List.mem_append, List.mem_map] at hmem
    rcases hmem with ⟨_, _, rfl⟩ | ⟨_, _, rfl⟩ | ⟨_, _, rfl⟩ <;> rfl
  rw [List.filterMap_append, hothers, List.append_nil, List.filterMap_map]
  exact List.filterMap_some

end DebugInfo

/-- Merging data types into rows that can be read fails by a conflict only. -/
theorem mergeTypes_error {types : List TypeRecord} {rows : List TypeRow} {e : LoadError}
    (hreadable : TypeRow.Readable rows) (h : types.foldlM mergeTypes (some rows) = .error e) :
    ∃ name, e = .typeConflict name := by
  induction types generalizing rows with
  | nil => cases h
  | cons record types ih =>
    rcases foldlM_cons_error.mp h with hrecord | ⟨m, hrecord, hrest⟩
    · unfold mergeTypes at hrecord
      rw [onTable_some, map_error] at hrecord
      exact ⟨record.name, mergeType_error hreadable hrecord⟩
    · unfold mergeTypes at hrecord
      rw [onTable_some] at hrecord
      obtain ⟨rows', hrows', rfl⟩ := map_ok.mp hrecord
      exact ih (readable_of_mergeType hreadable hrows') hrest

section Conflicts

variable {options : ApplyOptions} {imageBase : UInt64} {db : Database} {info info' : DebugInfo}

/-- **Where conflicts come from**: if the stored types can be read, a document conflicts
exactly if its data types cannot be merged. -/
theorem apply_conflict_iff {blocks : List MemoryBlock} {rows : List TypeRow}
    (hblocks : db.blocks = .ok blocks) (hrows : db.dataTypes = some rows)
    (hreadable : TypeRow.Readable rows) :
    (∃ name, (apply options info imageBase (fun _ => false) db).result
        = .error (.typeConflict name))
      ↔ ∃ e, (info.allowedTypes options.restrictions).foldlM mergeTypes db.dataTypes
          = .error e := by
  obtain ⟨rest, hallowed, htypes⟩ := info.allowed_eq options.restrictions
  -- nobody asks the merge to stop, so it fails as merging all records fails
  have happly : ∀ e, (apply options info imageBase (fun _ => false) db).result = .error e
      ↔ db.mergeAll ⟨imageBase, blocks⟩ (info.allowed options.restrictions) = .error e := by
    intro e
    rw [← apply_never hblocks (fun _ => rfl), map_error]
  constructor
  · intro h
    obtain ⟨name, h⟩ := h
    have hconflict := Database.mergeAll_conflict ((happly _).mp h)
    rw [htypes] at hconflict
    exact ⟨_, hconflict⟩
  · intro h
    obtain ⟨e, h⟩ := h
    obtain ⟨name, rfl⟩ := mergeTypes_error hreadable (hrows ▸ h)
    refine ⟨name, (happly _).mpr ?_⟩
    rw [hallowed]
    exact Database.mergeAll_types_error h

theorem DebugInfo.Shuffle.symm (h : info.Shuffle info') : info'.Shuffle info :=
  ⟨h.types.symm, h.symbols.symm, h.lines.symm, h.comments.symm⟩

/-- A fold that fails in one order fails in every order. -/
theorem Swappable.foldlM_perm_error {σ α ε : Type} {f : σ → α → Except ε σ} {R : σ → σ → Prop}
    (hf : Swappable f R) {xs ys : List α} (hperm : xs.Perm ys) {s : σ}
    (h : ∃ e, xs.foldlM f s = .error e) : ∃ e, ys.foldlM f s = .error e := by
  obtain ⟨e, he⟩ := h
  cases hys : ys.foldlM f s with
  | error e' => exact ⟨e', rfl⟩
  | ok t =>
    obtain ⟨t', ht', -⟩ := hf.foldlM_perm hperm.symm hys
    rw [he] at ht'
    cases ht'

/-- A document that fails fails in every order of its records. -/
theorem apply_error_of_shuffle (hshuffle : info.Shuffle info')
    (h : ∃ e, (apply options info imageBase (fun _ => false) db).result = .error e) :
    ∃ e, (apply options info' imageBase (fun _ => false) db).result = .error e := by
  obtain ⟨e, he⟩ := h
  cases hresult : (apply options info' imageBase (fun _ => false) db).result with
  | error e' => exact ⟨e', rfl⟩
  | ok r =>
    -- a success in one order would carry over to the other
    have hone : applyAll options imageBase db [info'] = .ok r.1 :=
      (foldlM_singleton _ db info').trans (map_ok.mpr ⟨r, hresult, rfl⟩)
    have hreordered : Reordered [info'] [info] :=
      ⟨[info'], .refl _, .cons hshuffle.symm .nil⟩
    obtain ⟨db'', hback, -⟩ := applyAll_reordered hreordered hone
    obtain ⟨r', hr', -⟩ := map_ok.mp ((foldlM_singleton _ db info).symm.trans hback)
    rw [he] at hr'
    cases hr'

/-- A document that conflicts conflicts in every order of its records, if the stored types
can be read. -/
theorem apply_conflict_of_shuffle (hshuffle : info.Shuffle info')
    (hlist : ∃ types, db.listTypes = .ok types)
    (h : ∃ name, (apply options info imageBase (fun _ => false) db).result
      = .error (.typeConflict name)) :
    ∃ name, (apply options info' imageBase (fun _ => false) db).result
      = .error (.typeConflict name) := by
  obtain ⟨rows, hrows, hreadable⟩ := listTypes_ok_iff.mp hlist
  cases hblocks : db.blocks with
  | error e =>
    obtain ⟨name, h⟩ := h
    rw [apply_no_blocks hblocks] at h
    cases h
  | ok blocks =>
    rw [apply_conflict_iff hblocks hrows hreadable] at h ⊢
    refine mergeType_swappable.onTable.foldlM_perm_error ?_ h
    unfold DebugInfo.allowedTypes
    split
    · exact hshuffle.types
    · exact .refl _

/-- **Documents can be merged in any order.**  If they are merged in one order, they are merged
in every order of the documents and of the records in each of them, with the same content.
Whether a single document fails does not depend on the order of its records, and if the
stored types can be read, neither does whether it conflicts. -/
theorem applyAll_confluent (options : ApplyOptions) (imageBase : UInt64) (db : Database) :
    (∀ infos infos' db', Reordered infos infos' → applyAll options imageBase db infos = .ok db' →
        ∃ db'', applyAll options imageBase db infos' = .ok db'' ∧ Database.SameContent db' db'')
      ∧ (∀ info info', DebugInfo.Shuffle info info' →
        ((∃ e, (apply options info imageBase (fun _ => false) db).result = .error e)
          ↔ ∃ e, (apply options info' imageBase (fun _ => false) db).result = .error e))
      ∧ ((∃ types, db.listTypes = .ok types) → ∀ info info', DebugInfo.Shuffle info info' →
        ((∃ name, (apply options info imageBase (fun _ => false) db).result
            = .error (.typeConflict name))
          ↔ ∃ name, (apply options info' imageBase (fun _ => false) db).result
            = .error (.typeConflict name))) := by
  refine ⟨?_, ?_, ?_⟩
  · intro infos infos' db' hreordered h
    exact applyAll_reordered hreordered h
  · intro info info' hshuffle
    exact ⟨apply_error_of_shuffle hshuffle, apply_error_of_shuffle hshuffle.symm⟩
  · intro hlist info info' hshuffle
    exact ⟨apply_conflict_of_shuffle hshuffle hlist, apply_conflict_of_shuffle hshuffle.symm hlist⟩

/-- A forward declaration and a symbol. -/
def forward : DebugInfo :=
  ⟨[⟨"Node", .struct, 0, []⟩, ⟨"Leaf", .enum, 4, []⟩],
    [⟨"main", 16, none, .function, .publicTable⟩], [], []⟩

/-- The definition that was declared, and a source line. -/
def definition : DebugInfo :=
  ⟨[⟨"Node", .struct, 8, [⟨"next", 0, "Node"⟩]⟩], [], [⟨16, "main.c", 1⟩], []⟩

/-- A new store with one memory block. -/
def withText : Database :=
  { Database.fresh with memoryBlocks := some [⟨".text", 0, 4096⟩] }

/-- The declaration before the definition, and behind it with its types exchanged. -/
theorem applyAll_confluent_on_forward :
    ∃ db' db'', applyAll .standard 0 withText [forward, definition] = .ok db'
      ∧ applyAll .standard 0 withText
          [definition, { forward with types := forward.types.reverse }] = .ok db''
      ∧ Database.SameContent db' db'' := by
  have hreordered : Reordered [forward, definition]
      [definition, { forward with types := forward.types.reverse }] :=
    ⟨[definition, forward], .swap _ _ _,
      .cons ⟨.refl _, .refl _, .refl _, .refl _⟩
        (.cons ⟨(List.reverse_perm _).symm, .refl _, .refl _, .refl _⟩ .nil)⟩
  have hsome : (applyAll .standard 0 withText [forward, definition]).toOption.isSome = true := by
    decide +kernel
  cases h : applyAll .standard 0 withText [forward, definition] with
  | error e =>
    rw [h] at hsome
    cases hsome
  | ok db' =>
    obtain ⟨db'', h', hsame⟩ := (applyAll_confluent .standard 0 withText).1 _ _ db' hreordered h
    exact ⟨db', db'', rfl, h', hsame⟩

/-- A store with a member list that cannot be read. -/
def halfReadable : Database :=
  { Database.fresh with
    dataTypes := some [⟨"Leaf", "struct", 4, "?"⟩, ⟨"Node", "struct", 4, "[]"⟩] }

/-- A definition that disagrees with the store, and one that meets the row that cannot be
read. -/
def nodeThenLeaf : DebugInfo :=
  ⟨[⟨"Node", .struct, 8, []⟩, ⟨"Leaf", .struct, 4, []⟩], [], [], []⟩

/-- Which of two failures comes first is a matter of order: the document conflicts in one
order of its types and not in the other. -/
theorem conflict_depends_on_order :
    DebugInfo.Shuffle nodeThenLeaf { nodeThenLeaf with types := nodeThenLeaf.types.reverse }
      ∧ (apply .standard nodeThenLeaf 0 (fun _ => false) halfReadable).result
        = .error (.typeConflict "Node")
      ∧ (apply .standard { nodeThenLeaf with types := nodeThenLeaf.types.reverse } 0
          (fun _ => false) halfReadable).result = .error (.store (.memberLayout "Leaf")) :=
  ⟨⟨(List.reverse_perm _).symm, .refl _, .refl _, .refl _⟩, rfl, rfl⟩

end Conflicts

end DebugMerge
