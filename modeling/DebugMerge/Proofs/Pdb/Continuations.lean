/-
  DebugMerge.Proofs.Pdb.Continuations
  ───────────────────────────────────
  **Field lists that are split over several records read like whole ones.**

  A field list may go on in another record, and that one in a third.  The members
  behind the first are those of all lists on the way, one list after the other,
  up to a record that cannot be found or is no field list.  Where every list goes
  on in one with a smaller number the way ends.  Cutting a list between two
  entries, and storing the pieces as records that go on in each other, changes
  nothing: the entries of a piece do not depend on what stands behind them.

  Main statements
    • `find?_eq_fieldList_iff`                          — looking up a list
    • `TypeTable.Chain`, `collectMembers?_eq_some_iff`  — the lists on the way
    • `TypeTable.StoredAs`, `StoredAs.collectAfter?_eq` — lists stored in pieces
    • `split_lists_read_like_whole_ones`                — both together
-/
import DebugMerge.Proofs.Pdb.Entries

namespace DebugMerge.Pdb

/-! ## §1. Looking up a list. -/

/-- A field list is looked up exactly if a record is found that is one. -/
theorem find?_eq_fieldList_iff {table : TypeTable} {k index : Nat} {fields : List Field}
    {next : Option Nat} :
    table.find? k index = some (.record (.fieldList fields next))
      ↔ ∃ record entries, table.Finds k index record ∧ IsFieldList record entries
        ∧ fields = fieldsAmong entries ∧ next = nextAmong entries := by
  rw [find?_eq_record_iff]
  constructor
  · rintro ⟨record, hfinds, hdata⟩
    obtain ⟨entries, hlist⟩ := typeData?_eq_fieldList_iff.mp hdata
    exact ⟨record, entries, hfinds, hlist⟩
  · rintro ⟨record, entries, hfinds, hlist⟩
    exact ⟨record, hfinds, typeData?_eq_fieldList_iff.mpr ⟨entries, hlist⟩⟩

/-! ## §2. The lists on the way. -/

section Loop

variable {find : Lookup}

/-- Members that were read before stay in front. -/
theorem collectAfter?_eq_map (before : List Member) (index : Nat) :
    find.collectAfter? before index
      = (collectMembers? find index).map fun members => before ++ members := by
  unfold collectMembers?
  by_cases hends : Acc (fun b a => GoesOn find a b) index
  · refine induction_of_acc (P := fun index => ∀ before, find.collectAfter? before index
      = (find.collectAfter? [] index).map fun members => before ++ members)
      hends (fun index hnone before => ?_) (fun index fields next hfind ih before => ?_) before
    · rw [collectAfter?_of_no_fieldList hnone, collectAfter?_of_no_fieldList hnone,
        Option.map_some, List.append_nil]
    · rw [collectAfter?_of_fieldList hfind, collectAfter?_of_fieldList hfind, List.nil_append]
      cases next with
      | none => rfl
      | some next =>
        show find.collectAfter? _ next = (find.collectAfter? _ next).map _
        rw [ih next rfl, ih next rfl (fields.map _), Option.map_map]
        simp only [Function.comp_def, List.append_assoc]
  · have hnone : ∀ members, find.collectAfter? members index = none := fun members =>
      Option.not_isSome_iff_eq_none.mp fun hsome =>
        hends ((collectAfter?_isSome_iff_acc members index).mp hsome)
    rw [hnone, hnone]
    rfl

end Loop

/-- The lists on the way from `index`, up to the first record that cannot be found or is no field
list. -/
inductive TypeTable.Chain (table : TypeTable) (k : Nat) : Nat → List (List Entry) → Prop
  | broken {index : Nat}
      (noList : ∀ record entries, table.Finds k index record → ¬ IsFieldList record entries) :
      Chain table k index []
  | last {index : Nat} {record : List UInt8} {entries : List Entry}
      (found : table.Finds k index record) (isList : IsFieldList record entries)
      (ends : nextAmong entries = none) : Chain table k index [entries]
  | more {index next : Nat} {record : List UInt8} {entries : List Entry}
      {lists : List (List Entry)} (found : table.Finds k index record)
      (isList : IsFieldList record entries) (goesOn : nextAmong entries = some next)
      (rest : Chain table k next lists) : Chain table k index (entries :: lists)

/-- Every list on the way from `index` goes on in one with a smaller number. -/
def Descends (find : Lookup) (index : Nat) : Prop :=
  ∀ a b, Relation.ReflTransGen (GoesOn find) index a → GoesOn find a b → b < a

section Chains

variable {table : TypeTable} {k index : Nat} {lists : List (List Entry)}

/-- **The members behind a list** are those of the lists on the way, one after the other. -/
theorem TypeTable.Chain.collectAfter?_eq (h : table.Chain k index lists) (before : List Member) :
    Lookup.collectAfter? (table.find? k) before index
      = some (before ++ (lists.flatMap fieldsAmong).map (Field.toMember (table.find? k))) := by
  induction h generalizing before with
  | broken noList =>
    rw [List.flatMap_nil, List.map_nil, List.append_nil]
    refine collectAfter?_of_no_fieldList (fun fields next hfind => ?_) before
    obtain ⟨record, entries, hfinds, hlist, -⟩ := find?_eq_fieldList_iff.mp hfind
    exact noList record entries hfinds hlist
  | last found isList ends =>
    have hfind := find?_eq_fieldList_iff.mpr ⟨_, _, found, isList, rfl, rfl⟩
    rw [collectAfter?_of_fieldList hfind, ends, List.flatMap_singleton]
    rfl
  | more found isList goesOn rest ih =>
    have hfind := find?_eq_fieldList_iff.mpr ⟨_, _, found, isList, rfl, rfl⟩
    rw [collectAfter?_of_fieldList hfind, goesOn, List.flatMap_cons, List.map_append,
      ← List.append_assoc]
    exact ih _

/-- Where the way from a list ends, there are lists on it. -/
theorem exists_chain (h : Acc (fun b a => GoesOn (table.find? k) a b) index) :
    ∃ lists, table.Chain k index lists := by
  refine induction_of_acc (P := fun index => ∃ lists, table.Chain k index lists) h
    (fun index hnone => ?_) fun index fields next hfind ih => ?_
  · refine ⟨[], .broken fun record entries hfinds hlist => ?_⟩
    exact hnone _ _ (find?_eq_fieldList_iff.mpr ⟨record, entries, hfinds, hlist, rfl, rfl⟩)
  · obtain ⟨record, entries, hfinds, hlist, -, rfl⟩ := find?_eq_fieldList_iff.mp hfind
    cases hnext : nextAmong entries with
    | none => exact ⟨_, .last hfinds hlist hnext⟩
    | some next =>
      obtain ⟨lists, hlists⟩ := ih next hnext
      exact ⟨_, .more hfinds hlist hnext hlists⟩

/-- **What the loop answers**, for every stream of types. -/
theorem collectMembers?_eq_some_iff {members : List Member} :
    collectMembers? (table.find? k) index = some members ↔ ∃ lists, table.Chain k index lists
      ∧ members = (lists.flatMap fieldsAmong).map (Field.toMember (table.find? k)) := by
  constructor
  · intro h
    obtain ⟨lists, hlists⟩ := exists_chain (acc_of_collectAfter? h)
    refine ⟨lists, hlists, ?_⟩
    have heq := hlists.collectAfter?_eq []
    rw [List.nil_append] at heq
    exact Option.some_inj.mp (h.symm.trans heq)
  · rintro ⟨lists, hlists, rfl⟩
    exact hlists.collectAfter?_eq []

/-- Numbers that get smaller and smaller come to an end. -/
theorem acc_of_descends {find : Lookup} {index : Nat} (h : Descends find index) :
    Acc (fun b a => GoesOn find a b) index := by
  induction index using Nat.strongRecOn with
  | ind index ih =>
    refine Acc.intro index fun b hb => ih b (h index b .refl hb) fun c d hc hd => ?_
    exact h c d (hc.head hb) hd

/-- The lists on the way have fields of interest exactly where their kinds say so. -/
theorem TypeTable.Chain.field?_isSome_iff (h : table.Chain k index lists) {entries : List Entry}
    (hentries : entries ∈ lists) {e : Entry} (he : e ∈ entries) :
    e.item.field?.isSome ↔ e.leaf ∈ dataMemberKinds ++ enumeratorKinds := by
  induction h with
  | broken => cases hentries
  | last _ isList =>
    obtain rfl := List.mem_singleton.mp hentries
    obtain ⟨body, -, hreads⟩ := isList
    exact hreads.field?_isSome_iff he
  | more _ isList _ _ ih =>
    rcases List.mem_cons.mp hentries with rfl | hentries
    · obtain ⟨body, -, hreads⟩ := isList
      exact hreads.field?_isSome_iff he
    · exact ih hentries

end Chains

/-! ## §3. Lists in pieces. -/

/-- **The entries in these bytes are stored** under the number `index`: as one field list, or cut
behind some of its fields, with a first record that goes on in the number of the others. -/
inductive TypeTable.StoredAs (table : TypeTable) (k : Nat) : Nat → List UInt8 → Prop
  | whole {index : Nat} {body : List UInt8} {entries : List Entry}
      (found : table.Finds k index (listHeader ++ body)) (reads : ReadsAs body entries) :
      StoredAs table k index body
  | split {index next leaf : Nat} {part link rest : List UInt8} {entries : List Entry}
      (found : table.Finds k index (listHeader ++ (part ++ link)))
      (reads : ReadsAs part entries) (fields : ∀ e ∈ entries, e.IsField)
      (goesOn : ReadsAs link [⟨leaf, .next next⟩]) (more : StoredAs table k next rest) :
      StoredAs table k index (part ++ rest)

theorem fieldsAmong_append (entries entries' : List Entry) :
    fieldsAmong (entries ++ entries') = fieldsAmong entries ++ fieldsAmong entries' := by
  unfold fieldsAmong
  rw [List.map_append, List.filterMap_append]

/-- Fields in front do not say where a list goes on. -/
theorem nextAmong_append {entries : List Entry} (hfields : ∀ e ∈ entries, e.IsField)
    (entries' : List Entry) : nextAmong (entries ++ entries') = nextAmong entries' := by
  induction entries with
  | nil => rfl
  | cons e entries ih =>
    obtain ⟨he, hfields⟩ := List.forall_mem_cons.mp hfields
    rw [List.cons_append, nextAmong_cons, ih hfields, he.2]
    cases nextAmong entries' <;> rfl

section Pieces

variable {table : TypeTable} {k index : Nat} {body : List UInt8}

/-- **Entries that are stored in pieces** are read as if they were stored as one list. -/
theorem TypeTable.StoredAs.collectAfter?_eq (h : table.StoredAs k index body) :
    ∃ entries, ReadsAs body entries ∧ ∀ before,
      Lookup.collectAfter? (table.find? k) before index
        = Lookup.goOn (table.find? k)
          (before ++ (fieldsAmong entries).map (Field.toMember (table.find? k)))
          (nextAmong entries) := by
  induction h with
  | whole found reads =>
    refine ⟨_, reads, fun before => collectAfter?_of_fieldList ?_ before⟩
    exact find?_eq_fieldList_iff.mpr ⟨_, _, found, ⟨_, rfl, reads⟩, rfl, rfl⟩
  | @split index next leaf part link rest entries found reads fields goesOn _ ih =>
    obtain ⟨entries', hrest, hcollect⟩ := ih
    refine ⟨_, reads.append fields hrest, fun before => ?_⟩
    -- the first record has the fields of its piece, and goes on in the others
    have hlist := reads.append fields goesOn
    have hown : fieldsAmong (entries ++ [⟨leaf, .next next⟩]) = fieldsAmong entries :=
      (fieldsAmong_append _ _).trans (List.append_nil _)
    have hfind := find?_eq_fieldList_iff.mpr
      ⟨_, _, found, ⟨_, rfl, hlist⟩, hown.symm, (nextAmong_append fields _).symm⟩
    calc Lookup.collectAfter? (table.find? k) before index
        = Lookup.collectAfter? (table.find? k)
            (before ++ (fieldsAmong entries).map (Field.toMember (table.find? k))) next :=
          collectAfter?_of_fieldList hfind before
      _ = Lookup.goOn (table.find? k)
            (before ++ (fieldsAmong (entries ++ entries')).map (Field.toMember (table.find? k)))
            (nextAmong (entries ++ entries')) := by
          rw [hcollect, fieldsAmong_append, nextAmong_append fields, List.map_append,
            List.append_assoc]

/-- The members behind entries that are stored in pieces, told from the list in one record. -/
theorem TypeTable.StoredAs.collectMembers?_eq (h : table.StoredAs k index body)
    {fields : List Field} {next : Option Nat}
    (hwhole : typeData? (listHeader ++ body) = some (.fieldList fields next)) :
    collectMembers? (table.find? k) index
      = Lookup.goOn (table.find? k) (fields.map (Field.toMember (table.find? k))) next := by
  obtain ⟨entries, hreads, hcollect⟩ := h.collectAfter?_eq
  have hlist := typeData?_eq_fieldList_iff.mpr
    ⟨entries, ⟨body, rfl, hreads⟩, rfl, rfl⟩
  rw [hwhole] at hlist
  cases hlist
  exact hcollect []

end Pieces

/-- **Split field lists read like whole ones.**  In every stream of types, where every list on the
way from a number goes on in one with a smaller number, the members behind that number are the data
members and enumerators of the lists on the way, one list after the other, up to the first record
that cannot be found or is no field list; fields of other kinds are skipped.  And entries that can
be read as one list have the same members behind them however they are cut into records, in this
stream or in another one where their types have the same names and the list itself goes on alike. -/
theorem split_lists_read_like_whole_ones (table : TypeTable) (k index : Nat) :
    (Descends (table.find? k) index → ∃ lists, table.Chain k index lists
      ∧ collectMembers? (table.find? k) index
        = some ((lists.flatMap fieldsAmong).map (Field.toMember (table.find? k)))
      ∧ ∀ entries ∈ lists, ∀ e ∈ entries,
        (e.item.field?.isSome ↔ e.leaf ∈ dataMemberKinds ++ enumeratorKinds))
    ∧ ∀ (body : List UInt8) (fields : List Field) (next : Option Nat),
      typeData? (listHeader ++ body) = some (.fieldList fields next) →
      table.StoredAs k index body →
      ∀ (table' : TypeTable) (k' index' : Nat), table'.StoredAs k' index' body →
        (∀ f ∈ fields, f.toMember (table.find? k) = f.toMember (table'.find? k')) →
        (∀ list ∈ next,
          collectMembers? (table.find? k) list = collectMembers? (table'.find? k') list) →
        collectMembers? (table.find? k) index = collectMembers? (table'.find? k') index' := by
  constructor
  · intro hdescends
    obtain ⟨lists, hlists⟩ := exists_chain (acc_of_descends hdescends)
    exact ⟨lists, hlists, collectMembers?_eq_some_iff.mpr ⟨lists, hlists, rfl⟩,
      fun entries hentries e he => hlists.field?_isSome_iff hentries he⟩
  · intro body fields next hwhole hstored table' k' index' hstored' hnames hbehind
    rw [hstored.collectMembers?_eq hwhole, hstored'.collectMembers?_eq hwhole,
      List.map_congr_left hnames]
    cases next with
    | none => rfl
    | some list =>
      show Lookup.collectAfter? _ _ list = Lookup.collectAfter? _ _ list
      rw [collectAfter?_eq_map, hbehind list rfl, ← collectAfter?_eq_map]

/-! ## §4. A list that is cut in two. -/

deriving instance DecidableEq for Item

/-- The data member `x` with padding behind it. -/
def memberX : List UInt8 :=
  shorts [0x150D, 3] ++ words [0x74] ++ shorts [8] ++ zeroEnded "x" ++ [0xF2, 0xF1]

/-- A nested type, which is no member. -/
def nestedT : List UInt8 :=
  shorts [0x1510, 0] ++ words [0x75] ++ zeroEnded "T"

/-- The enumerator `B` with the value -2. -/
def enumeratorB : List UInt8 :=
  shorts [0x1502, 3, 0x8001, 0xFFFE] ++ zeroEnded "B"

/-- The number of the list that goes on. -/
def linkTo (list : Nat) : List UInt8 :=
  shorts [0x1404] ++ words [list]

/-- The piece up to the cut. -/
def firstPiece : List UInt8 := memberX ++ nestedT

/-- The piece behind the cut.  It goes on in a record that cannot be read. -/
def secondPiece : List UInt8 := enumeratorB ++ linkTo 0x1000

/-- A stream with a record that cannot be read, both pieces, and the whole list. -/
def cutLists : TypeTable :=
  ⟨0x1000, 0x1004, #[listHeader ++ [0xFF, 0xFF], listHeader ++ secondPiece,
    listHeader ++ (firstPiece ++ linkTo 0x1001), listHeader ++ (firstPiece ++ secondPiece)], none⟩

/-- An entry on its own. -/
theorem ReadsAs.single {bs pads : List UInt8} {leaf : Nat} {item : Item} (after : List UInt8)
    (kind : Take.u16 bs = some (leaf, after)) (isItem : leaf ≠ fieldListLeaf)
    (takes : takeItem leaf after = some (item, pads)) (padding : IsPadding pads) :
    ReadsAs bs [⟨leaf, item⟩] := by
  rw [← List.append_nil pads] at takes
  exact .item kind isItem takes padding .nil

theorem readsAs_firstPiece : ReadsAs firstPiece
    [⟨0x150D, .field (some (.dataMember "x" 8 0x74))⟩, ⟨0x1510, .field none⟩] := by
  have hpadding : IsPadding [0xF2, 0xF1] := @IsPadding.pad 0xF2 [0xF1] [] (by decide) rfl .nil
  have hmember : ReadsAs memberX [⟨0x150D, .field (some (.dataMember "x" 8 0x74))⟩] :=
    .single (memberX.drop 2) (by decide +kernel) (by decide) (by decide +kernel) hpadding
  have hnested : ReadsAs nestedT [⟨0x1510, .field none⟩] :=
    .single (nestedT.drop 2) (by decide +kernel) (by decide) (by decide +kernel) .nil
  exact hmember.append (List.forall_mem_singleton.mpr ⟨by decide, rfl⟩) hnested

theorem readsAs_secondPiece : ReadsAs secondPiece
    [⟨0x1502, .field (some (.enumerator "B" 0xFFFFFFFFFFFFFFFE))⟩, ⟨0x1404, .next 0x1000⟩] := by
  have henumerator : ReadsAs enumeratorB
      [⟨0x1502, .field (some (.enumerator "B" 0xFFFFFFFFFFFFFFFE))⟩] :=
    .single (enumeratorB.drop 2) (by decide +kernel) (by decide) (by decide +kernel) .nil
  have hlink : ReadsAs (linkTo 0x1000) [⟨0x1404, .next 0x1000⟩] :=
    .single ((linkTo 0x1000).drop 2) (by decide +kernel) (by decide) (by decide +kernel) .nil
  exact henumerator.append (List.forall_mem_singleton.mpr ⟨by decide, rfl⟩) hlink

/-- The list is stored as a whole, and in its pieces. -/
theorem storedAs_cutLists : cutLists.StoredAs 3 0x1003 (firstPiece ++ secondPiece)
    ∧ cutLists.StoredAs 3 0x1002 (firstPiece ++ secondPiece) := by
  have hfields : ∀ e ∈ [Entry.mk 0x150D (.field (some (.dataMember "x" 8 0x74))),
      Entry.mk 0x1510 (.field none)], e.IsField := by
    intro e he
    rcases List.mem_pair.mp he with rfl | rfl
    · exact ⟨by decide, rfl⟩
    · exact ⟨by decide, rfl⟩
  have hlink : ReadsAs (linkTo 0x1001) [⟨0x1404, .next 0x1001⟩] :=
    .single ((linkTo 0x1001).drop 2) (by decide +kernel) (by decide) (by decide +kernel) .nil
  constructor
  · exact .whole ⟨by decide, by decide, by decide, by decide, by decide, rfl⟩
      (readsAs_firstPiece.append hfields readsAs_secondPiece)
  · refine .split ⟨by decide, by decide, by decide, by decide, by decide, rfl⟩
      readsAs_firstPiece hfields hlink ?_
    exact .whole ⟨by decide, by decide, by decide, by decide, by decide, rfl⟩ readsAs_secondPiece

/-- What is found in the stream. -/
theorem find?_cutLists : cutLists.find? 3 0x1000 = none
    ∧ cutLists.find? 3 0x1001
      = some (.record (.fieldList [.enumerator "B" 0xFFFFFFFFFFFFFFFE] (some 0x1000)))
    ∧ cutLists.find? 3 0x1002
      = some (.record (.fieldList [.dataMember "x" 8 0x74] (some 0x1001)))
    ∧ cutLists.find? 3 0x1003
      = some (.record (.fieldList
          [.dataMember "x" 8 0x74, .enumerator "B" 0xFFFFFFFFFFFFFFFE] (some 0x1000))) := by
  decide +kernel

/-- Every list of the stream goes on in one with a smaller number. -/
theorem descends_cutLists (index : Nat) : Descends (cutLists.find? 3) index := by
  rintro a b - ⟨fields, hfind⟩
  obtain ⟨record, hfinds, -⟩ := find?_eq_record_iff.mp hfind
  obtain ⟨i, rfl⟩ := Nat.exists_eq_add_of_le hfinds.first_le
  have hi : cutLists.first + i ≤ 0x1003 := by
    have hstored := (Array.getElem?_eq_some_iff.mp hfinds.stored).1
    change 0x1000 + i - 0x1000 < 4 at hstored
    change 0x1000 + i ≤ 0x1003
    omega
  obtain ⟨hnone, hsecond, hfirst, hwhole⟩ := find?_cutLists
  match i with
  | 0 => cases hnone.symm.trans hfind
  | 1 =>
    cases hsecond.symm.trans hfind
    decide
  | 2 =>
    cases hfirst.symm.trans hfind
    decide
  | 3 =>
    cases hwhole.symm.trans hfind
    decide
  | i + 4 =>
    change 0x1000 + (i + 4) ≤ 0x1003 at hi
    omega

/-- The pieces have the members of the whole list. -/
theorem split_lists_read_like_whole_ones_when_cut :
    cutLists.StoredAs 3 0x1003 (firstPiece ++ secondPiece)
      ∧ cutLists.StoredAs 3 0x1002 (firstPiece ++ secondPiece)
      ∧ Descends (cutLists.find? 3) 0x1002
      ∧ (∃ lists, cutLists.Chain 3 0x1002 lists ∧ collectMembers? (cutLists.find? 3) 0x1002
        = some ((lists.flatMap fieldsAmong).map (Field.toMember (cutLists.find? 3))))
      ∧ collectMembers? (cutLists.find? 3) 0x1003 = collectMembers? (cutLists.find? 3) 0x1002
      ∧ collectMembers? (cutLists.find? 3) 0x1002
        = some [⟨"x", 8, "i32"⟩, ⟨"B", 0xFFFFFFFFFFFFFFFE, ""⟩] := by
  obtain ⟨hstored, hcut⟩ := storedAs_cutLists
  have hdescends := descends_cutLists 0x1002
  obtain ⟨lists, hlists, hmembers, -⟩ :=
    (split_lists_read_like_whole_ones cutLists 3 0x1002).1 hdescends
  have hwhole : typeData? (listHeader ++ (firstPiece ++ secondPiece)) = some (.fieldList
      [.dataMember "x" 8 0x74, .enumerator "B" 0xFFFFFFFFFFFFFFFE] (some 0x1000)) := by
    decide +kernel
  have hsame := (split_lists_read_like_whole_ones cutLists 3 0x1003).2 _ _ _ hwhole hstored
    cutLists 3 0x1002 hcut (fun _ _ => rfl) fun _ _ => rfl
  refine ⟨hstored, hcut, hdescends, ⟨lists, hlists, hmembers⟩, hsame, ?_⟩
  -- the list goes on in a record that cannot be read, so its own members are all
  rw [hcut.collectMembers?_eq hwhole]
  refine (collectAfter?_of_no_fieldList (fun fields next hfind => ?_) _).trans ?_
  · cases find?_cutLists.1.symm.trans hfind
  · decide +kernel

end DebugMerge.Pdb
