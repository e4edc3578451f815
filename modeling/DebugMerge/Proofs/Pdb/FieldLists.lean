/-
  DebugMerge.Proofs.Pdb.FieldLists
  ────────────────────────────────
  **When following field lists ends.**

  A field list may name a list in which it goes on, and nothing keeps that list
  from being one that was passed before.  The numbers of the lists come from the
  file, so the only measure of the loop is how the lists hang together: it ends
  exactly if no list on the way leads back to itself.  A stream has finitely
  many records, so there is no third case, and the whole reading goes on forever
  exactly if it meets a definition whose fields lead back.

  Main statements
    • `GoesOn`, `LeadsBack`             — lists that go on, lists that lead back
    • `collectAfter?_isSome_iff_acc`    — the loop is a descent along the lists
    • `acc_iff_not_leadsBack`           — in a stream every descent ends or leads back
    • `TypeTable.Finds`, `find?_eq_record_iff` — looking up a record
    • `collectMembers?_eq_none_iff`     — the loop
    • `readTypes_endless_iff`           — the walk over the records of a stream
    • `reading_endless_iff_leadsBack`   — the whole reading
-/
import DebugMerge.Pdb.Reader
import DebugMerge.Proofs.Folds
import Mathlib.Data.Fintype.Pigeonhole
import Mathlib.Order.Monotone.Basic
import Mathlib.Order.WellFounded

namespace DebugMerge.Pdb

/-! ## §1. Lists that go on. -/

section Chains

variable {find : Lookup}

/-- List `a` goes on in list `b`. -/
def GoesOn (find : Lookup) (a b : Nat) : Prop :=
  ∃ fields, find a = some (.record (.fieldList fields (some b)))

/-- On the way from list `index` there is a list that leads back to itself. -/
def LeadsBack (find : Lookup) (index : Nat) : Prop :=
  ∃ list, Relation.ReflTransGen (GoesOn find) index list
    ∧ Relation.TransGen (GoesOn find) list list

/-! ## §2. The loop. -/

/-- What the loop has for an answer once it has these members, given where the list goes on. -/
def Lookup.goOn (find : Lookup) (members : List Member) : Option Nat → Option (List Member)
  | none => some members
  | some next => find.collectAfter? members next

/-- The loop adds the fields of a list to the members. -/
theorem collectAfter?_of_fieldList {index : Nat} {fields : List Field} {next : Option Nat}
    (h : find index = some (.record (.fieldList fields next))) (before : List Member) :
    find.collectAfter? before index
      = find.goOn (before ++ fields.map (Field.toMember find)) next := by
  rw [Lookup.collectAfter?.eq_def, h]
  cases next <;> rfl

/-- The loop ends where there is no list. -/
theorem collectAfter?_of_no_fieldList {index : Nat}
    (h : ∀ fields next, find index ≠ some (.record (.fieldList fields next)))
    (before : List Member) : find.collectAfter? before index = some before := by
  rw [Lookup.collectAfter?.eq_def]
  split
  · next hfind => exact absurd hfind (h _ _)
  · rfl

/-- Where the loop has an answer, the way from there ends. -/
theorem acc_of_collectAfter? {before members : List Member} {index : Nat}
    (h : find.collectAfter? before index = some members) :
    Acc (fun b a => GoesOn find a b) index := by
  -- induction on the steps of the loop that has an answer
  refine Lookup.collectAfter?.partial_correctness find
    (fun _ index _ => Acc (fun b a => GoesOn find a b) index) ?_ before index members h
  intro loop ih before index members h
  refine Acc.intro index fun b hb => ?_
  obtain ⟨fields, hfind⟩ := hb
  rw [hfind] at h
  exact ih _ b members h

/-- **Induction on a way that ends**: a property that holds where there is no list, and of a list if
it holds of the one in which it goes on. -/
theorem induction_of_acc {P : Nat → Prop} {index : Nat}
    (h : Acc (fun b a => GoesOn find a b) index)
    (noList : ∀ index, (∀ fields next, find index ≠ some (.record (.fieldList fields next))) →
      P index)
    (list : ∀ index fields next, find index = some (.record (.fieldList fields next)) →
      (∀ b ∈ next, P b) → P index) : P index := by
  induction h with
  | intro index _ ih =>
    by_cases hlist : ∃ fields next, find index = some (.record (.fieldList fields next))
    · obtain ⟨fields, next, hfind⟩ := hlist
      refine list index fields next hfind fun b hb => ih b ⟨fields, ?_⟩
      rw [hfind, Option.mem_def.mp hb]
    · exact noList index fun fields next hfind => hlist ⟨fields, next, hfind⟩

/-- **The loop is a descent along the lists**: it ends exactly if the descent does. -/
theorem collectAfter?_isSome_iff_acc (before : List Member) (index : Nat) :
    (find.collectAfter? before index).isSome ↔ Acc (fun b a => GoesOn find a b) index := by
  constructor
  · intro h
    obtain ⟨members, h⟩ := Option.isSome_iff_exists.mp h
    exact acc_of_collectAfter? h
  · intro h
    refine induction_of_acc (P := fun index => ∀ before, (find.collectAfter? before index).isSome)
      h (fun index hnone before => ?_) (fun index fields next hfind ih before => ?_) before
    · rw [collectAfter?_of_no_fieldList hnone]
      rfl
    · rw [collectAfter?_of_fieldList hfind]
      cases next with
      | none => rfl
      | some b => exact ih b rfl _

/-! ## §3. Descents in a finite stream. -/

/-- A list that leads back to itself does so from every list behind it. -/
theorem not_leadsBack_of_acc {index : Nat} (h : Acc (fun b a => GoesOn find a b) index) :
    ¬ LeadsBack find index := by
  induction h with
  | intro index _ ih =>
    intro hback
    obtain ⟨list, hreach, hcycle⟩ := hback
    rcases Relation.ReflTransGen.cases_head hreach with rfl | ⟨b, hb, hrest⟩
    · -- the list itself is on the cycle, so its successor is too
      obtain ⟨b, hb, hrest⟩ := Relation.TransGen.head'_iff.mp hcycle
      exact ih b hb ⟨b, .refl, .tail' hrest hb⟩
    · exact ih b hb ⟨list, hrest, hcycle⟩

/-- A descent that never ends passes some list twice, if the lists are finitely many. -/
theorem leadsBack_of_not_acc {bound index : Nat} (hbound : ∀ a b, GoesOn find a b → a < bound)
    (h : ¬ Acc (fun b a => GoesOn find a b) index) : LeadsBack find index := by
  obtain ⟨way, hstart, hstep⟩ := not_acc_iff_exists_descending_chain.mp h
  have hway : ∀ {i j : Nat}, i < j → Relation.TransGen (GoesOn find) (way i) (way j) :=
    fun hij => Nat.rel_of_forall_rel_succ_of_lt _ (fun n => .single (hstep n)) hij
  -- two of the infinitely many stations are the same list
  obtain ⟨i, j, hne, heq⟩ := Finite.exists_ne_map_eq_of_infinite
    fun n => (⟨way n, hbound _ _ (hstep n)⟩ : Fin bound)
  have heq : way i = way j := congrArg Fin.val heq
  have hreach : ∀ n, Relation.ReflTransGen (GoesOn find) index (way n) := by
    intro n
    rw [← hstart]
    cases n with
    | zero => exact .refl
    | succ n => exact (hway n.succ_pos).to_reflTransGen
  rcases Nat.lt_or_gt_of_ne hne with hij | hji
  · have hcycle := hway hij
    rw [← heq] at hcycle
    exact ⟨way i, hreach i, hcycle⟩
  · have hcycle := hway hji
    rw [heq] at hcycle
    exact ⟨way j, hreach j, hcycle⟩

/-- **In a stream every descent ends or leads back.** -/
theorem acc_iff_not_leadsBack {bound : Nat} (hbound : ∀ a b, GoesOn find a b → a < bound)
    (index : Nat) : Acc (fun b a => GoesOn find a b) index ↔ ¬ LeadsBack find index :=
  ⟨not_leadsBack_of_acc, fun h => Classical.byContradiction fun hacc =>
    h (leadsBack_of_not_acc hbound hacc)⟩

end Chains

/-! ## §4. Streams of types. -/

/-- Looking up a number, while the reading has just passed record number `k`, finds this record. -/
structure TypeTable.Finds (table : TypeTable) (k index : Nat) (record : List UInt8) : Prop where
  notBuiltin : 0x1000 ≤ index
  nonempty : table.last ≠ table.first
  first_le : table.first ≤ index
  le_last : index ≤ table.last
  noted : isNoted k (index - table.first) = true
  stored : table.records[index - table.first]? = some record

/-- A record is looked up exactly if it is found and can be read. -/
theorem find?_eq_record_iff {table : TypeTable} {k index : Nat} {data : TypeData} :
    table.find? k index = some (.record data)
      ↔ ∃ record, table.Finds k index record ∧ typeData? record = some data := by
  unfold TypeTable.find?
  constructor
  · intro h
    split at h
    · obtain ⟨builtin, -, hfound⟩ := Option.map_eq_some_iff.mp h
      cases hfound
    · next hbuiltin =>
      split at h
      · cases h
      · next hrange =>
        dsimp only at h
        split at h
        · next hnoted =>
          obtain ⟨record, hrecord, h⟩ := Option.bind_eq_some_iff.mp h
          obtain ⟨data', hdata, hfound⟩ := Option.bind_eq_some_iff.mp h
          cases hfound
          rw [not_or, not_or, Nat.not_lt, Nat.not_lt] at hrange
          exact ⟨record, ⟨Nat.not_lt.mp hbuiltin, hrange.1, hrange.2.1, hrange.2.2, hnoted,
            hrecord⟩, hdata⟩
        · cases h
  · rintro ⟨record, hfinds, hdata⟩
    have hrange : ¬ (table.last = table.first ∨ index < table.first ∨ table.last < index) := by
      rw [not_or, not_or, Nat.not_lt, Nat.not_lt]
      exact ⟨hfinds.nonempty, hfinds.first_le, hfinds.le_last⟩
    rw [if_neg (Nat.not_lt.mpr hfinds.notBuiltin), if_neg hrange]
    dsimp only
    rw [if_pos hfinds.noted, hfinds.stored]
    show (typeData? record).bind (fun data => some (Found.record data)) = _
    rw [hdata]
    rfl

/-- What is looked up as a record has a number of the stream. -/
theorem TypeTable.lt_of_goesOn (table : TypeTable) (k : Nat) {a b : Nat}
    (h : GoesOn (table.find? k) a b) : a < table.first + table.records.size := by
  obtain ⟨fields, hfind⟩ := h
  obtain ⟨record, hfinds, -⟩ := find?_eq_record_iff.mp hfind
  have hle := hfinds.first_le
  have hsize := (Array.getElem?_eq_some_iff.mp hfinds.stored).1
  omega

/-- **Following field lists** in a stream never ends exactly if a list on the way leads back to
itself. -/
theorem collectMembers?_eq_none_iff (table : TypeTable) (k index : Nat) :
    collectMembers? (table.find? k) index = none ↔ LeadsBack (table.find? k) index := by
  unfold collectMembers?
  rw [← Option.not_isSome_iff_eq_none, collectAfter?_isSome_iff_acc,
    acc_iff_not_leadsBack fun a b => table.lt_of_goesOn k, not_not]

/-! ## §5. The walk over the records. -/

/-- The record defines a data type whose members are listed in `fields`. -/
def ListsMembers (record : List UInt8) (fields : Nat) : Prop :=
  ∃ d, typeData? record = some (.definition d) ∧ isUnnamed d.name = false
    ∧ d.isForward = false ∧ d.fields = some fields

/-- A record is read forever exactly if its members are wanted and lead back. -/
theorem readDefinition_endless_iff (table : TypeTable) (wantsMembers : Bool) (k : Nat)
    (record : List UInt8) :
    readDefinition table wantsMembers k record = .endless
      ↔ wantsMembers = true
        ∧ ∃ fields, ListsMembers record fields ∧ LeadsBack (table.find? k) fields := by
  constructor
  · intro h
    unfold readDefinition at h
    split at h
    · next d hdata =>
      split at h
      · cases h
      · next hnamed =>
        dsimp only at h
        split at h
        · next fields hfields =>
          split at h
          · next hwanted =>
            rw [Bool.and_eq_true, Bool.not_eq_true'] at hwanted
            split at h
            · cases h
            · next hnone =>
              refine ⟨hwanted.1, fields, ⟨d, hdata, ?_, hwanted.2, hfields⟩, ?_⟩
              · exact Bool.eq_false_iff.mpr hnamed
              · exact (collectMembers?_eq_none_iff table k fields).mp hnone
          · cases h
        · cases h
    · cases h
  · intro h
    obtain ⟨hwanted, fields, ⟨d, hdata, hnamed, hforward, hfields⟩, hback⟩ := h
    have hnone := (collectMembers?_eq_none_iff table k fields).mpr hback
    unfold readDefinition
    rw [hdata]
    dsimp only
    rw [hnamed, hfields, hwanted, hforward]
    dsimp only
    rw [hnone]
    rfl

/-- One record of the walk: it stops the walk, it is read forever, or the walk goes on. -/
theorem readTypes_cons_endless_iff (table : TypeTable) (wantsMembers : Bool)
    (checkpoint : Checkpoint) (seen k : Nat) (record : List UInt8) (rest : List (List UInt8)) :
    readTypes table wantsMembers checkpoint seen k (record :: rest) = .error .endless
      ↔ checkpoint.stops (seen + 1) = false
        ∧ (readDefinition table wantsMembers k record = .endless
          ∨ readTypes table wantsMembers checkpoint (seen + 1) (k + 1) rest
            = .error .endless) := by
  rw [readTypes]
  cases hstops : checkpoint.stops (seen + 1) with
  | true => simp
  | false =>
    cases hread : readDefinition table wantsMembers k record with
    | endless => simp
    | nothing => simp
    | type definition =>
      simp only [Bool.false_eq_true, if_false, true_and, reduceCtorEq, false_or]
      rw [bind_error]
      constructor
      · rintro (h | ⟨more, -, h⟩)
        · exact h
        · cases h
      · exact .inl

/-- **The walk over the records** goes on forever exactly if it comes to a record that is read
forever. -/
theorem readTypes_endless_iff (table : TypeTable) (wantsMembers : Bool) (checkpoint : Checkpoint)
    (seen k : Nat) (records : List (List UInt8)) :
    readTypes table wantsMembers checkpoint seen k records = .error .endless
      ↔ ∃ i record, records[i]? = some record
        ∧ readDefinition table wantsMembers (k + i) record = .endless
        ∧ ∀ j ≤ i, checkpoint.stops (seen + j + 1) = false := by
  induction records generalizing seen k with
  | nil =>
    rw [readTypes]
    constructor
    · intro h
      split at h <;> cases h
    · rintro ⟨i, record, hrecord, -⟩
      cases hrecord
  | cons record rest ih =>
    rw [readTypes_cons_endless_iff, ih]
    constructor
    · rintro ⟨hstops, hread | ⟨i, later, hlater, hread, hrun⟩⟩
      · refine ⟨0, record, rfl, hread, fun j hj => ?_⟩
        rw [Nat.le_zero.mp hj]
        exact hstops
      · refine ⟨i + 1, later, hlater, ?_, fun j hj => ?_⟩
        · rw [← hread]
          congr 1
          omega
        · cases j with
          | zero => exact hstops
          | succ j =>
            rw [← hrun j (by omega)]
            congr 1
            omega
    · rintro ⟨i, found, hfound, hread, hrun⟩
      refine ⟨hrun 0 i.zero_le, ?_⟩
      cases i with
      | zero =>
        cases hfound
        exact .inl hread
      | succ i =>
        refine .inr ⟨i, found, hfound, ?_, fun j hj => ?_⟩
        · rw [← hread]
          congr 1
          omega
        · rw [← hrun (j + 1) (by omega)]
          congr 1
          omega

/-! ## §6. The whole reading. -/

/-- Symbols are never read forever. -/
theorem readSymbols_ne_endless (map : AddressMap) (checkpoint : Checkpoint)
    (failure : Option PdbError) (seen : Nat) (records : List (List UInt8)) :
    readSymbols map checkpoint failure seen records ≠ .error .endless := by
  induction records generalizing seen with
  | nil =>
    unfold readSymbols
    split <;> exact nofun
  | cons record rest ih =>
    unfold readSymbols
    dsimp only
    split
    · exact nofun
    · intro h
      rcases bind_error.mp h with h | ⟨_, -, h⟩
      · exact ih (seen + 1) h
      · cases h

theorem orMalformed_ne_endless {α : Type} (r : Except PdbError α) :
    orMalformed r ≠ .error .endless := by
  cases r <;> exact nofun

/-- What is read in front of the data types: how many records were counted by then, and the
stream of types. -/
def readUpToTypes (bytes : List UInt8) (checkpoint : Checkpoint) :
    Except ReadFailure (Nat × TypeTable) := do
  let c ← orMalformed (Container.open? bytes)
  let map ← orMalformed (addressMap c)
  let records ← orMalformed (symbolStreams c)
  let (_, seen) ← readSymbols map checkpoint records.failure 0 records.records
  let table ← orMalformed (typeTable c)
  return (seen, table)

/-- The whole reading goes on forever exactly if it reaches the types and the walk over them
does. -/
theorem readInfo_endless_iff (bytes : List UInt8) (wantsMembers : Bool)
    (checkpoint : Checkpoint) :
    readInfo bytes wantsMembers checkpoint = .error .endless
      ↔ ∃ seen table, readUpToTypes bytes checkpoint = .ok (seen, table)
        ∧ readTypes table wantsMembers checkpoint seen 0 table.records.toList
          = .error .endless := by
  unfold readInfo readUpToTypes
  constructor
  · intro h
    -- no step in front of the types is the endless one
    rcases bind_error.mp h with h | ⟨c, hc, h⟩
    · exact absurd h (orMalformed_ne_endless _)
    rcases bind_error.mp h with h | ⟨map, hmap, h⟩
    · exact absurd h (orMalformed_ne_endless _)
    rcases bind_error.mp h with h | ⟨records, hrecords, h⟩
    · exact absurd h (orMalformed_ne_endless _)
    rcases bind_error.mp h with h | ⟨⟨symbols, seen⟩, hsymbols, h⟩
    · exact absurd h (readSymbols_ne_endless _ _ _ _ _)
    rcases bind_error.mp h with h | ⟨table, htable, h⟩
    · exact absurd h (orMalformed_ne_endless _)
    rcases bind_error.mp h with h | ⟨types, -, h⟩
    · refine ⟨seen, table, ?_, h⟩
      exact bind_ok.mpr ⟨c, hc, bind_ok.mpr ⟨map, hmap, bind_ok.mpr ⟨records, hrecords,
        bind_ok.mpr ⟨(symbols, seen), hsymbols, bind_ok.mpr ⟨table, htable, rfl⟩⟩⟩⟩⟩
    · cases h
  · rintro ⟨seen, table, hread, h⟩
    obtain ⟨c, hc, hread⟩ := bind_ok.mp hread
    obtain ⟨map, hmap, hread⟩ := bind_ok.mp hread
    obtain ⟨records, hrecords, hread⟩ := bind_ok.mp hread
    obtain ⟨⟨symbols, seen'⟩, hsymbols, hread⟩ := bind_ok.mp hread
    obtain ⟨table', htable, hread⟩ := bind_ok.mp hread
    cases hread
    refine bind_error.mpr (.inr ⟨c, hc, bind_error.mpr (.inr ⟨map, hmap, ?_⟩)⟩)
    refine bind_error.mpr (.inr ⟨records, hrecords, ?_⟩)
    refine bind_error.mpr (.inr ⟨(symbols, seen), hsymbols, ?_⟩)
    exact bind_error.mpr (.inr ⟨table, htable, bind_error.mpr (.inl h)⟩)

/-- **When reading ends.**  In every stream of types, following the lists behind a definition
never ends exactly if a list on the way leads back to itself; and a whole file is read forever
exactly if members are wanted and the walk over its types, before a checkpoint stops it, comes
to a definition whose lists lead back.  Every other file is read to its end, with its content
or a failure for an answer. -/
theorem reading_endless_iff_leadsBack (bytes : List UInt8) (wantsMembers : Bool)
    (checkpoint : Checkpoint) :
    (∀ (table : TypeTable) (k index : Nat),
      collectMembers? (table.find? k) index = none ↔ LeadsBack (table.find? k) index)
    ∧ (readInfo bytes wantsMembers checkpoint = .error .endless
        ↔ wantsMembers = true ∧ ∃ seen table k record fields,
          readUpToTypes bytes checkpoint = .ok (seen, table)
            ∧ table.records[k]? = some record ∧ ListsMembers record fields
            ∧ LeadsBack (table.find? k) fields
            ∧ ∀ j ≤ k, checkpoint.stops (seen + j + 1) = false) := by
  refine ⟨collectMembers?_eq_none_iff, ?_⟩
  rw [readInfo_endless_iff]
  constructor
  · rintro ⟨seen, table, hread, h⟩
    obtain ⟨k, record, hrecord, hrecordRead, hrun⟩ := (readTypes_endless_iff ..).mp h
    rw [Nat.zero_add] at hrecordRead
    obtain ⟨hwanted, fields, hfields, hback⟩ := (readDefinition_endless_iff ..).mp hrecordRead
    rw [Array.getElem?_toList] at hrecord
    exact ⟨hwanted, seen, table, k, record, fields, hread, hrecord, hfields, hback, hrun⟩
  · rintro ⟨hwanted, seen, table, k, record, fields, hread, hrecord, hfields, hback, hrun⟩
    refine ⟨seen, table, hread, (readTypes_endless_iff ..).mpr ⟨k, record, ?_, ?_, hrun⟩⟩
    · rw [Array.getElem?_toList]
      exact hrecord
    · rw [Nat.zero_add]
      exact (readDefinition_endless_iff ..).mpr ⟨hwanted, fields, hfields, hback⟩

/-! ## §7. A file that is read forever. -/

/-- Numbers of four bytes each. -/
def words (ns : List Nat) : List UInt8 :=
  ns.flatMap fun n => [n, n / 0x100, n / 0x10000, n / 0x1000000].map UInt8.ofNat

/-- A page of 512 bytes. -/
def page (bytes : List UInt8) : List UInt8 :=
  bytes ++ List.replicate (512 - bytes.length) 0

/-- A list without fields, which goes on in the first list of its stream. -/
def goingOnInFirst : List UInt8 := [0x03, 0x12, 0x04, 0x14, 0x00, 0x10, 0x00, 0x00]

/-- The enumeration `E`, whose fields are in the first list of its stream. -/
def enumOfFirst : List UInt8 :=
  [0x07, 0x15, 1, 0, 0, 0, 0x74, 0, 0, 0, 0x00, 0x10, 0x00, 0x00, 0x45, 0]

/-- The stream of these two: the list goes on in itself. -/
def selfContinuing : TypeTable :=
  ⟨0x1000, 0x1002, #[goingOnInFirst, enumOfFirst], none⟩

/-- A file with this stream: the header, the pages of the directory, the directory itself, and
the streams of identity, types, modules and sections. -/
def selfContinuingFile : List UInt8 :=
  [signature ++ words [512, 1, 8, 48, 0, 2], [], words [3],
    words [7, 0, 0x20, 0x54, 0x4C, 0, 0, 0x50, 4, 5, 6, 7],
    words [20000404, 0x5F000001, 2, 0x3F2504E0, 0x11D34F89, 0x05030C9A, 0x01332CE8],
    words [20040203, 56, 0x1000, 0x1002, 28, 0xFFFFFFFF, 4, 0x3FFFF, 0, 0, 0, 0, 0, 0]
      ++ [8, 0] ++ goingOnInFirst ++ [16, 0] ++ enumOfFirst,
    words [0xFFFFFFFF, 19990903, 1, 0xFFFF, 0xFFFF, 5, 0, 0, 0, 0, 0, 0, 12, 0, 0x86640000, 0,
      0xFFFFFFFF, 0xFFFFFFFF, 0x6FFFF],
    words [0x7865742E, 0x74, 0x7000, 0x1000, 0x7000, 0, 0, 0, 0, 0x60000020,
      0x7461642E, 0x61, 0x1000, 0x8000, 0x1000, 0, 0, 0, 0, 0x60000020]].flatMap page

/-- The list of the stream leads back to itself. -/
theorem leadsBack_selfContinuing : LeadsBack (selfContinuing.find? 1) 0x1000 := by
  have hself : GoesOn (selfContinuing.find? 1) 0x1000 0x1000 := ⟨[], by decide +kernel⟩
  exact ⟨0x1000, .refl, .single hself⟩

/-- Reading the file gets to its stream of types. -/
theorem readUpToTypes_selfContinuingFile :
    readUpToTypes selfContinuingFile ⟨1, fun _ => false⟩ = .ok (0, selfContinuing) := by
  -- the kernel reads the file and compares part by part
  have hparts : (match readUpToTypes selfContinuingFile ⟨1, fun _ => false⟩ with
      | .ok (seen, table) => seen == 0 && table.first == 0x1000 && table.last == 0x1002
          && table.records == #[goingOnInFirst, enumOfFirst] && table.failure == none
      | .error _ => false) = true := by
    decide +kernel
  split at hparts
  · next seen table hread =>
    rw [hread]
    obtain ⟨first, last, records, failure⟩ := table
    simp only [Bool.and_eq_true, beq_iff_eq] at hparts
    obtain ⟨⟨⟨⟨rfl, rfl⟩, rfl⟩, rfl⟩, rfl⟩ := hparts
    rfl
  · cases hparts

/-- Not every file is read to its end: this one is read forever, by the list that goes on in
itself. -/
theorem selfContinuingFile_is_read_forever :
    collectMembers? (selfContinuing.find? 1) 0x1000 = none
      ∧ readInfo selfContinuingFile true ⟨1, fun _ => false⟩ = .error .endless := by
  refine ⟨(collectMembers?_eq_none_iff ..).mpr leadsBack_selfContinuing, ?_⟩
  refine (readInfo_endless_iff ..).mpr ⟨0, selfContinuing, readUpToTypes_selfContinuingFile, ?_⟩
  refine (readTypes_endless_iff ..).mpr ⟨1, enumOfFirst, rfl, ?_, fun j _ => Bool.and_false _⟩
  have hdata : typeData? enumOfFirst = some (.definition ⟨"E", .enum, 0, some 0x1000, false⟩) := by
    decide +kernel
  exact (readDefinition_endless_iff ..).mpr
    ⟨rfl, 0x1000, ⟨_, hdata, by decide +kernel, rfl, rfl⟩, leadsBack_selfContinuing⟩

end DebugMerge.Pdb
