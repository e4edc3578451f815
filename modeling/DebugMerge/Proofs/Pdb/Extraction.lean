/-
  DebugMerge.Proofs.Pdb.Extraction
  ────────────────────────────────
  **The built-in reader loses and invents no record.**

  What a debug file says can be told without the loops that read it.  Every
  record of a stream is of interest or not; one that is contributes exactly one
  symbol or data type, and the others nothing, in the order of the streams.  A
  reading that nobody stops answers this extraction and nothing else.  It
  answers it for every file whose streams can be read from front to back, but
  for one case: fields that are wanted and lead back to themselves.

  Main statements
    • `Extracts`                        — one for each of interest, in order
    • `GivesSymbol`, `GivesType`        — what one record contributes
    • `readSymbols_ok_iff`, `readTypes_ok_iff` — the two walks
    • `Streams.AreOf`                   — files whose streams can be read
    • `readInfo_ok_iff_contain`, `areOf_of_readInfo` — what is read, and of which files
    • `readerBackend_extracts`          — the whole reading
-/
import DebugMerge.Load.Backend
import DebugMerge.Proofs.Binary.Yields
import DebugMerge.Proofs.Pdb.FieldLists

namespace DebugMerge

/-! ## §1. Extractions. -/

section Extractions

variable {α β : Type} {Counts : α → Prop} {Gives : α → β → Prop}

/-- In their order, every `a` that counts contributes exactly one `b` that it gives, and every
other one contributes nothing. -/
inductive Extracts (Counts : α → Prop) (Gives : α → β → Prop) : List α → List β → Prop
  | nil : Extracts Counts Gives [] []
  | kept {a : α} {b : β} {as : List α} {bs : List β} (counts : Counts a) (gives : Gives a b)
      (rest : Extracts Counts Gives as bs) : Extracts Counts Gives (a :: as) (b :: bs)
  | passed {a : α} {as : List α} {bs : List β} (idle : ¬ Counts a)
      (rest : Extracts Counts Gives as bs) : Extracts Counts Gives (a :: as) bs

namespace Extracts

theorem nil_iff {bs : List β} : Extracts Counts Gives [] bs ↔ bs = [] := by
  constructor
  · intro h
    cases h
    rfl
  · rintro rfl
    exact .nil

theorem cons_iff_of_not {a : α} {as : List α} {bs : List β} (h : ¬ Counts a) :
    Extracts Counts Gives (a :: as) bs ↔ Extracts Counts Gives as bs := by
  constructor
  · intro hall
    cases hall with
    | kept counts => exact absurd counts h
    | passed _ rest => exact rest
  · exact .passed h

theorem cons_iff_of_counts {a : α} {as : List α} {bs : List β} (h : Counts a) :
    Extracts Counts Gives (a :: as) bs
      ↔ ∃ b rest, Gives a b ∧ Extracts Counts Gives as rest ∧ bs = b :: rest := by
  constructor
  · intro hall
    cases hall with
    | kept _ gives rest => exact ⟨_, _, gives, rest, rfl⟩
    | passed idle => exact absurd h idle
  · rintro ⟨b, rest, hgives, hrest, rfl⟩
    exact .kept h hgives hrest

end Extracts

end Extractions

namespace Pdb

/-! ## §2. What a symbol record contributes. -/

/-- The record is a public, data or procedure record, and is complete. -/
inductive ParsesAs (record : List UInt8) : RawSymbol → Prop
  | ofPublic {raw : RawSymbol} (kind : recordKind record ∈ publicKinds)
      (parses : Take.front? (takePublic (recordKind record)) (record.drop 2) = some raw) :
      ParsesAs record raw
  | ofData {raw : RawSymbol} (kind : recordKind record ∈ dataKinds)
      (parses : Take.front? (takeData (recordKind record)) (record.drop 2) = some raw) :
      ParsesAs record raw
  | ofProcedure {raw : RawSymbol} (kind : recordKind record ∈ procedureKinds)
      (parses : Take.front? (takeProcedure (recordKind record)) (record.drop 2) = some raw) :
      ParsesAs record raw

/-- The record is such a record, and its section offset maps to the address of the symbol. -/
def GivesSymbol (map : AddressMap) (record : List UInt8) (symbol : SymbolRecord) : Prop :=
  ∃ raw rva, ParsesAs record raw ∧ map.toRva? raw.sectionNumber raw.offset = some rva
    ∧ symbol = ⟨raw.name, rva.toUInt64, raw.size, raw.kind, raw.scope⟩

/-- The record is such a record, and its section offset maps to some address. -/
def CountsAsSymbol (map : AddressMap) (record : List UInt8) : Prop :=
  ∃ raw rva, ParsesAs record raw ∧ map.toRva? raw.sectionNumber raw.offset = some rva

/-- The three kinds of records of interest have no kind in common. -/
theorem kinds_disjoint :
    (∀ kind ∈ dataKinds, kind ∉ publicKinds)
      ∧ ∀ kind ∈ procedureKinds, kind ∉ publicKinds ∧ kind ∉ dataKinds := by
  decide

theorem rawSymbol?_eq_some_iff {record : List UInt8} {raw : RawSymbol} :
    rawSymbol? record = some raw ↔ ParsesAs record raw := by
  unfold rawSymbol?
  simp only [List.contains_iff_mem]
  constructor
  · intro h
    split at h
    · next hkind => exact .ofPublic hkind h
    · split at h
      · next hkind => exact .ofData hkind h
      · split at h
        · next hkind => exact .ofProcedure hkind h
        · cases h
  · intro h
    obtain ⟨hdata, hprocedure⟩ := kinds_disjoint
    cases h with
    | ofPublic hkind hparses =>
      rw [if_pos hkind]
      exact hparses
    | ofData hkind hparses =>
      rw [if_neg (hdata _ hkind), if_pos hkind]
      exact hparses
    | ofProcedure hkind hparses =>
      rw [if_neg (hprocedure _ hkind).1, if_neg (hprocedure _ hkind).2, if_pos hkind]
      exact hparses

theorem readSymbol_eq_some_iff {map : AddressMap} {record : List UInt8} {symbol : SymbolRecord} :
    readSymbol map record = some symbol ↔ GivesSymbol map record symbol := by
  constructor
  · intro h
    obtain ⟨raw, hraw, h⟩ := Option.bind_eq_some_iff.mp h
    obtain ⟨rva, hrva, h⟩ := Option.bind_eq_some_iff.mp h
    cases h
    exact ⟨raw, rva, rawSymbol?_eq_some_iff.mp hraw, hrva, rfl⟩
  · rintro ⟨raw, rva, hparses, hrva, rfl⟩
    exact Option.bind_eq_some_iff.mpr ⟨raw, rawSymbol?_eq_some_iff.mpr hparses,
      Option.bind_eq_some_iff.mpr ⟨rva, hrva, rfl⟩⟩

/-- A record counts exactly if it gives a symbol. -/
theorem countsAsSymbol_iff {map : AddressMap} {record : List UInt8} :
    CountsAsSymbol map record ↔ ∃ symbol, readSymbol map record = some symbol := by
  constructor
  · rintro ⟨raw, rva, hparses, hrva⟩
    exact ⟨_, readSymbol_eq_some_iff.mpr ⟨raw, rva, hparses, hrva, rfl⟩⟩
  · rintro ⟨symbol, h⟩
    obtain ⟨raw, rva, hparses, hrva, -⟩ := readSymbol_eq_some_iff.mp h
    exact ⟨raw, rva, hparses, hrva⟩

/-! ## §3. What a type record contributes. -/

/-- The name is not one that the compiler made up. -/
def IsNamed (name : String) : Prop :=
  ¬ "<unnamed-".toList <+: name.toList ∧ ¬ "<anonymous-".toList <+: name.toList

theorem isUnnamed_eq_false_iff {name : String} : isUnnamed name = false ↔ IsNamed name := by
  unfold isUnnamed Text.startsWith IsNamed
  rw [Bool.or_eq_false_iff, Bool.eq_false_iff, Bool.eq_false_iff, ne_eq, ne_eq,
    List.isPrefixOf_iff_prefix, List.isPrefixOf_iff_prefix]

/-- The record is that of a class, union or enumeration `d` with a name of its own. -/
def Declares (record : List UInt8) (d : Definition) : Prop :=
  typeData? record = some (.definition d) ∧ IsNamed d.name

/-- The members that are listed under the number `fields`, if they are wanted. -/
def IsListed (find : Lookup) (wantsMembers : Bool) (fields : Option Nat) (members : List Member) :
    Prop :=
  match wantsMembers, fields with
  | true, some index => collectMembers? find index = some members
  | _, _ => members = []

/-- What record number `k` contributes: a forward declaration gives a placeholder, and a
definition gives its size, which is zero for enumerations. -/
inductive GivesType (table : TypeTable) (wantsMembers : Bool) :
    List UInt8 × Nat → TypeRecord → Prop
  | forward {record : List UInt8} {k : Nat} {d : Definition} (declares : Declares record d)
      (isForward : d.isForward = true) :
      GivesType table wantsMembers (record, k) ⟨d.name, d.kind, 0, []⟩
  | enumeration {record : List UInt8} {k : Nat} {d : Definition} {members : List Member}
      (declares : Declares record d) (isWhole : d.isForward = false) (isEnum : d.kind = .enum)
      (listed : IsListed (table.find? k) wantsMembers d.fields members) :
      GivesType table wantsMembers (record, k) ⟨d.name, .enum, 0, members⟩
  | aggregate {record : List UInt8} {k : Nat} {d : Definition} {members : List Member}
      (declares : Declares record d) (isWhole : d.isForward = false) (isSized : d.kind ≠ .enum)
      (listed : IsListed (table.find? k) wantsMembers d.fields members) :
      GivesType table wantsMembers (record, k) ⟨d.name, d.kind, d.size, members⟩

/-- The record contributes a data type. -/
def CountsAsType (numbered : List UInt8 × Nat) : Prop :=
  ∃ d, Declares numbered.1 d

/-- No size is recorded for an enumeration. -/
def SizesNoEnum (data : TypeData) : Prop :=
  ∀ d, data = .definition d → d.kind = .enum → d.size = 0

/-- What a record that is no field list can say: no size of an enumeration, and no list. -/
structure SaysNoList (data : TypeData) : Prop where
  sizesNoEnum : SizesNoEnum data
  ne_fieldList : ∀ fields next, data ≠ .fieldList fields next

theorem saysNoList_definition {d : Definition} (h : d.kind = .enum → d.size = 0) :
    SaysNoList (.definition d) := by
  refine ⟨fun d' hd henum => ?_, nofun⟩
  cases hd
  exact h henum

/-- A record that is no definition has no size. -/
theorem sizesNoEnum_of_ne {data : TypeData} (h : ∀ d, data ≠ .definition d) : SizesNoEnum data :=
  fun d hd => absurd hd (h d)

theorem saysNoList_of_ne {data : TypeData} (h : ∀ d, data ≠ .definition d)
    (hlist : ∀ fields next, data ≠ .fieldList fields next) : SaysNoList data :=
  ⟨sizesNoEnum_of_ne h, hlist⟩

theorem takeClass_yields {leaf : Nat} {kind : TypeKind} (hkind : kind ≠ .enum) :
    (takeClass leaf kind).Yields SaysNoList :=
  .next fun _ => .next fun _ => .next fun _ => .next fun _ => .next fun _ => .next fun _ =>
    .next fun _ => .pure (saysNoList_definition fun henum => absurd henum hkind)

theorem takeUnion_yields {leaf : Nat} : (takeUnion leaf).Yields SaysNoList :=
  .next fun _ => .next fun _ => .next fun _ => .next fun _ => .next fun _ => .next fun _ =>
    .pure (saysNoList_definition nofun)

theorem takeEnum_yields {leaf : Nat} : (takeEnum leaf).Yields SaysNoList :=
  .next fun _ => .next fun _ => .next fun _ => .next fun _ => .next fun _ => .next fun _ =>
    .pure (saysNoList_definition fun _ => rfl)

theorem takePointer_yields : takePointer.Yields SaysNoList :=
  .next fun _ => .next fun attributes => by
    dsimp only
    split
    · exact .next fun _ => .pure (saysNoList_of_ne nofun nofun)
    · exact .pure (saysNoList_of_ne nofun nofun)

theorem takeArray_yields {isStrided : Bool} : (takeArray isStrided).Yields SaysNoList :=
  .next fun _ => .next fun _ => by
    split
    · exact .next fun _ => .next fun _ => .next fun _ => .pure (saysNoList_of_ne nofun nofun)
    · exact .next fun _ => .next fun _ => .pure (saysNoList_of_ne nofun nofun)

theorem takeModifier_yields : takeModifier.Yields SaysNoList :=
  .next fun _ => .next fun _ => .pure (saysNoList_of_ne nofun nofun)

/-- A readable record of another kind. -/
theorem yields_other {α : Type} {take : Take α} :
    Take.Yields (take >>= fun _ => pure .other) SaysNoList :=
  .next fun _ => .pure (saysNoList_of_ne nofun nofun)

theorem takeRecord_yields (leaf : Nat) : (takeRecord leaf).Yields SaysNoList := by
  unfold takeRecord
  split
  -- each kind of record has its lemma, found by the name of its reader
  all_goals with_reducible first
    | exact takeUnion_yields
    | exact takeEnum_yields
    | exact takePointer_yields
    | exact takeModifier_yields
    | exact takeArray_yields
    | exact yields_other
    | refine takeClass_yields ?_
  all_goals exact nofun

theorem typeData?_sizesNoEnum {record : List UInt8} {data : TypeData}
    (h : typeData? record = some data) : SizesNoEnum data := by
  obtain ⟨⟨_, rest⟩, hread, rfl⟩ := Option.map_eq_some_iff.mp h
  refine Take.Yields.next (fun leaf => ?_) record _ rest hread
  split
  · exact .next fun _ => .next fun _ => .pure (sizesNoEnum_of_ne nofun)
  · exact fun bs data rest hread => (takeRecord_yields leaf bs data rest hread).sizesNoEnum

section Definitions

variable {table : TypeTable} {wantsMembers : Bool} {k : Nat} {record : List UInt8}
  {d : Definition} {type : TypeRecord}

/-- A record is passed over exactly if it does not count. -/
theorem readDefinition_eq_nothing_iff :
    readDefinition table wantsMembers k record = .nothing ↔ ¬ CountsAsType (record, k) := by
  unfold readDefinition
  constructor
  · rintro h ⟨d, hdata, hnamed⟩
    rw [hdata] at h
    dsimp only at h
    rw [isUnnamed_eq_false_iff.mpr hnamed] at h
    -- a definition with a name of its own is a type or read forever
    split at h
    · next hunnamed => cases hunnamed
    · split at h
      · split at h
        · split at h <;> cases h
        · cases h
      · cases h
  · intro h
    split
    · next d hdata =>
      split
      · rfl
      · next hnamed =>
        exact absurd ⟨d, hdata, isUnnamed_eq_false_iff.mp (Bool.eq_false_iff.mpr hnamed)⟩ h
    · rfl

theorem countsAsType_of_read {reading : Reading}
    (h : readDefinition table wantsMembers k record = reading) (hsome : reading ≠ .nothing) :
    CountsAsType (record, k) :=
  Classical.not_not.mp fun hidle => hsome (h.symm.trans (readDefinition_eq_nothing_iff.mpr hidle))

/-- A whole definition is read as a type exactly if its members are listed. -/
theorem readDefinition_of_whole (hd : Declares record d) (hwhole : d.isForward = false) :
    readDefinition table wantsMembers k record = .type type
      ↔ ∃ members, IsListed (table.find? k) wantsMembers d.fields members
        ∧ type = ⟨d.name, d.kind, d.size, members⟩ := by
  unfold readDefinition
  rw [hd.1]
  dsimp only
  rw [isUnnamed_eq_false_iff.mpr hd.2, hwhole]
  unfold IsListed
  cases hfields : d.fields with
  | none =>
    cases wantsMembers <;> simp [eq_comm]
  | some fields =>
    cases wantsMembers with
    | false => simp [eq_comm]
    | true =>
      cases hmembers : collectMembers? (table.find? k) fields with
      | none => simp [hmembers]
      | some members => simp [hmembers, eq_comm]

/-- A forward declaration is read as a placeholder. -/
theorem readDefinition_of_forward (hd : Declares record d) (hforward : d.isForward = true) :
    readDefinition table wantsMembers k record = .type ⟨d.name, d.kind, 0, []⟩ := by
  unfold readDefinition
  rw [hd.1]
  dsimp only
  rw [isUnnamed_eq_false_iff.mpr hd.2, hforward, Bool.not_true, Bool.and_false]
  cases d.fields <;> rfl

/-- A record is read as a type exactly if it contributes that type. -/
theorem readDefinition_eq_type_iff :
    readDefinition table wantsMembers k record = .type type
      ↔ GivesType table wantsMembers (record, k) type := by
  constructor
  · intro h
    obtain ⟨d, hd⟩ : CountsAsType (record, k) := countsAsType_of_read h (by simp)
    cases hforward : d.isForward with
    | true =>
      rw [readDefinition_of_forward hd hforward] at h
      cases h
      exact .forward hd hforward
    | false =>
      obtain ⟨members, hlisted, rfl⟩ := (readDefinition_of_whole hd hforward).mp h
      by_cases henum : d.kind = .enum
      · rw [typeData?_sizesNoEnum hd.1 d rfl henum, henum]
        exact .enumeration hd hforward henum hlisted
      · exact .aggregate hd hforward henum hlisted
  · intro h
    cases h with
    | forward hd hforward => exact readDefinition_of_forward hd hforward
    | enumeration hd hwhole henum hlisted =>
      refine (readDefinition_of_whole hd hwhole).mpr ⟨_, hlisted, ?_⟩
      rw [typeData?_sizesNoEnum hd.1 _ rfl henum, henum]
    | aggregate hd hwhole _ hlisted =>
      exact (readDefinition_of_whole hd hwhole).mpr ⟨_, hlisted, rfl⟩

end Definitions

/-! ## §4. The two walks. -/

section Walks

variable {checkpoint : Checkpoint}

/-- One record of the walk, in front of the others. -/
theorem extracts_symbols_cons_iff {map : AddressMap} {record : List UInt8}
    {records : List (List UInt8)} {symbols : List SymbolRecord} :
    Extracts (CountsAsSymbol map) (GivesSymbol map) (record :: records) symbols
      ↔ ∃ rest, Extracts (CountsAsSymbol map) (GivesSymbol map) records rest
        ∧ (readSymbol map record).toList ++ rest = symbols := by
  cases hsymbol : readSymbol map record with
  | none =>
    have hidle : ¬ CountsAsSymbol map record := by
      rw [countsAsSymbol_iff, hsymbol]
      exact fun ⟨_, h⟩ => nomatch h
    rw [Extracts.cons_iff_of_not hidle]
    simp
  | some symbol =>
    have hcounts : CountsAsSymbol map record := countsAsSymbol_iff.mpr ⟨symbol, hsymbol⟩
    rw [Extracts.cons_iff_of_counts hcounts]
    constructor
    · rintro ⟨given, rest, hgiven, hrest, rfl⟩
      have hsame := hsymbol.symm.trans (readSymbol_eq_some_iff.mpr hgiven)
      cases hsame
      exact ⟨rest, hrest, rfl⟩
    · rintro ⟨rest, hrest, rfl⟩
      exact ⟨symbol, rest, readSymbol_eq_some_iff.mp hsymbol, hrest, rfl⟩

/-- **The walk over symbols** that is never stopped answers the symbols of the records, and counts
all of them. -/
theorem readSymbols_ok_iff (hnever : ∀ n, checkpoint.stops n = false) {map : AddressMap}
    {failure : Option PdbError} {records : List (List UInt8)} {seen : Nat}
    {symbols : List SymbolRecord} {counted : Nat} :
    readSymbols map checkpoint failure seen records = .ok (symbols, counted)
      ↔ failure = none ∧ seen + records.length = counted
        ∧ Extracts (CountsAsSymbol map) (GivesSymbol map) records symbols := by
  induction records generalizing seen symbols with
  | nil =>
    unfold readSymbols
    rw [Extracts.nil_iff]
    cases failure <;> simp [and_comm, eq_comm]
  | cons record records ih =>
    rw [readSymbols]
    dsimp only
    rw [hnever, if_neg Bool.false_ne_true, bind_ok, extracts_symbols_cons_iff, List.length_cons,
      ← Nat.add_assoc, Nat.add_right_comm]
    constructor
    · rintro ⟨⟨rest, counted⟩, hrest, h⟩
      cases h
      obtain ⟨hfailure, hcounted, hall⟩ := ih.mp hrest
      exact ⟨hfailure, hcounted, rest, hall, rfl⟩
    · rintro ⟨hfailure, hcounted, rest, hall, rfl⟩
      exact ⟨(rest, counted), ih.mpr ⟨hfailure, hcounted, hall⟩, rfl⟩

/-- **The walk over types** that is never stopped answers the types of the records. -/
theorem readTypes_ok_iff (hnever : ∀ n, checkpoint.stops n = false) {table : TypeTable}
    {wantsMembers : Bool} {records : List (List UInt8)} {seen k : Nat} {types : List TypeRecord} :
    readTypes table wantsMembers checkpoint seen k records = .ok types
      ↔ table.failure = none
        ∧ Extracts CountsAsType (GivesType table wantsMembers) (records.zipIdx k) types := by
  induction records generalizing seen k types with
  | nil =>
    unfold readTypes
    rw [List.zipIdx_nil, Extracts.nil_iff]
    cases table.failure <;> simp [eq_comm]
  | cons record records ih =>
    rw [readTypes, hnever, if_neg Bool.false_ne_true, List.zipIdx_cons]
    cases hread : readDefinition table wantsMembers k record with
    | nothing =>
      rw [Extracts.cons_iff_of_not (readDefinition_eq_nothing_iff.mp hread)]
      exact ih
    | type definition =>
      have hcounts : CountsAsType (record, k) := countsAsType_of_read hread (by simp)
      rw [Extracts.cons_iff_of_counts hcounts, bind_ok]
      constructor
      · rintro ⟨more, hmore, h⟩
        cases h
        obtain ⟨hfailure, hall⟩ := ih.mp hmore
        exact ⟨hfailure, definition, more, readDefinition_eq_type_iff.mp hread, hall, rfl⟩
      · rintro ⟨hfailure, given, more, hgiven, hall, rfl⟩
        have hsame := hread.symm.trans (readDefinition_eq_type_iff.mpr hgiven)
        cases hsame
        exact ⟨more, ih.mpr ⟨hfailure, hall⟩, rfl⟩
    | endless =>
      -- the record counts, but no type belongs to it
      have hcounts : CountsAsType (record, k) := countsAsType_of_read hread (by simp)
      rw [Extracts.cons_iff_of_counts hcounts]
      constructor
      · intro h
        cases h
      · rintro ⟨-, given, more, hgiven, -⟩
        have hsame := hread.symm.trans (readDefinition_eq_type_iff.mpr hgiven)
        cases hsame

/-- All records extract to some symbols. -/
theorem extracts_symbols (map : AddressMap) (records : List (List UInt8)) :
    Extracts (CountsAsSymbol map) (GivesSymbol map) records
      (records.filterMap (readSymbol map)) := by
  induction records with
  | nil => exact .nil
  | cons record records ih =>
    refine extracts_symbols_cons_iff.mpr ⟨_, ih, ?_⟩
    rw [List.filterMap_cons]
    cases readSymbol map record <;> rfl

/-- A walk over types that is never stopped and does not break off has no other failure than to
be endless. -/
theorem readTypes_ok_or_endless (hnever : ∀ n, checkpoint.stops n = false) {table : TypeTable}
    (hwhole : table.failure = none) (wantsMembers : Bool) (seen k : Nat)
    (records : List (List UInt8)) :
    (∃ types, readTypes table wantsMembers checkpoint seen k records = .ok types)
      ∨ readTypes table wantsMembers checkpoint seen k records = .error .endless := by
  induction records generalizing seen k with
  | nil =>
    rw [readTypes, hwhole]
    exact .inl ⟨[], rfl⟩
  | cons record records ih =>
    rw [readTypes, hnever, if_neg Bool.false_ne_true]
    cases readDefinition table wantsMembers k record with
    | nothing => exact ih (seen + 1) (k + 1)
    | endless => exact .inr rfl
    | type definition =>
      rcases ih (seen + 1) (k + 1) with ⟨types, htypes⟩ | hendless
      · exact .inl ⟨definition :: types, bind_ok.mpr ⟨types, htypes, rfl⟩⟩
      · exact .inr (bind_error.mpr (.inl hendless))

end Walks

/-! ## §5. Streams that can be read from front to back. -/

namespace RecordList

/-- Records behind which the stream does not break off. -/
def whole (records : List (List UInt8)) : RecordList :=
  ⟨records, .none⟩

theorem append_eq_whole_iff {a b : RecordList} {records : List (List UInt8)} :
    a.append b = whole records ↔ ∃ xs ys, a = whole xs ∧ b = whole ys ∧ xs ++ ys = records := by
  obtain ⟨xs, failure⟩ := a
  obtain ⟨ys, failure'⟩ := b
  unfold append whole
  cases failure <;> simp [and_comm]

theorem concat_eq_whole_iff {lists : List RecordList} {records : List (List UInt8)} :
    concat lists = whole records
      ↔ ∃ all : List (List (List UInt8)), lists = all.map whole ∧ all.flatten = records := by
  induction lists generalizing records with
  | nil =>
    constructor
    · intro h
      cases h
      exact ⟨[], rfl, rfl⟩
    · rintro ⟨all, hall, rfl⟩
      rw [List.map_eq_nil_iff.mp hall.symm]
      rfl
  | cons list lists ih =>
    rw [concat, List.foldr_cons, append_eq_whole_iff]
    constructor
    · rintro ⟨xs, ys, rfl, hlists, rfl⟩
      obtain ⟨all, rfl, rfl⟩ := ih.mp hlists
      exact ⟨xs :: all, rfl, rfl⟩
    · rintro ⟨all, hall, rfl⟩
      obtain ⟨xs, rest, rfl, rfl, rfl⟩ := List.map_eq_cons_iff.mp hall.symm
      exact ⟨xs, rest.flatten, rfl, ih.mpr ⟨rest, rfl, rfl⟩, rfl⟩

end RecordList

/-- What is read of a debug file: where its sections are, the symbol records of the global
stream and of every module, and the type records. -/
structure Streams where
  map : AddressMap
  globals : List (List UInt8)
  /-- The records of each module, in the order of the modules. -/
  modules : List (List (List UInt8))
  types : TypeTable

/-- The container holds these streams, and none of them breaks off. -/
structure Container.Holds (c : Container) (streams : Streams) : Prop where
  map : addressMap c = .ok streams.map
  globals : globalSymbols c = .ok (.whole streams.globals)
  modules : ∃ entries, (debugStream c >>= modules) = .ok ⟨entries, none⟩
    ∧ entries.map (moduleSymbols c) = streams.modules.map .whole
  types : typeTable c = .ok streams.types
  typesEnd : streams.types.failure = none

/-- The bytes are a debug file with these streams. -/
def Streams.AreOf (streams : Streams) (bytes : List UInt8) : Prop :=
  ∃ c, Container.open? bytes = .ok c ∧ c.Holds streams

/-- The symbol records: the global ones, and those of the modules behind them. -/
def Streams.symbolRecords (streams : Streams) : List (List UInt8) :=
  streams.globals ++ streams.modules.flatten

/-- The symbol streams of a container do not break off exactly if none of its streams does. -/
theorem symbolStreams_eq_whole_iff {c : Container} {records : List (List UInt8)} :
    symbolStreams c = .ok (.whole records)
      ↔ ∃ (globals : List (List UInt8)) (ofModules : List (List (List UInt8))),
        globalSymbols c = .ok (.whole globals)
          ∧ (∃ entries, (debugStream c >>= modules) = .ok ⟨entries, none⟩
            ∧ entries.map (moduleSymbols c) = ofModules.map .whole)
          ∧ globals ++ ofModules.flatten = records := by
  unfold symbolStreams
  rw [bind_ok]
  cases hmodules : debugStream c >>= modules with
  | error e =>
    constructor
    · rintro ⟨globals, -, h⟩
      obtain ⟨xs, ys, -, hfailed, -⟩ := RecordList.append_eq_whole_iff.mp (Except.ok.inj h)
      cases hfailed
    · rintro ⟨globals, ofModules, -, ⟨entries, hentries, -⟩, -⟩
      cases hentries
  | ok list =>
    obtain ⟨entries, failure⟩ := list
    constructor
    · rintro ⟨globals, hglobals, h⟩
      obtain ⟨xs, ys, rfl, hrest, rfl⟩ := RecordList.append_eq_whole_iff.mp (Except.ok.inj h)
      obtain ⟨zs, last, hconcat, hlast, rfl⟩ := RecordList.append_eq_whole_iff.mp hrest
      obtain ⟨ofModules, hmap, rfl⟩ := RecordList.concat_eq_whole_iff.mp hconcat
      cases hlast
      exact ⟨xs, ofModules, hglobals, ⟨entries, rfl, hmap⟩, by rw [List.append_nil]⟩
    · rintro ⟨globals, ofModules, hglobals, ⟨entries', hentries, hmap⟩, rfl⟩
      cases hentries
      refine ⟨.whole globals, hglobals, congrArg Except.ok ?_⟩
      refine RecordList.append_eq_whole_iff.mpr ⟨globals, ofModules.flatten, rfl, ?_, rfl⟩
      exact RecordList.append_eq_whole_iff.mpr ⟨ofModules.flatten, [],
        RecordList.concat_eq_whole_iff.mpr ⟨ofModules, hmap, rfl⟩, rfl, List.append_nil _⟩

/-! ## §6. The whole reading. -/

/-- The content that the streams extract to. -/
structure Streams.Contain (streams : Streams) (wantsMembers : Bool) (info : DebugInfo) : Prop where
  symbols : Extracts (CountsAsSymbol streams.map) (GivesSymbol streams.map) streams.symbolRecords
    info.symbols
  types : Extracts CountsAsType (GivesType streams.types wantsMembers)
    streams.types.records.toList.zipIdx info.types
  lines : info.lines = []
  comments : info.comments = []

/-- Some definition has fields that lead back to themselves. -/
def Streams.LeadBack (streams : Streams) : Prop :=
  ∃ k record fields, streams.types.records[k]? = some record ∧ ListsMembers record fields
    ∧ LeadsBack (streams.types.find? k) fields

section Reading

variable {bytes : List UInt8} {streams : Streams} {wantsMembers : Bool} {checkpoint : Checkpoint}

/-- What is not malformed is read on. -/
theorem orMalformed_ok_bind {α β : Type} {a : α} {f : α → Except ReadFailure β} :
    (orMalformed (.ok a) >>= f) = f a :=
  rfl

theorem orMalformed_ok {α : Type} {r : Except PdbError α} {a : α} :
    orMalformed r = .ok a ↔ r = .ok a := by
  cases r <;> simp [orMalformed]

/-- Reading a file is the walk over its symbols, and the walk over its types behind it. -/
theorem readInfo_of_areOf (h : streams.AreOf bytes) :
    readInfo bytes wantsMembers checkpoint = (do
      let (symbols, seen) ← readSymbols streams.map checkpoint none 0 streams.symbolRecords
      let types ← readTypes streams.types wantsMembers checkpoint seen 0
        streams.types.records.toList
      return ⟨types, symbols, [], []⟩) := by
  obtain ⟨c, hopen, hmap, hglobals, hmodules, htypes, -⟩ := h
  have hsymbols : symbolStreams c = .ok (.whole streams.symbolRecords) :=
    symbolStreams_eq_whole_iff.mpr ⟨_, _, hglobals, hmodules, rfl⟩
  unfold readInfo
  rw [hopen, orMalformed_ok_bind, hmap, orMalformed_ok_bind, hsymbols, orMalformed_ok_bind, htypes]
  rfl

/-- **A reading that nobody stops** answers what the streams extract to, and nothing else. -/
theorem readInfo_ok_iff_contain (hnever : ∀ n, checkpoint.stops n = false)
    (h : streams.AreOf bytes) {info : DebugInfo} :
    readInfo bytes wantsMembers checkpoint = .ok info ↔ streams.Contain wantsMembers info := by
  rw [readInfo_of_areOf h, bind_ok]
  constructor
  · rintro ⟨⟨symbols, seen⟩, hsymbols, hread⟩
    obtain ⟨types, htypes, hread⟩ := bind_ok.mp hread
    cases hread
    obtain ⟨-, -, hsymbols⟩ := (readSymbols_ok_iff hnever).mp hsymbols
    obtain ⟨-, htypes⟩ := (readTypes_ok_iff hnever).mp htypes
    exact ⟨hsymbols, htypes, rfl, rfl⟩
  · rintro ⟨hsymbols, htypes, hlines, hcomments⟩
    obtain ⟨types, symbols, lines, comments⟩ := info
    cases hlines
    cases hcomments
    obtain ⟨c, -, hholds⟩ := h
    refine ⟨(symbols, _), (readSymbols_ok_iff hnever).mpr ⟨rfl, rfl, hsymbols⟩, ?_⟩
    exact bind_ok.mpr ⟨types, (readTypes_ok_iff hnever).mpr ⟨hholds.typesEnd, htypes⟩, rfl⟩

/-- The walk over all types, never stopped, is endless exactly if members are wanted and the fields
of some definition lead back to themselves. -/
theorem readTypes_endless_iff_leadBack (hnever : ∀ n, checkpoint.stops n = false) (seen : Nat) :
    readTypes streams.types wantsMembers checkpoint seen 0 streams.types.records.toList
        = .error .endless
      ↔ wantsMembers = true ∧ streams.LeadBack := by
  rw [readTypes_endless_iff]
  constructor
  · rintro ⟨k, record, hrecord, hread, -⟩
    rw [Nat.zero_add] at hread
    rw [Array.getElem?_toList] at hrecord
    obtain ⟨hwanted, fields, hfields, hback⟩ := (readDefinition_endless_iff ..).mp hread
    exact ⟨hwanted, k, record, fields, hrecord, hfields, hback⟩
  · rintro ⟨hwanted, k, record, fields, hrecord, hfields, hback⟩
    rw [← Array.getElem?_toList] at hrecord
    rw [← Nat.zero_add k] at hback
    exact ⟨k, record, hrecord,
      (readDefinition_endless_iff ..).mpr ⟨hwanted, fields, hfields, hback⟩, fun _ _ => hnever _⟩

/-- Such a reading answers a content, or members are wanted, the fields of some definition lead
back to themselves, and it is endless. -/
theorem readInfo_ok_or_endless (hnever : ∀ n, checkpoint.stops n = false)
    (h : streams.AreOf bytes) (wantsMembers : Bool) :
    (∃ info, readInfo bytes wantsMembers checkpoint = .ok info)
        ∧ ¬ (wantsMembers = true ∧ streams.LeadBack)
      ∨ readInfo bytes wantsMembers checkpoint = .error .endless
        ∧ wantsMembers = true ∧ streams.LeadBack := by
  have hsymbols : readSymbols streams.map checkpoint none 0 streams.symbolRecords = .ok (_, _) :=
    (readSymbols_ok_iff hnever).mpr ⟨rfl, rfl, extracts_symbols streams.map _⟩
  have hend : streams.types.failure = none := by
    obtain ⟨c, -, hholds⟩ := h
    exact hholds.typesEnd
  rw [readInfo_of_areOf h, hsymbols]
  rcases readTypes_ok_or_endless hnever hend wantsMembers (0 + streams.symbolRecords.length) 0
    streams.types.records.toList with ⟨types, htypes⟩ | hendless
  · refine .inl ⟨⟨_, bind_ok.mpr ⟨_, rfl, bind_ok.mpr ⟨types, htypes, rfl⟩⟩⟩, fun hback => ?_⟩
    rw [(readTypes_endless_iff_leadBack hnever _).mpr hback] at htypes
    cases htypes
  · refine .inr ⟨bind_error.mpr (.inr ⟨_, rfl, bind_error.mpr (.inl hendless)⟩), ?_⟩
    exact (readTypes_endless_iff_leadBack hnever _).mp hendless

/-- Every file that is read is one whose streams can be read from front to back. -/
theorem areOf_of_readInfo (hnever : ∀ n, checkpoint.stops n = false) {info : DebugInfo}
    (h : readInfo bytes wantsMembers checkpoint = .ok info) :
    ∃ streams : Streams, streams.AreOf bytes := by
  obtain ⟨c, hc, h⟩ := bind_ok.mp h
  obtain ⟨map, hmap, h⟩ := bind_ok.mp h
  obtain ⟨records, hrecords, h⟩ := bind_ok.mp h
  obtain ⟨⟨symbols, seen⟩, hsymbols, h⟩ := bind_ok.mp h
  obtain ⟨table, htable, h⟩ := bind_ok.mp h
  obtain ⟨types, htypes, -⟩ := bind_ok.mp h
  obtain ⟨hwhole, -, -⟩ := (readSymbols_ok_iff hnever).mp hsymbols
  obtain ⟨hend, -⟩ := (readTypes_ok_iff hnever).mp htypes
  -- no symbol stream breaks off, since the walk came to the end of all of them
  obtain ⟨records, failure⟩ := records
  cases hwhole
  obtain ⟨globals, ofModules, hglobals, hmodules, -⟩ :=
    symbolStreams_eq_whole_iff.mp (orMalformed_ok.mp hrecords)
  exact ⟨⟨map, globals, ofModules, table⟩, c, orMalformed_ok.mp hc, orMalformed_ok.mp hmap,
    hglobals, hmodules, orMalformed_ok.mp htable, hend⟩

end Reading

end Pdb

/-- The built-in reader reads the bytes of the file, and names the file in its failures. -/
theorem readerBackend_readInfo_eq (files : Files) (path : String) (options : ReaderOptions)
    (isSet : Nat → Bool) :
    (readerBackend files).readInfo path options isSet = debugFileBytes files path >>= fun bytes =>
      (Pdb.readInfo bytes options.parseMembers ⟨options.checkInterval.toNat, isSet⟩).mapError
        (Pdb.ReadFailure.toLoadError path) := by
  unfold readerBackend
  dsimp only
  cases debugFileBytes files path with
  | error e => rfl
  | ok bytes =>
    simp only [bind, Except.bind]
    cases Pdb.readInfo bytes options.parseMembers ⟨options.checkInterval.toNat, isSet⟩ <;> rfl

theorem readerBackend_readInfo {files : Files} {path : String} {bytes : List UInt8}
    (hbytes : debugFileBytes files path = .ok bytes) (options : ReaderOptions)
    (isSet : Nat → Bool) :
    (readerBackend files).readInfo path options isSet
      = (Pdb.readInfo bytes options.parseMembers ⟨options.checkInterval.toNat, isSet⟩).mapError
        (Pdb.ReadFailure.toLoadError path) := by
  rw [readerBackend_readInfo_eq, hbytes]
  rfl

theorem mapError_ok {α ε ε' : Type} {f : ε → ε'} {r : Except ε α} {a : α} :
    r.mapError f = .ok a ↔ r = .ok a := by
  cases r <;> simp [Except.mapError]

/-- **The built-in reader loses and invents no record.**  For every file whose streams can be read
from front to back, a reading that nobody stops answers exactly what the streams extract to: the
symbols of the global stream, those of the modules behind them, and the types of the type stream,
each in their order.  It answers that for every such file but one with a definition whose fields
are wanted and lead back to themselves, which is read forever. -/
theorem readerBackend_extracts {files : Files} {path : String} {bytes : List UInt8}
    {streams : Pdb.Streams} (hbytes : debugFileBytes files path = .ok bytes)
    (hstreams : streams.AreOf bytes) (options : ReaderOptions) :
    (∀ info, (readerBackend files).readInfo path options (fun _ => false) = .ok info
        ↔ streams.Contain options.parseMembers info)
      ∧ (¬ (options.parseMembers = true ∧ streams.LeadBack) →
        ∃ info, (readerBackend files).readInfo path options (fun _ => false) = .ok info)
      ∧ (options.parseMembers = true ∧ streams.LeadBack →
        (readerBackend files).readInfo path options (fun _ => false)
          = .error (Pdb.ReadFailure.endless.toLoadError path)) := by
  have hnever : ∀ n, (Checkpoint.mk options.checkInterval.toNat fun _ => false).stops n = false :=
    fun n => Bool.and_false _
  rw [readerBackend_readInfo hbytes]
  refine ⟨fun info => ?_, fun hends => ?_, fun hback => ?_⟩
  · rw [mapError_ok]
    exact Pdb.readInfo_ok_iff_contain hnever hstreams
  · rcases Pdb.readInfo_ok_or_endless hnever hstreams options.parseMembers with
      ⟨⟨info, hread⟩, -⟩ | ⟨-, hback⟩
    · exact ⟨info, mapError_ok.mpr hread⟩
    · exact absurd hback hends
  · rcases Pdb.readInfo_ok_or_endless hnever hstreams options.parseMembers with
      ⟨-, hends⟩ | ⟨hread, -⟩
    · exact absurd hback hends
    · rw [hread]
      rfl

/-! ## §7. A file with records of all sorts. -/

namespace Pdb

/-- Opening keeps the bytes, so the header says the rest. -/
theorem Container.bytes_of_open? {bytes : List UInt8} {c : Container} (h : open? bytes = .ok c) :
    c.bytes = bytes := by
  unfold open? at h
  dsimp only at h
  split at h
  · cases h
  split at h
  · cases h
  obtain ⟨⟨⟨pageSize, lastPage, directorySize⟩, rest⟩, -, h⟩ := bind_ok.mp h
  dsimp only at h
  split at h
  · cases h
  obtain ⟨indexPages, -, h⟩ := bind_ok.mp h
  cases h
  rfl

theorem Container.open?_of_header {bytes : List UInt8} {pageSize lastPage directorySize : Nat}
    {indexPages : List Nat}
    (h : (open? bytes).map (fun c => (c.pageSize, c.lastPage, c.directorySize, c.indexPages))
      = .ok (pageSize, lastPage, directorySize, indexPages)) :
    open? bytes = .ok ⟨bytes, pageSize, lastPage, directorySize, indexPages⟩ := by
  obtain ⟨c, hc, heq⟩ := map_ok.mp h
  cases heq
  rw [hc, ← Container.bytes_of_open? hc]

/-- Where no field list goes on in another one, no fields lead back to themselves. -/
theorem not_leadBack {streams : Streams}
    (h : ∀ record ∈ streams.types.records, ∀ fields next,
      typeData? record ≠ some (.fieldList fields (some next))) : ¬ streams.LeadBack := by
  rintro ⟨k, -, -, -, -, list, -, hcycle⟩
  obtain ⟨next, ⟨fields, hfind⟩, -⟩ := Relation.TransGen.head'_iff.mp hcycle
  obtain ⟨record, hfinds, hdata⟩ := find?_eq_record_iff.mp hfind
  exact h record (Array.mem_of_getElem? hfinds.stored) fields next hdata

deriving instance DecidableEq for AddressMap, RecordList, ModuleList, TypeTable

/-- Numbers of two bytes each. -/
def shorts (ns : List Nat) : List UInt8 :=
  ns.flatMap fun n => [n, n / 0x100].map UInt8.ofNat

/-- A text and the zero byte behind it. -/
def zeroEnded (s : String) : List UInt8 :=
  s.toList.map (fun c => UInt8.ofNat c.toNat) ++ [0]

/-- Records, each behind its length. -/
def framed (records : List (List UInt8)) : List UInt8 :=
  records.flatMap fun record => shorts [record.length] ++ record

/-- A function, a symbol in a section that is not there, data that breaks off, and a record of
another kind. -/
def mixedGlobals : List (List UInt8) :=
  [shorts [0x110E] ++ words [2, 0x10] ++ shorts [1] ++ zeroEnded "f",
    shorts [0x110E] ++ words [0, 0] ++ shorts [9] ++ zeroEnded "lost",
    shorts [0x110C, 0],
    shorts [0x1125] ++ words [0, 0]]

/-- The procedure of a module. -/
def mixedModule : List (List UInt8) :=
  [shorts [0x1110] ++ words [0, 0, 0, 0x40, 0, 0, 0, 0x20] ++ shorts [1] ++ [0]
    ++ zeroEnded "main"]

/-- A field list, a declaration, its definition with these fields, a structure without a name of
its own, a structure that breaks off, a pointer, an enumeration and a union. -/
def mixedTypes : List (List UInt8) :=
  [shorts [0x1203, 0x150D, 0] ++ words [0x74] ++ shorts [0] ++ zeroEnded "x",
    shorts [0x1505, 0, 0x80] ++ words [0, 0, 0] ++ shorts [0] ++ zeroEnded "Node",
    shorts [0x1505, 1, 0] ++ words [0x1000, 0, 0] ++ shorts [16] ++ zeroEnded "Node",
    shorts [0x1505, 0, 0] ++ words [0, 0, 0] ++ shorts [4] ++ zeroEnded "<unnamed-tag>",
    shorts [0x1505, 0],
    shorts [0x1002] ++ words [0x1001, 0],
    shorts [0x1507, 0, 0] ++ words [0x74, 0] ++ zeroEnded "Color",
    shorts [0x1506, 0, 0] ++ words [0] ++ shorts [4] ++ zeroEnded "Value"]

/-- The entry of the module, whose symbols are in stream four. -/
def mixedEntry : List UInt8 :=
  List.replicate 34 0 ++ shorts [4] ++ words [48] ++ List.replicate 24 0
    ++ zeroEnded "a" ++ zeroEnded "b"

/-- A file with these records: the header, the pages of the directory, the directory itself, and
the streams of identity, types, modules, the module, globals and sections. -/
def mixedFile : List UInt8 :=
  [signature ++ words [512, 1, 10, 56, 0, 2], [], words [3],
    words [7, 0, 28, 222, 144, 48, 53, 80, 4, 5, 6, 7, 8, 9],
    words [20000404, 0x5F000001, 2, 0x3F2504E0, 0x11D34F89, 0x05030C9A, 0x01332CE8],
    words [20040203, 56, 0x1000, 0x1008, 166, 0xFFFFFFFF, 4, 0x3FFFF, 0, 0, 0, 0, 0, 0]
      ++ framed mixedTypes,
    words [0xFFFFFFFF, 19990903, 1, 0xFFFF, 0xFFFF, 5, 68, 0, 0, 0, 0, 0, 12, 0, 0x86640000, 0]
      ++ mixedEntry ++ words [0xFFFFFFFF, 0xFFFFFFFF, 0x6FFFF],
    words [4] ++ framed mixedModule, framed mixedGlobals,
    words [0x7865742E, 0x74, 0x7000, 0x1000, 0x7000, 0, 0, 0, 0, 0x60000020,
      0x7461642E, 0x61, 0x1000, 0x8000, 0x1000, 0, 0, 0, 0, 0x60000020]].flatMap page

/-- The streams of the file. -/
def mixedStreams : Streams :=
  ⟨⟨[0x1000, 0x8000], none⟩, mixedGlobals, [mixedModule],
    ⟨0x1000, 0x1008, mixedTypes.toArray, none⟩⟩

/-- The content of the file without members: two symbols, and four types under three names. -/
def mixedInfo : DebugInfo :=
  ⟨[⟨"Node", .struct, 0, []⟩, ⟨"Node", .struct, 16, []⟩, ⟨"Color", .enum, 0, []⟩,
      ⟨"Value", .union, 4, []⟩],
    [⟨"f", 0x1010, none, .function, .publicTable⟩,
      ⟨"main", 0x1020, some 0x40, .function, .globalTable⟩], [], []⟩

theorem areOf_mixed : mixedStreams.AreOf mixedFile :=
  ⟨⟨mixedFile, 512, 10, 56, [2]⟩, Container.open?_of_header (by decide +kernel), by decide +kernel,
    by decide +kernel, ⟨[⟨4, 48⟩], by decide +kernel, by decide +kernel⟩, by decide +kernel, rfl⟩

/-- What the type records say; none of them is a list that goes on. -/
theorem typeData?_mixed : mixedTypes.map typeData?
    = [some (.fieldList [.dataMember "x" 0 0x74] none),
      some (.definition ⟨"Node", .struct, 0, none, true⟩),
      some (.definition ⟨"Node", .struct, 16, some 0x1000, false⟩),
      some (.definition ⟨"<unnamed-tag>", .struct, 4, none, false⟩), none,
      some (.pointer 0x1001), some (.definition ⟨"Color", .enum, 0, some 0, false⟩),
      some (.definition ⟨"Value", .union, 4, some 0, false⟩)] := by
  decide +kernel

theorem not_leadBack_mixed : ¬ mixedStreams.LeadBack := by
  refine not_leadBack fun record hrecord fields next hdata => ?_
  have hsaid := List.mem_map_of_mem (f := typeData?) (List.mem_toArray.mp hrecord)
  rw [hdata, typeData?_mixed] at hsaid
  simp at hsaid

end Pdb

/-- A debug file in an otherwise empty directory. -/
def loneFile (bytes : List UInt8) : Files :=
  ⟨[], [(["app.pdb"], .file bytes false)]⟩

theorem debugFileBytes_loneFile (bytes : List UInt8) :
    debugFileBytes (loneFile bytes) "app.pdb" = .ok bytes :=
  rfl

/-- The file is read to its end, with members and without them. -/
theorem readerBackend_extracts_mixed :
    Pdb.mixedStreams.AreOf Pdb.mixedFile
      ∧ (readerBackend (loneFile Pdb.mixedFile)).readInfo "app.pdb" ⟨1, false⟩ (fun _ => false)
        = .ok Pdb.mixedInfo
      ∧ Pdb.mixedStreams.Contain false Pdb.mixedInfo
      ∧ ∃ info,
        (readerBackend (loneFile Pdb.mixedFile)).readInfo "app.pdb" ⟨1, true⟩ (fun _ => false)
          = .ok info
        ∧ Pdb.mixedStreams.Contain true info := by
  have hbytes := debugFileBytes_loneFile Pdb.mixedFile
  have hread : (readerBackend (loneFile Pdb.mixedFile)).readInfo "app.pdb" ⟨1, false⟩
      (fun _ => false) = .ok Pdb.mixedInfo := by
    rw [readerBackend_readInfo hbytes, Pdb.readInfo_of_areOf Pdb.areOf_mixed]
    decide +kernel
  obtain ⟨hlayouts, -, -⟩ := readerBackend_extracts hbytes Pdb.areOf_mixed ⟨1, false⟩
  obtain ⟨hcontent, hends, -⟩ := readerBackend_extracts hbytes Pdb.areOf_mixed ⟨1, true⟩
  obtain ⟨info, hinfo⟩ := hends fun hback => Pdb.not_leadBack_mixed hback.2
  exact ⟨Pdb.areOf_mixed, hread, (hlayouts _).mp hread, info, hinfo, (hcontent info).mp hinfo⟩

/-- The streams of the file whose field list goes on in itself. -/
def Pdb.selfContinuingStreams : Pdb.Streams :=
  ⟨⟨[0x1000, 0x8000], none⟩, [], [], Pdb.selfContinuing⟩

/-- The enumeration in it is listed in the list that leads back to itself. -/
theorem Pdb.leadBack_selfContinuing : Pdb.selfContinuingStreams.LeadBack := by
  have hdata : Pdb.typeData? Pdb.enumOfFirst
      = some (.definition ⟨"E", .enum, 0, some 0x1000, false⟩) := by
    decide +kernel
  exact ⟨1, Pdb.enumOfFirst, 0x1000, rfl, ⟨_, hdata, by decide +kernel, rfl, rfl⟩,
    Pdb.leadsBack_selfContinuing⟩

/-- All streams of that file can be read from front to back, and yet nothing is extracted from it:
the reading goes on forever. -/
theorem readable_streams_without_extraction :
    Pdb.selfContinuingStreams.AreOf Pdb.selfContinuingFile
      ∧ (readerBackend (loneFile Pdb.selfContinuingFile)).readInfo "app.pdb" ⟨1, true⟩
        (fun _ => false) = .error (Pdb.ReadFailure.endless.toLoadError "app.pdb")
      ∧ ∀ info, (readerBackend (loneFile Pdb.selfContinuingFile)).readInfo "app.pdb" ⟨1, true⟩
        (fun _ => false) ≠ .ok info := by
  have hstreams : Pdb.selfContinuingStreams.AreOf Pdb.selfContinuingFile :=
    ⟨⟨Pdb.selfContinuingFile, 512, 8, 48, [2]⟩, Pdb.Container.open?_of_header (by decide +kernel),
      by decide +kernel, by decide +kernel, ⟨[], by decide +kernel, rfl⟩, by decide +kernel, rfl⟩
  have hread : (readerBackend (loneFile Pdb.selfContinuingFile)).readInfo "app.pdb" ⟨1, true⟩
      (fun _ => false) = .error (Pdb.ReadFailure.endless.toLoadError "app.pdb") := by
    rw [readerBackend_readInfo (debugFileBytes_loneFile Pdb.selfContinuingFile)]
    have hnever : ∀ n, (Checkpoint.mk 1 fun _ => false).stops n = false := fun n => Bool.and_false _
    rcases Pdb.readInfo_ok_or_endless hnever hstreams true with ⟨-, hends⟩ | ⟨hendless, -⟩
    · exact absurd ⟨rfl, Pdb.leadBack_selfContinuing⟩ hends
    · exact congrArg (Except.mapError _) hendless
  refine ⟨hstreams, hread, fun info hinfo => ?_⟩
  rw [hread] at hinfo
  cases hinfo

end DebugMerge
