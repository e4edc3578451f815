/-
  DebugMerge.Proofs.Pdb.Entries
  ─────────────────────────────
  **What the bytes of a field list say, entry by entry.**

  A field list is a run of entries, each behind its kind and in front of its
  padding: fields, of which only data members and enumerators are of interest,
  and numbers of lists in which the list goes on.  The readers of entries are
  local and no kind looks like padding, so two runs can be joined and read as
  one.  A record is read as a field list exactly if its bytes are such a run; its
  fields of interest are those of the run, and it goes on where the last number
  says.

  Main statements
    • `IsPadding`, `skipPadding_eq_some_iff`  — padding
    • `isLocal_takeItem`                      — entries are local
    • `Entry`, `ReadsAs`, `ReadsAs.append`    — runs of entries
    • `typeData?_eq_fieldList_iff`            — the field list of a record
-/
import DebugMerge.Proofs.Binary.Locality
import DebugMerge.Proofs.Pdb.Extraction

namespace DebugMerge.Pdb

open Take

/-! ## §1. Local readers. -/

theorem isLocal_takeUnsigned : takeUnsigned.IsLocal := by
  refine isLocal_u16.bind fun leaf => ?_
  split
  · exact .pure _
  · split
    · exact isLocal_u8.bind fun _ => .pure _
    · exact isLocal_u16.bind fun _ => .pure _
    · exact isLocal_u32.bind fun _ => .pure _
    · exact isLocal_u64.bind fun _ => .pure _
    · exact .fail

theorem isLocal_takeSigned (width : Nat) : (takeSigned width).IsLocal := by
  refine (isLocal_number width).bind fun n => ?_
  split
  · exact .pure _
  · exact .pure _

theorem isLocal_takeValue : takeValue.IsLocal := by
  refine isLocal_u16.bind fun leaf => ?_
  split
  · exact .pure _
  · split
    · exact isLocal_u8.bind fun _ => .pure _
    · exact isLocal_takeSigned 2
    · exact isLocal_u16.bind fun _ => .pure _
    · exact isLocal_takeSigned 4
    · exact isLocal_u32.bind fun _ => .pure _
    · exact isLocal_takeSigned 8
    · exact isLocal_u64.bind fun _ => .pure _
    · exact .fail

theorem isLocal_takeRecordName (leaf : Nat) : (takeRecordName leaf).IsLocal := by
  unfold takeRecordName
  split
  · exact isLocal_zeroText
  · exact isLocal_countedText

theorem isLocal_skipUniqueName (leaf properties : Nat) :
    (skipUniqueName leaf properties).IsLocal := by
  unfold skipUniqueName
  split
  · exact (isLocal_takeRecordName leaf).bind fun _ => .pure _
  · exact .pure _

theorem isLocal_takeClass (leaf : Nat) (kind : TypeKind) : (takeClass leaf kind).IsLocal :=
  (isLocal_skip 2).bind fun _ => isLocal_u16.bind fun properties => isLocal_u32.bind fun _ =>
    (isLocal_skip 8).bind fun _ => isLocal_takeUnsigned.bind fun _ =>
    (isLocal_takeRecordName leaf).bind fun _ =>
    (isLocal_skipUniqueName leaf properties).bind fun _ => .pure _

theorem isLocal_takeUnion (leaf : Nat) : (takeUnion leaf).IsLocal :=
  (isLocal_skip 2).bind fun _ => isLocal_u16.bind fun properties => isLocal_u32.bind fun _ =>
    isLocal_takeUnsigned.bind fun _ => (isLocal_takeRecordName leaf).bind fun _ =>
    (isLocal_skipUniqueName leaf properties).bind fun _ => .pure _

theorem isLocal_takeEnum (leaf : Nat) : (takeEnum leaf).IsLocal :=
  (isLocal_skip 2).bind fun _ => isLocal_u16.bind fun properties => (isLocal_skip 4).bind fun _ =>
    isLocal_u32.bind fun _ => (isLocal_takeRecordName leaf).bind fun _ =>
    (isLocal_skipUniqueName leaf properties).bind fun _ => .pure _

theorem isLocal_takePointer : takePointer.IsLocal := by
  refine isLocal_u32.bind fun _ => isLocal_u32.bind fun attributes => ?_
  dsimp only
  split
  · exact (isLocal_skip 4).bind fun _ => .pure _
  · exact .pure _

theorem isLocal_takeModifier : takeModifier.IsLocal :=
  isLocal_u32.bind fun _ => (isLocal_skip 2).bind fun _ => .pure _

theorem peek_eq_some_iff {bs rest : List UInt8} {n : Nat} :
    peek bs = some (n, rest) ↔ rest = bs ∧ ∃ b ∈ bs.head?, n = b.toNat := by
  cases bs with
  | nil =>
    constructor
    · intro h
      cases h
    · rintro ⟨-, b, hb, -⟩
      cases hb
  | cons b bs =>
    constructor
    · intro h
      cases h
      exact ⟨rfl, b, rfl, rfl⟩
    · rintro ⟨rfl, c, hc, rfl⟩
      cases hc
      rfl

/-- One dimension of an array, and the byte behind it that says whether it is the last. -/
theorem skipDimensions_eq_some_iff {steps : Nat} {bs rest : List UInt8} :
    skipDimensions (steps + 1) bs = some ((), rest) ↔ ∃ size middle, ∃ b ∈ middle.head?,
      takeUnsigned bs = some (size, middle) ∧ size.toNat < Text.limit32
        ∧ (if b = 0 then skip 1 else skipDimensions steps) middle = some ((), rest) := by
  have hzero : ∀ b : UInt8, b.toNat = 0 ↔ b = 0 := fun b => by
    rw [← UInt8.toNat_inj]
    rfl
  constructor
  · intro h
    obtain ⟨⟨size, middle⟩, hsize, hlast⟩ := Option.bind_eq_some_iff.mp h
    dsimp only at hlast
    split at hlast
    · cases hlast
    · next hfits =>
      obtain ⟨⟨next, middle'⟩, hpeek, hlast⟩ := Option.bind_eq_some_iff.mp hlast
      obtain ⟨rfl, b, hb, rfl⟩ := peek_eq_some_iff.mp hpeek
      simp only [hzero] at hlast
      exact ⟨size, middle', b, hb, hsize, Nat.lt_of_not_le hfits, hlast⟩
  · rintro ⟨size, middle, b, hb, hsize, hfits, hlast⟩
    refine Option.bind_eq_some_iff.mpr ⟨(size, middle), hsize, ?_⟩
    dsimp only
    rw [if_neg (Nat.not_le.mpr hfits)]
    refine Option.bind_eq_some_iff.mpr
      ⟨(b.toNat, middle), peek_eq_some_iff.mpr ⟨rfl, b, hb, rfl⟩, ?_⟩
    simp only [hzero]
    exact hlast

/-- The reader takes at least one byte and leaves `rest`.  With as many steps as it takes bytes it
takes them whatever stands behind them. -/
def TakesUpTo (take : Nat → Take Unit) (bs rest : List UInt8) : Prop :=
  ∃ used, bs = used ++ rest ∧ used ≠ [] ∧ ∀ more steps, used.length ≤ steps →
    take steps (used ++ more) = some ((), more)

/-- What is taken behind a dimension: the zero byte, or further dimensions. -/
theorem takesUpTo_behind {steps : Nat} {b : UInt8} {bs rest : List UInt8}
    (h : (if b = 0 then skip 1 else skipDimensions steps) bs = some ((), rest))
    (hmore : skipDimensions steps bs = some ((), rest) → TakesUpTo skipDimensions bs rest) :
    TakesUpTo (fun steps => if b = 0 then skip 1 else skipDimensions steps) bs rest := by
  split at h
  · next hzero =>
    obtain ⟨front, rfl, hlength⟩ := skip_eq_some_iff.mp h
    refine ⟨front, rfl, List.ne_nil_of_length_eq_add_one hlength, fun more _ _ => ?_⟩
    dsimp only
    rw [if_pos hzero]
    exact skip_eq_some_iff.mpr ⟨front, rfl, hlength⟩
  · next hnonzero =>
    obtain ⟨used, rfl, hne, htakes⟩ := hmore h
    refine ⟨used, rfl, hne, fun more steps' hsteps => ?_⟩
    dsimp only
    rw [if_neg hnonzero]
    exact htakes more steps' hsteps

/-- The dimensions of an array are local. -/
theorem skipDimensions_takesUpTo {steps : Nat} {bs rest : List UInt8}
    (h : skipDimensions steps bs = some ((), rest)) : TakesUpTo skipDimensions bs rest := by
  induction steps generalizing bs with
  | zero => cases h
  | succ steps ih =>
    obtain ⟨size, middle, b, hb, hsize, hfits, hlast⟩ := skipDimensions_eq_some_iff.mp h
    obtain ⟨used, rfl, hused⟩ := isLocal_takeUnsigned _ _ _ hsize
    obtain ⟨used', rfl, hne', hmore⟩ := takesUpTo_behind hlast ih
    have hne := IsLocal.used_ne_nil rfl hused
    refine ⟨used ++ used', (List.append_assoc _ _ _).symm,
      List.append_ne_nil_of_left_ne_nil hne _, fun more steps' hsteps => ?_⟩
    have hlength := List.length_pos_iff.mpr hne
    rw [List.length_append] at hsteps
    obtain ⟨steps', rfl⟩ := Nat.exists_eq_add_one_of_ne_zero (show steps' ≠ 0 by omega)
    rw [List.append_assoc]
    refine skipDimensions_eq_some_iff.mpr
      ⟨size, used' ++ more, b, ?_, hused _, hfits, hmore more steps' (by omega)⟩
    -- the byte that says how the dimensions go on is among those taken behind the first one
    obtain ⟨c, tail, rfl⟩ := List.exists_cons_of_ne_nil hne'
    exact hb

theorem isLocal_takeArray (isStrided : Bool) : (takeArray isStrided).IsLocal := by
  have hdimensions : ∀ item, IsLocal (do
      let bs ← get
      skipDimensions (bs.length + 1)
      return TypeData.array item) := by
    intro item bs data rest h
    obtain ⟨⟨⟨⟩, middle⟩, hskip, h⟩ := Option.bind_eq_some_iff.mp h
    cases h
    obtain ⟨used, rfl, -, hmore⟩ := skipDimensions_takesUpTo hskip
    refine ⟨used, rfl, fun more => ?_⟩
    have hlength : used.length ≤ (used ++ more).length + 1 := by
      rw [List.length_append]
      omega
    exact Option.bind_eq_some_iff.mpr ⟨((), more), hmore more _ hlength, rfl⟩
  refine isLocal_u32.bind fun item => (isLocal_skip 4).bind fun _ => ?_
  split
  · exact (isLocal_skip 4).bind fun _ => hdimensions item
  · exact hdimensions item

theorem isLocal_passed {take : Take Unit} (h : take.IsLocal) : (passed take).IsLocal :=
  h.bind fun _ => .pure _

theorem isLocal_takeField (leaf : Nat) : (takeField leaf).IsLocal := by
  have hname := isLocal_takeRecordName leaf
  unfold takeField
  split
  -- data members, enumerators, methods, then the fields that are only passed over
  case h_1 | h_2 =>
    exact (isLocal_skip 2).bind fun _ => isLocal_u32.bind fun _ => isLocal_takeUnsigned.bind
      fun _ => hname.bind fun _ => .pure _
  case h_3 | h_4 =>
    exact (isLocal_skip 2).bind fun _ => isLocal_takeValue.bind fun _ => hname.bind fun _ =>
      .pure _
  case h_11 | h_12 =>
    refine isLocal_passed (isLocal_u16.bind fun _ => (isLocal_skip 4).bind fun _ => ?_)
    dsimp only
    split
    · exact (isLocal_skip 4).bind fun _ => hname.bind fun _ => .pure _
    · exact hname.bind fun _ => .pure _
  all_goals first
    | exact .fail
    | exact isLocal_passed (isLocal_skip _)
    | exact isLocal_passed ((isLocal_skip _).bind fun _ => hname.bind fun _ => .pure _)
    | exact isLocal_passed ((isLocal_skip _).bind fun _ => isLocal_takeUnsigned.bind fun _ =>
        .pure _)
    | exact isLocal_passed ((isLocal_skip _).bind fun _ => isLocal_takeUnsigned.bind fun _ =>
        isLocal_takeUnsigned.bind fun _ => .pure _)

theorem isLocal_takeRecord (leaf : Nat) : (takeRecord leaf).IsLocal := by
  unfold takeRecord
  split
  -- each kind of record has its lemma, found by the name of its reader
  all_goals with_reducible first
    | exact isLocal_takeClass _ _
    | exact isLocal_takeUnion _
    | exact isLocal_takeEnum _
    | exact isLocal_takePointer
    | exact isLocal_takeModifier
    | exact isLocal_takeArray _
    | exact (isLocal_skip _).bind fun _ => .pure _
    | exact (isLocal_takeField _).bind fun _ => .pure _

theorem isLocal_takeItem (leaf : Nat) : (takeItem leaf).IsLocal := by
  unfold takeItem
  split
  case h_1 => exact isLocal_u32.bind fun _ => .pure _
  all_goals first
    | exact (isLocal_takeRecord _).bind fun _ => .pure _
    | exact (isLocal_takeField _).bind fun _ => .pure _

/-! ## §2. Padding. -/

/-- A run of pads; each says in its low half how many bytes it has. -/
inductive IsPadding : List UInt8 → Prop
  | nil : IsPadding []
  | pad {b : UInt8} {skipped more : List UInt8} (isPad : 0xF0 ≤ b.toNat)
      (length : skipped.length = b.toNat % 16 - 1) (rest : IsPadding more) :
      IsPadding (b :: (skipped ++ more))

/-- The bytes do not begin with a pad. -/
def BeginsUnpadded (bs : List UInt8) : Prop :=
  ∀ b ∈ bs.head?, b.toNat < 0xF0

theorem IsPadding.eq_nil {pads rest : List UInt8} (h : IsPadding pads)
    (hunpadded : BeginsUnpadded (pads ++ rest)) : pads = [] := by
  cases h with
  | nil => rfl
  | pad isPad => exact absurd isPad (Nat.not_le.mpr (hunpadded _ rfl))

/-- One pad at the front. -/
theorem skipPadding_cons {steps : Nat} {b : UInt8} {bs rest : List UInt8}
    (hpad : 0xF0 ≤ b.toNat) :
    skipPadding (steps + 1) (b :: bs) = some ((), rest)
      ↔ ∃ skipped middle, bs = skipped ++ middle ∧ skipped.length = b.toNat % 16 - 1
        ∧ skipPadding steps middle = some ((), rest) := by
  have hstep : skipPadding (steps + 1) (b :: bs)
      = (Take.skip (b.toNat % 16 - 1) >>= fun _ => skipPadding steps) bs := by
    rw [skipPadding]
    show (if b.toNat ≥ 0xF0 then _ else _ : Take Unit) (b :: bs) = _
    rw [if_pos hpad]
    rfl
  rw [hstep]
  constructor
  · intro h
    obtain ⟨⟨⟨⟩, middle⟩, hskip, hlast⟩ := Option.bind_eq_some_iff.mp h
    obtain ⟨skipped, hbs, hlength⟩ := skip_eq_some_iff.mp hskip
    exact ⟨skipped, middle, hbs, hlength, hlast⟩
  · rintro ⟨skipped, middle, rfl, hlength, hlast⟩
    exact Option.bind_eq_some_iff.mpr
      ⟨((), middle), skip_eq_some_iff.mpr ⟨skipped, rfl, hlength⟩, hlast⟩

/-- Where no pad stands nothing is skipped. -/
theorem skipPadding_of_unpadded (steps : Nat) {bs rest : List UInt8} (h : BeginsUnpadded bs) :
    skipPadding steps bs = some ((), rest)
      ↔ ∃ pads, bs = pads ++ rest ∧ IsPadding pads ∧ BeginsUnpadded rest := by
  have hstays : skipPadding steps bs = some ((), bs) := by
    cases steps with
    | zero => rfl
    | succ steps =>
      cases bs with
      | nil => rfl
      | cons b bs =>
        rw [skipPadding]
        show (if b.toNat ≥ 0xF0 then _ else _ : Take Unit) (b :: bs) = _
        rw [if_neg (Nat.not_le.mpr (h b rfl))]
        rfl
  rw [hstays]
  constructor
  · intro hrest
    cases hrest
    exact ⟨[], rfl, .nil, h⟩
  · rintro ⟨pads, rfl, hpads, -⟩
    rw [hpads.eq_nil h]
    rfl

/-- **Padding** is skipped up to the first byte that is no pad. -/
theorem skipPadding_eq_some_iff {steps : Nat} {bs rest : List UInt8} (hsteps : bs.length ≤ steps) :
    skipPadding steps bs = some ((), rest)
      ↔ ∃ pads, bs = pads ++ rest ∧ IsPadding pads ∧ BeginsUnpadded rest := by
  induction steps generalizing bs with
  | zero =>
    obtain rfl := List.length_eq_zero_iff.mp (Nat.le_zero.mp hsteps)
    exact skipPadding_of_unpadded 0 nofun
  | succ steps ih =>
    by_cases hunpadded : BeginsUnpadded bs
    · exact skipPadding_of_unpadded (steps + 1) hunpadded
    · obtain ⟨b, bs, rfl, hpad⟩ : ∃ b tail, bs = b :: tail ∧ 0xF0 ≤ b.toNat := by
        cases bs with
        | nil => exact absurd nofun hunpadded
        | cons b tail =>
          refine ⟨b, tail, rfl, Nat.not_lt.mp fun hlow => hunpadded fun c hc => ?_⟩
          cases hc
          exact hlow
      rw [skipPadding_cons hpad]
      rw [List.length_cons] at hsteps
      constructor
      · rintro ⟨skipped, middle, rfl, hlength, hlast⟩
        rw [List.length_append] at hsteps
        obtain ⟨pads, rfl, hpads, hrest⟩ := (ih (by omega)).mp hlast
        exact ⟨b :: (skipped ++ pads), by rw [List.cons_append, List.append_assoc],
          .pad hpad hlength hpads, hrest⟩
      · rintro ⟨pads, hbs, hpads, hrest⟩
        cases hpads with
        | nil => exact absurd (hbs ▸ hrest) hunpadded
        | pad isPad hlength hmore =>
          next c skipped more =>
          rw [List.cons_append, List.append_assoc] at hbs
          cases hbs
          rw [List.length_append] at hsteps
          exact ⟨skipped, more ++ rest, rfl, hlength,
            (ih (by omega)).mpr ⟨more, rfl, hmore, hrest⟩⟩

/-! ## §3. Entries. -/

/-- An entry of a field list: its kind, and what it says.  A list inside a list says nothing. -/
structure Entry where
  leaf : Nat
  item : Item

/-- The field of interest in an item. -/
def Item.field? : Item → Option Field
  | .field f => f
  | .next _ => none

/-- The list in which an item goes on. -/
def Item.next? : Item → Option Nat
  | .field _ => none
  | .next list => some list

/-- The fields of interest among entries. -/
def fieldsAmong (entries : List Entry) : List Field :=
  (entries.map Entry.item).filterMap Item.field?

/-- Where entries go on: the last number of a list counts. -/
def nextAmong (entries : List Entry) : Option Nat :=
  ((entries.map Entry.item).filterMap Item.next?).getLast?

/-- The kinds of data members. -/
def dataMemberKinds : List Nat := [0x150D, 0x1405]

/-- The kinds of enumerators. -/
def enumeratorKinds : List Nat := [0x1502, 0x0403]

/-- A field is of interest exactly if its kind is that of a data member or an enumerator, and no
kind looks like a pad. -/
def KindFits (leaf : Nat) (isOfInterest : Bool) : Prop :=
  leaf % 0x100 < 0xF0 ∧ (isOfInterest = true ↔ leaf ∈ dataMemberKinds ++ enumeratorKinds)

instance (leaf : Nat) (isOfInterest : Bool) : Decidable (KindFits leaf isOfInterest) :=
  inferInstanceAs (Decidable (_ ∧ _))

theorem passed_yields {take : Take Unit} {leaf : Nat} (h : KindFits leaf false) :
    (passed take).Yields fun f => KindFits leaf f.isSome :=
  .next fun _ => .pure h

theorem takeField_yields (leaf : Nat) :
    (takeField leaf).Yields fun f => KindFits leaf f.isSome := by
  unfold takeField
  split
  -- data members, enumerators, then the fields that are only passed over
  case h_1 | h_2 =>
    exact .next fun _ => .next fun _ => .next fun _ => .next fun _ =>
      .pure (show KindFits _ true by decide)
  case h_3 | h_4 =>
    exact .next fun _ => .next fun _ => .next fun _ => .pure (show KindFits _ true by decide)
  case h_21 => exact nofun
  all_goals exact passed_yields (by decide)

theorem takeItem_yields (leaf : Nat) :
    (takeItem leaf).Yields fun item => KindFits leaf item.field?.isSome := by
  unfold takeItem
  split
  case h_19 => exact (takeField_yields leaf).bind fun _ hfits => .pure hfits
  -- numbers of lists, and records that are passed over
  all_goals exact .next fun _ => .pure (show KindFits _ false by decide)

/-! ## §4. Runs of entries. -/

/-- **What bytes say, entry by entry**: each behind its kind, and in front of its padding.  A list
inside a list takes all bytes. -/
inductive ReadsAs : List UInt8 → List Entry → Prop
  | nil : ReadsAs [] []
  | item {bs after pads rest : List UInt8} {leaf : Nat} {item : Item} {entries : List Entry}
      (kind : u16 bs = some (leaf, after)) (isItem : leaf ≠ fieldListLeaf)
      (takes : takeItem leaf after = some (item, pads ++ rest)) (padding : IsPadding pads)
      (more : ReadsAs rest entries) : ReadsAs bs (⟨leaf, item⟩ :: entries)
  | list {bs after : List UInt8} {entries : List Entry}
      (kind : u16 bs = some (fieldListLeaf, after)) (inner : ReadsAs after entries) :
      ReadsAs bs [⟨fieldListLeaf, .field none⟩]

/-- The entry is a field, and neither a list nor the number of one. -/
def Entry.IsField (e : Entry) : Prop :=
  e.leaf ≠ fieldListLeaf ∧ e.item.next? = none

/-- A kind that is no pad stands at the front. -/
theorem beginsUnpadded_of_u16 {bs after : List UInt8} {leaf : Nat}
    (hkind : u16 bs = some (leaf, after)) (hleaf : leaf % 0x100 < 0xF0) : BeginsUnpadded bs := by
  obtain ⟨low, high, rfl, rfl⟩ := u16_eq_some_iff.mp hkind
  intro b hb
  cases hb
  have hbyte := low.toNat_lt
  omega

namespace ReadsAs

variable {bs : List UInt8} {entries : List Entry}

theorem beginsUnpadded (h : ReadsAs bs entries) : BeginsUnpadded bs := by
  cases h with
  | nil => exact nofun
  | item kind _ takes => exact beginsUnpadded_of_u16 kind (takeItem_yields _ _ _ _ takes).1
  | list kind => exact beginsUnpadded_of_u16 kind (by decide)

/-- **Runs of fields are joined** by reading on behind them. -/
theorem append {more : List UInt8} {entries' : List Entry} (h : ReadsAs bs entries)
    (hfields : ∀ e ∈ entries, e.IsField) (hmore : ReadsAs more entries') :
    ReadsAs (bs ++ more) (entries ++ entries') := by
  -- induction on the first run, whose bytes are taken with the others behind them
  induction h with
  | nil => exact hmore
  | item kind isItem takes padding _ ih =>
    have htakes := (isLocal_takeItem _).append takes more
    rw [List.append_assoc] at htakes
    exact .item (isLocal_u16.append kind more) isItem htakes padding
      (ih (List.forall_mem_cons.mp hfields).2)
  | list => exact absurd rfl (hfields _ List.mem_cons_self).1

/-- A field among the entries is of interest exactly if its kind says so. -/
theorem field?_isSome_iff (h : ReadsAs bs entries) {e : Entry} (he : e ∈ entries) :
    e.item.field?.isSome ↔ e.leaf ∈ dataMemberKinds ++ enumeratorKinds := by
  induction h with
  | nil => cases he
  | item _ _ takes _ _ ih =>
    rcases List.mem_cons.mp he with rfl | he
    · exact (takeItem_yields _ _ _ _ takes).2
    · exact ih he
  | list =>
    obtain rfl := List.mem_singleton.mp he
    decide

end ReadsAs

/-! ## §5. Field lists. -/

theorem nextAmong_cons (e : Entry) (entries : List Entry) :
    nextAmong (e :: entries) = (nextAmong entries <|> e.item.next?) := by
  unfold nextAmong
  rw [List.map_cons]
  cases hnext : e.item.next? with
  | none =>
    rw [List.filterMap_cons_none hnext]
    cases ((entries.map Entry.item).filterMap Item.next?).getLast? <;> rfl
  | some list =>
    rw [List.filterMap_cons_some hnext, List.getLast?_cons]
    cases ((entries.map Entry.item).filterMap Item.next?).getLast? <;> rfl

theorem fieldsAmong_cons (e : Entry) (entries : List Entry) :
    fieldsAmong (e :: entries) = e.item.field?.toList ++ fieldsAmong entries := by
  unfold fieldsAmong
  rw [List.map_cons]
  cases hfield : e.item.field? with
  | none => exact List.filterMap_cons_none hfield
  | some f => exact List.filterMap_cons_some hfield

section Steps

variable {steps leaf : Nat} {bs after rest : List UInt8} {fields : List Field} {next : Option Nat}

/-- A list inside a list. -/
theorem takeFields_of_list (hkind : u16 bs = some (fieldListLeaf, after)) :
    takeFields (steps + 1) bs = some ((fields, next), rest)
      ↔ (∃ inner, takeFields steps after = some (inner, rest)) ∧ fields = [] ∧ next = none := by
  obtain ⟨low, high, rfl, hleaf⟩ := u16_eq_some_iff.mp hkind
  have hstep : takeFields (steps + 1) (low :: high :: after)
      = (takeFields steps >>= fun _ => pure ([], none)) after := by
    show (if low.toNat + 0x100 * high.toNat = fieldListLeaf then _ else _ : Take _) after = _
    rw [if_pos hleaf.symm]
  rw [hstep]
  constructor
  · intro h
    obtain ⟨⟨inner, behind⟩, hinner, hlast⟩ := Option.bind_eq_some_iff.mp h
    cases hlast
    exact ⟨⟨inner, hinner⟩, rfl, rfl⟩
  · rintro ⟨⟨inner, hinner⟩, rfl, rfl⟩
    exact Option.bind_eq_some_iff.mpr ⟨(inner, rest), hinner, rfl⟩

/-- One item in front of the others. -/
theorem takeFields_of_item (hkind : u16 bs = some (leaf, after)) (hleaf : leaf ≠ fieldListLeaf) :
    takeFields (steps + 1) bs = some ((fields, next), rest)
      ↔ ∃ item middle behind fields' next', takeItem leaf after = some (item, middle)
        ∧ skipPadding middle.length middle = some ((), behind)
        ∧ takeFields steps behind = some ((fields', next'), rest)
        ∧ fields = item.field?.toList ++ fields' ∧ next = (next' <|> item.next?) := by
  obtain ⟨low, high, rfl, rfl⟩ := u16_eq_some_iff.mp hkind
  have hstep : takeFields (steps + 1) (low :: high :: after)
      = (takeItem (low.toNat + 0x100 * high.toNat) >>= fun item => get >>= fun bs =>
        skipPadding bs.length >>= fun _ => takeFields steps >>= fun read => match item with
          | .field f => pure (f.toList ++ read.1, read.2)
          | .next list => pure (read.1, read.2 <|> some list)) after := by
    show (if low.toNat + 0x100 * high.toNat = fieldListLeaf then _ else _ : Take _) after = _
    rw [if_neg hleaf]
    rfl
  rw [hstep]
  constructor
  · intro h
    obtain ⟨⟨item, middle⟩, hitem, h'⟩ := Option.bind_eq_some_iff.mp h
    obtain ⟨⟨⟨⟩, behind⟩, hpadding, h''⟩ := Option.bind_eq_some_iff.mp h'
    obtain ⟨⟨⟨fields', next'⟩, rest'⟩, hrest, hlast⟩ := Option.bind_eq_some_iff.mp h''
    refine ⟨item, middle, behind, fields', next', hitem, hpadding, ?_⟩
    cases item with
    | field f =>
      cases hlast
      exact ⟨hrest, rfl, by cases next' <;> rfl⟩
    | next list =>
      cases hlast
      exact ⟨hrest, rfl, rfl⟩
  · rintro ⟨item, middle, behind, fields', next', hitem, hpadding, hrest, rfl, rfl⟩
    refine Option.bind_eq_some_iff.mpr ⟨(item, middle), hitem, ?_⟩
    refine Option.bind_eq_some_iff.mpr ⟨((), behind), hpadding, ?_⟩
    refine Option.bind_eq_some_iff.mpr ⟨((fields', next'), rest), hrest, ?_⟩
    cases item with
    | field f => cases next' <;> rfl
    | next list => rfl

end Steps

theorem length_of_u16 {bs after : List UInt8} {leaf : Nat} (h : u16 bs = some (leaf, after)) :
    bs.length = after.length + 2 := by
  obtain ⟨low, high, rfl, -⟩ := u16_eq_some_iff.mp h
  rfl

/-- Entries are read with their fields, and with the list in which they go on. -/
theorem takeFields_of_readsAs {steps : Nat} {bs : List UInt8} {entries : List Entry}
    (h : ReadsAs bs entries) (hsteps : bs.length < steps) :
    takeFields steps bs = some ((fieldsAmong entries, nextAmong entries), []) := by
  -- induction on the entries, each of which takes one step and at least two bytes
  induction h generalizing steps with
  | nil =>
    obtain ⟨steps, rfl⟩ := Nat.exists_eq_add_one_of_ne_zero (Nat.ne_of_gt hsteps)
    rfl
  | item kind isItem takes padding more ih =>
    obtain ⟨steps, rfl⟩ := Nat.exists_eq_add_one_of_ne_zero (Nat.ne_zero_of_lt hsteps)
    have hlength := length_of_u16 kind
    have hle := (isLocal_takeItem _).length_le takes
    rw [List.length_append] at hle
    exact (takeFields_of_item kind isItem).mpr ⟨_, _, _, _, _, takes,
      (skipPadding_eq_some_iff le_rfl).mpr ⟨_, rfl, padding, more.beginsUnpadded⟩,
      ih (by omega), fieldsAmong_cons _ _, nextAmong_cons _ _⟩
  | list kind _ ih =>
    obtain ⟨steps, rfl⟩ := Nat.exists_eq_add_one_of_ne_zero (Nat.ne_zero_of_lt hsteps)
    have hlength := length_of_u16 kind
    exact (takeFields_of_list kind).mpr ⟨⟨_, ih (by omega)⟩, rfl, rfl⟩

/-- See `takeFields_of_readsAs`: nothing else is read. -/
theorem readsAs_of_takeFields {steps : Nat} {bs rest : List UInt8} {fields : List Field}
    {next : Option Nat} (h : takeFields steps bs = some ((fields, next), rest))
    (hsteps : bs.length < steps) :
    ∃ entries, ReadsAs bs entries ∧ fields = fieldsAmong entries ∧ next = nextAmong entries := by
  induction steps generalizing bs fields next with
  | zero => exact absurd hsteps (Nat.not_lt_zero _)
  | succ steps ih =>
    match bs with
    | [] =>
      cases h
      exact ⟨[], .nil, rfl, rfl⟩
    | [_] => cases h
    | low :: high :: after =>
      have hkind : u16 (low :: high :: after) = some (_, after) :=
        u16_eq_some_iff.mpr ⟨low, high, rfl, rfl⟩
      have hlength := length_of_u16 hkind
      by_cases hleaf : low.toNat + 0x100 * high.toNat = fieldListLeaf
      · rw [hleaf] at hkind
        obtain ⟨⟨⟨fields', next'⟩, hinner⟩, rfl, rfl⟩ := (takeFields_of_list hkind).mp h
        obtain ⟨entries, hentries, -⟩ := ih hinner (by omega)
        exact ⟨_, .list hkind hentries, rfl, rfl⟩
      · obtain ⟨item, middle, behind, fields', next', hitem, hpadding, hrest, rfl, rfl⟩ :=
          (takeFields_of_item hkind hleaf).mp h
        obtain ⟨pads, rfl, hpads, -⟩ := (skipPadding_eq_some_iff le_rfl).mp hpadding
        have hle := (isLocal_takeItem _).length_le hitem
        rw [List.length_append] at hle
        obtain ⟨entries, hentries, rfl, rfl⟩ := ih hrest (by omega)
        exact ⟨_, .item hkind hleaf hitem hpads hentries,
          (fieldsAmong_cons ⟨_, item⟩ entries).symm, (nextAmong_cons ⟨_, item⟩ entries).symm⟩

/-- The kind of a field list, in front of its entries. -/
def listHeader : List UInt8 := [0x03, 0x12]

/-- The record is a field list with these entries. -/
def IsFieldList (record : List UInt8) (entries : List Entry) : Prop :=
  ∃ body, record = listHeader ++ body ∧ ReadsAs body entries

theorem u16_listHeader_iff {record body : List UInt8} :
    u16 record = some (fieldListLeaf, body) ↔ record = listHeader ++ body := by
  constructor
  · intro h
    obtain ⟨low, high, rfl, hleaf⟩ := u16_eq_some_iff.mp h
    have hlow := low.toNat_lt
    have hhigh := high.toNat_lt
    unfold fieldListLeaf at hleaf
    have hlowByte : low = 0x03 := UInt8.toNat_inj.mp (show low.toNat = 0x03 by omega)
    have hhighByte : high = 0x12 := UInt8.toNat_inj.mp (show high.toNat = 0x12 by omega)
    rw [hlowByte, hhighByte]
    rfl
  · rintro rfl
    rfl

/-- **A record is read as a field list** exactly if its bytes say so entry by entry. -/
theorem typeData?_eq_fieldList_iff {record : List UInt8} {fields : List Field}
    {next : Option Nat} :
    typeData? record = some (.fieldList fields next) ↔ ∃ entries, IsFieldList record entries
      ∧ fields = fieldsAmong entries ∧ next = nextAmong entries := by
  constructor
  · intro h
    obtain ⟨⟨data, rest⟩, hread, hdata⟩ := Option.map_eq_some_iff.mp h
    obtain ⟨⟨leaf, body⟩, hkind, hbody⟩ := Option.bind_eq_some_iff.mp hread
    dsimp only at hdata hbody
    split at hbody
    · next hleaf =>
      obtain ⟨⟨⟨fields', next'⟩, rest'⟩, hfields, hlast⟩ := Option.bind_eq_some_iff.mp hbody
      cases hlast
      cases hdata
      rw [hleaf] at hkind
      obtain ⟨entries, hentries, rfl, rfl⟩ := readsAs_of_takeFields hfields (Nat.lt_succ_self _)
      exact ⟨entries, ⟨body, u16_listHeader_iff.mp hkind, hentries⟩, rfl, rfl⟩
    · exact absurd hdata ((takeRecord_yields leaf body data rest hbody).ne_fieldList fields next)
  · rintro ⟨entries, ⟨body, hrecord, hentries⟩, rfl, rfl⟩
    have hkind := u16_listHeader_iff.mpr hrecord
    have hfields := takeFields_of_readsAs hentries (Nat.lt_succ_self _)
    refine Option.map_eq_some_iff.mpr ⟨(_, []), ?_, rfl⟩
    refine Option.bind_eq_some_iff.mpr ⟨(fieldListLeaf, body), hkind, ?_⟩
    exact Option.bind_eq_some_iff.mpr ⟨_, hfields, rfl⟩

end DebugMerge.Pdb
