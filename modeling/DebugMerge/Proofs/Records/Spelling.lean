/-
  DebugMerge.Proofs.Records.Spelling
  ──────────────────────────────────
  **The objects that spell a record, and their reading.**

  A record has many spellings: its fields may stand in any order, a field may
  be left out where its default says the same, and fields nobody asks for may
  stand between them.  `Spells` says what all spellings have in common, one
  condition per declared field, and a reader answers the record for each of
  them.  What a writer writes is one spelling.

  Main definitions
    • `FieldSpelling`, `Spells`          — declared fields, and objects that hold them
    • `spelling` of every record type    — the declared fields of a record
  Main statements
    • `ofJson?_of_spells` of every record type  — a spelling reads back
    • `spells_toFields`                  — what is written is a spelling
-/
import DebugMerge.Proofs.Records.RoundTrip
import Mathlib.Data.List.Forall2

namespace DebugMerge

open Json

variable {α : Type}

/-! ## §1. Declared fields. -/

/-- A declared field of an object: its name, whether it may be left out, and which values
stand for what it holds. -/
structure Json.FieldSpelling where
  name : String
  mayOmit : Prop
  stands : Json → Prop

namespace Json

/-- A field that must stand, with the given value. -/
def FieldSpelling.must (name : String) (v : Json) : FieldSpelling :=
  ⟨name, False, (· = v)⟩

/-- A field with the given value, which may be left out if that says the same. -/
def FieldSpelling.may (name : String) (isDefault : Prop) (v : Json) : FieldSpelling :=
  ⟨name, isDefault, (· = v)⟩

/-- The fields of the given name. -/
def called (name : String) (fields : List (String × Json)) : List (String × Json) :=
  fields.filter fun field => field.1 = name

/-- The object holds the field: it stands once, or is left out where it may be. -/
def FieldSpelling.HoldsIn (f : FieldSpelling) (fields : List (String × Json)) : Prop :=
  (f.mayOmit ∧ called f.name fields = [])
    ∨ ∃ v, f.stands v ∧ called f.name fields = [(f.name, v)]

/-- The object holds every declared field.  Nothing is said about their order, nor about
other fields. -/
def Spells (declared : List FieldSpelling) (fields : List (String × Json)) : Prop :=
  ∀ f ∈ declared, f.HoldsIn fields

/-- The value is an object that holds every declared field. -/
def IsObjectOf (declared : List FieldSpelling) (v : Json) : Prop :=
  ∃ fields, v = object fields ∧ Spells declared fields

/-- The value is a list whose items stand for the given ones. -/
def IsListOf (stands : α → Json → Prop) (items : List α) (v : Json) : Prop :=
  ∃ vs, v = list vs ∧ List.Forall₂ stands items vs

/-- A field that nobody asks for leaves a spelling a spelling. -/
theorem Spells.append {declared : List FieldSpelling} {fields extra : List (String × Json)}
    (h : Spells declared fields)
    (hextra : ∀ f ∈ declared, ∀ field ∈ extra, field.1 ≠ f.name) :
    Spells declared (fields ++ extra) := by
  intro f hf
  -- a declared field is looked for by its name, which none of the others has
  have hnone : called f.name extra = [] :=
    List.filter_eq_nil_iff.mpr fun field hfield => by simpa using hextra f hf field hfield
  have hcalled : called f.name (fields ++ extra) = called f.name fields := by
    unfold called at hnone ⊢
    rw [List.filter_append, hnone, List.append_nil]
  unfold FieldSpelling.HoldsIn
  rw [hcalled]
  exact h f hf

/-! ## §2. Reading declared fields. -/

section Slots

variable {name : String} {stands : Json → Prop} {fields : List (String × Json)} {a : α}
  {read : Json → Option α}

theorem slotOf?_of_called {v : Json} (h : called name fields = [(name, v)]) :
    slotOf? name fields = some (.value v) := by
  unfold slotOf?
  rw [show (fields.filter fun field => field.1 = name) = [(name, v)] from h]

theorem slotOf?_of_called_nil (h : called name fields = []) :
    slotOf? name fields = some .omitted := by
  unfold slotOf?
  rw [show (fields.filter fun field => field.1 = name) = [] from h]

/-- A field without a default. -/
theorem FieldSpelling.HoldsIn.required (h : (FieldSpelling.mk name False stands).HoldsIn fields)
    (hread : ∀ v, stands v → read v = some a) :
    ∃ slot, slotOf? name fields = some slot ∧ slot.required read = some a := by
  rcases h with ⟨hfalse, -⟩ | ⟨v, hv, hcalled⟩
  · exact hfalse.elim
  · exact ⟨.value v, slotOf?_of_called hcalled, hread v hv⟩

/-- A field with a default. -/
theorem FieldSpelling.HoldsIn.defaulted {fallback : α}
    (h : (FieldSpelling.mk name (a = fallback) stands).HoldsIn fields)
    (hread : ∀ v, stands v → read v = some a) :
    ∃ slot, slotOf? name fields = some slot ∧ slot.defaulted fallback read = some a := by
  rcases h with ⟨hdefault, hcalled⟩ | ⟨v, hv, hcalled⟩
  · exact ⟨.omitted, slotOf?_of_called_nil hcalled, hdefault ▸ rfl⟩
  · exact ⟨.value v, slotOf?_of_called hcalled, hread v hv⟩

/-- An optional field: `null` and absence are no value. -/
theorem FieldSpelling.HoldsIn.optional {write : α → Json} {value : Option α}
    (h : (FieldSpelling.mk name (value = none) (· = ofOption write value)).HoldsIn fields)
    (hread : ∀ a, read (write a) = some a) (hnull : ∀ a, write a ≠ null) :
    ∃ slot, slotOf? name fields = some slot ∧ slot.optional read = some value := by
  rcases h with ⟨hnone, hcalled⟩ | ⟨v, hv, hcalled⟩
  · exact ⟨.omitted, slotOf?_of_called_nil hcalled, hnone ▸ rfl⟩
  · refine ⟨.value v, slotOf?_of_called hcalled, ?_⟩
    cases value with
    | none => rw [show v = null from hv]; rfl
    | some a =>
      -- what is written is never `null`, so the reader takes it for a value
      have hwritten : v = write a := hv
      unfold Slot.optional
      split
      · rename_i hslot
        exact absurd (hwritten.symm.trans (Slot.value.inj hslot)) (hnull a)
      · rename_i w _ hslot
        rw [← Slot.value.inj hslot, hwritten, hread]
        rfl
      · rename_i hother
        exact absurd rfl (hother v)

end Slots

/-- A list reads back if its items do. -/
theorem list?_of_isListOf {stands : α → Json → Prop} {read : Json → Option α}
    (hread : ∀ a v, stands a v → read v = some a) {items : List α} {v : Json}
    (h : IsListOf stands items v) : list? read v = some items := by
  obtain ⟨vs, rfl, hitems⟩ := h
  show readItems? read vs = some items
  induction hitems with
  | nil => rfl
  | cons hstands _ ih => simp [readItems?, hread _ _ hstands, ih]

/-- What a writer writes item by item. -/
theorem isListOf_map {stands : α → Json → Prop} {write : α → Json}
    (h : ∀ a, stands a (write a)) (items : List α) :
    IsListOf stands items (list (items.map write)) := by
  refine ⟨items.map write, rfl, ?_⟩
  induction items with
  | nil => exact .nil
  | cons a items ih => exact .cons (h a) ih

end Json

/-! ## §3. Records. -/

theorem Json.word32?_ofWord32 (n : UInt32) : word32? (ofWord32 n) = some n := by
  have hn : n.toNat < Text.limit32 := n.toNat_lt
  simp [word32?, ofWord32, natBelow?, hn]

theorem Json.ofWord32_ne_null (n : UInt32) : ofWord32 n ≠ null := nofun

theorem Json.isPlain_ofWord32 (n : UInt32) : (ofWord32 n).IsPlain := by
  have hn : n.toNat < 2 ^ 32 := n.toNat_lt
  show n.toNat < Text.limit64
  have hlimit : Text.limit64 = 2 ^ 64 := rfl
  omega

/-- A word of a vocabulary, as it is written. -/
theorem Json.choice?_text {ofWord? : String → Option α} {word : String} {a : α}
    (h : ofWord? word = some a) {v : Json} (hv : v = text word) : choice? ofWord? v = some a := by
  subst hv
  exact h

theorem Json.text?_of_eq {s : String} {v : Json} (h : v = text s) : text? v = some s := by
  subst h
  rfl

theorem Json.word64?_of_eq {n : UInt64} {v : Json} (h : v = ofWord64 n) : word64? v = some n := by
  subst h
  exact word64?_ofWord64 n

theorem Json.word32?_of_eq {n : UInt32} {v : Json} (h : v = ofWord32 n) : word32? v = some n := by
  subst h
  exact word32?_ofWord32 n

namespace Member

/-- The declared fields of a member. -/
def spelling (m : Member) : List FieldSpelling :=
  [.must "name" (text m.name), .must "offset" (ofWord64 m.offset),
    .may "type_name" (m.typeName = "") (text m.typeName)]

theorem ofJson?_of_spells (m : Member) (v : Json) (h : IsObjectOf m.spelling v) :
    Member.ofJson? v = some m := by
  obtain ⟨fields, rfl, h⟩ := h
  simp only [Spells, spelling, List.forall_mem_cons] at h
  obtain ⟨name, offset, typeName, -⟩ := h
  obtain ⟨_, hname, rname⟩ := name.required fun _ => text?_of_eq
  obtain ⟨_, hoffset, roffset⟩ := offset.required fun _ => word64?_of_eq
  obtain ⟨_, htype, rtype⟩ := typeName.defaulted fun _ => text?_of_eq
  simp [Member.ofJson?, slots?, slotsOfFields?, hname, hoffset, htype, rname, roffset, rtype]

theorem spells_toJson (m : Member) : IsObjectOf m.spelling m.toJson := by
  refine ⟨_, rfl, ?_⟩
  simp [Spells, spelling, FieldSpelling.HoldsIn, FieldSpelling.must, FieldSpelling.may, called]

end Member

namespace TypeRecord

/-- The declared fields of a data type. -/
def spelling (r : TypeRecord) : List FieldSpelling :=
  [.must "name" (text r.name), .must "kind" r.kind.toJson,
    .may "size" (r.size = 0) (ofWord64 r.size),
    ⟨"members", r.members = [], IsListOf (fun m => IsObjectOf m.spelling) r.members⟩]

theorem ofJson?_of_spells (r : TypeRecord) (v : Json) (h : IsObjectOf r.spelling v) :
    TypeRecord.ofJson? v = some r := by
  obtain ⟨fields, rfl, h⟩ := h
  simp only [Spells, spelling, List.forall_mem_cons] at h
  obtain ⟨name, kind, size, members, -⟩ := h
  obtain ⟨_, hname, rname⟩ := name.required fun _ => text?_of_eq
  obtain ⟨_, hkind, rkind⟩ := kind.required fun _ => choice?_text r.kind.ofWord?_word
  obtain ⟨_, hsize, rsize⟩ := size.defaulted fun _ => word64?_of_eq
  obtain ⟨_, hmembers, rmembers⟩ := members.defaulted fun _ =>
    list?_of_isListOf Member.ofJson?_of_spells
  have rkind : Slot.required TypeKind.ofJson? _ = some r.kind := rkind
  simp [TypeRecord.ofJson?, slots?, slotsOfFields?, hname, hkind, hsize, hmembers, rname, rkind,
    rsize, rmembers]

theorem spells_toJson (r : TypeRecord) : IsObjectOf r.spelling r.toJson := by
  have hmembers := isListOf_map Member.spells_toJson r.members
  refine ⟨_, rfl, ?_⟩
  simp [Spells, spelling, FieldSpelling.HoldsIn, FieldSpelling.must, FieldSpelling.may, called,
    hmembers]

theorem isPlain_toJson (r : TypeRecord) : r.toJson.IsPlain :=
  ⟨trivial, trivial, isPlain_ofWord64 r.size,
    arePlain_map Member.toJson Member.isPlain_toJson r.members, trivial⟩

end TypeRecord

namespace SymbolRecord

/-- The declared fields of a symbol. -/
def spelling (r : SymbolRecord) : List FieldSpelling :=
  [.must "name" (text r.name), .must "rva" (ofWord64 r.rva),
    .may "size" (r.size = none) (ofOption ofWord64 r.size), .must "kind" r.kind.toJson,
    .may "scope" (r.scope = .publicTable) r.scope.toJson]

theorem ofJson?_of_spells (r : SymbolRecord) (v : Json) (h : IsObjectOf r.spelling v) :
    SymbolRecord.ofJson? v = some r := by
  obtain ⟨fields, rfl, h⟩ := h
  simp only [Spells, spelling, List.forall_mem_cons] at h
  obtain ⟨name, rva, size, kind, scope, -⟩ := h
  obtain ⟨_, hname, rname⟩ := name.required fun _ => text?_of_eq
  obtain ⟨_, hrva, rrva⟩ := rva.required fun _ => word64?_of_eq
  obtain ⟨_, hsize, rsize⟩ := size.optional word64?_ofWord64 ofWord64_ne_null
  obtain ⟨_, hkind, rkind⟩ := kind.required fun _ => choice?_text r.kind.ofWord?_word
  obtain ⟨_, hscope, rscope⟩ := scope.defaulted fun _ => choice?_text r.scope.ofWord?_word
  have rkind : Slot.required SymbolKind.ofJson? _ = some r.kind := rkind
  have rscope : Slot.defaulted .publicTable SymbolScope.ofJson? _ = some r.scope := rscope
  simp [SymbolRecord.ofJson?, slots?, slotsOfFields?, hname, hrva, hsize, hkind, hscope, rname,
    rrva, rsize, rkind, rscope]

theorem spells_toJson (r : SymbolRecord) : IsObjectOf r.spelling r.toJson := by
  refine ⟨_, rfl, ?_⟩
  simp [Spells, spelling, FieldSpelling.HoldsIn, FieldSpelling.must, FieldSpelling.may, called]

theorem isPlain_toJson (r : SymbolRecord) : r.toJson.IsPlain := by
  refine ⟨trivial, isPlain_ofWord64 r.rva, ?_, trivial, trivial, trivial⟩
  cases r.size with
  | none => trivial
  | some size => exact isPlain_ofWord64 size

end SymbolRecord

namespace LineRecord

/-- The declared fields of a source line. -/
def spelling (r : LineRecord) : List FieldSpelling :=
  [.must "rva" (ofWord64 r.rva), .must "file" (text r.file), .must "line" (ofWord32 r.line)]

theorem ofJson?_of_spells (r : LineRecord) (v : Json) (h : IsObjectOf r.spelling v) :
    LineRecord.ofJson? v = some r := by
  obtain ⟨fields, rfl, h⟩ := h
  simp only [Spells, spelling, List.forall_mem_cons] at h
  obtain ⟨rva, file, line, -⟩ := h
  obtain ⟨_, hrva, rrva⟩ := rva.required fun _ => word64?_of_eq
  obtain ⟨_, hfile, rfile⟩ := file.required fun _ => text?_of_eq
  obtain ⟨_, hline, rline⟩ := line.required fun _ => word32?_of_eq
  simp [LineRecord.ofJson?, slots?, slotsOfFields?, hrva, hfile, hline, rrva, rfile, rline]

theorem spells_toJson (r : LineRecord) : IsObjectOf r.spelling r.toJson := by
  refine ⟨_, rfl, ?_⟩
  simp [Spells, spelling, FieldSpelling.HoldsIn, FieldSpelling.must, called]

theorem isPlain_toJson (r : LineRecord) : r.toJson.IsPlain :=
  ⟨isPlain_ofWord64 r.rva, trivial, isPlain_ofWord32 r.line, trivial⟩

end LineRecord

namespace CommentRecord

/-- The declared fields of a comment. -/
def spelling (r : CommentRecord) : List FieldSpelling :=
  [.must "rva" (ofWord64 r.rva), .must "text" (Json.text r.text)]

theorem ofJson?_of_spells (r : CommentRecord) (v : Json) (h : IsObjectOf r.spelling v) :
    CommentRecord.ofJson? v = some r := by
  obtain ⟨fields, rfl, h⟩ := h
  simp only [Spells, spelling, List.forall_mem_cons] at h
  obtain ⟨rva, content, -⟩ := h
  obtain ⟨_, hrva, rrva⟩ := rva.required fun _ => word64?_of_eq
  obtain ⟨_, hcontent, rcontent⟩ := content.required fun _ => text?_of_eq
  simp [CommentRecord.ofJson?, slots?, slotsOfFields?, hrva, hcontent, rrva, rcontent]

theorem spells_toJson (r : CommentRecord) : IsObjectOf r.spelling r.toJson := by
  refine ⟨_, rfl, ?_⟩
  simp [Spells, spelling, FieldSpelling.HoldsIn, FieldSpelling.must, called]

theorem isPlain_toJson (r : CommentRecord) : r.toJson.IsPlain :=
  ⟨isPlain_ofWord64 r.rva, trivial, trivial⟩

end CommentRecord

/-! ## §4. The content of a file. -/

namespace DebugInfo

/-- The declared fields of a file's content. -/
def spelling (info : DebugInfo) : List FieldSpelling :=
  [⟨"types", info.types = [], IsListOf (fun r => IsObjectOf r.spelling) info.types⟩,
    ⟨"symbols", info.symbols = [], IsListOf (fun r => IsObjectOf r.spelling) info.symbols⟩,
    ⟨"lines", info.lines = [], IsListOf (fun r => IsObjectOf r.spelling) info.lines⟩,
    ⟨"comments", info.comments = [], IsListOf (fun r => IsObjectOf r.spelling) info.comments⟩]

/-- **Every spelling of a file's content reads back.** -/
theorem ofJson?_of_spells (info : DebugInfo) (v : Json) (h : IsObjectOf info.spelling v) :
    DebugInfo.ofJson? v = some info := by
  obtain ⟨fields, rfl, h⟩ := h
  simp only [Spells, spelling, List.forall_mem_cons] at h
  obtain ⟨types, symbols, lines, comments, -⟩ := h
  obtain ⟨_, htypes, rtypes⟩ := types.defaulted fun _ =>
    list?_of_isListOf TypeRecord.ofJson?_of_spells
  obtain ⟨_, hsymbols, rsymbols⟩ := symbols.defaulted fun _ =>
    list?_of_isListOf SymbolRecord.ofJson?_of_spells
  obtain ⟨_, hlines, rlines⟩ := lines.defaulted fun _ =>
    list?_of_isListOf LineRecord.ofJson?_of_spells
  obtain ⟨_, hcomments, rcomments⟩ := comments.defaulted fun _ =>
    list?_of_isListOf CommentRecord.ofJson?_of_spells
  simp [DebugInfo.ofJson?, slots?, slotsOfFields?, htypes, hsymbols, hlines, hcomments, rtypes,
    rsymbols, rlines, rcomments]

/-- What is written is a spelling. -/
theorem spells_toFields (info : DebugInfo) : Spells info.spelling info.toFields := by
  have htypes := isListOf_map TypeRecord.spells_toJson info.types
  have hsymbols := isListOf_map SymbolRecord.spells_toJson info.symbols
  have hlines := isListOf_map LineRecord.spells_toJson info.lines
  have hcomments := isListOf_map CommentRecord.spells_toJson info.comments
  simp [Spells, spelling, toFields, FieldSpelling.HoldsIn, called, htypes, hsymbols, hlines,
    hcomments]

theorem hasPlainFields_toFields (info : DebugInfo) : HasPlainFields info.toFields :=
  ⟨arePlain_map _ TypeRecord.isPlain_toJson info.types,
    arePlain_map _ SymbolRecord.isPlain_toJson info.symbols,
    arePlain_map _ LineRecord.isPlain_toJson info.lines,
    arePlain_map _ CommentRecord.isPlain_toJson info.comments, trivial⟩

end DebugInfo

end DebugMerge
