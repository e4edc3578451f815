/-
  DebugMerge.Proofs.Dump.RoundTrip
  ────────────────────────────────
  **A dumped document gives back what was put into it.**

  A document holds an identity in a field of its own and, beside it, the four
  lists of a file's content.  The identity is read as a record, which passes
  over whatever it does not know.  Everything beside it is first read without
  knowing its type, because only then are the fields of the content picked
  out: so a field nobody asks for does no harm, unless it cannot be held at
  all — it nests too deep, holds a numeral that is no finite number, or half a
  surrogate pair.  Then nothing of the document is read.

  Main definitions
    • `Json.IsReadable`             — nothing inside that cannot be held
    • `DumpDocument.spelling`       — the declared fields of a document
  Main statements
    • `isSome_generic?_iff`         — what can be read without knowing its type
    • `DumpDocument.ofJson?_of_spells` — every spelling reads back, if it can be held
    • `dumpBackend_round_trip`      — the backend answers what was dumped
-/
import DebugMerge.Proofs.Load.Backends
import DebugMerge.Proofs.Records.Spelling

namespace DebugMerge

open Json

/-! ## §1. What can be read without knowing its type. -/

namespace Json

mutual

/-- Nothing inside the value is beyond a generic document: no half of a surrogate pair, and no
numeral without a finite number. -/
def IsReadable : Json → Prop
  | unreadable => False
  | numeral cs => isFinite cs = true
  | list items => AreReadable items
  | object fields => HasReadableFields fields
  | _ => True

/-- Each of the items is readable. -/
def AreReadable : List Json → Prop
  | [] => True
  | v :: rest => v.IsReadable ∧ AreReadable rest

/-- Each of the field values is readable. -/
def HasReadableFields : List (String × Json) → Prop
  | [] => True
  | (_, v) :: rest => v.IsReadable ∧ HasReadableFields rest

end

theorem isSome_bind {α β : Type} {x : Option α} {f : α → Option β} {p : Prop}
    (h : ∀ a, x = some a → ((f a).isSome ↔ p)) : (x.bind f).isSome ↔ x.isSome ∧ p := by
  cases x with
  | none => simp
  | some a => simp [h a rfl]

mutual

/-- A value is read without knowing its type exactly if it is readable. -/
theorem isSome_normal?_iff : ∀ v : Json, v.normal?.isSome ↔ v.IsReadable
  | list items => by
    rw [normal?, IsReadable, Option.isSome_map]
    exact isSome_normalItems?_iff items
  | object fields => by
    rw [normal?, IsReadable, Option.isSome_map]
    exact isSome_normalFields?_iff fields []
  | numeral cs => by
    rw [normal?, IsReadable]
    by_cases hfinite : isFinite cs = true <;> simp [hfinite]
  | unreadable => by simp [normal?, IsReadable]
  | null | bool _ | natural _ | negative _ | text _ => by simp [normal?, IsReadable]

theorem isSome_normalItems?_iff : ∀ items : List Json,
    (normalItems? items).isSome ↔ AreReadable items
  | [] => by simp [normalItems?, AreReadable]
  | v :: rest => by
    rw [normalItems?, AreReadable, ← isSome_normal?_iff v, ← isSome_normalItems?_iff rest]
    refine isSome_bind fun w _ => ?_
    cases normalItems? rest <;> simp

theorem isSome_normalFields?_iff : ∀ (fields before : List (String × Json)),
    (normalFields? before fields).isSome ↔ HasReadableFields fields
  | [], before => by simp [normalFields?, HasReadableFields]
  | (key, v) :: rest, before => by
    rw [normalFields?, HasReadableFields, ← isSome_normal?_iff v]
    exact isSome_bind fun w _ => isSome_normalFields?_iff rest _

end

theorem isSome_generic?_iff {levels : Nat} {v : Json} :
    (v.generic? levels).isSome ↔ v.depth ≤ levels ∧ v.IsReadable := by
  rw [generic?, ← isSome_normal?_iff]
  by_cases hdepth : v.depth ≤ levels <;> simp [hdepth]

mutual

/-- A plain value is readable. -/
theorem isReadable_of_isPlain : ∀ v : Json, v.IsPlain → v.IsReadable
  | list items, h => areReadable_of_arePlain items h
  | object fields, h => hasReadableFields_of_plain fields h
  | numeral _, h => h.elim
  | unreadable, h => h.elim
  | null, _ | bool _, _ | natural _, _ | negative _, _ | text _, _ => trivial

theorem areReadable_of_arePlain : ∀ items : List Json, ArePlain items → AreReadable items
  | [], _ => trivial
  | v :: rest, h => ⟨isReadable_of_isPlain v h.1, areReadable_of_arePlain rest h.2⟩

theorem hasReadableFields_of_plain : ∀ fields : List (String × Json),
    HasPlainFields fields → HasReadableFields fields
  | [], _ => trivial
  | (_, v) :: rest, h => ⟨isReadable_of_isPlain v h.1, hasReadableFields_of_plain rest h.2⟩

end

end Json

/-! ## §2. Spellings of a document. -/

/-- The id is what reading it makes of it. -/
def UniqueId.IsNormal : UniqueId → Prop
  | .guid g => normalGuid g = g
  | .signature _ => True

namespace DumpIdentity

/-- An identity as a tool prints it. -/
def ofIdentity (identity : Identity) : DumpIdentity :=
  match identity.uniqueId with
  | .guid g => ⟨some g, none, identity.age, identity.file⟩
  | .signature s => ⟨none, some s, identity.age, identity.file⟩

/-- The declared fields of an identity.  Whichever form its id does not have is left out, or
written as nothing. -/
def spelling (identity : DumpIdentity) : List FieldSpelling :=
  [.may "guid" (identity.guid = none) (ofOption text identity.guid),
    .may "signature" (identity.signature = none) (ofOption ofWord32 identity.signature),
    .must "age" (ofWord32 identity.age),
    .may "file" (identity.file = none) (ofOption text identity.file)]

/-- The fields of an identity; what is absent is left out. -/
def toFields (identity : DumpIdentity) : List (String × Json) :=
  (identity.guid.map fun guid => ("guid", text guid)).toList
    ++ (identity.signature.map fun signature => ("signature", ofWord32 signature)).toList
    ++ [("age", ofWord32 identity.age)]
    ++ (identity.file.map fun file => ("file", text file)).toList

theorem ofJson?_of_spells (identity : DumpIdentity) (v : Json)
    (h : IsObjectOf identity.spelling v) : DumpIdentity.ofJson? v = some identity := by
  obtain ⟨fields, rfl, h⟩ := h
  simp only [Spells, spelling, List.forall_mem_cons] at h
  obtain ⟨guid, signature, age, file, -⟩ := h
  obtain ⟨_, hguid, rguid⟩ := guid.optional (fun _ => text?_of_eq rfl) text_ne_null
  obtain ⟨_, hsignature, rsignature⟩ := signature.optional word32?_ofWord32 ofWord32_ne_null
  obtain ⟨_, hage, rage⟩ := age.required fun _ => word32?_of_eq
  obtain ⟨_, hfile, rfile⟩ := file.optional (fun _ => text?_of_eq rfl) text_ne_null
  simp [DumpIdentity.ofJson?, slots?, slotsOfFields?, hguid, hsignature, hage, hfile, rguid,
    rsignature, rage, rfile]

theorem spells_toFields (identity : DumpIdentity) :
    IsObjectOf identity.spelling (object identity.toFields) := by
  obtain ⟨guid, signature, age, file⟩ := identity
  refine ⟨_, rfl, ?_⟩
  -- an optional field is there or is not
  cases guid <;> cases signature <;> cases file <;>
    simp [Spells, spelling, toFields, FieldSpelling.HoldsIn, FieldSpelling.must,
      FieldSpelling.may, called, ofOption]

theorem hasPlainFields_toFields (identity : DumpIdentity) : HasPlainFields identity.toFields := by
  obtain ⟨guid, signature, age, file⟩ := identity
  cases guid <;> cases signature <;> cases file <;>
    simp [toFields, HasPlainFields, IsPlain, isPlain_ofWord32]

/-- An identity in normal form comes back, with the path of the debug file for a file it does
not name. -/
theorem toIdentity_ofIdentity {identity : Identity} (h : identity.uniqueId.IsNormal)
    (path : String) :
    (ofIdentity identity).toIdentity path
      = .ok (identity.withFile (identity.file.getD path)) := by
  obtain ⟨id, age, file⟩ := identity
  cases id with
  | guid g =>
    have hg : normalGuid g = g := h
    simp [ofIdentity, toIdentity, Identity.ofGuid, UniqueId.ofGuid, Identity.withFile, hg]
  | signature s => rfl

end DumpIdentity

/-! ## §3. What is written is neither deep nor unreadable. -/

theorem Json.depthItems_map_le {α : Type} {write : α → Json} {n : Nat}
    (h : ∀ a, (write a).depth ≤ n) (items : List α) : depthItems (items.map write) ≤ n := by
  induction items with
  | nil => exact Nat.zero_le n
  | cons a items ih =>
    rw [List.map_cons, depthItems]
    exact Nat.max_le.mpr ⟨h a, ih⟩

theorem Json.isReadable_of_mem {fields : List (String × Json)} (h : HasReadableFields fields)
    {field : String × Json} (hfield : field ∈ fields) : field.2.IsReadable := by
  induction fields with
  | nil => cases hfield
  | cons first rest ih =>
    rcases List.mem_cons.mp hfield with rfl | hrest
    · exact h.1
    · exact ih h.2 hrest

theorem Member.depth_toJson (m : Member) : m.toJson.depth ≤ 1 := by
  simp [toJson, depth, depthFields, ofWord64]

theorem TypeRecord.depth_toJson (r : TypeRecord) : r.toJson.depth ≤ 3 := by
  have hmembers := depthItems_map_le Member.depth_toJson r.members
  simp only [toJson, depth, depthFields, TypeKind.toJson, ofWord64]
  omega

theorem SymbolRecord.depth_toJson (r : SymbolRecord) : r.toJson.depth ≤ 1 := by
  cases hsize : r.size <;>
    simp [toJson, depth, depthFields, hsize, ofOption, ofWord64, SymbolKind.toJson,
      SymbolScope.toJson]

theorem LineRecord.depth_toJson (r : LineRecord) : r.toJson.depth ≤ 1 := by
  simp [toJson, depth, depthFields, ofWord64, ofWord32]

theorem CommentRecord.depth_toJson (r : CommentRecord) : r.toJson.depth ≤ 1 := by
  simp [toJson, depth, depthFields, ofWord64]

/-- A member list stands in a type, a type in a list: four levels. -/
theorem DebugInfo.depth_le_of_mem_toFields {info : DebugInfo} {field : String × Json}
    (h : field ∈ info.toFields) : field.2.depth ≤ 4 := by
  have htypes := depthItems_map_le TypeRecord.depth_toJson info.types
  have hsymbols := depthItems_map_le SymbolRecord.depth_toJson info.symbols
  have hlines := depthItems_map_le LineRecord.depth_toJson info.lines
  have hcomments := depthItems_map_le CommentRecord.depth_toJson info.comments
  simp only [toFields, List.mem_cons, List.not_mem_nil, or_false] at h
  rcases h with rfl | rfl | rfl | rfl <;> simp only [depth] <;> omega

namespace DumpDocument

/-- The declared fields of a document. -/
def spelling (document : DumpDocument) : List FieldSpelling :=
  ⟨identityField, False, IsObjectOf document.identity.spelling⟩ :: document.info.spelling

/-- The fields of a document, each of them written. -/
def toFields (document : DumpDocument) : List (String × Json) :=
  (identityField, object document.identity.toFields) :: document.info.toFields

/-- The content does not use the name of the identity. -/
theorem name_ne_identityField {info : DebugInfo} {f : FieldSpelling} (hf : f ∈ info.spelling) :
    f.name ≠ identityField := by
  revert hf
  simp only [DebugInfo.spelling, List.mem_cons, List.not_mem_nil, or_false]
  rintro (rfl | rfl | rfl | rfl) <;> simp [identityField]

/-- Everything beside the identity can be read without knowing its type. -/
def CanBeHeld (fields : List (String × Json)) : Prop :=
  ∀ field ∈ fields, field.1 ≠ identityField →
    field.2.depth ≤ maxDepth - 1 ∧ field.2.IsReadable

/-- **A spelling of a document is read as the document if all beside the identity can be held,
and not at all otherwise.** -/
theorem ofJson?_of_spells (document : DumpDocument) {fields : List (String × Json)}
    (h : Spells document.spelling fields) :
    (CanBeHeld fields → ofJson? (object fields) = some document)
      ∧ (¬ CanBeHeld fields → ofJson? (object fields) = none) := by
  simp only [Spells, spelling, List.forall_mem_cons] at h
  obtain ⟨identity, hinfo⟩ := h
  obtain ⟨slot, hslot, hidentity⟩ := identity.required
    (DumpIdentity.ofJson?_of_spells document.identity)
  -- the content does not use the name of the identity, so taking that away changes nothing
  have hothers : Spells document.info.spelling
      (fields.filter fun field => field.1 ≠ identityField) := by
    intro f hf
    have hname : f.name ≠ identityField := name_ne_identityField hf
    have hcalled : called f.name (fields.filter fun field => field.1 ≠ identityField)
        = called f.name fields := by
      unfold called
      rw [List.filter_filter]
      refine List.filter_congr fun field _ => ?_
      by_cases hfield : field.1 = f.name <;> simp [hfield, hname]
    unfold FieldSpelling.HoldsIn
    rw [hcalled]
    exact hinfo f hf
  have hread := DebugInfo.ofJson?_of_spells document.info _ ⟨_, rfl, hothers⟩
  -- the rest is held as a whole before the content is picked out of it
  have hheld : ((fields.filter fun field => field.1 ≠ identityField).all
      fun field => (field.2.generic? (maxDepth - 1)).isSome) = true ↔ CanBeHeld fields := by
    simp only [CanBeHeld, List.all_eq_true, List.mem_filter, decide_eq_true_eq, and_imp,
      isSome_generic?_iff]
  have hdocument : ofJson? (object fields) =
      if ((fields.filter fun field => field.1 ≠ identityField).all
        fun field => (field.2.generic? (maxDepth - 1)).isSome) = true
      then some document else none := by
    simp only [ofJson?, hslot, hidentity, hread, Option.bind_eq_bind, Option.bind_some,
      Option.pure_def]
  rw [hdocument]
  exact ⟨fun hyes => if_pos (hheld.mpr hyes), fun hno => if_neg fun hyes => hno (hheld.mp hyes)⟩

/-- What is written is a spelling. -/
theorem spells_toFields (document : DumpDocument) :
    Spells document.spelling document.toFields := by
  have hidentity := DumpIdentity.spells_toFields document.identity
  have hinfo := DebugInfo.spells_toFields document.info
  intro f hf
  rcases List.mem_cons.mp hf with rfl | hf
  · exact .inr ⟨_, hidentity, by simp [toFields, DebugInfo.toFields, called, identityField]⟩
  · -- the identity stands before the content, under a name that the content does not use
    have hname : f.name ≠ identityField := name_ne_identityField hf
    have hcalled : called f.name document.toFields = called f.name document.info.toFields := by
      simp [called, toFields, hname.symm]
    unfold FieldSpelling.HoldsIn
    rw [hcalled]
    exact hinfo f hf

theorem hasPlainFields_toFields (document : DumpDocument) : HasPlainFields document.toFields :=
  ⟨DumpIdentity.hasPlainFields_toFields document.identity,
    DebugInfo.hasPlainFields_toFields document.info⟩

/-- What is written can be held. -/
theorem canBeHeld_toFields (document : DumpDocument) : CanBeHeld document.toFields := by
  intro field hfield hname
  rcases List.mem_cons.mp hfield with rfl | hfield
  · exact absurd rfl hname
  · exact ⟨Nat.le_trans (DebugInfo.depth_le_of_mem_toFields hfield) (by decide),
      isReadable_of_mem (hasReadableFields_of_plain _
        (DebugInfo.hasPlainFields_toFields document.info)) hfield⟩

end DumpDocument

/-! ## §4. The backend. -/

/-- The error about a document that is not read. -/
def unreadDocument : LoadError :=
  .malformed "failed to parse dump tool JSON: invalid document"

section Backend

variable (programs : Programs) {source : DumpSource} {s : Surroundings}
  {path file text : String} {v : Json}
  (hpath : s.files.isFile path = true) (hfile : source.documentPath? s = some file)
  (htext : s.files.readText file = .ok text) (hparse : Json.parse? text = some v)
include hpath hfile htext hparse

/-- A document that is read is answered. -/
theorem dumpBackend_answers {document : DumpDocument}
    (hread : DumpDocument.ofJson? v = some document) :
    (dumpBackendWith programs source s).readIdentity path = document.identity.toIdentity path
      ∧ ∀ (options : ReaderOptions) (isSet : Nat → Bool), options.parseMembers = true →
          isSet 0 = false →
          (dumpBackendWith programs source s).readInfo path options isSet = .ok document.info := by
  have hdocument : DumpDocument.parse? text = some document := by
    rw [DumpDocument.parse?, hparse]
    exact hread
  have hload : source.load programs s path = .ok document :=
    DumpSource.load_of_document hfile htext hdocument
  have hrequired : DumpSource.requireFile s path = .ok () := if_pos hpath
  refine ⟨?_, fun options isSet hmembers hset => ?_⟩
  · show source.readIdentity programs s path = _
    rw [DumpSource.readIdentity, hrequired, hfile, hload]
    rfl
  · show source.readInfo programs s path options.parseMembers (isSet 0) = _
    rw [DumpSource.readInfo, hrequired, hload, hmembers, hset]
    rfl

/-- A document that is not read is malformed, for both questions. -/
theorem dumpBackend_refuses (hread : DumpDocument.ofJson? v = none) :
    (dumpBackendWith programs source s).readIdentity path = .error unreadDocument
      ∧ ∀ (options : ReaderOptions) (isSet : Nat → Bool), isSet 0 = false →
          (dumpBackendWith programs source s).readInfo path options isSet
            = .error unreadDocument := by
  have hdocument : DumpDocument.parse? text = none := by
    rw [DumpDocument.parse?, hparse]
    exact hread
  have hload : source.load programs s path = .error unreadDocument := by
    rw [DumpSource.load, hfile]
    dsimp only
    rw [htext]
    dsimp only [bind, Except.bind, pure, Except.pure]
    rw [hdocument]
    rfl
  have hrequired : DumpSource.requireFile s path = .ok () := if_pos hpath
  refine ⟨?_, fun options isSet hset => ?_⟩
  · show source.readIdentity programs s path = _
    rw [DumpSource.readIdentity, hrequired, hfile, hload]
    rfl
  · show source.readInfo programs s path options.parseMembers (isSet 0) = _
    rw [DumpSource.readInfo, hrequired, hload, hset]
    rfl

end Backend

/-- **What was dumped comes back.**  A document that spells an identity in normal form and a
file's content, in any order, with defaults left out and with fields that nobody asks for, is
answered by the backend as just these, whatever the programs are, as long as everything beside
the identity can be held; otherwise neither question is answered.  The fields as they are
written, in the compact text, are such a document. -/
theorem dumpBackend_round_trip (identity : Identity) (info : DebugInfo)
    (hnormal : identity.uniqueId.IsNormal) :
    (∀ (programs : Programs) (source : DumpSource) (s : Surroundings) (path file text : String)
        (fields : List (String × Json)), s.files.isFile path = true →
        source.documentPath? s = some file → s.files.readText file = .ok text →
        Json.parse? text = some (object fields) →
        Spells (DumpDocument.spelling ⟨.ofIdentity identity, info⟩) fields →
          (DumpDocument.CanBeHeld fields →
            (dumpBackendWith programs source s).readIdentity path
                = .ok (identity.withFile (identity.file.getD path))
              ∧ ∀ (options : ReaderOptions) (isSet : Nat → Bool), options.parseMembers = true →
                  isSet 0 = false →
                  (dumpBackendWith programs source s).readInfo path options isSet = .ok info)
          ∧ (¬ DumpDocument.CanBeHeld fields →
            (dumpBackendWith programs source s).readIdentity path = .error unreadDocument
              ∧ ∀ (options : ReaderOptions) (isSet : Nat → Bool), isSet 0 = false →
                  (dumpBackendWith programs source s).readInfo path options isSet
                    = .error unreadDocument))
      ∧ ∃ fields, fields = DumpDocument.toFields ⟨.ofIdentity identity, info⟩
          ∧ Json.parse? (object fields).compact = some (object fields)
          ∧ Spells (DumpDocument.spelling ⟨.ofIdentity identity, info⟩) fields
          ∧ DumpDocument.CanBeHeld fields := by
  constructor
  · intro programs source s path file text fields hpath hfile htext hparse hspells
    obtain ⟨hheld, hnot⟩ := DumpDocument.ofJson?_of_spells _ hspells
    refine ⟨fun hyes => ?_, fun hno => ?_⟩
    · obtain ⟨hidentity, hinfo⟩ :=
        dumpBackend_answers programs hpath hfile htext hparse (hheld hyes)
      rw [DumpIdentity.toIdentity_ofIdentity hnormal] at hidentity
      exact ⟨hidentity, hinfo⟩
    · exact dumpBackend_refuses programs hpath hfile htext hparse (hnot hno)
  · refine ⟨_, rfl, ?_, DumpDocument.spells_toFields _, DumpDocument.canBeHeld_toFields _⟩
    have hplain : (object (DumpDocument.toFields ⟨.ofIdentity identity, info⟩)).IsPlain :=
      DumpDocument.hasPlainFields_toFields _
    exact parse?_compact _ hplain

/-- An identity and a type. -/
def nodeIdentity : Identity :=
  ⟨.guid "3F2504E0-4F89-11D3-9A0C-0305E82C3301", 1, some "node.pdb"⟩

/-- A file that says one thing. -/
def nodeInfo : DebugInfo :=
  ⟨[⟨"Node", .struct, 18446744073709551615, []⟩], [], [], []⟩

/-- The debug file, and beside it a document with the given fields. -/
def dumpedBeside (fields : List (String × Json)) : Surroundings :=
  ⟨⟨[], [(["app.pdb"], .file [] false),
    (["node.json"], .file (Text.Utf8.encode (object fields).compact).data.toList false)]⟩, []⟩

/-- The document beside the debug file. -/
def besideSource : DumpSource :=
  ⟨none, some "node.json"⟩

/-- The identity in an order of its own, with more than is asked. -/
def looseIdentity : List (String × Json) :=
  [("file", text "node.pdb"), ("signature", null), ("age", ofWord32 1), ("extra", object []),
    ("guid", text "3F2504E0-4F89-11D3-9A0C-0305E82C3301")]

/-- The type in an order of its own, without its members and with more than is asked. -/
def looseType : List (String × Json) :=
  [("size", ofWord64 18446744073709551615), ("note", bool true), ("kind", text "struct"),
    ("name", text "Node")]

/-- The document: two lists are left out, and one is empty. -/
def looseFields : List (String × Json) :=
  [("tool", list [text "any", null]), ("types", list [object looseType]),
    ("comments", list []), ("identity", object looseIdentity)]

/-- The loose document is read. -/
theorem dumpBackend_round_trip_on_loose :
    nodeIdentity.uniqueId.IsNormal
      ∧ Spells (DumpDocument.spelling ⟨.ofIdentity nodeIdentity, nodeInfo⟩) looseFields
      ∧ DumpDocument.CanBeHeld looseFields
      ∧ (dumpBackend besideSource (dumpedBeside looseFields)).readIdentity "app.pdb"
          = .ok nodeIdentity
      ∧ (dumpBackend besideSource (dumpedBeside looseFields)).readInfo "app.pdb" .standard
          (fun _ => false) = .ok nodeInfo := by
  have hnormal : nodeIdentity.uniqueId.IsNormal := by
    show normalGuid "3F2504E0-4F89-11D3-9A0C-0305E82C3301" = _
    decide +kernel
  have hspells : Spells (DumpDocument.spelling ⟨.ofIdentity nodeIdentity, nodeInfo⟩)
      looseFields := by
    have hidentity : IsObjectOf (DumpIdentity.ofIdentity nodeIdentity).spelling
        (object looseIdentity) := by
      refine ⟨_, rfl, ?_⟩
      simp [Spells, DumpIdentity.spelling, DumpIdentity.ofIdentity, nodeIdentity, looseIdentity,
        FieldSpelling.HoldsIn, FieldSpelling.must, FieldSpelling.may, called, ofOption]
    have htype : IsObjectOf (TypeRecord.spelling ⟨"Node", .struct, 18446744073709551615, []⟩)
        (object looseType) := by
      refine ⟨_, rfl, ?_⟩
      simp [Spells, TypeRecord.spelling, looseType, FieldSpelling.HoldsIn, FieldSpelling.must,
        FieldSpelling.may, called, TypeKind.toJson, TypeKind.word]
    have htypes := (⟨_, rfl, .cons htype .nil⟩ : IsListOf (fun r => IsObjectOf r.spelling)
      nodeInfo.types (list [object looseType]))
    have hcomments := (⟨_, rfl, .nil⟩ : IsListOf (fun r => IsObjectOf r.spelling)
      nodeInfo.comments (list []))
    simp only [Spells, DumpDocument.spelling, DebugInfo.spelling, List.forall_mem_cons]
    exact ⟨.inr ⟨_, hidentity, rfl⟩, .inr ⟨_, htypes, rfl⟩, .inl ⟨rfl, rfl⟩, .inl ⟨rfl, rfl⟩,
      .inr ⟨_, hcomments, rfl⟩, List.forall_mem_nil _⟩
  have hplain : (object looseFields).IsPlain := by
    simp [looseFields, looseType, looseIdentity, IsPlain, HasPlainFields, ArePlain, ofWord64,
      ofWord32, Text.limit64]
  have hheld : DumpDocument.CanBeHeld looseFields := by
    have hdepth : ∀ field ∈ looseFields, field.2.depth ≤ maxDepth - 1 := by
      simp [looseFields, looseType, looseIdentity, depth, depthItems, depthFields, maxDepth,
        ofWord64, ofWord32]
    exact fun field hfield _ =>
      ⟨hdepth field hfield, isReadable_of_mem (hasReadableFields_of_plain _ hplain) hfield⟩
  obtain ⟨hidentity, hinfo⟩ := ((dumpBackend_round_trip nodeIdentity nodeInfo hnormal).1 _
    besideSource (dumpedBeside looseFields) "app.pdb" "node.json" _ looseFields rfl rfl
    (Files.readText_of_encode rfl) (parse?_compact _ hplain) hspells).1 hheld
  exact ⟨hnormal, hspells, hheld, hidentity, hinfo .standard (fun _ => false) rfl rfl⟩

/-- A list in a list, and so on. -/
def nestedLists : Nat → Json
  | 0 => list []
  | n + 1 => list [nestedLists n]

theorem depth_nestedLists (n : Nat) : (nestedLists n).depth = n + 1 := by
  induction n with
  | zero => rfl
  | succ n ih => simp [nestedLists, depth, depthItems, ih]

theorem isPlain_nestedLists (n : Nat) : (nestedLists n).IsPlain := by
  induction n with
  | zero => trivial
  | succ n ih => exact ⟨ih, trivial⟩

/-- A document with a field nobody asks for, in which lists nest two hundred levels. -/
def deepFields : List (String × Json) :=
  DumpDocument.toFields ⟨.ofIdentity nodeIdentity, nodeInfo⟩ ++ [("note", nestedLists 199)]

/-- A field that nobody asks for stops the reading: the document still spells what it spelled
without the field, and nothing of it is answered. -/
theorem deep_note_stops_reading :
    Spells (DumpDocument.spelling ⟨.ofIdentity nodeIdentity, nodeInfo⟩) deepFields
      ∧ (dumpBackend besideSource (dumpedBeside deepFields)).readIdentity "app.pdb"
          = .error unreadDocument
      ∧ (dumpBackend besideSource (dumpedBeside deepFields)).readInfo "app.pdb" .standard
          (fun _ => false) = .error unreadDocument := by
  have hspells : Spells (DumpDocument.spelling ⟨.ofIdentity nodeIdentity, nodeInfo⟩)
      deepFields := by
    refine (DumpDocument.spells_toFields _).append ?_
    simp [DumpDocument.spelling, DebugInfo.spelling, DumpDocument.identityField]
  have hdeep : ¬ DumpDocument.CanBeHeld deepFields := by
    intro hheld
    -- the note alone is too deep
    have hnote := (hheld ("note", nestedLists 199) (List.mem_append_right _ List.mem_cons_self)
      (by decide)).1
    rw [depth_nestedLists] at hnote
    exact absurd hnote (by decide)
  have hplain : (object deepFields).IsPlain := by
    refine ⟨DumpIdentity.hasPlainFields_toFields _, ?_⟩
    simp [nodeInfo, DebugInfo.toFields, HasPlainFields, IsPlain, ArePlain,
      TypeRecord.isPlain_toJson, isPlain_nestedLists]
  have hread := (DumpDocument.ofJson?_of_spells _ hspells).2 hdeep
  have hfile : besideSource.documentPath? (dumpedBeside deepFields) = some "node.json" := rfl
  have hpath : (dumpedBeside deepFields).files.isFile "app.pdb" = true := rfl
  obtain ⟨hidentity, hinfo⟩ := dumpBackend_refuses (runProgram (dumpedBeside deepFields).files)
    hpath hfile (Files.readText_of_encode rfl) (parse?_compact _ hplain) hread
  exact ⟨hspells, hidentity, hinfo .standard (fun _ => false) rfl⟩

end DebugMerge
