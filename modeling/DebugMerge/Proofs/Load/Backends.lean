/-
  DebugMerge.Proofs.Load.Backends
  ───────────────────────────────
  **What backends read if they leave out members.**

  Members are the only thing that a backend may leave out.  A tool's document is
  read as a whole, and its member lists are emptied afterwards; the built-in
  reader walks the same records, counts them alike and stops at the same ones,
  but does not follow their field lists.  Where the whole content is read, both
  answer the same content with every member list emptied.

  Main statements
    • `Pdb.readDefinition_layout`, `Pdb.readTypes_layout` — the walk over types
    • `Backend.ReadsLayouts`                              — the law of a backend
    • `readerBackend_readsLayouts`, `dumpBackend_readsLayouts`
-/
import DebugMerge.Load.Backend
import DebugMerge.Proofs.Folds
import DebugMerge.Proofs.Store.TypeOrder

namespace DebugMerge

/-! ## §1. The built-in reader. -/

namespace Pdb

/-- The same reading without members. -/
def Reading.layout : Reading → Reading
  | .type record => .type record.layout
  | .nothing => .nothing
  | .endless => .endless

/-- A record whose fields end reads without members as it reads with them, up to the members. -/
theorem readDefinition_layout {table : TypeTable} {k : Nat} {record : List UInt8}
    (hends : readDefinition table true k record ≠ .endless) :
    readDefinition table false k record = (readDefinition table true k record).layout := by
  unfold readDefinition at hends ⊢
  cases htype : typeData? record with
  | none => rfl
  | some data =>
    cases data with
    | definition d =>
      rw [htype] at hends
      dsimp only at hends ⊢
      by_cases hname : isUnnamed d.name = true
      · rw [if_pos hname, if_pos hname]
        rfl
      · rw [if_neg hname] at hends
        rw [if_neg hname, if_neg hname]
        cases hfields : d.fields with
        | none => rfl
        | some fields =>
          rw [hfields] at hends
          -- only the definition that is not a forward declaration has its fields followed
          cases hforward : d.isForward with
          | true => rfl
          | false =>
            rw [hforward] at hends
            cases hmembers : collectMembers? (table.find? k) fields with
            | none =>
              dsimp only at hends
              rw [hmembers] at hends
              exact absurd rfl hends
            | some members =>
              dsimp only
              rw [hmembers]
              rfl
    | _ => rfl

/-- **The walk over types** passes the same records with and without members. -/
theorem readTypes_layout {table : TypeTable} {checkpoint : Checkpoint}
    {records : List (List UInt8)} {seen k : Nat} {types : List TypeRecord}
    (h : readTypes table true checkpoint seen k records = .ok types) :
    readTypes table false checkpoint seen k records = .ok (types.map TypeRecord.layout) := by
  induction records generalizing seen k types with
  | nil =>
    unfold readTypes at h ⊢
    cases hfailure : table.failure with
    | some e =>
      rw [hfailure] at h
      cases h
    | none =>
      rw [hfailure] at h
      cases h
      rfl
  | cons record records ih =>
    unfold readTypes at h ⊢
    dsimp only at h ⊢
    -- records are counted before they are looked at, so both walks stop at the same one
    by_cases hstops : checkpoint.stops (seen + 1) = true
    · rw [if_pos hstops] at h
      cases h
    · rw [if_neg hstops] at h ⊢
      cases hreading : readDefinition table true k record with
      | endless =>
        rw [hreading] at h
        cases h
      | nothing =>
        rw [readDefinition_layout (by rw [hreading]; exact nofun), hreading]
        rw [hreading] at h
        exact ih h
      | type definition =>
        rw [readDefinition_layout (by rw [hreading]; exact nofun), hreading]
        rw [hreading] at h
        obtain ⟨more, hmore, heq⟩ := bind_ok.mp h
        cases heq
        exact bind_ok.mpr ⟨more.map TypeRecord.layout, ih hmore, rfl⟩

/-- A file that is read with members is read without them, with every member list emptied. -/
theorem readInfo_layout {bytes : List UInt8} {checkpoint : Checkpoint} {info : DebugInfo}
    (h : readInfo bytes true checkpoint = .ok info) :
    readInfo bytes false checkpoint = .ok info.layoutOnly := by
  unfold readInfo at h ⊢
  obtain ⟨c, hc, h⟩ := bind_ok.mp h
  obtain ⟨map, hmap, h⟩ := bind_ok.mp h
  obtain ⟨records, hrecords, h⟩ := bind_ok.mp h
  obtain ⟨⟨symbols, seen⟩, hsymbols, h⟩ := bind_ok.mp h
  obtain ⟨table, htable, h⟩ := bind_ok.mp h
  obtain ⟨types, htypes, h⟩ := bind_ok.mp h
  cases h
  -- everything up to the types does not depend on the members
  refine bind_ok.mpr ⟨c, hc, bind_ok.mpr ⟨map, hmap, bind_ok.mpr ⟨records, hrecords, ?_⟩⟩⟩
  refine bind_ok.mpr ⟨(symbols, seen), hsymbols, bind_ok.mpr ⟨table, htable, ?_⟩⟩
  exact bind_ok.mpr ⟨types.map TypeRecord.layout, readTypes_layout htypes, rfl⟩

end Pdb

/-! ## §2. Both backends. -/

/-- What the backend reads with members it reads without them, with every member list
emptied. -/
def Backend.ReadsLayouts (backend : Backend) : Prop :=
  ∀ (path : String) (reading : ReaderOptions) (isSet : Nat → Bool) (info : DebugInfo),
    backend.readInfo path { reading with parseMembers := true } isSet = .ok info →
      backend.readInfo path { reading with parseMembers := false } isSet = .ok info.layoutOnly

theorem readerBackend_readsLayouts (files : Files) : (readerBackend files).ReadsLayouts := by
  intro path reading isSet info h
  obtain ⟨bytes, hbytes, h⟩ := bind_ok.mp h
  refine bind_ok.mpr ⟨bytes, hbytes, ?_⟩
  dsimp only at h ⊢
  cases hinfo : Pdb.readInfo bytes true ⟨reading.checkInterval.toNat, isSet⟩ with
  | error e =>
    rw [hinfo] at h
    cases h
  | ok content =>
    rw [hinfo] at h
    cases h
    rw [Pdb.readInfo_layout hinfo]
    rfl

theorem dumpBackend_readsLayouts (programs : Programs) (source : DumpSource) (s : Surroundings) :
    (dumpBackendWith programs source s).ReadsLayouts := by
  intro path reading isSet info h
  obtain ⟨file, hfile, h⟩ := bind_ok.mp h
  refine bind_ok.mpr ⟨file, hfile, ?_⟩
  -- a request to stop is noticed before the document is loaded
  cases hset : isSet 0 with
  | true =>
    rw [hset] at h
    cases h
  | false =>
    rw [hset] at h
    obtain ⟨document, hdocument, h⟩ := bind_ok.mp h
    cases h
    exact bind_ok.mpr ⟨document, hdocument, rfl⟩

/-! ## §3. Documents that were dumped before. -/

/-- A file that holds an encoded text is read as the text. -/
theorem Files.readText_of_encode {files : Files} {path text : String}
    (h : files.readBytes path = .ok (Text.Utf8.encode text).data.toList) :
    files.readText path = .ok text := by
  unfold Files.readText
  refine bind_ok.mpr ⟨_, h, ?_⟩
  have hdecoded : Text.Utf8.decode? ⟨(Text.Utf8.encode text).data.toList.toArray⟩ = some text :=
    Text.Utf8.decode?_encode text
  rw [hdecoded]
  rfl

/-- A document that was dumped before stands for the tool. -/
theorem DumpSource.load_of_document {programs : Programs} {source : DumpSource}
    {s : Surroundings} {path file text : String} {document : DumpDocument}
    (hfile : source.documentPath? s = some file)
    (htext : s.files.readText file = .ok text)
    (hdocument : DumpDocument.parse? text = some document) :
    source.load programs s path = .ok document := by
  unfold DumpSource.load
  rw [hfile]
  dsimp only
  rw [htext]
  refine bind_ok.mpr ⟨text, rfl, ?_⟩
  rw [hdocument]
  rfl

end DebugMerge
