/-
  DebugMerge.Proofs.Project.Persistence
  ─────────────────────────────────────
  **What is written as a document reads back as what was written.**

  A document *holds* a value if it is plain and its reader answers the value.
  Values without structure, choices and lists are treated once; a record holds
  what its fields hold, whether an optional field is written as `null`, left out,
  or spelled.  A plain document has two texts, the compact and the indented one,
  and either of them gives the value back, so a configuration survives its file.

  Counters have no bound of their own here.  They are read as 64-bit words, which
  is what a machine counts with, and `Fits` says so.

  Main definitions
    • `Json.Holds`            — a document and the value that it stands for
    • `Json.ReadsBack`        — both texts of a value give it back
  Main statements
    • `holds_toJson` of every persisted type
    • `saveConfig_isOk_iff`, `loadConfig_of_saveConfig` — the file of a configuration
    • `persisted_values_read_back`    — every persisted type
-/
import DebugMerge.Proofs.Json.Indented
import DebugMerge.Proofs.Records.Spelling
import DebugMerge.Proofs.Files.Directories
import DebugMerge.Proofs.Load.Backends
import DebugMerge.Proofs.Load.Precedence
import DebugMerge.Load.Run
import DebugMerge.Project.Config

namespace DebugMerge

open Json

variable {α : Type}

/-! ## §1. Documents that hold a value. -/

/-- The document stands for the value: it is plain, and it is read as the value. -/
structure Json.Holds (read : Json → Option α) (v : Json) (a : α) : Prop where
  plain : v.IsPlain
  reads : read v = some a

/-- Both texts of a written value are read as the value. -/
def Json.ReadsBack (write : α → Json) (read : Json → Option α) (a : α) : Prop :=
  (parse? (write a).compact).bind read = some a ∧ (parse? (write a).pretty).bind read = some a

namespace Json

theorem Holds.readsBack {write : α → Json} {read : Json → Option α} {a : α}
    (h : Holds read (write a) a) : ReadsBack write read a := by
  constructor
  · rw [parse?_compact _ h.plain]
    exact h.reads
  · rw [parse?_pretty _ h.plain]
    exact h.reads

theorem holds_text (s : String) : Holds text? (text s) s := ⟨trivial, rfl⟩

theorem holds_count {n : Nat} (h : n < Text.limit64) : Holds count? (natural n) n :=
  ⟨h, if_pos h⟩

/-- A word of a vocabulary. -/
theorem holds_word {ofWord? : String → Option α} {word : String} {a : α}
    (h : ofWord? word = some a) : Holds (choice? ofWord?) (text word) a :=
  ⟨trivial, h⟩

/-- A list holds what its items hold. -/
theorem holds_list {read : Json → Option α} {write : α → Json}
    (h : ∀ a, Holds read (write a) a) (items : List α) :
    Holds (list? read) (list (items.map write)) items :=
  ⟨arePlain_map write (fun a => (h a).plain) items,
    readItems?_map read write (fun a => (h a).reads) items⟩

/-- An optional value is plain if every value is. -/
theorem isPlain_ofOption {write : α → Json} {value : Option α}
    (h : ∀ a ∈ value, (write a).IsPlain) : (ofOption write value).IsPlain := by
  cases value with
  | none => trivial
  | some a => exact h a rfl

/-- An optional value that is spelled as `null` or as itself. -/
theorem optional_ofOption {read : Json → Option α} {write : α → Json} (value : Option α)
    (h : ∀ a ∈ value, read (write a) = some a) (hnull : ∀ a, write a ≠ null) :
    (Slot.value (ofOption write value)).optional read = some value := by
  cases value with
  | none => rfl
  | some a =>
    show (Slot.value (write a)).optional read = _
    unfold Slot.optional
    split
    · rename_i hslot
      exact absurd (Slot.value.inj hslot) (hnull a)
    · rename_i w _ hslot
      rw [← Slot.value.inj hslot, h a rfl]
      rfl
    · rename_i hother
      exact absurd rfl (hother (write a))

/-- The same for a field that a list must spell. -/
theorem nullable_ofOption {read : Json → Option α} {write : α → Json} (value : Option α)
    (h : ∀ a ∈ value, read (write a) = some a) (hnull : ∀ a, write a ≠ null) :
    (Slot.value (ofOption write value)).nullable read = some value :=
  optional_ofOption value h hnull

/-- A text, if there is one. -/
theorem nullable_text (value : Option String) :
    (Slot.value (ofOption text value)).nullable text? = some value :=
  nullable_ofOption value (fun _ _ => rfl) text_ne_null

theorem isPlain_optionalText (value : Option String) : (ofOption text value).IsPlain :=
  isPlain_ofOption fun _ _ => trivial

end Json

/-! ## §2. Identities and attributes. -/

theorem UniqueId.holds_toJson (id : UniqueId) : Holds UniqueId.ofJson? id.toJson id := by
  cases id with
  | guid g => exact ⟨⟨trivial, trivial⟩, rfl⟩
  | signature s =>
    refine ⟨⟨isPlain_ofWord32 s, trivial⟩, ?_⟩
    simp [UniqueId.ofJson?, UniqueId.toJson, word32?_ofWord32]

theorem Identity.holds_toJson (identity : Identity) :
    Holds Identity.ofJson? identity.toJson identity := by
  obtain ⟨id, age, file⟩ := identity
  obtain ⟨hplain, hread⟩ := id.holds_toJson
  -- without a file the field is left out
  cases file with
  | none =>
    refine ⟨⟨hplain, isPlain_ofWord32 age, trivial⟩, ?_⟩
    simp [Identity.ofJson?, Identity.toJson, slots?, slotsOfFields?, slotOf?, Slot.required,
      Slot.optional, hread, word32?_ofWord32]
  | some file =>
    refine ⟨⟨hplain, isPlain_ofWord32 age, trivial, trivial⟩, ?_⟩
    simp [Identity.ofJson?, Identity.toJson, slots?, slotsOfFields?, slotOf?, Slot.required,
      Slot.optional, hread, word32?_ofWord32, text?]

theorem Identity.toJson_ne_null (identity : Identity) : identity.toJson ≠ null := nofun

theorem ProgramInfo.holds_toJson (info : ProgramInfo) :
    Holds ProgramInfo.ofJson? info.toJson info := by
  have hexpected := nullable_ofOption info.expected
    (fun identity _ => identity.holds_toJson.reads) Identity.toJson_ne_null
  refine ⟨⟨trivial, isPlain_ofWord64 info.imageBase,
    isPlain_ofOption fun identity _ => identity.holds_toJson.plain, trivial⟩, ?_⟩
  simp [ProgramInfo.ofJson?, ProgramInfo.toJson, slots?, slotsOfFields?, slotOf?, Slot.required,
    text?, word64?_ofWord64, hexpected]

/-! ## §3. Records. -/

theorem TypeRecord.holds_toJson (r : TypeRecord) : Holds TypeRecord.ofJson? r.toJson r :=
  ⟨r.isPlain_toJson, r.ofJson?_of_spells _ r.spells_toJson⟩

theorem SymbolRecord.holds_toJson (r : SymbolRecord) : Holds SymbolRecord.ofJson? r.toJson r :=
  ⟨r.isPlain_toJson, r.ofJson?_of_spells _ r.spells_toJson⟩

theorem DebugInfo.holds_toJson (info : DebugInfo) : Holds DebugInfo.ofJson? info.toJson info :=
  ⟨info.hasPlainFields_toFields, info.ofJson?_of_spells _ ⟨_, rfl, info.spells_toFields⟩⟩

/-! ## §4. The store and its history. -/

theorem SymbolRow.holds_toJson (row : SymbolRow) : Holds SymbolRow.ofJson? row.toJson row := by
  have hsize := nullable_ofOption row.size
    (fun size _ => word64?_ofWord64 size) ofWord64_ne_null
  refine ⟨⟨isPlain_ofWord64 row.address, trivial, trivial, trivial,
    isPlain_ofOption fun size _ => isPlain_ofWord64 size, isPlain_optionalText row.demangled,
    trivial⟩, ?_⟩
  simp [SymbolRow.ofJson?, SymbolRow.toJson, slots?, slotsOfFields?, slotOf?, Slot.required,
    text?, word64?_ofWord64, hsize, nullable_text]

theorem CommentRow.holds_toJson (row : CommentRow) : Holds CommentRow.ofJson? row.toJson row := by
  refine ⟨⟨isPlain_ofWord64 row.address, trivial, trivial⟩, ?_⟩
  simp [CommentRow.ofJson?, CommentRow.toJson, slots?, slotsOfFields?, slotOf?, Slot.required,
    text?, word64?_ofWord64]

theorem LineRow.holds_toJson (row : LineRow) : Holds LineRow.ofJson? row.toJson row := by
  refine ⟨⟨isPlain_ofWord64 row.address, trivial, isPlain_ofWord32 row.line, trivial⟩, ?_⟩
  simp [LineRow.ofJson?, LineRow.toJson, slots?, slotsOfFields?, slotOf?, Slot.required,
    text?, word64?_ofWord64, word32?_ofWord32]

theorem Snapshot.holds_toJson (s : Snapshot) : Holds Snapshot.ofJson? s.toJson s := by
  have htypes := holds_list TypeRecord.holds_toJson s.types
  have hsymbols := holds_list SymbolRow.holds_toJson s.symbols
  have hcomments := holds_list CommentRow.holds_toJson s.comments
  have hlines := holds_list LineRow.holds_toJson s.lines
  refine ⟨⟨htypes.plain, hsymbols.plain, hcomments.plain, hlines.plain, trivial⟩, ?_⟩
  simp [Snapshot.ofJson?, Snapshot.toJson, slots?, slotsOfFields?, slotOf?, Slot.required,
    htypes.reads, hsymbols.reads, hcomments.reads, hlines.reads]

theorem RunStatus.ofWord?_word (status : RunStatus) : ofWord? status.word = some status := by
  cases status <;> rfl

theorem LoadRun.holds_toJson (run : LoadRun) : Holds LoadRun.ofJson? run.toJson run := by
  have hstatus : RunStatus.ofJson? run.status.toJson = some run.status :=
    (holds_word run.status.ofWord?_word).reads
  refine ⟨⟨trivial, isPlain_optionalText run.debugFileHash, trivial,
    isPlain_optionalText run.backendVersion, trivial, isPlain_ofWord32 run.messageCount, trivial,
    trivial, trivial⟩, ?_⟩
  simp [LoadRun.ofJson?, LoadRun.toJson, slots?, slotsOfFields?, slotOf?, Slot.required,
    text?, word32?_ofWord32, hstatus, nullable_text]

/-! ## §5. Outcomes of a run. -/

/-- Every counter is one that 64 bits hold. -/
structure Applied.Fits (a : Applied) : Prop where
  typesAdded : a.typesAdded < Text.limit64
  typesExisting : a.typesExisting < Text.limit64
  symbolsAdded : a.symbolsAdded < Text.limit64
  symbolsExisting : a.symbolsExisting < Text.limit64
  symbolsSkipped : a.symbolsSkipped < Text.limit64
  linesAdded : a.linesAdded < Text.limit64
  commentsAdded : a.commentsAdded < Text.limit64
  recordsFiltered : a.recordsFiltered < Text.limit64

/-- Every counter is one that 64 bits hold. -/
structure DemangleSummary.Fits (s : DemangleSummary) : Prop where
  examined : s.examined < Text.limit64
  demangled : s.demangled < Text.limit64
  failed : s.failed < Text.limit64

/-- Every counter of either stage is one that 64 bits hold. -/
structure Outcome.Fits (o : Outcome) : Prop where
  applied : ∀ a ∈ o.applied, a.Fits
  demangled : ∀ s ∈ o.demangled, s.Fits

theorem Applied.holds_toJson {a : Applied} (h : a.Fits) : Holds Applied.ofJson? a.toJson a := by
  refine ⟨⟨h.typesAdded, h.typesExisting, h.symbolsAdded, h.symbolsExisting, h.symbolsSkipped,
    h.linesAdded, h.commentsAdded, h.recordsFiltered, trivial, trivial⟩, ?_⟩
  simp [Applied.ofJson?, Applied.toJson, slots?, slotsOfFields?, slotOf?, Slot.required, bool?,
    (holds_count h.typesAdded).reads, (holds_count h.typesExisting).reads,
    (holds_count h.symbolsAdded).reads, (holds_count h.symbolsExisting).reads,
    (holds_count h.symbolsSkipped).reads, (holds_count h.linesAdded).reads,
    (holds_count h.commentsAdded).reads, (holds_count h.recordsFiltered).reads]

theorem DemangleSummary.holds_toJson {s : DemangleSummary} (h : s.Fits) :
    Holds DemangleSummary.ofJson? s.toJson s := by
  refine ⟨⟨h.examined, h.demangled, h.failed, trivial, trivial⟩, ?_⟩
  simp [DemangleSummary.ofJson?, DemangleSummary.toJson, slots?, slotsOfFields?, slotOf?,
    Slot.required, bool?, (holds_count h.examined).reads, (holds_count h.demangled).reads,
    (holds_count h.failed).reads]

theorem Stage.ofWord?_word (stage : Stage) : ofWord? stage.word = some stage := by
  cases stage <;> rfl

theorem Stage.holds_toJson (stage : Stage) : Holds Stage.ofJson? stage.toJson stage :=
  holds_word stage.ofWord?_word

theorem Outcome.holds_toJson {o : Outcome} (h : o.Fits) : Holds Outcome.ofJson? o.toJson o := by
  have htrace := holds_list Stage.holds_toJson o.trace
  have hmessages := holds_list holds_text o.messages
  have happlied := nullable_ofOption o.applied
    (fun a ha => (Applied.holds_toJson (h.applied a ha)).reads) (fun a => nofun)
  have hdemangled := nullable_ofOption o.demangled
    (fun s hs => (DemangleSummary.holds_toJson (h.demangled s hs)).reads) (fun s => nofun)
  refine ⟨⟨trivial, htrace.plain, trivial,
    isPlain_ofOption fun a ha => (Applied.holds_toJson (h.applied a ha)).plain,
    isPlain_ofOption fun s hs => (DemangleSummary.holds_toJson (h.demangled s hs)).plain,
    trivial, hmessages.plain, trivial⟩, ?_⟩
  simp [Outcome.ofJson?, Outcome.toJson, slots?, slotsOfFields?, slotOf?, Slot.required, bool?,
    text?, o.state.holds_toJson.reads, htrace.reads, hmessages.reads, happlied, hdemangled]

/-! ## §6. Settings and configurations. -/

theorem Restrictions.holds_toJson (r : Restrictions) : Holds Restrictions.ofJson? r.toJson r :=
  ⟨arePlain_map RecordKind.toJson (fun _ => trivial) r.toList, r.ofJson?_toJson⟩

theorem ApplyOptions.holds_toJson (o : ApplyOptions) : Holds ApplyOptions.ofJson? o.toJson o := by
  refine ⟨⟨o.restrictions.holds_toJson.plain, isPlain_ofWord64 o.checkInterval, trivial⟩, ?_⟩
  simp [ApplyOptions.ofJson?, ApplyOptions.toJson, slots?, slotsOfFields?, slotOf?,
    Slot.defaulted, o.restrictions.ofJson?_toJson, word64?_ofWord64]

theorem ReaderOptions.holds_toJson (o : ReaderOptions) :
    Holds ReaderOptions.ofJson? o.toJson o := by
  refine ⟨⟨isPlain_ofWord64 o.checkInterval, trivial, trivial⟩, ?_⟩
  simp [ReaderOptions.ofJson?, ReaderOptions.toJson, slots?, slotsOfFields?, slotOf?,
    Slot.defaulted, word64?_ofWord64, bool?]

theorem LoadSettings.isPlain_toJson (s : LoadSettings) : s.toJson.IsPlain := by
  obtain ⟨backend, dumpTool, applying, reading, slotTimeout, recordRuns⟩ := s
  have happlying := applying.holds_toJson.plain
  have hreading := reading.holds_toJson.plain
  -- an absent tool and an absent timeout are left out
  cases dumpTool <;> cases slotTimeout <;>
    simp [LoadSettings.toJson, IsPlain, HasPlainFields, BackendChoice.toJson, happlying, hreading,
      isPlain_ofWord64]

theorem LoadSettings.holds_toJson (s : LoadSettings) : Holds LoadSettings.ofJson? s.toJson s := by
  refine ⟨s.isPlain_toJson, ?_⟩
  obtain ⟨fields, hfields, hnodup, hbackend, htool, happlying, hreading, htimeout, hrecord⟩ :=
    s.toJson_spec
  rw [hfields, LoadSettings.ofJson?_iff hnodup, hbackend, htool, happlying, hreading, htimeout,
    hrecord]
  refine ⟨s.backend.ofJson?_toJson, ?_, s.applying.holds_toJson.reads,
    s.reading.holds_toJson.reads, ?_, rfl⟩
  · cases s.dumpTool <;> rfl
  · cases s.slotTimeout with
    | none => rfl
    | some ms =>
      have hwords : ∀ a ∈ some ms, word64? (ofWord64 a) = some a := fun a _ => word64?_ofWord64 a
      exact optional_ofOption (some ms) hwords ofWord64_ne_null

theorem ProgramConfig.holds_toJson (c : ProgramConfig) :
    Holds ProgramConfig.ofJson? c.toJson c := by
  refine ⟨⟨trivial, isPlain_optionalText c.description, trivial, ⟨trivial, trivial⟩,
    c.load.isPlain_toJson, trivial⟩, ?_⟩
  simp [ProgramConfig.ofJson?, ProgramConfig.databaseOf?, ProgramConfig.toJson, slots?,
    slotsOfFields?, slotOf?, Slot.required, Slot.defaulted, text?, nullable_text,
    c.load.holds_toJson.reads]

/-! ## §7. Bytes of a file. -/

/-- The bytes that are still to be listed follow those that are listed. -/
theorem toList_loop (bytes : ByteArray) (i : Nat) (listed : List UInt8) :
    ByteArray.toList.loop bytes i listed = listed.reverse ++ bytes.data.toList.drop i := by
  fun_induction ByteArray.toList.loop bytes i listed with
  | case1 i listed h ih =>
    have hi : i < bytes.data.toList.length := h
    have hget : bytes.get! i = bytes.data.toList[i] := by
      show bytes.data[i]! = _
      rw [getElem!_pos bytes.data i h, Array.getElem_toList]
    rw [ih, List.drop_eq_getElem_cons hi, List.reverse_cons, List.append_assoc, hget]
    rfl
  | case2 i listed h =>
    have hi : bytes.data.toList.length ≤ i := Nat.le_of_not_lt h
    rw [List.drop_eq_nil_of_le hi, List.append_nil]

theorem toList_eq_data (bytes : ByteArray) : bytes.toList = bytes.data.toList :=
  toList_loop bytes 0 []

/-- A file can be written wherever something can be made and no directory stands. -/
theorem Files.write_isOk {files : Files} {path : String} {place : List String}
    (hplace : files.locateNew path = .ok place) (hentry : files.entryAt place ≠ some .directory)
    (bytes : List UInt8) : ∃ written, files.write path bytes = .ok written := by
  have hwrite : ∀ written, (files.write path bytes = .ok written ↔ _) := fun _ => bind_ok
  cases hstored : files.entryAt place with
  | none => exact ⟨_, (hwrite _).mpr ⟨place, hplace, by rw [hstored]; rfl⟩⟩
  | some entry =>
    cases entry with
    | directory => exact absurd hstored hentry
    | file _ executable => exact ⟨_, (hwrite _).mpr ⟨place, hplace, by rw [hstored]; rfl⟩⟩
    | database _ => exact ⟨_, (hwrite _).mpr ⟨place, hplace, by rw [hstored]; rfl⟩⟩

/-! ## §8. The file of a configuration. -/

/-- The text of a configuration's file is read as the configuration. -/
theorem ProgramConfig.parse?_fileText (c : ProgramConfig) : parse? c.fileText = some c :=
  c.holds_toJson.readsBack.2

/-- A saved configuration is the content of its file, and nothing else is changed. -/
theorem saveConfig_eq_ok {files written : Files} {layout : Layout} {config : ProgramConfig}
    (h : saveConfig files layout config = .ok written) :
    ∃ place executable, files.locateNew layout.config = .ok place
      ∧ files.entryAt place ≠ some .directory
      ∧ written = files.put place
          (.file (Text.Utf8.encode config.fileText).toList executable) := by
  unfold saveConfig at h
  split at h
  · next hwrite =>
    cases h
    exact Files.write_eq_ok hwrite
  · cases h

/-- Whether a configuration can be saved is a matter of the files, and the same for every
configuration: its directory is there, and no directory stands in its place. -/
theorem saveConfig_isOk_iff {files : Files} {layout : Layout} {config : ProgramConfig} :
    (∃ written, saveConfig files layout config = .ok written) ↔
      ∃ place, files.locateNew layout.config = .ok place
        ∧ files.entryAt place ≠ some .directory := by
  constructor
  · rintro ⟨written, h⟩
    obtain ⟨place, -, hplace, hentry, -⟩ := saveConfig_eq_ok h
    exact ⟨place, hplace, hentry⟩
  · rintro ⟨place, hplace, hentry⟩
    obtain ⟨written, hwrite⟩ := Files.write_isOk hplace hentry
      (Text.Utf8.encode config.fileText).toList
    refine ⟨written, ?_⟩
    unfold saveConfig
    rw [hwrite]

/-- A configuration that is the content of its file is loaded. -/
theorem loadConfig_of_entryAt {files : Files} {layout : Layout} {config : ProgramConfig}
    {place : List String} {executable : Bool} (hplace : files.locate layout.config = .ok place)
    (hentry : files.entryAt place
      = some (.file (Text.Utf8.encode config.fileText).toList executable)) :
    loadConfig files layout = .ok config := by
  have hget : files.get layout.config
      = .ok (place, .file (Text.Utf8.encode config.fileText).toList executable) :=
    Files.get_eq_ok_iff.mpr ⟨hplace, hentry⟩
  have hbytes : files.readBytes layout.config
      = .ok (Text.Utf8.encode config.fileText).data.toList := by
    rw [← toList_eq_data]
    unfold Files.readBytes
    rw [hget]
    rfl
  unfold loadConfig
  rw [Files.readText_of_encode hbytes]
  dsimp only
  rw [config.parse?_fileText]

/-- A saved configuration is loaded as it was saved. -/
theorem loadConfig_of_saveConfig {files written : Files} {layout : Layout}
    {config : ProgramConfig} (h : saveConfig files layout config = .ok written) :
    loadConfig written layout = .ok config := by
  obtain ⟨place, executable, hplace, hfree, rfl⟩ := saveConfig_eq_ok h
  have hkeeps := Files.keepsDirectories_put hfree
    (.file (Text.Utf8.encode config.fileText).toList executable)
  have hlocate := (Files.locateNew_eq_ok_iff.mp hplace).1
  exact loadConfig_of_entryAt (Files.locate_of_keeps hkeeps hlocate)
    (Files.entryAt_put files place _)

/-! ## §9. Every persisted type. -/

/-- **What is persisted or printed reads back as it was**, from the compact and from the
indented text: configurations and their settings, identities and attributes, the records of
a debug file and its whole content, what a merge changed and how a run ended, recorded runs,
and snapshots of the store.  And a configuration that is saved is loaded as it was, for every
configuration or for none, as the files allow. -/
theorem persisted_values_read_back :
    (∀ c, ReadsBack ProgramConfig.toJson ProgramConfig.ofJson? c)
      ∧ (∀ s, ReadsBack LoadSettings.toJson LoadSettings.ofJson? s)
      ∧ (∀ identity, ReadsBack Identity.toJson Identity.ofJson? identity)
      ∧ (∀ info, ReadsBack ProgramInfo.toJson ProgramInfo.ofJson? info)
      ∧ (∀ r, ReadsBack TypeRecord.toJson TypeRecord.ofJson? r)
      ∧ (∀ r, ReadsBack SymbolRecord.toJson SymbolRecord.ofJson? r)
      ∧ (∀ info, ReadsBack DebugInfo.toJson DebugInfo.ofJson? info)
      ∧ (∀ a : Applied, a.Fits → ReadsBack Applied.toJson Applied.ofJson? a)
      ∧ (∀ o : Outcome, o.Fits → ReadsBack Outcome.toJson Outcome.ofJson? o)
      ∧ (∀ run, ReadsBack LoadRun.toJson LoadRun.ofJson? run)
      ∧ (∀ s, ReadsBack Snapshot.toJson Snapshot.ofJson? s)
      ∧ ∀ (files : Files) (layout : Layout) (config : ProgramConfig),
          ((∃ written, saveConfig files layout config = .ok written) ↔
            ∃ place, files.locateNew layout.config = .ok place
              ∧ files.entryAt place ≠ some .directory)
          ∧ ∀ written, saveConfig files layout config = .ok written →
              loadConfig written layout = .ok config :=
  ⟨fun c => c.holds_toJson.readsBack, fun s => s.holds_toJson.readsBack,
    fun identity => identity.holds_toJson.readsBack, fun info => info.holds_toJson.readsBack,
    fun r => r.holds_toJson.readsBack, fun r => r.holds_toJson.readsBack,
    fun info => info.holds_toJson.readsBack,
    fun _ hfits => (Applied.holds_toJson hfits).readsBack,
    fun _ hfits => (Outcome.holds_toJson hfits).readsBack,
    fun run => run.holds_toJson.readsBack, fun s => s.holds_toJson.readsBack,
    fun _ _ _ => ⟨saveConfig_isOk_iff, fun _ => loadConfig_of_saveConfig⟩⟩

/-- A configuration with an empty description, a tool, the longest timeout and one category. -/
def narrowConfig : ProgramConfig :=
  { name := "app", description := some "", formatVersion := "0.1.0",
    database := ".symbridge/program.db",
    load := { LoadSettings.standard with
      dumpTool := some "C:\\tools\\\"dump\".exe"
      applying := ⟨.only [.comment], 0⟩
      slotTimeout := some 0xFFFFFFFFFFFFFFFF } }

/-- A stopped run whose counters are as large as counters get. -/
def longOutcome : Outcome :=
  { state := .done, trace := [.idle, .awaitingSlot, .verifying, .parsing, .applying, .done],
    backend := "universal-reader",
    applied := some ⟨0xFFFFFFFFFFFFFFFF, 0, 1, 0, 0, 0, 0, 0, true⟩,
    demangled := none, cancelled := true, messages := ["stopped\n"] }

/-- A project directory without a configuration. -/
def preparedFiles : Files :=
  ⟨[], [(["app"], .directory), (["app", ".symbridge"], .directory)]⟩

theorem persisted_values_read_back_on_narrow :
    longOutcome.Fits
      ∧ ReadsBack Outcome.toJson Outcome.ofJson? longOutcome
      ∧ ∃ written, saveConfig preparedFiles (.ofRoot "/app") narrowConfig = .ok written
        ∧ loadConfig written (.ofRoot "/app") = .ok narrowConfig := by
  have hfits : longOutcome.Fits := by
    refine ⟨fun a ha => ?_, fun s hs => nomatch hs⟩
    cases ha
    constructor <;> decide
  obtain ⟨-, -, -, -, -, -, -, -, houtcome, -, -, hconfig⟩ := persisted_values_read_back
  obtain ⟨hsaved, hloaded⟩ := hconfig preparedFiles (.ofRoot "/app") narrowConfig
  obtain ⟨written, hwritten⟩ := hsaved.mpr ⟨["app", ".symbridge", "program.json"], by decide⟩
  exact ⟨hfits, houtcome _ hfits, written, hwritten, hloaded written hwritten⟩

end DebugMerge
