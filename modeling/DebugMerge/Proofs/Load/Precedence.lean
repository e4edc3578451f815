/-
  DebugMerge.Proofs.Load.Precedence
  ─────────────────────────────────
  **Which of three sources decides a setting.**

  Settings come from the configuration, from the mapping of a settings file and
  from the choices for one load.  The configuration is written as a document,
  the mapping is merged over it, the result is read with a default for
  everything left out, and the choices come last.  A default could slip in
  where the writer left a field out; none does: each field is the choice if
  there is one, else what the mapping says of it, else what was configured.

  The fields form one table, `SettingsField.all`: the path at which a mapping
  names a field, the reader of its value, and the choice that overrules both.
  A mapping counts only through these paths.

  Main definitions
    • `SettingsField`, `.all`        — the fields of the settings
    • `SettingsField.Prevails`       — precedence
  Main statements
    • `overlaySettings_ok_iff`       — a mapping over the configuration
    • `resolveSettings_precedence`   — the settings of one load
-/
import DebugMerge.Load.Overlay
import DebugMerge.Proofs.Folds
import DebugMerge.Proofs.Json.Mapping
import DebugMerge.Proofs.Load.Backends
import DebugMerge.Proofs.Records.RoundTrip

namespace DebugMerge

open Json

variable {α : Type}

/-! ## §1. Values that a mapping gives. -/

/-- The value of a field: read from what a document says of it, and otherwise what stands
below. -/
def readNamed (read : Json → Option α) (below : α) : Option Json → Option α
  | some v => read v
  | none => some below

/-- Read a value that `null` clears. -/
def orNull (read : Json → Option α) : Json → Option (Option α)
  | null => some none
  | v => (read v).map some

/-! ## §2. The fields of the settings. -/

/-- A field of the settings: the path at which a mapping names it, how its value is read,
where it stands, and the choice for one load that overrules it. -/
structure SettingsField where
  Value : Type
  path : List String
  read : Json → Option Value
  get : LoadSettings → Value
  chosen : LoadChoices → Option Value

namespace SettingsField

/-- Every field of the settings. -/
def all : List SettingsField :=
  [⟨BackendChoice, ["backend"], BackendChoice.ofJson?, (·.backend), (·.backend)⟩,
   ⟨Option String, ["dump_tool"], orNull text?, (·.dumpTool), (·.dumpTool.map some)⟩,
   ⟨Restrictions, ["applicator", "restrictions"], Restrictions.ofJson?,
      (·.applying.restrictions), (·.restrictions)⟩,
   ⟨UInt64, ["applicator", "check_interval"], word64?, (·.applying.checkInterval),
      fun _ => none⟩,
   ⟨UInt64, ["reader", "check_interval"], word64?, (·.reading.checkInterval), fun _ => none⟩,
   ⟨Bool, ["reader", "parse_members"], bool?, (·.reading.parseMembers), fun _ => none⟩,
   ⟨Option UInt64, ["slot_timeout_ms"], orNull word64?, (·.slotTimeout),
      (·.slotTimeout.map some)⟩,
   ⟨Bool, ["record_runs"], bool?, (·.recordRuns), (·.recordRuns)⟩]

/-- What the field becomes when a document lies over the settings, if it can be read. -/
def said (f : SettingsField) (overlay : Json) (base : LoadSettings) : Option f.Value :=
  readNamed f.read (f.get base) (overlay.at? f.path)

/-- If the document names the field, it gives it a value that can be read. -/
def IsReadable (f : SettingsField) (overlay : Json) : Prop :=
  ∀ v, overlay.at? f.path = some v → (f.read v).isSome

/-- **Precedence**: the choice for one load if there is one, else what the document says of
the field, else what was configured. -/
def Prevails (f : SettingsField) (choices : LoadChoices) (overlay : Json)
    (base s : LoadSettings) : Prop :=
  match f.chosen choices, overlay.at? f.path with
  | some a, _ => f.get s = a
  | none, some v => f.read v = some (f.get s)
  | none, none => f.get s = f.get base

/-- Settings are their fields. -/
theorem ext_all {s t : LoadSettings} (h : ∀ f ∈ all, f.get s = f.get t) : s = t := by
  obtain ⟨backend, dumpTool, ⟨restrictions, applyInterval⟩, ⟨readInterval, parseMembers⟩,
    slotTimeout, recordRuns⟩ := s
  obtain ⟨_, _, ⟨_, _⟩, ⟨_, _⟩, _, _⟩ := t
  simpa [all, and_assoc] using h

/-- A field that a document does not spoil becomes something. -/
theorem isSome_said_iff {f : SettingsField} {overlay : Json} {base : LoadSettings} :
    (f.said overlay base).isSome ↔ f.IsReadable overlay := by
  unfold said IsReadable
  cases overlay.at? f.path <;> simp [readNamed]

/-- If every field becomes something, there are settings that have it all. -/
theorem exists_said {overlay : Json} {base : LoadSettings}
    (h : ∀ f ∈ all, (f.said overlay base).isSome) :
    ∃ t : LoadSettings, ∀ f ∈ all, f.said overlay base = some (f.get t) := by
  simp only [all, List.forall_mem_cons, Option.isSome_iff_exists] at h
  obtain ⟨⟨backend, hbackend⟩, ⟨tool, htool⟩, ⟨restrictions, hrestrictions⟩,
    ⟨applyInterval, happly⟩, ⟨readInterval, hread⟩, ⟨parseMembers, hmembers⟩,
    ⟨slotTimeout, htimeout⟩, ⟨recordRuns, hrecord⟩, -⟩ := h
  refine ⟨⟨backend, tool, ⟨restrictions, applyInterval⟩, ⟨readInterval, parseMembers⟩,
    slotTimeout, recordRuns⟩, ?_⟩
  simp only [all, List.forall_mem_cons]
  exact ⟨hbackend, htool, hrestrictions, happly, hread, hmembers, htimeout, hrecord, nofun⟩

/-- Precedence in two steps: what the document makes of the field, then the choice. -/
theorem prevails_iff {f : SettingsField} {choices : LoadChoices} {overlay : Json}
    {base s t : LoadSettings} (ht : f.said overlay base = some (f.get t)) :
    f.Prevails choices overlay base s ↔ f.get s = (f.chosen choices).getD (f.get t) := by
  unfold said at ht
  unfold Prevails
  cases hchosen : f.chosen choices with
  | some a => rfl
  | none =>
    cases hnamed : overlay.at? f.path with
    | none =>
      rw [hnamed] at ht
      have hbase : f.get base = f.get t := Option.some.inj ht
      rw [← hbase]
      rfl
    | some v =>
      rw [hnamed] at ht
      have hread : f.read v = some (f.get t) := ht
      simp only [hread, Option.some.injEq, Option.getD_none]
      exact eq_comm

/-- An empty mapping says nothing. -/
theorem said_empty (base : LoadSettings) :
    ∀ f ∈ all, f.said (object []) base = some (f.get base) := by
  simp [all, said, at?, Json.lookup?, readNamed]

/-- Choices overrule field by field. -/
theorem get_onto (choices : LoadChoices) (s : LoadSettings) :
    ∀ f ∈ all, f.get (choices.onto s) = (f.chosen choices).getD (f.get s) := by
  obtain ⟨file, backend, dumpTool, restrictions, slotTimeout, recordRuns⟩ := choices
  simp only [all, LoadChoices.onto, List.forall_mem_cons]
  cases dumpTool <;> cases slotTimeout <;> simp

end SettingsField

/-! ## §3. Records from objects that repeat no name. -/

section Readers

variable {fields : List (String × Json)} (h : (fieldNames fields).Nodup)
include h

theorem ApplyOptions.ofJson?_iff {o : ApplyOptions} :
    ApplyOptions.ofJson? (object fields) = some o ↔
      (Slot.ofNamed (lookup? "restrictions" fields)).defaulted .none Restrictions.ofJson?
          = some o.restrictions
        ∧ (Slot.ofNamed (lookup? "check_interval" fields)).defaulted defaultInterval word64?
          = some o.checkInterval := by
  obtain ⟨restrictions, checkInterval⟩ := o
  simp [ApplyOptions.ofJson?, slots?, slotsOfFields?, slotOf?_of_nodup h,
    Option.bind_eq_some_iff]

theorem ReaderOptions.ofJson?_iff {o : ReaderOptions} :
    ReaderOptions.ofJson? (object fields) = some o ↔
      (Slot.ofNamed (lookup? "check_interval" fields)).defaulted defaultInterval word64?
          = some o.checkInterval
        ∧ (Slot.ofNamed (lookup? "parse_members" fields)).defaulted true bool?
          = some o.parseMembers := by
  obtain ⟨checkInterval, parseMembers⟩ := o
  simp [ReaderOptions.ofJson?, slots?, slotsOfFields?, slotOf?_of_nodup h,
    Option.bind_eq_some_iff]

theorem LoadSettings.ofJson?_iff {s : LoadSettings} :
    LoadSettings.ofJson? (object fields) = some s ↔
      (Slot.ofNamed (lookup? "backend" fields)).defaulted .universalReader BackendChoice.ofJson?
          = some s.backend
        ∧ (Slot.ofNamed (lookup? "dump_tool" fields)).optional text? = some s.dumpTool
        ∧ (Slot.ofNamed (lookup? "applicator" fields)).defaulted .standard ApplyOptions.ofJson?
          = some s.applying
        ∧ (Slot.ofNamed (lookup? "reader" fields)).defaulted .standard ReaderOptions.ofJson?
          = some s.reading
        ∧ (Slot.ofNamed (lookup? "slot_timeout_ms" fields)).optional word64?
          = some s.slotTimeout
        ∧ (Slot.ofNamed (lookup? "record_runs" fields)).defaulted true bool?
          = some s.recordRuns := by
  obtain ⟨backend, dumpTool, applying, reading, slotTimeout, recordRuns⟩ := s
  simp only [LoadSettings.ofJson?, slots?, slotsOfFields?, slotOf?_of_nodup h,
    Option.bind_eq_bind, Option.pure_def, Option.bind_some, Option.bind_eq_some_iff]
  constructor
  · rintro ⟨_, hbackend, _, htool, _, happlying, _, hreading, _, htimeout, _, hrecord, hs⟩
    cases hs
    exact ⟨hbackend, htool, happlying, hreading, htimeout, hrecord⟩
  · rintro ⟨hbackend, htool, happlying, hreading, htimeout, hrecord⟩
    exact ⟨_, hbackend, _, htool, _, happlying, _, hreading, _, htimeout, _, hrecord, rfl⟩

end Readers

/-! ## §4. A field, once a document lies over it. -/

/-- A field that is written is read back, or read from what lies over it: its default never
counts. -/
theorem defaulted_laidOver {read : Json → Option α} {below : α} {written : Json}
    (fallback : α) (hread : read written = some below)
    (hwritten : written.isObject = false) (named : Option Json) :
    (Slot.ofNamed (laidOver (some written) named)).defaulted fallback read
      = readNamed read below named := by
  cases named with
  | none => exact hread
  | some v =>
    show read (written.merge v) = read v
    rw [merge_of_not_object hwritten]

/-- An optional field that may have been left out. -/
theorem optional_laidOver (read : Json → Option α) (write : α → Json)
    (hread : ∀ a, read (write a) = some a) (hwrite : ∀ a, (write a).isObject = false)
    (hnull : ∀ a, write a ≠ null) (below : Option α) (named : Option Json) :
    (Slot.ofNamed (laidOver (below.map write) named)).optional read
      = readNamed (orNull read) below named := by
  have hvalue : ∀ v, Slot.optional read (.value v) = orNull read v := by
    intro v
    cases v <;> rfl
  -- a field that was left out is one that the mapping alone speaks of
  cases below with
  | none =>
    cases named with
    | none => rfl
    | some v => exact hvalue v
  | some a =>
    cases named with
    | none =>
      show Slot.optional read (.value (write a)) = some (some a)
      rw [hvalue]
      unfold orNull
      split
      · exact absurd ‹write a = null› (hnull a)
      · rw [hread]
        rfl
    | some v =>
      show Slot.optional read (.value ((write a).merge v)) = orNull read v
      rw [merge_of_not_object (hwrite a), hvalue]

/-- An object over an object is an object, and says what either of them says. -/
theorem laidOver_object (below : List (String × Json)) {named : Option Json}
    (hobject : ∀ v, named = some v → ∃ inner, v = object inner ∧ (fieldNames inner).Nodup)
    (hbelow : (fieldNames below).Nodup) :
    ∃ merged, laidOver (some (object below)) named = some (object merged)
      ∧ (fieldNames merged).Nodup
      ∧ ∀ name, lookup? name merged
          = laidOver (lookup? name below) (named.bind (·.at? [name])) := by
  cases named with
  | none => exact ⟨below, rfl, hbelow, fun name => (laidOver_none _).symm⟩
  | some v =>
    obtain ⟨inner, rfl, hinner⟩ := hobject v rfl
    refine ⟨mergeFields below inner, ?_, nodup_mergeFields hbelow inner, fun name => ?_⟩
    · show some ((object below).merge (object inner)) = _
      rw [merge_object]
    · rw [lookup?_mergeFields below inner hinner, Option.bind_some, at?_singleton]

theorem Json.read_bool (b : Bool) : bool? (bool b) = some b := rfl

theorem BackendChoice.ofJson?_toJson (choice : BackendChoice) :
    BackendChoice.ofJson? choice.toJson = some choice := by
  cases choice <;> rfl

theorem RecordKind.ofJson?_toJson (kind : RecordKind) :
    RecordKind.ofJson? kind.toJson = some kind :=
  kind.ofWord?_word

theorem Restrictions.ofJson?_toJson (r : Restrictions) :
    Restrictions.ofJson? r.toJson = some r := by
  have hitems := readItems?_map RecordKind.ofJson? RecordKind.toJson RecordKind.ofJson?_toJson
    r.toList
  simp [Restrictions.ofJson?, Restrictions.toJson, list?, hitems, Restrictions.only_toList]

/-! ## §5. A mapping over the configuration. -/

/-- The stages of a document, where it names them, are objects. -/
def Json.HasStages (overlay : Json) : Prop :=
  ∀ stage ∈ ["applicator", "reader"], ∀ v, overlay.at? [stage] = some v → ∃ inner, v = object inner

/-- Options of a merge below what a document says of them. -/
theorem ApplyOptions.laidOver_iff {named : Option Json}
    (hobject : ∀ v, named = some v → ∃ inner, v = object inner ∧ (fieldNames inner).Nodup)
    (o t : ApplyOptions) :
    (Slot.ofNamed (laidOver (some o.toJson) named)).defaulted .standard ApplyOptions.ofJson?
        = some t ↔
      readNamed Restrictions.ofJson? o.restrictions (named.bind (·.at? ["restrictions"]))
          = some t.restrictions
        ∧ readNamed word64? o.checkInterval (named.bind (·.at? ["check_interval"]))
          = some t.checkInterval := by
  obtain ⟨merged, hmerged, hnodup, hlookup⟩ := laidOver_object
    [("restrictions", o.restrictions.toJson), ("check_interval", ofWord64 o.checkInterval)]
    hobject (by simp [fieldNames])
  have hinterval := defaulted_laidOver defaultInterval (word64?_ofWord64 o.checkInterval) rfl
    (named.bind (·.at? ["check_interval"]))
  have hrestrictions := defaulted_laidOver .none o.restrictions.ofJson?_toJson rfl
    (named.bind (·.at? ["restrictions"]))
  rw [ApplyOptions.toJson, hmerged]
  show ApplyOptions.ofJson? (object merged) = some t ↔ _
  rw [ApplyOptions.ofJson?_iff hnodup, hlookup, hlookup, ← hinterval, ← hrestrictions]
  rfl

/-- Options of a reader below what a document says of them. -/
theorem ReaderOptions.laidOver_iff {named : Option Json}
    (hobject : ∀ v, named = some v → ∃ inner, v = object inner ∧ (fieldNames inner).Nodup)
    (o t : ReaderOptions) :
    (Slot.ofNamed (laidOver (some o.toJson) named)).defaulted .standard ReaderOptions.ofJson?
        = some t ↔
      readNamed word64? o.checkInterval (named.bind (·.at? ["check_interval"]))
          = some t.checkInterval
        ∧ readNamed bool? o.parseMembers (named.bind (·.at? ["parse_members"]))
          = some t.parseMembers := by
  obtain ⟨merged, hmerged, hnodup, hlookup⟩ := laidOver_object
    [("check_interval", ofWord64 o.checkInterval), ("parse_members", bool o.parseMembers)]
    hobject (by simp [fieldNames])
  have hinterval := defaulted_laidOver defaultInterval (word64?_ofWord64 o.checkInterval) rfl
    (named.bind (·.at? ["check_interval"]))
  have hmembers := defaulted_laidOver true (read_bool o.parseMembers) rfl
    (named.bind (·.at? ["parse_members"]))
  rw [ReaderOptions.toJson, hmerged]
  show ReaderOptions.ofJson? (object merged) = some t ↔ _
  rw [ReaderOptions.ofJson?_iff hnodup, hlookup, hlookup, ← hinterval, ← hmembers]
  rfl

/-- The configuration as an object: what is absent is left out, and nothing is repeated. -/
theorem LoadSettings.toJson_spec (s : LoadSettings) :
    ∃ fields, s.toJson = object fields ∧ (fieldNames fields).Nodup
      ∧ lookup? "backend" fields = some s.backend.toJson
      ∧ lookup? "dump_tool" fields = s.dumpTool.map text
      ∧ lookup? "applicator" fields = some s.applying.toJson
      ∧ lookup? "reader" fields = some s.reading.toJson
      ∧ lookup? "slot_timeout_ms" fields = s.slotTimeout.map ofWord64
      ∧ lookup? "record_runs" fields = some (bool s.recordRuns) := by
  obtain ⟨backend, dumpTool, applying, reading, slotTimeout, recordRuns⟩ := s
  refine ⟨_, rfl, ?_⟩
  cases dumpTool <;> cases slotTimeout <;> simp [fieldNames, lookup?]

/-- **A mapping over the configuration**: the result is what the mapping says of every field,
and succeeds exactly if all of that can be read. -/
theorem overlaySettings_ok_iff {path : String} {overlay : Json} {base t : LoadSettings}
    (hobject : ∃ fields, overlay = object fields) (hunambiguous : overlay.IsUnambiguous)
    (hstages : overlay.HasStages) :
    overlaySettings path overlay base = .ok t ↔
      ∀ f ∈ SettingsField.all, f.said overlay base = some (f.get t) := by
  obtain ⟨above, rfl⟩ := hobject
  obtain ⟨below, hbelow, hnodup, hbackend, htool, happlying, hreading, htimeout, hrecord⟩ :=
    base.toJson_spec
  have hread : overlaySettings path (object above) base = .ok t ↔
      LoadSettings.ofJson? (object (mergeFields below above)) = some t := by
    rw [overlaySettings, hbelow, merge_object]
    cases LoadSettings.ofJson? (object (mergeFields below above)) <;> simp
  -- a stage that is named is an object that repeats no name
  have hinner : ∀ stage ∈ ["applicator", "reader"], ∀ v, (object above).at? [stage] = some v →
      ∃ inner, v = object inner ∧ (fieldNames inner).Nodup := by
    intro stage hstage v hv
    obtain ⟨inner, rfl⟩ := hstages stage hstage v hv
    rw [at?_singleton] at hv
    exact ⟨inner, rfl, (hunambiguous.lookup? hv).1⟩
  -- what the merge says of a field is what the mapping says over what was configured
  simp only [hread, LoadSettings.ofJson?_iff (nodup_mergeFields hnodup above),
    lookup?_mergeFields below above hunambiguous.1, hbackend, htool, happlying, hreading,
    htimeout, hrecord, ← at?_singleton above]
  -- so no default of the reader counts: a field is written, or its absence is its value
  rw [defaulted_laidOver _ base.backend.ofJson?_toJson rfl,
    optional_laidOver text? text (fun _ => rfl) (fun _ => rfl) text_ne_null,
    ApplyOptions.laidOver_iff (hinner _ (by decide)),
    ReaderOptions.laidOver_iff (hinner _ (by decide)),
    optional_laidOver word64? ofWord64 word64?_ofWord64 (fun _ => rfl) ofWord64_ne_null,
    defaulted_laidOver _ (read_bool base.recordRuns) rfl]
  simp [SettingsField.all, SettingsField.said, at?_cons above _ [_], and_assoc]

/-! ## §6. The settings of one load. -/

/-- A document that is read from a settings file is an object that repeats no name. -/
theorem readOverlay_ok {files : Files} {path : String} {overlay : Json}
    (h : readOverlay files path = .ok overlay) :
    (∃ fields, overlay = object fields) ∧ overlay.IsUnambiguous := by
  unfold readOverlay at h
  split at h
  · cases h
  · rename_i text htext
    extract_lets document at h
    -- a text in either format means a document that repeats no name
    have hdocument : ∀ v, document = .ok v → v.IsUnambiguous := by
      intro v hv
      unfold document at hv
      split at hv
      · split at hv <;> cases hv
        rename_i hgeneric
        obtain ⟨raw, -, hraw⟩ := Option.bind_eq_some_iff.mp hgeneric
        exact isUnambiguous_of_generic? hraw
      · split at hv <;> cases hv
        rename_i hparse
        exact Yaml.isUnambiguous_of_parse? hparse
    cases hcase : document with
    | error e => rw [hcase] at h; cases h
    | ok v =>
      have hunambiguous := hdocument v hcase
      rw [hcase] at h
      cases v with
      | object fields => cases h; exact ⟨⟨fields, rfl⟩, hunambiguous⟩
      | _ => cases h

/-- The document that lies over the configuration: that of the settings file, and an empty
mapping if there is no settings file. -/
def LiesOver (files : Files) (settingsFile : Option String) (overlay : Json) : Prop :=
  match settingsFile with
  | some path => readOverlay files path = .ok overlay
  | none => overlay = object []

/-- **What a resolution does**: it fails exactly if some field cannot be read, and lays the
choices over what the document makes of the configuration otherwise. -/
theorem resolveSettings_cases {files : Files} {overlay : Json} (choices : LoadChoices)
    (base : LoadSettings) (hlies : LiesOver files choices.settingsFile overlay)
    (hstages : overlay.HasStages) :
    (∃ t : LoadSettings, (∀ f ∈ SettingsField.all, f.said overlay base = some (f.get t))
        ∧ resolveSettings files base choices = .ok (choices.onto t))
      ∨ (¬ (∃ t : LoadSettings, ∀ f ∈ SettingsField.all, f.said overlay base = some (f.get t)))
        ∧ resolveSettings files base choices
          = .error (.invalid (choices.settingsFile.getD "")) := by
  unfold LiesOver at hlies
  cases hfile : choices.settingsFile with
  | none =>
    rw [hfile] at hlies
    cases hlies
    refine .inl ⟨base, SettingsField.said_empty base, ?_⟩
    rw [resolveSettings, hfile]
    rfl
  | some path =>
    rw [hfile] at hlies
    have hread : readOverlay files path = .ok overlay := hlies
    obtain ⟨hobject, hunambiguous⟩ := readOverlay_ok hread
    have hresolve : resolveSettings files base choices
        = (overlaySettings path overlay base).map choices.onto := by
      rw [resolveSettings, hfile]
      dsimp only
      rw [hread]
      show (overlaySettings path overlay base >>= fun t => pure (choices.onto t)) = _
      cases overlaySettings path overlay base <;> rfl
    have hiff : ∀ t, overlaySettings path overlay base = .ok t
        ↔ ∀ f ∈ SettingsField.all, f.said overlay base = some (f.get t) :=
      fun t => overlaySettings_ok_iff hobject hunambiguous hstages
    cases hlaid : overlaySettings path overlay base with
    | ok t =>
      refine .inl ⟨t, (hiff t).mp hlaid, ?_⟩
      rw [hresolve, hlaid]
      rfl
    | error e =>
      refine .inr ⟨fun ⟨t, ht⟩ => ?_, ?_⟩
      · have hok := (hiff t).mpr ht
        rw [hlaid] at hok
        cases hok
      · -- the mapping could be read, so the settings are what is wrong
        have herror : e = .invalid path := by
          unfold overlaySettings at hlaid
          split at hlaid <;> cases hlaid
          rfl
        rw [hresolve, hlaid, herror]
        rfl

/-- **Precedence.**  Settings are resolved exactly if every value that the mapping gives to a
field can be read, and each field is then the choice for this load if there is one, else the
value in the mapping if it names the field, else what was configured.  Mappings that agree on
the fields resolve to the same, whatever else they hold, and an empty one leaves the
configuration as it is. -/
theorem resolveSettings_precedence (files : Files) (base : LoadSettings) (choices : LoadChoices)
    (overlay : Json) (hlies : LiesOver files choices.settingsFile overlay)
    (hstages : overlay.HasStages) :
    (∀ s, resolveSettings files base choices = .ok s ↔
      ∀ f ∈ SettingsField.all, f.IsReadable overlay ∧ f.Prevails choices overlay base s)
    ∧ (∀ (files' : Files) (overlay' : Json), LiesOver files' choices.settingsFile overlay' →
        overlay'.HasStages →
        (∀ f ∈ SettingsField.all, overlay'.at? f.path = overlay.at? f.path) →
        resolveSettings files' base choices = resolveSettings files base choices)
    ∧ (overlay = object [] →
        resolveSettings files base { LoadChoices.none with settingsFile := choices.settingsFile }
          = .ok base) := by
  refine ⟨fun s => ?_, fun files' overlay' hlies' hstages' hagree => ?_, ?_⟩
  · rcases resolveSettings_cases _ base hlies hstages with ⟨t, ht, hok⟩ | ⟨hnone, herror⟩
    · -- there are settings `t` below the choices, and `s` is what the choices make of them
      rw [hok]
      constructor
      · rintro hs f hf
        cases hs
        exact ⟨SettingsField.isSome_said_iff.mp (by rw [ht f hf]; rfl),
          (SettingsField.prevails_iff (ht f hf)).mpr (SettingsField.get_onto choices t f hf)⟩
      · intro hs
        refine congrArg Except.ok (SettingsField.ext_all fun f hf => ?_)
        rw [SettingsField.get_onto choices t f hf]
        exact ((SettingsField.prevails_iff (ht f hf)).mp (hs f hf).2).symm
    · -- some field cannot be read
      rw [herror]
      constructor
      · exact nofun
      · intro hs
        exact absurd (SettingsField.exists_said fun f hf =>
          SettingsField.isSome_said_iff.mpr (hs f hf).1) hnone
  · have hsaid : ∀ f ∈ SettingsField.all, f.said overlay' base = f.said overlay base := by
      intro f hf
      unfold SettingsField.said
      rw [hagree f hf]
    -- both documents make the same of the configuration, or neither can be read
    rcases resolveSettings_cases _ base hlies hstages with ⟨t, ht, hok⟩ | ⟨hnone, herror⟩
    · rcases resolveSettings_cases _ base hlies' hstages' with ⟨t', ht', hok'⟩ | ⟨hnone', -⟩
      · have hsame : t' = t := SettingsField.ext_all fun f hf =>
          Option.some.inj ((ht' f hf).symm.trans ((hsaid f hf).trans (ht f hf)))
        rw [hok, hok', hsame]
      · exact absurd ⟨t, fun f hf => (hsaid f hf).trans (ht f hf)⟩ hnone'
    · rcases resolveSettings_cases _ base hlies' hstages' with ⟨t', ht', -⟩ | ⟨-, herror'⟩
      · exact absurd ⟨t', fun f hf => (hsaid f hf).symm.trans (ht' f hf)⟩ hnone
      · rw [herror, herror']
  · rintro rfl
    -- nothing is chosen, and nothing is said
    rcases resolveSettings_cases { LoadChoices.none with settingsFile := choices.settingsFile }
        base hlies hstages with ⟨t, ht, hok⟩ | ⟨hnone, -⟩
    · have hsame : t = base := SettingsField.ext_all fun f hf =>
        Option.some.inj ((ht f hf).symm.trans (SettingsField.said_empty base f hf))
      rw [hok, hsame]
      rfl
    · exact absurd ⟨base, SettingsField.said_empty base⟩ hnone

/-- A mapping that clears the tool, sets one interval, and says more than is asked. -/
def sparseMapping : Json :=
  object [("dump_tool", null),
    ("applicator", object [("check_interval", natural 7), ("note", list [])]),
    ("author", text "nobody")]

/-- The mapping in a file. -/
def sparseFiles : Files :=
  ⟨[], [(["load.json"], .file (Text.Utf8.encode sparseMapping.compact).data.toList false)]⟩

/-- A configuration without any default in it. -/
def configuredSettings : LoadSettings :=
  ⟨.legacyInterop, some "dump", ⟨.only [.dataType], 5⟩, ⟨9, false⟩, some 250, false⟩

/-- The file and one choice of its own. -/
def recordedChoices : LoadChoices :=
  { LoadChoices.none with settingsFile := some "load.json", recordRuns := some true }

/-- The file clears the tool and sets the interval, the choice has the run recorded, and all
else stays as it was configured. -/
theorem resolveSettings_precedence_on_sparse :
    LiesOver sparseFiles recordedChoices.settingsFile sparseMapping
      ∧ sparseMapping.HasStages
      ∧ resolveSettings sparseFiles configuredSettings recordedChoices
        = .ok ⟨.legacyInterop, none, ⟨.only [.dataType], 7⟩, ⟨9, false⟩, some 250, true⟩ := by
  have hplain : sparseMapping.IsPlain := by
    simp [sparseMapping, IsPlain, HasPlainFields, ArePlain, Text.limit64]
  have hlies : LiesOver sparseFiles recordedChoices.settingsFile sparseMapping := by
    show readOverlay sparseFiles "load.json" = .ok sparseMapping
    have htext : sparseFiles.readText "load.json" = .ok sparseMapping.compact :=
      Files.readText_of_encode rfl
    have hgeneric : generic? maxDepth sparseMapping = some sparseMapping := rfl
    have hextension : Path.extension? "load.json" = some jsonExtension := by decide
    unfold readOverlay
    rw [htext]
    simp only [hextension, if_pos, parse?_compact _ hplain, Option.bind_some, hgeneric]
    rfl
  have hstages : sparseMapping.HasStages := by
    simp [HasStages, sparseMapping, at?, Json.lookup?]
  refine ⟨hlies, hstages, ?_⟩
  refine ((resolveSettings_precedence sparseFiles configuredSettings recordedChoices
    sparseMapping hlies hstages).1 _).mpr ?_
  simp [SettingsField.all, SettingsField.IsReadable, SettingsField.Prevails, sparseMapping, at?,
    Json.lookup?, recordedChoices, LoadChoices.none, configuredSettings, orNull]
  decide

end DebugMerge
