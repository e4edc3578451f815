/-
  DebugMerge.Proofs.Json.Mapping
  ──────────────────────────────
  **What a mapping names, and what it names once another lies over it.**

  A mapping is an object whose fields are looked up by name.  Lookup answers
  for the whole field list only if no name is repeated, so that is the
  invariant here: every document read without knowing its type has it, in
  either format, and laying one mapping over another keeps it.  With it the
  slots of a record are what lookup says, and a merge is described name by
  name.

  Main definitions
    • `at?`                               — what a document says at a path
  Main statements
    • `slotOf?_of_nodup`                  — slots are lookups
    • `lookup?_mergeFields`               — a merge, name by name
    • `isUnambiguous_of_normal?`          — generic documents repeat no name
    • `Yaml.isUnambiguous_of_toJson?`     — nor do documents in blocks
-/
import DebugMerge.Json.Merge
import DebugMerge.Json.Shape
import DebugMerge.Yaml.Reader

namespace DebugMerge.Json

/-! ## §1. Looking up a name. -/

theorem lookup?_eq_none_iff {name : String} {fields : List (String × Json)} :
    lookup? name fields = none ↔ name ∉ fieldNames fields := by
  induction fields with
  | nil => simp [lookup?, fieldNames]
  | cons field fields ih =>
    obtain ⟨key, v⟩ := field
    by_cases hkey : key = name
    · simp [lookup?, fieldNames, hkey]
    · have hne : ¬ name = key := fun h => hkey h.symm
      simp only [lookup?, if_neg hkey, ih]
      simp [fieldNames, hne]

theorem mem_of_lookup? {name : String} {fields : List (String × Json)} {v : Json}
    (h : lookup? name fields = some v) : (name, v) ∈ fields := by
  induction fields with
  | nil => simp [lookup?] at h
  | cons field fields ih =>
    obtain ⟨key, old⟩ := field
    by_cases hkey : key = name
    · have hold : old = v := by simpa [lookup?, hkey] using h
      subst hkey hold
      exact List.mem_cons_self
    · have hrest : lookup? name fields = some v := by simpa [lookup?, hkey] using h
      exact List.mem_cons_of_mem _ (ih hrest)

theorem lookup?_setField (name key : String) (v : Json) (fields : List (String × Json)) :
    lookup? name (setField key v fields) = if key = name then some v else lookup? name fields := by
  induction fields with
  | nil => simp [setField, lookup?]
  | cons field fields ih =>
    obtain ⟨first, old⟩ := field
    by_cases hfirst : first = key
    · subst hfirst
      by_cases hname : first = name <;> simp [setField, lookup?, hname]
    · by_cases hname : first = name
      · subst hname
        have hkey : ¬ key = first := fun h => hfirst h.symm
        simp [setField, lookup?, hfirst, hkey]
      · simp [setField, lookup?, hfirst, hname, ih]

/-- Setting a field adds no name but its own. -/
theorem mem_fieldNames_setField {name key : String} {v : Json} {fields : List (String × Json)} :
    name ∈ fieldNames (setField key v fields) ↔ name = key ∨ name ∈ fieldNames fields := by
  -- the names are those under which something is found
  refine Decidable.not_iff_not.mp ?_
  rw [not_or, ← lookup?_eq_none_iff, ← lookup?_eq_none_iff, lookup?_setField]
  by_cases hkey : key = name
  · simp [hkey]
  · have hne : ¬ name = key := fun h => hkey h.symm
    simp [hkey, hne]

theorem nodup_setField {key : String} {v : Json} {fields : List (String × Json)}
    (h : (fieldNames fields).Nodup) : (fieldNames (setField key v fields)).Nodup := by
  induction fields with
  | nil => simp [setField, fieldNames]
  | cons field fields ih =>
    obtain ⟨first, old⟩ := field
    obtain ⟨hnew, hrest⟩ : first ∉ fieldNames fields ∧ (fieldNames fields).Nodup :=
      List.nodup_cons.mp h
    by_cases hfirst : first = key
    · simpa [setField, hfirst, fieldNames] using h
    · have hstays : first ∉ fieldNames (setField key v fields) := by
        rw [mem_fieldNames_setField]
        exact fun hmem => hmem.elim hfirst hnew
      simpa [setField, hfirst, fieldNames] using ⟨by simpa [fieldNames] using hstays, ih hrest⟩

/-! ## §2. What a document says at a path. -/

/-- What a document says at a path of names. -/
def at? (v : Json) : List String → Option Json
  | [] => some v
  | name :: rest =>
      match v with
      | object fields => (lookup? name fields).bind fun inner => inner.at? rest
      | _ => none

theorem at?_singleton (fields : List (String × Json)) (name : String) :
    (object fields).at? [name] = lookup? name fields := by
  show (lookup? name fields).bind (fun inner => some inner) = _
  cases lookup? name fields <;> rfl

theorem at?_cons (fields : List (String × Json)) (name : String) (rest : List String) :
    (object fields).at? (name :: rest) = ((object fields).at? [name]).bind (·.at? rest) := by
  rw [at?_singleton]
  rfl

/-! ## §3. Slots. -/

/-- The slot of a field of an object that names it at most once. -/
def Slot.ofNamed : Option Json → Slot
  | some v => .value v
  | none => .omitted

/-- Without repeated names, the slot of a field is what lookup says. -/
theorem slotOf?_of_nodup {fields : List (String × Json)} (h : (fieldNames fields).Nodup)
    (name : String) : slotOf? name fields = some (Slot.ofNamed (lookup? name fields)) := by
  induction fields with
  | nil => rfl
  | cons field fields ih =>
    obtain ⟨key, v⟩ := field
    obtain ⟨hnew, hrest⟩ : key ∉ fieldNames fields ∧ (fieldNames fields).Nodup :=
      List.nodup_cons.mp h
    by_cases hkey : key = name
    · subst hkey
      -- the name does not come again, so nothing behind it passes the filter
      have hnone : fields.filter (fun field => field.1 = key) = [] := by
        refine List.filter_eq_nil_iff.mpr fun field hmem hfield => hnew ?_
        have hname : field.1 = key := by simpa using hfield
        exact hname ▸ List.mem_map_of_mem hmem
      simp [slotOf?, lookup?, hnone, Slot.ofNamed]
    · have hslot : slotOf? name ((key, v) :: fields) = slotOf? name fields := by
        simp [slotOf?, hkey]
      have hlookup : lookup? name ((key, v) :: fields) = lookup? name fields := by
        simp [lookup?, hkey]
      rw [hslot, hlookup, ih hrest]

/-! ## §4. One mapping over another. -/

/-- What a name stands for when `new` lies over `old`. -/
def laidOver (old new : Option Json) : Option Json :=
  match old, new with
  | old, none => old
  | none, some v => some v
  | some below, some v => some (below.merge v)

@[simp] theorem laidOver_none (old : Option Json) : laidOver old none = old := by
  cases old <;> rfl

/-- Is the document an object? -/
def isObject : Json → Bool
  | object _ => true
  | _ => false

/-- Anything but an object is replaced. -/
theorem merge_of_not_object {below : Json} (h : below.isObject = false) (v : Json) :
    below.merge v = v := by
  cases v with
  | object above =>
    cases below with
    | object fields => cases h
    | _ => rw [merge]; all_goals simp
  | _ => rw [merge]; all_goals simp

theorem merge_object (below above : List (String × Json)) :
    (object below).merge (object above) = object (mergeFields below above) := by
  rw [merge]

/-- One field more: what the fields said becomes what they say with it on top. -/
theorem mergeFields_cons (below : List (String × Json)) (name : String) (v : Json)
    (rest : List (String × Json)) :
    ∃ w, laidOver (lookup? name below) (some v) = some w
      ∧ mergeFields below ((name, v) :: rest) = mergeFields (setField name w below) rest := by
  rw [mergeFields]
  cases lookup? name below with
  | none => exact ⟨v, rfl, rfl⟩
  | some old => exact ⟨old.merge v, rfl, rfl⟩

/-- **A merge, name by name.** -/
theorem lookup?_mergeFields (below above : List (String × Json)) (h : (fieldNames above).Nodup)
    (name : String) :
    lookup? name (mergeFields below above)
      = laidOver (lookup? name below) (lookup? name above) := by
  -- by induction on the upper fields: each is set once, since none of them comes again
  induction above generalizing below with
  | nil => simp [mergeFields, lookup?]
  | cons field rest ih =>
    obtain ⟨key, v⟩ := field
    obtain ⟨hnew, hrest⟩ : key ∉ fieldNames rest ∧ (fieldNames rest).Nodup :=
      List.nodup_cons.mp h
    obtain ⟨w, hw, hmerged⟩ := mergeFields_cons below key v rest
    rw [hmerged, ih _ hrest, lookup?_setField]
    by_cases hkey : key = name
    · subst hkey
      have hnone : lookup? key rest = none := lookup?_eq_none_iff.mpr hnew
      simp [lookup?, hnone, hw]
    · simp [lookup?, hkey]

theorem nodup_mergeFields {below : List (String × Json)} (h : (fieldNames below).Nodup)
    (above : List (String × Json)) : (fieldNames (mergeFields below above)).Nodup := by
  induction above generalizing below with
  | nil => simpa [mergeFields] using h
  | cons field rest ih =>
    obtain ⟨w, -, hmerged⟩ := mergeFields_cons below field.1 field.2 rest
    rw [hmerged]
    exact ih (nodup_setField h)

/-! ## §5. Documents that repeat no name. -/

mutual

/-- No object inside the value names a field twice. -/
def IsUnambiguous : Json → Prop
  | list items => AreUnambiguous items
  | object fields => (fieldNames fields).Nodup ∧ HasUnambiguousFields fields
  | _ => True

/-- Each of the items is unambiguous. -/
def AreUnambiguous : List Json → Prop
  | [] => True
  | v :: rest => v.IsUnambiguous ∧ AreUnambiguous rest

/-- Each of the field values is unambiguous. -/
def HasUnambiguousFields : List (String × Json) → Prop
  | [] => True
  | (_, v) :: rest => v.IsUnambiguous ∧ HasUnambiguousFields rest

end

theorem hasUnambiguousFields_iff {fields : List (String × Json)} :
    HasUnambiguousFields fields ↔ ∀ field ∈ fields, field.2.IsUnambiguous := by
  induction fields with
  | nil => simp [HasUnambiguousFields]
  | cons field fields ih => simp [HasUnambiguousFields, ih]

theorem IsUnambiguous.lookup? {fields : List (String × Json)} {name : String} {v : Json}
    (h : (object fields).IsUnambiguous) (hv : lookup? name fields = some v) :
    v.IsUnambiguous :=
  hasUnambiguousFields_iff.mp h.2 _ (mem_of_lookup? hv)

theorem isUnambiguous_setField {key : String} {v : Json} {fields : List (String × Json)}
    (h : (object fields).IsUnambiguous) (hv : v.IsUnambiguous) :
    (object (setField key v fields)).IsUnambiguous := by
  refine ⟨nodup_setField h.1, ?_⟩
  -- that names are distinct plays no part in the values
  have hfields : HasUnambiguousFields fields := h.2
  clear h
  induction fields with
  | nil => exact ⟨hv, trivial⟩
  | cons field fields ih =>
    obtain ⟨first, old⟩ := field
    obtain ⟨hold, hrest⟩ := hfields
    by_cases hfirst : first = key
    · simp only [setField, if_pos hfirst]
      exact ⟨hv, hrest⟩
    · simp only [setField, if_neg hfirst]
      exact ⟨hold, ih hrest⟩

theorem isUnambiguous_empty : (object []).IsUnambiguous :=
  ⟨List.nodup_nil, trivial⟩

mutual

/-- **A document read without knowing its type repeats no name.** -/
theorem isUnambiguous_of_normal? : ∀ (v : Json) {w : Json}, v.normal? = some w → w.IsUnambiguous
  | list items, _, h => by
    rw [normal?] at h
    obtain ⟨read, hread, rfl⟩ := Option.map_eq_some_iff.mp h
    exact areUnambiguous_of_normalItems? items hread
  | object fields, _, h => by
    rw [normal?] at h
    obtain ⟨read, hread, rfl⟩ := Option.map_eq_some_iff.mp h
    exact isUnambiguous_of_normalFields? fields isUnambiguous_empty hread
  | numeral cs, _, h => by
    rw [normal?] at h
    split at h
    · cases h; trivial
    · cases h
  | unreadable, _, h => by rw [normal?] at h; cases h
  | null, _, h | bool _, _, h | natural _, _, h | negative _, _, h | text _, _, h => by
    cases h; trivial

theorem areUnambiguous_of_normalItems? : ∀ (items : List Json) {read : List Json},
    normalItems? items = some read → AreUnambiguous read
  | [], _, h => by cases h; trivial
  | v :: rest, _, h => by
    rw [normalItems?] at h
    obtain ⟨w, hw, h⟩ := Option.bind_eq_some_iff.mp h
    obtain ⟨more, hmore, h⟩ := Option.bind_eq_some_iff.mp h
    cases h
    exact ⟨isUnambiguous_of_normal? v hw, areUnambiguous_of_normalItems? rest hmore⟩

theorem isUnambiguous_of_normalFields? : ∀ (fields : List (String × Json))
    {before read : List (String × Json)}, (object before).IsUnambiguous →
    normalFields? before fields = some read → (object read).IsUnambiguous
  | [], _, _, hbefore, h => by rw [normalFields?] at h; cases h; exact hbefore
  | (key, v) :: rest, _, _, hbefore, h => by
    rw [normalFields?] at h
    obtain ⟨w, hw, h⟩ := Option.bind_eq_some_iff.mp h
    exact isUnambiguous_of_normalFields? rest
      (isUnambiguous_setField hbefore (isUnambiguous_of_normal? v hw)) h

end

theorem isUnambiguous_of_generic? {levels : Nat} {v w : Json} (h : v.generic? levels = some w) :
    w.IsUnambiguous := by
  unfold generic? at h
  split at h
  · exact isUnambiguous_of_normal? v h
  · cases h

end DebugMerge.Json

namespace DebugMerge.Yaml

open Json (IsUnambiguous AreUnambiguous)

theorem isUnambiguous_of_ofInteger? {n : Int} {v : Json} (h : ofInteger? n = some v) :
    v.IsUnambiguous := by
  unfold ofInteger? at h
  split at h <;> split at h <;> cases h <;> trivial

theorem isUnambiguous_of_fraction? {cs : List Char} {v : Json} (h : fraction? cs = some v) :
    v.IsUnambiguous := by
  unfold fraction? at h
  split at h
  · cases h; trivial
  · split at h <;> cases h
    trivial

theorem isUnambiguous_of_plainValue? {cs : List Char} {v : Json} (h : plainValue? cs = some v) :
    v.IsUnambiguous := by
  unfold plainValue? at h
  extract_lets s otherwise at h
  -- what is no integer is a text or a fraction
  have hotherwise : ∀ {w}, otherwise = some w → w.IsUnambiguous := by
    intro w hw
    unfold otherwise at hw
    split at hw
    · cases hw; trivial
    · cases hfraction : fraction? cs with
      | none => rw [hfraction] at hw; cases hw; trivial
      | some read =>
        rw [hfraction] at hw
        cases hw
        exact isUnambiguous_of_fraction? hfraction
  split at h
  · cases h; trivial
  · split at h
    · cases h; trivial
    · split at h
      · split at h
        · exact hotherwise h
        · exact isUnambiguous_of_ofInteger? h
      · exact hotherwise h

/-- A scalar is no object. -/
theorem isUnambiguous_of_scalarValue? {tag : Option Tag} {plain : Bool} {cs : List Char}
    {v : Json} (h : scalarValue? tag plain cs = some v) : v.IsUnambiguous := by
  unfold scalarValue? at h
  extract_lets s at h
  split at h
  · split at h
    · exact isUnambiguous_of_plainValue? h
    · cases h; trivial
  · cases h
  · cases h; trivial
  · -- a tag of the core schema forces a meaning
    split at h
    · obtain ⟨b, -, rfl⟩ := Option.map_eq_some_iff.mp h
      trivial
    · split at h
      · obtain ⟨n, -, h⟩ := Option.bind_eq_some_iff.mp h
        exact isUnambiguous_of_ofInteger? h
      · split at h
        · exact isUnambiguous_of_fraction? h
        · split at h
          · split at h <;> cases h
            trivial
          · cases h; trivial

mutual

/-- **A document in blocks repeats no name.** -/
theorem isUnambiguous_of_toJson? : ∀ (node : Node) {v : Json},
    node.toJson? = some v → v.IsUnambiguous
  | .scalar tag plain cs, _, h => by
    rw [Node.toJson?] at h
    exact isUnambiguous_of_scalarValue? h
  | .sequence tag items, _, h => by
    rw [Node.toJson?] at h
    split at h
    · cases h
    · obtain ⟨read, hread, rfl⟩ := Option.map_eq_some_iff.mp h
      exact areUnambiguous_of_itemsToJson? items hread
  | .mapping tag entries, _, h => by
    rw [Node.toJson?] at h
    split at h
    · cases h
    · obtain ⟨read, hread, rfl⟩ := Option.map_eq_some_iff.mp h
      exact isUnambiguous_of_entriesToJson? entries Json.isUnambiguous_empty hread

theorem areUnambiguous_of_itemsToJson? : ∀ (items : List Node) {read : List Json},
    itemsToJson? items = some read → AreUnambiguous read
  | [], _, h => by cases h; trivial
  | node :: rest, _, h => by
    rw [itemsToJson?] at h
    obtain ⟨w, hw, h⟩ := Option.bind_eq_some_iff.mp h
    obtain ⟨more, hmore, h⟩ := Option.bind_eq_some_iff.mp h
    cases h
    exact ⟨isUnambiguous_of_toJson? node hw, areUnambiguous_of_itemsToJson? rest hmore⟩

theorem isUnambiguous_of_entriesToJson? : ∀ (entries : List (Node × Node))
    {before read : List (String × Json)}, (Json.object before).IsUnambiguous →
    entriesToJson? before entries = some read → (Json.object read).IsUnambiguous
  | [], _, _, hbefore, h => by rw [entriesToJson?] at h; cases h; exact hbefore
  | (.scalar _ _ key, value) :: rest, _, _, hbefore, h => by
    rw [entriesToJson?] at h
    obtain ⟨w, hw, h⟩ := Option.bind_eq_some_iff.mp h
    exact isUnambiguous_of_entriesToJson? rest
      (Json.isUnambiguous_setField hbefore (isUnambiguous_of_toJson? value hw)) h
  | (.sequence _ _, _) :: _, _, _, _, h => by simp [entriesToJson?] at h
  | (.mapping _ _, _) :: _, _, _, _, h => by simp [entriesToJson?] at h

end

/-- A text in blocks means a document that repeats no name. -/
theorem isUnambiguous_of_parse? {text : String} {v : Json} (h : parse? text = some v) :
    v.IsUnambiguous := by
  unfold parse? at h
  extract_lets cs fuel at h
  split at h
  · obtain ⟨⟨node, rest⟩, -, h⟩ := Option.bind_eq_some_iff.mp h
    obtain ⟨w, hw, h⟩ := Option.bind_eq_some_iff.mp h
    split at h
    · cases h
      exact isUnambiguous_of_toJson? node hw
    · cases h
  · cases h

end DebugMerge.Yaml
