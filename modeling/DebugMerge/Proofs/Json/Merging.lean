/-
  DebugMerge.Proofs.Json.Merging
  ──────────────────────────────
  **The laws of laying one document over another.**

  A merge changes one document while it consumes the other, and at each place
  where both are objects it goes on inside.  What it comes to is told by one
  fact: every field of the overlay ends as the overlay's value laid over some
  value, or over nothing, which is the same as laying it over `null`.  So an
  overlay whose fields are there already changes nothing, neither a value nor
  the order of the fields, and laying it over twice is laying it over once.

  The laws are those of documents that repeat no name; a merge is such a
  document again.

  Main statements
    • `object_induction`        — induction on the objects inside a document
    • `mergeFields_of_absorbs`  — an overlay that says nothing new
    • `merge_merge`             — a merge is idempotent
    • `at?_merge_of_leaf`       — whatever the overlay says prevails
    • `merge_rightBiased_idempotent` — all laws together
-/
import DebugMerge.Proofs.Json.Mapping

namespace DebugMerge.Json

variable {b o v : Json} {below above fields : List (String × Json)} {name : String}

/-! ## §1. Induction on objects. -/

mutual

/-- **Induction on the objects inside a document**: what holds of everything that is no object, and
of an object if it holds of its values, holds of every document. -/
theorem object_induction {P : Json → Prop} (leaf : ∀ v : Json, v.isObject = false → P v)
    (inside : ∀ fields : List (String × Json), (∀ field ∈ fields, P field.2) → P (object fields)) :
    ∀ v : Json, P v
  | object fields => inside fields (fields_induction leaf inside fields)
  | null => leaf null rfl
  | bool c => leaf (bool c) rfl
  | natural n => leaf (natural n) rfl
  | negative n => leaf (negative n) rfl
  | numeral cs => leaf (numeral cs) rfl
  | text s => leaf (text s) rfl
  | list items => leaf (list items) rfl
  | unreadable => leaf unreadable rfl

theorem fields_induction {P : Json → Prop} (leaf : ∀ v : Json, v.isObject = false → P v)
    (inside : ∀ fields : List (String × Json), (∀ field ∈ fields, P field.2) → P (object fields)) :
    ∀ fields : List (String × Json), ∀ field ∈ fields, P field.2
  | [] => by
    intro field h
    exact absurd h List.not_mem_nil
  | (name, v) :: rest => by
    intro field h
    rcases List.mem_cons.mp h with heq | hrest
    · rw [heq]
      exact object_induction leaf inside v
    · exact fields_induction leaf inside rest field hrest

end

/-! ## §2. The names of a merge. -/

/-- A field that is there keeps the names and their order. -/
theorem fieldNames_setField_of_mem (h : name ∈ fieldNames fields) (v : Json) :
    fieldNames (setField name v fields) = fieldNames fields := by
  induction fields with
  | nil => exact absurd h List.not_mem_nil
  | cons field fields ih =>
    obtain ⟨key, old⟩ := field
    by_cases hkey : key = name
    · simp [setField, hkey, fieldNames]
    · have hrest : name ∈ fieldNames fields := by
        rcases List.mem_cons.mp h with heq | hrest
        · exact absurd heq.symm hkey
        · exact hrest
      have hsame := ih hrest
      unfold fieldNames at hsame ⊢
      simp [setField, hkey, hsame]

/-- **The names of a merge are those of both sides.** -/
theorem mem_fieldNames_mergeFields :
    name ∈ fieldNames (mergeFields below above)
      ↔ name ∈ fieldNames below ∨ name ∈ fieldNames above := by
  -- by induction on the upper fields, each of which adds its own name
  induction above generalizing below with
  | nil => simp [mergeFields, fieldNames]
  | cons field rest ih =>
    obtain ⟨key, v⟩ := field
    obtain ⟨w, -, hmerged⟩ := mergeFields_cons below key v rest
    rw [hmerged, ih, mem_fieldNames_setField]
    simp only [fieldNames, List.map_cons, List.mem_cons]
    constructor
    · intro h
      rcases h with (hkey | hbelow) | hrest
      · exact .inr (.inl hkey)
      · exact .inl hbelow
      · exact .inr (.inr hrest)
    · intro h
      rcases h with hbelow | hkey | hrest
      · exact .inl (.inr hbelow)
      · exact .inl (.inl hkey)
      · exact .inr hrest

/-- An overlay without names of its own keeps the names and their order. -/
theorem fieldNames_mergeFields_of_subset (h : ∀ name ∈ fieldNames above, name ∈ fieldNames below) :
    fieldNames (mergeFields below above) = fieldNames below := by
  induction above generalizing below with
  | nil => simp [mergeFields]
  | cons field rest ih =>
    obtain ⟨key, v⟩ := field
    obtain ⟨w, -, hmerged⟩ := mergeFields_cons below key v rest
    have hkey : key ∈ fieldNames below := h key List.mem_cons_self
    have hset := fieldNames_setField_of_mem hkey w
    rw [hmerged, ih, hset]
    intro name hname
    rw [hset]
    exact h name (List.mem_cons_of_mem key hname)

/-- Fields with the same names, each once, and the same values are the same fields. -/
theorem fields_ext {fields' : List (String × Json)} (hnodup : (fieldNames fields).Nodup)
    (hnames : fieldNames fields = fieldNames fields')
    (hsame : ∀ name, lookup? name fields = lookup? name fields') : fields = fields' := by
  induction fields generalizing fields' with
  | nil =>
    have hempty : fieldNames fields' = [] := hnames.symm
    exact (List.map_eq_nil_iff.mp hempty).symm
  | cons field fields ih =>
    obtain ⟨key, v⟩ := field
    cases fields' with
    | nil => exact absurd hnames (List.cons_ne_nil _ _)
    | cons field' fields' =>
      obtain ⟨key', v'⟩ := field'
      obtain ⟨hkey, hrest⟩ := List.cons.inj hnames
      change key = key' at hkey
      subst hkey
      obtain ⟨hnew, hnodup⟩ : key ∉ fieldNames fields ∧ (fieldNames fields).Nodup :=
        List.nodup_cons.mp hnodup
      have hv : v = v' := by simpa [lookup?] using hsame key
      -- behind the first field its name says nothing, on either side
      have hbehind : fields = fields' := by
        refine ih hnodup hrest fun name => ?_
        by_cases hname : key = name
        · subst hname
          have hnew' : key ∉ fieldNames fields' := by
            unfold fieldNames at hnew ⊢
            rwa [← hrest]
          rw [lookup?_eq_none_iff.mpr hnew, lookup?_eq_none_iff.mpr hnew']
        · simpa [lookup?, hname] using hsame name
      rw [hv, hbehind]

/-! ## §3. What a merge comes to. -/

/-- What is no object replaces what lies below. -/
theorem merge_of_leaf (h : v.isObject = false) (below : Json) : below.merge v = v := by
  cases v with
  | object fields => cases h
  | _ => rw [merge]; simp

/-- **Unless both are objects, the overlay replaces what lies below.** -/
theorem merge_of_not_both (h : ¬ (b.isObject = true ∧ o.isObject = true)) : b.merge o = o := by
  cases hobject : b.isObject with
  | false => exact merge_of_not_object hobject o
  | true =>
    have hleaf : o.isObject = false := by simpa [hobject] using h
    exact merge_of_leaf hleaf b

@[simp] theorem null_merge (v : Json) : null.merge v = v :=
  merge_of_not_object rfl v

/-- A name of the overlay stands for its value laid over something. -/
theorem laidOver_some (old : Option Json) (v : Json) :
    laidOver old (some v) = some ((old.getD null).merge v) := by
  cases old with
  | none => simp [laidOver]
  | some below => rfl

/-- What a name stands for repeats no name, and neither does the `null` that stands for nothing. -/
theorem IsUnambiguous.getD_lookup? (h : (object below).IsUnambiguous) (name : String) :
    ((Json.lookup? name below).getD null).IsUnambiguous := by
  cases hold : Json.lookup? name below with
  | none => trivial
  | some old => exact h.lookup? hold

/-- Fields laid over fields repeat no name, if none of the merges inside does. -/
theorem isUnambiguous_mergeFields (hbelow : (object below).IsUnambiguous)
    (hinside : ∀ field ∈ above, ∀ old : Json, old.IsUnambiguous →
      (old.merge field.2).IsUnambiguous) :
    (object (mergeFields below above)).IsUnambiguous := by
  -- by induction on the upper fields, each of which is set to a merge of its own
  induction above generalizing below with
  | nil =>
    rw [mergeFields]
    exact hbelow
  | cons field rest ih =>
    obtain ⟨key, v⟩ := field
    obtain ⟨w, hw, hmerged⟩ := mergeFields_cons below key v rest
    rw [laidOver_some] at hw
    have hset : (object (setField key w below)).IsUnambiguous := by
      rw [← Option.some.inj hw]
      exact isUnambiguous_setField hbelow
        (hinside (key, v) List.mem_cons_self _ (hbelow.getD_lookup? key))
    rw [hmerged]
    exact ih hset fun field hmem => hinside field (List.mem_cons_of_mem _ hmem)

/-- A merge repeats no name either. -/
theorem isUnambiguous_merge (ho : o.IsUnambiguous) (hb : b.IsUnambiguous) :
    (b.merge o).IsUnambiguous := by
  induction o using object_induction generalizing b with
  | leaf v hleaf =>
    rw [merge_of_leaf hleaf]
    exact ho
  | inside above ih =>
    cases b with
    | object below =>
      rw [merge_object]
      refine isUnambiguous_mergeFields hb fun field hmem old hold => ?_
      exact ih field hmem (hasUnambiguousFields_iff.mp ho.2 field hmem) hold
    | _ =>
      rw [merge_of_not_object rfl]
      exact ho

/-- **A merge is an object in which every field of the overlay lies over some value.** -/
theorem exists_merge_object (hb : b.IsUnambiguous) (habove : (fieldNames above).Nodup) :
    ∃ fields, b.merge (object above) = object fields
      ∧ ∀ name v, lookup? name above = some v →
        ∃ old : Json, old.IsUnambiguous ∧ lookup? name fields = some (old.merge v) := by
  cases hobject : b.isObject with
  | false =>
    -- nothing lies below, which is what `null` says
    refine ⟨above, merge_of_not_object hobject _, fun name v hv => ⟨null, trivial, ?_⟩⟩
    rw [null_merge]
    exact hv
  | true =>
    cases b with
    | object below =>
      refine ⟨mergeFields below above, merge_object below above, fun name v hv => ?_⟩
      refine ⟨(lookup? name below).getD null, hb.getD_lookup? name, ?_⟩
      rw [lookup?_mergeFields below above habove, hv, laidOver_some]
    | _ => cases hobject

/-- **An overlay that says nothing new changes nothing**: each of its fields is there already, with
a value that stays what it is under the overlay's. -/
theorem mergeFields_of_absorbs (hbelow : (fieldNames below).Nodup)
    (habove : (fieldNames above).Nodup)
    (habsorbs : ∀ name v, lookup? name above = some v →
      ∃ old, lookup? name below = some old ∧ old.merge v = old) :
    mergeFields below above = below := by
  have hnames : fieldNames (mergeFields below above) = fieldNames below := by
    refine fieldNames_mergeFields_of_subset fun name hname => ?_
    cases hv : lookup? name above with
    | none => exact absurd hname (lookup?_eq_none_iff.mp hv)
    | some v =>
      obtain ⟨old, hold, -⟩ := habsorbs name v hv
      exact List.mem_map_of_mem (mem_of_lookup? hold)
  refine fields_ext (nodup_mergeFields hbelow above) hnames fun name => ?_
  rw [lookup?_mergeFields below above habove]
  cases hv : lookup? name above with
  | none => simp
  | some v =>
    obtain ⟨old, hold, hsame⟩ := habsorbs name v hv
    rw [hold, laidOver_some, Option.getD_some, hsame]

/-! ## §4. The laws. -/

/-- **Laying a document over twice is laying it over once.** -/
theorem merge_merge (ho : o.IsUnambiguous) (hb : b.IsUnambiguous) :
    (b.merge o).merge o = b.merge o := by
  -- by induction on the overlay, over every document below
  induction o using object_induction generalizing b with
  | leaf v hleaf => rw [merge_of_leaf hleaf, merge_of_leaf hleaf]
  | inside above ih =>
    obtain ⟨fields, hmerged, hfields⟩ := exists_merge_object hb ho.1
    have hfresh : (object fields).IsUnambiguous := hmerged ▸ isUnambiguous_merge ho hb
    rw [hmerged, merge_object, mergeFields_of_absorbs hfresh.1 ho.1]
    intro name v hv
    obtain ⟨old, hold, hlookup⟩ := hfields name v hv
    exact ⟨old.merge v, hlookup, ih (name, v) (mem_of_lookup? hv) (ho.lookup? hv) hold⟩

/-- A document laid over itself stays what it is. -/
theorem merge_self (h : v.IsUnambiguous) : v.merge v = v := by
  have htwice : (null.merge v).merge v = null.merge v := merge_merge h trivial
  rwa [null_merge] at htwice

/-- Nothing is added by an object without fields. -/
theorem merge_empty (fields : List (String × Json)) :
    (object fields).merge (object []) = object fields := by
  rw [merge_object, mergeFields]

/-- **Whatever the overlay says prevails**: a value that is no object stands in the merge at the
path at which it stands in the overlay. -/
theorem at?_merge_of_leaf {path : List String} (ho : o.IsUnambiguous) (hb : b.IsUnambiguous)
    (hv : o.at? path = some v) (hleaf : v.isObject = false) : (b.merge o).at? path = some v := by
  induction path generalizing b o with
  | nil =>
    cases hv
    rw [merge_of_leaf hleaf]
    rfl
  | cons name rest ih =>
    cases o with
    | object above =>
      obtain ⟨inner, hinner, hv⟩ := Option.bind_eq_some_iff.mp hv
      obtain ⟨fields, hmerged, hfields⟩ := exists_merge_object hb ho.1
      obtain ⟨old, hold, hlookup⟩ := hfields name inner hinner
      rw [hmerged]
      show (lookup? name fields).bind (fun next => next.at? rest) = some v
      rw [hlookup]
      exact ih (ho.lookup? hinner) hold hv
    | _ => cases hv

/-- **The laws of a merge.**  Of documents that repeat no name, the merge is one again.  It is
right-biased: what the overlay says at any path, unless it is an object, the merge says there, and
unless both sides are objects, the merge is the overlay.  It is idempotent; an object without fields
changes no object, and no document changes itself.  Of two objects it has the names of both; a name
of one side keeps that side's value, and a name of both stands for the merge of its values if both
are objects, and else for the overlay's. -/
theorem merge_rightBiased_idempotent {b o : Json} (hb : b.IsUnambiguous) (ho : o.IsUnambiguous) :
    (b.merge o).IsUnambiguous
    ∧ (∀ path v, o.at? path = some v → v.isObject = false → (b.merge o).at? path = some v)
    ∧ (¬ (b.isObject = true ∧ o.isObject = true) → b.merge o = o)
    ∧ (b.merge o).merge o = b.merge o
    ∧ (b.isObject = true → b.merge (object []) = b)
    ∧ o.merge o = o
    ∧ ∀ below above, b = object below → o = object above →
      ∃ fields, b.merge o = object fields
        ∧ (∀ name, name ∈ fieldNames fields ↔ name ∈ fieldNames below ∨ name ∈ fieldNames above)
        ∧ (∀ name v, lookup? name below = some v → lookup? name above = none →
          lookup? name fields = some v)
        ∧ (∀ name v, lookup? name below = none → lookup? name above = some v →
          lookup? name fields = some v)
        ∧ ∀ name old new, lookup? name below = some old → lookup? name above = some new →
          lookup? name fields
            = some (if old.isObject = true ∧ new.isObject = true then old.merge new else new) := by
  refine ⟨isUnambiguous_merge ho hb, fun path v hv hleaf => at?_merge_of_leaf ho hb hv hleaf,
    fun hboth => merge_of_not_both hboth, merge_merge ho hb, ?_, merge_self ho, ?_⟩
  · intro hobject
    cases b with
    | object fields => exact merge_empty fields
    | _ => cases hobject
  · intro below above hbelow habove
    subst hbelow habove
    have hlookup := lookup?_mergeFields below above ho.1
    refine ⟨mergeFields below above, merge_object below above,
      fun name => mem_fieldNames_mergeFields, ?_, ?_, ?_⟩
    · intro name v hold hnone
      rw [hlookup, hold, hnone]
      rfl
    · intro name v hnone hnew
      rw [hlookup, hnone, hnew]
      rfl
    · intro name old new hold hnew
      rw [hlookup, hold, hnew]
      show some (old.merge new) = _
      -- unless both are objects, the overlay's value stands
      by_cases hboth : old.isObject = true ∧ new.isObject = true
      · rw [if_pos hboth]
      · rw [if_neg hboth, merge_of_not_both hboth]

/-- Settings with an object where the overlay has a text, and the other way round. -/
def layeredSettings : Json :=
  object [("backend", object [("kind", text "auto")]), ("dump_tool", text "dump"),
    ("applicator", object [("check_interval", natural 7), ("restrictions", list [])])]

/-- The overlay, which adds a name on either level. -/
def mixedOverlay : Json :=
  object [("dump_tool", object [("path", text "dump2")]), ("backend", text "legacy"),
    ("applicator", object [("check_interval", natural 9), ("note", null)]),
    ("record_runs", bool true)]

/-- Objects give way to texts and texts to objects, objects are merged, and a second time nothing
changes. -/
theorem merge_rightBiased_idempotent_mixed :
    layeredSettings.IsUnambiguous ∧ mixedOverlay.IsUnambiguous
      ∧ layeredSettings.merge mixedOverlay
        = object [("backend", text "legacy"), ("dump_tool", object [("path", text "dump2")]),
          ("applicator",
            object [("check_interval", natural 9), ("restrictions", list []), ("note", null)]),
          ("record_runs", bool true)]
      ∧ (layeredSettings.merge mixedOverlay).merge mixedOverlay = layeredSettings.merge mixedOverlay
      ∧ (layeredSettings.merge mixedOverlay).at? ["dump_tool", "path"] = some (text "dump2")
      ∧ layeredSettings.merge (object []) = layeredSettings := by
  have hb : layeredSettings.IsUnambiguous := by
    simp [layeredSettings, IsUnambiguous, HasUnambiguousFields, AreUnambiguous, fieldNames]
  have ho : mixedOverlay.IsUnambiguous := by
    simp [mixedOverlay, IsUnambiguous, HasUnambiguousFields, fieldNames]
  obtain ⟨-, hprevails, -, htwice, hempty, -⟩ := merge_rightBiased_idempotent hb ho
  have hpath : mixedOverlay.at? ["dump_tool", "path"] = some (text "dump2") := by
    simp [mixedOverlay, at?, lookup?]
  refine ⟨hb, ho, ?_, htwice, hprevails _ _ hpath rfl, hempty rfl⟩
  simp [layeredSettings, mixedOverlay, merge, mergeFields, lookup?, setField]

end DebugMerge.Json
