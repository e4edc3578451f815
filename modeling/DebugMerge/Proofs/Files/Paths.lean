/-
  DebugMerge.Proofs.Files.Paths
  ─────────────────────────────
  **The components of paths.**

  A path is cut at its slashes.  A name below a base adds a component to those of
  the base, whether or not the base ends in a slash; the parent of a path starts
  where the path does and has no further components.

  Main statements
    • `Text.splitAll_append`      — cutting texts
    • `Path.parts_join`, `steps_join` — names below a base
    • `Path.parts_ofNormal`, `parent?_spec` — parents
-/
import DebugMerge.Files.Path

namespace DebugMerge

/-! ## §1. Cutting texts. -/

namespace Text

variable (c : Char) (cs ds : List Char)

theorem splitAll_ne_nil : splitAll c cs ≠ [] := by
  cases cs with
  | nil => exact List.cons_ne_nil _ _
  | cons d cs =>
    unfold splitAll
    split
    · exact List.cons_ne_nil _ _
    · split <;> exact List.cons_ne_nil _ _

/-- A text is cut at each of its cuts. -/
theorem splitAll_append : splitAll c (cs ++ c :: ds) = splitAll c cs ++ splitAll c ds := by
  induction cs with
  | nil => exact if_pos rfl
  | cons d cs ih =>
    rw [List.cons_append, splitAll, splitAll, ih]
    by_cases hd : d = c
    · rw [if_pos hd, if_pos hd, List.cons_append]
    · rw [if_neg hd, if_neg hd]
      cases hpieces : splitAll c cs with
      | nil => exact absurd hpieces (splitAll_ne_nil c cs)
      | cons piece pieces => rfl

/-- A text without cuts is one piece. -/
theorem splitAll_of_not_mem {c : Char} {cs : List Char} (h : c ∉ cs) : splitAll c cs = [cs] := by
  induction cs with
  | nil => rfl
  | cons d cs ih =>
    have hd : ¬ d = c := fun heq => h (heq ▸ List.mem_cons_self)
    rw [splitAll, if_neg hd, ih fun hmem => h (List.mem_cons_of_mem d hmem)]

/-- No piece holds a cut. -/
theorem not_mem_of_mem_splitAll {c : Char} {cs piece : List Char} (h : piece ∈ splitAll c cs) :
    c ∉ piece := by
  induction cs generalizing piece with
  | nil =>
    cases List.mem_singleton.mp h
    exact List.not_mem_nil
  | cons d cs ih =>
    unfold splitAll at h
    split at h
    · rcases List.mem_cons.mp h with rfl | h
      · exact List.not_mem_nil
      · exact ih h
    · next hd =>
      have hne : ¬ c = d := fun heq => hd heq.symm
      split at h
      · cases List.mem_singleton.mp h
        exact fun hmem => hne (List.mem_singleton.mp hmem)
      · next first rest hpieces =>
        rw [hpieces] at ih
        rcases List.mem_cons.mp h with rfl | h
        · exact fun hmem => (List.mem_cons.mp hmem).elim hne (ih List.mem_cons_self)
        · exact ih (List.mem_cons_of_mem _ h)

end Text

/-! ## §2. Components. -/

namespace Path

variable {base name path : String} {names : List String}

/-- Components on both sides of a slash. -/
theorem parts_of_slash {first last : List Char} (h : path.toList = first ++ '/' :: last) :
    parts path = parts (String.ofList first) ++ parts (String.ofList last) := by
  unfold parts
  rw [h, Text.splitAll_append, List.filter_append, List.map_append, String.toList_ofList,
    String.toList_ofList]

/-- A component: a text that is not empty, without a slash. -/
structure IsComponent (name : String) : Prop where
  nonempty : name ≠ ""
  plain : '/' ∉ name.toList

theorem isComponent_of_mem_parts (h : name ∈ parts path) : IsComponent name := by
  obtain ⟨piece, hpiece, rfl⟩ := List.mem_map.mp h
  obtain ⟨hmem, hne⟩ := List.mem_filter.mp hpiece
  refine ⟨fun hempty => ?_, ?_⟩
  · rw [String.ofList_eq_empty_iff.mp hempty] at hne
    cases hne
  · rw [String.toList_ofList]
    exact Text.not_mem_of_mem_splitAll hmem

theorem IsComponent.parts (h : IsComponent name) : parts name = [name] := by
  have hne : name.toList.isEmpty = false := by
    rw [← Bool.not_eq_true, List.isEmpty_iff]
    exact fun hnil => h.nonempty (String.toList_eq_nil_iff.mp hnil)
  unfold Path.parts
  rw [Text.splitAll_of_not_mem h.plain, List.filter_cons, hne]
  simp

/-! ## §3. Names below a base. -/

/-- A path ends in a slash. -/
def EndsInSlash (path : String) : Prop :=
  path.toList.getLast? = some '/'

instance (path : String) : Decidable (EndsInSlash path) :=
  inferInstanceAs (Decidable (path.toList.getLast? = some '/'))

theorem exists_of_endsInSlash (h : EndsInSlash path) : ∃ cs, path.toList = cs ++ ['/'] := by
  obtain ⟨cs, hcs⟩ := List.getLast?_eq_some_iff.mp h
  exact ⟨cs, hcs⟩

/-- A relative path below a base: the text. -/
theorem toList_join (hname : isAbsolute name = false) (hbase : base ≠ "") :
    ∃ cs, (join base name).toList = cs ++ '/' :: name.toList
      ∧ parts (String.ofList cs) = parts base
      ∧ base.toList <+: cs ++ ['/'] := by
  have hempty : base.isEmpty = false := by
    rw [← Bool.not_eq_true, String.isEmpty_iff]
    exact hbase
  unfold join
  rw [hname, hempty, Bool.or_false, if_neg Bool.false_ne_true]
  split
  · next hslash =>
    obtain ⟨cs, hcs⟩ := exists_of_endsInSlash hslash
    refine ⟨cs, ?_, ?_, ?_⟩
    · rw [String.toList_append, hcs, List.append_assoc]
      rfl
    · rw [parts_of_slash hcs]
      exact (List.append_nil _).symm
    · exact ⟨[], by rw [List.append_nil, hcs]⟩
  · refine ⟨base.toList, ?_, ?_, ?_⟩
    · rw [String.toList_append, String.toList_append, List.append_assoc]
      rfl
    · rw [String.ofList_toList]
    · exact List.prefix_append _ _

/-- **The components of a path below a base.** -/
theorem parts_join (hname : isAbsolute name = false) (hbase : base ≠ "") :
    parts (join base name) = parts base ++ parts name := by
  obtain ⟨cs, htext, hparts, -⟩ := toList_join hname hbase
  rw [parts_of_slash htext, hparts, String.ofList_toList]

theorem join_ne_empty (hname : isAbsolute name = false) (hbase : base ≠ "") :
    join base name ≠ "" := by
  obtain ⟨cs, htext, -⟩ := toList_join hname hbase
  intro hempty
  rw [hempty] at htext
  simp at htext

theorem isAbsolute_iff : isAbsolute path = true ↔ path.toList.head? = some '/' := by
  unfold isAbsolute Text.startsWith
  cases path.toList with
  | nil => exact ⟨nofun, nofun⟩
  | cons c cs =>
    show ('/' == c && true) = true ↔ some c = some '/'
    rw [Bool.and_true, beq_iff_eq, Option.some.injEq, eq_comm]

theorem isAbsolute_join (hname : isAbsolute name = false) (hbase : base ≠ "") :
    isAbsolute (join base name) = isAbsolute base := by
  obtain ⟨cs, htext, -, ⟨more, hmore⟩⟩ := toList_join hname hbase
  -- both texts begin like `cs` with a slash behind it
  have hjoin : (join base name).toList.head? = (cs ++ ['/']).head? := by
    rw [htext]
    cases cs <;> rfl
  have hhead : base.toList.head? = (cs ++ ['/']).head? := by
    rw [← hmore]
    cases hchars : base.toList with
    | nil => exact absurd (String.toList_eq_nil_iff.mp hchars) hbase
    | cons c rest => rfl
  rw [Bool.eq_iff_iff, isAbsolute_iff, isAbsolute_iff, hjoin, hhead]

theorem endsInSlash_join (hname : isAbsolute name = false) (hbase : base ≠ "") (h : name ≠ "") :
    EndsInSlash (join base name) ↔ EndsInSlash name := by
  obtain ⟨cs, htext, -⟩ := toList_join hname hbase
  have hchars : name.toList ≠ [] := fun hnil => h (String.toList_eq_nil_iff.mp hnil)
  unfold EndsInSlash
  rw [htext, List.getLast?_append, List.getLast?_cons_of_ne_nil hchars]
  cases hlast : name.toList.getLast? with
  | none => exact absurd (List.getLast?_eq_none_iff.mp hlast) hchars
  | some c => rfl

/-- A name that is walked to in one step downwards. -/
structure IsName (name : String) : Prop extends IsComponent name where
  not_here : name ≠ "."
  not_up : name ≠ ".."

instance (name : String) : Decidable (IsName name) :=
  decidable_of_iff (name ≠ "" ∧ '/' ∉ name.toList ∧ name ≠ "." ∧ name ≠ "..")
    ⟨fun h => ⟨⟨h.1, h.2.1⟩, h.2.2.1, h.2.2.2⟩,
      fun h => ⟨h.nonempty, h.plain, h.not_here, h.not_up⟩⟩

theorem IsComponent.isAbsolute (h : IsComponent name) : isAbsolute name = false := by
  rw [← Bool.not_eq_true, isAbsolute_iff]
  exact fun hhead => h.plain (List.mem_of_head? hhead)

theorem IsName.not_endsInSlash (h : IsName name) : ¬ EndsInSlash name := fun hslash =>
  h.plain (List.mem_of_getLast? hslash)

/-- The steps of a walk along the path. -/
def steps (path : String) : List String :=
  if EndsInSlash path then parts path ++ ["."] else parts path

theorem steps_join (h : IsName name) (hbase : base ≠ "") :
    steps (join base name) = parts base ++ [name] := by
  have hslash : ¬ EndsInSlash (join base name) := fun hslash =>
    h.not_endsInSlash ((endsInSlash_join h.isAbsolute hbase h.nonempty).mp hslash)
  unfold steps
  rw [if_neg hslash, parts_join h.isAbsolute hbase, h.parts]

/-! ## §4. Parents. -/

/-- The path of components has these components. -/
theorem parts_intercalate (h : ∀ name ∈ names, IsComponent name) :
    parts (String.intercalate "/" names) = names := by
  induction names with
  | nil => rfl
  | cons name names ih =>
    have hname := h name List.mem_cons_self
    cases names with
    | nil =>
      rw [String.intercalate_singleton]
      exact hname.parts
    | cons second rest =>
      have htext : (String.intercalate "/" (name :: second :: rest)).toList
          = name.toList ++ '/' :: (String.intercalate "/" (second :: rest)).toList := by
        rw [String.intercalate_cons_cons, String.toList_append, String.toList_append,
          List.append_assoc]
        rfl
      rw [parts_of_slash htext, String.ofList_toList, String.ofList_toList, hname.parts,
        ih fun name hmem => h name (List.mem_cons_of_mem _ hmem)]
      rfl

theorem parts_ofNormal (absolute : Bool) (h : ∀ name ∈ names, IsComponent name) :
    parts (ofNormal absolute names) = names := by
  cases absolute with
  | false =>
    show parts ("" ++ String.intercalate "/" names) = names
    rw [String.empty_append]
    exact parts_intercalate h
  | true =>
    have htext : (ofNormal true names).toList
        = [] ++ '/' :: (String.intercalate "/" names).toList := by
      show ("/" ++ String.intercalate "/" names).toList = _
      rw [String.toList_append]
      rfl
    rw [parts_of_slash htext, String.ofList_toList, parts_intercalate h]
    rfl

theorem isAbsolute_ofNormal (absolute : Bool) (h : ∀ name ∈ names, IsComponent name) :
    isAbsolute (ofNormal absolute names) = absolute := by
  cases absolute with
  | true =>
    rw [isAbsolute_iff]
    show ("/" ++ String.intercalate "/" names).toList.head? = _
    rw [String.toList_append]
    rfl
  | false =>
    rw [← Bool.not_eq_true, isAbsolute_iff]
    show ¬ ("" ++ String.intercalate "/" names).toList.head? = _
    rw [String.empty_append]
    cases names with
    | nil => exact nofun
    | cons name names =>
      have hname := h name List.mem_cons_self
      have hhead : (String.intercalate "/" (name :: names)).toList.head? = name.toList.head? := by
        cases names with
        | nil => rw [String.intercalate_singleton]
        | cons second rest =>
          rw [String.intercalate_cons_cons, String.toList_append, String.toList_append]
          cases hchars : name.toList with
          | nil => exact absurd (String.toList_eq_nil_iff.mp hchars) hname.nonempty
          | cons c cs => rfl
      rw [hhead]
      exact fun hslash => hname.plain (List.mem_of_head? hslash)

theorem normal_sublist (path : String) : (normal path).Sublist (parts path) := by
  unfold normal
  split
  · exact List.nil_sublist _
  · next first rest hparts =>
    rw [hparts]
    dsimp only
    split
    · exact (List.filter_sublist).cons first
    · exact (List.filter_sublist).cons_cons first

/-- How many steps of the walk along a path can lead on. -/
def depth (path : String) : Nat :=
  ((parts path).filter (· ≠ ".")).length

/-- **The parent of a path** starts where the path does, and is no deeper. -/
theorem parent?_spec {parent : String} (h : parent? path = some parent) :
    isAbsolute parent = isAbsolute path ∧ depth parent ≤ depth path := by
  have hparent : parent = ofNormal (isAbsolute path) (normal path).dropLast := by
    unfold parent? at h
    split at h
    · cases h
    · cases h
      rfl
  have hsublist : (normal path).dropLast.Sublist (parts path) :=
    (List.dropLast_sublist _).trans (normal_sublist path)
  have hcomponents : ∀ name ∈ (normal path).dropLast, IsComponent name := fun name hname =>
    isComponent_of_mem_parts (hsublist.subset hname)
  rw [hparent]
  refine ⟨isAbsolute_ofNormal _ hcomponents, ?_⟩
  unfold depth
  rw [parts_ofNormal _ hcomponents]
  exact (hsublist.filter _).length_le

end Path

end DebugMerge
