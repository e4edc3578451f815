/-
  DebugMerge.Proofs.Project.Roots
  ───────────────────────────────
  **One project under many texts for its root.**

  The database of a new project is named from the root on, and this name leads
  back to the database whatever the root looks like: empty, with slashes at its
  end, or with points in it.

  What is typed for a root is resolved against the files that are there, so the
  same text may be resolved differently once the project was made.  All of its
  resolutions name the same place, and so does the text itself: a path is either
  walked from the working directory, or it was walked before and its place is
  spelled out from the top.

  Main definitions
    • `Files.Stands`                      — a place to which directories lead
    • `Files.HasHome`                     — a working directory that is there
  Main statements
    • `Path.join_join`, `normal_join`     — names below names
    • `Layout.resolveDatabase_storedDatabase` — the name of the database
    • `Files.locate_ofParts`              — a place that is spelled out
    • `locate_metaDir_resolveRoot`        — a text and its resolution
-/
import DebugMerge.Project.Layout
import DebugMerge.Proofs.Files.Directories

namespace DebugMerge

/-! ## §1. Names below a root. -/

namespace Path

variable {base name other : String}

theorem join_eq (hname : isAbsolute name = false) (hbase : base ≠ "") :
    join base name = (if EndsInSlash base then base else base ++ "/") ++ name := by
  have hempty : base.isEmpty = false := by
    rw [← Bool.not_eq_true, String.isEmpty_iff]
    exact hbase
  unfold join
  rw [hname, hempty, Bool.or_false, if_neg Bool.false_ne_true]
  by_cases hslash : EndsInSlash base
  · rw [if_pos hslash]
    exact if_pos hslash
  · rw [if_neg hslash]
    exact if_neg hslash

theorem empty_join (name : String) : join "" name = name := by
  simp [join]

/-- Behind a base, nothing is a slash. -/
theorem join_empty_join (hname : isAbsolute name = false) (hbase : base ≠ "") :
    join (join base "") name = join base name := by
  have hempty : isAbsolute "" = false := by decide
  rw [join_eq hname (join_ne_empty hempty hbase), join_eq hempty hbase, join_eq hname hbase,
    String.append_empty]
  by_cases hslash : EndsInSlash base
  · rw [if_pos hslash, if_pos hslash]
  · have hadded : EndsInSlash (base ++ "/") := by
      unfold EndsInSlash
      rw [String.toList_append, List.getLast?_append]
      rfl
    rw [if_neg hslash, if_pos hadded]

/-- A path below a name below a base. -/
theorem join_join (h : IsName name) (hother : isAbsolute other = false) (base : String) :
    join (join base name) other = join base (join name other) := by
  have hinner : join name other = name ++ "/" ++ other := by
    rw [join_eq hother h.nonempty, if_neg h.not_endsInSlash]
  by_cases hbase : base = ""
  · rw [hbase, empty_join, empty_join]
  · have hslash : ¬ EndsInSlash (join base name) := fun hslash =>
      h.not_endsInSlash ((endsInSlash_join h.isAbsolute hbase h.nonempty).mp hslash)
    have hrelative : isAbsolute (join name other) = false :=
      (isAbsolute_join hother h.nonempty).trans h.isAbsolute
    rw [join_eq hother (join_ne_empty h.isAbsolute hbase), if_neg hslash,
      join_eq h.isAbsolute hbase, join_eq hrelative hbase, hinner]
    simp only [String.append_assoc]

/-- A name below a base is one more component that counts. -/
theorem normal_join (h : IsName name) (hbase : base ≠ "") :
    normal (join base name) = normal base ++ [name] := by
  have hname : name ≠ "." := h.not_here
  unfold normal
  rw [parts_join h.isAbsolute hbase, h.parts, isAbsolute_join h.isAbsolute hbase]
  cases parts base with
  | nil => simp [hname]
  | cons first rest =>
    rw [List.cons_append]
    dsimp only
    rw [List.filter_append, List.filter_cons_of_pos (by simpa using hname), List.filter_nil]
    split <;> rfl

end Path

namespace Layout

/-- **The name of the database leads to the database**, from every root. -/
theorem storedDatabase_ofRoot (root : String) :
    (ofRoot root).storedDatabase = ".symbridge/program.db" := by
  by_cases hroot : root = ""
  · subst hroot
    decide
  · have hmeta : Path.join root ".symbridge" ≠ "" := Path.join_ne_empty (by decide) hroot
    have habsolute : Path.isAbsolute (ofRoot root).database = Path.isAbsolute root :=
      (Path.isAbsolute_join (by decide) hmeta).trans (Path.isAbsolute_join (by decide) hroot)
    have hnormal : Path.normal (ofRoot root).database
        = Path.normal root ++ [".symbridge", "program.db"] := by
      show Path.normal (Path.join (Path.join root ".symbridge") "program.db") = _
      rw [Path.normal_join (by decide) hmeta, Path.normal_join (by decide) hroot, List.append_assoc]
      rfl
    have hstripped : Path.stripBase? root (ofRoot root).database
        = some (String.intercalate "/" [".symbridge", "program.db"]) := by
      unfold Path.stripBase?
      rw [habsolute, hnormal, beq_self_eq_true, Bool.true_and,
        if_pos (List.isPrefixOf_iff_prefix.mpr (List.prefix_append _ _)), List.drop_left]
    unfold storedDatabase
    rw [show (ofRoot root).root = root from rfl, hstripped, Option.getD_some]
    decide

theorem resolveDatabase_storedDatabase (root : String) :
    (ofRoot root).resolveDatabase (ofRoot root).storedDatabase = (ofRoot root).database := by
  have hinner : Path.join ".symbridge" "program.db" = ".symbridge/program.db" := by decide
  rw [storedDatabase_ofRoot]
  show Path.join root ".symbridge/program.db" = Path.join (Path.join root ".symbridge") "program.db"
  rw [Path.join_join (by decide) (by decide), hinner]

end Layout

/-! ## §2. Places to which directories lead. -/

namespace Files

variable {files later : Files} {place next : List String} {name : String}

/-- The place is walked to downwards: its names are steps, and what leads to it are
directories. -/
structure Stands (files : Files) (place : List String) : Prop where
  names : ∀ name ∈ place, Path.IsName name
  above : ∀ above, above <+: place → above ≠ place → files.entryAt above = some .directory

/-- The working directory is there, and so is everything that leads to it. -/
structure HasHome (files : Files) : Prop where
  stands : files.Stands files.home
  directory : files.entryAt files.home = some .directory

theorem Stands.of_keeps (h : files.Stands place) (hkeeps : files.KeepsDirectories later) :
    later.Stands place :=
  ⟨h.names, fun above hstart hne => hkeeps.directories above (h.above above hstart hne)⟩

theorem HasHome.of_keeps (h : files.HasHome) (hkeeps : files.KeepsDirectories later) :
    later.HasHome := by
  constructor
  · rw [hkeeps.home]
    exact h.stands.of_keeps hkeeps
  · rw [hkeeps.home]
    exact hkeeps.directories _ h.directory

theorem stands_nil (files : Files) : files.Stands [] :=
  ⟨nofun, fun _ hstart hne => absurd (List.prefix_nil.mp hstart) hne⟩

/-- Everything that leads to the place is such a place itself. -/
theorem Stands.mono (h : files.Stands place) (hstart : next <+: place) :
    files.Stands next := by
  refine ⟨fun name hname => h.names name (hstart.subset hname), fun above habove hne => ?_⟩
  refine h.above above (habove.trans hstart) fun heq => hne ?_
  subst heq
  exact habove.eq_of_length_le hstart.length_le

/-- The top is a directory. -/
theorem HasHome.top (h : files.HasHome) : files.entryAt [] = some .directory := by
  by_cases hhome : files.home = []
  · rw [← hhome]
    exact h.directory
  · exact h.stands.above [] List.nil_prefix (Ne.symm hhome)

/-- One step downwards from a directory. -/
theorem Stands.concat (h : files.Stands place) (hplace : files.entryAt place = some .directory)
    (hname : Path.IsName name) : files.Stands (place ++ [name]) := by
  refine ⟨fun other hother => ?_, fun above hstart hne => ?_⟩
  · rcases List.mem_append.mp hother with hother | hother
    · exact h.names other hother
    · rw [List.mem_singleton.mp hother]
      exact hname
  · rcases List.prefix_concat_iff.mp hstart with heq | hstart
    · exact absurd heq hne
    · by_cases heq : above = place
      · rw [heq]
        exact hplace
      · exact h.above above hstart heq

/-- **A walk leads to places to which directories lead.** -/
theorem stands_of_walk {names : List String} (hnames : ∀ name ∈ names, Path.IsComponent name)
    (h : files.Stands place) (hwalk : files.walk place names = .ok next) : files.Stands next := by
  induction names generalizing place with
  | nil =>
    cases hwalk
    exact h
  | cons name names ih =>
    have hrest := fun other hother => hnames other (List.mem_cons_of_mem name hother)
    rw [walk] at hwalk
    split at hwalk
    · cases hwalk
    · next hplace =>
      refine ih hrest ?_ hwalk
      by_cases hhere : name = "."
      · rw [if_pos hhere]
        exact h
      by_cases hup : name = ".."
      · rw [if_neg hhere, if_pos hup]
        exact h.mono (List.dropLast_prefix place)
      · rw [if_neg hhere, if_neg hup]
        exact h.concat hplace ⟨hnames name List.mem_cons_self, hhere, hup⟩
    · cases hwalk

/-- What leads to such a place is walked. -/
theorem walk_of_stands {first rest : List String} (h : files.Stands (first ++ rest)) :
    files.walk first rest = .ok (first ++ rest) := by
  induction rest generalizing first with
  | nil => rw [walk, List.append_nil]
  | cons name rest ih =>
    have hname := h.names name (List.mem_append_right first List.mem_cons_self)
    have hfirst : files.entryAt first = some .directory := by
      refine h.above first (List.prefix_append _ _) fun heq => ?_
      exact absurd (List.self_eq_append_right.mp heq) (List.cons_ne_nil name rest)
    rw [walk, hfirst]
    dsimp only
    rw [if_neg hname.not_here, if_neg hname.not_up, ih]
    · rw [List.append_assoc]
      rfl
    · rw [List.append_assoc]
      exact h

/-! ## §3. Places that are spelled out. -/

theorem isAbsolute_ofParts (place : List String) : Path.isAbsolute (Path.ofParts place) = true := by
  rw [Path.isAbsolute_iff]
  unfold Path.ofParts
  rw [String.toList_append]
  rfl

theorem ofParts_ne_empty (place : List String) : Path.ofParts place ≠ "" := by
  intro hempty
  have habsolute := isAbsolute_ofParts place
  rw [hempty] at habsolute
  exact absurd habsolute (by decide)

theorem parts_ofParts (h : ∀ name ∈ place, Path.IsComponent name) :
    Path.parts (Path.ofParts place) = place :=
  Path.parts_ofNormal true h

/-- A text of components ends in a slash only if there is none. -/
theorem not_endsInSlash_ofParts (hne : place ≠ []) (h : ∀ name ∈ place, Path.IsComponent name) :
    ¬ Path.EndsInSlash (Path.ofParts place) := by
  have hlast : ∀ names : List String, names ≠ [] → (∀ name ∈ names, Path.IsComponent name) →
      ∀ cs, (cs ++ (String.intercalate "/" names).toList).getLast? ≠ some '/' := by
    intro names
    induction names with
    | nil => exact fun hnil => absurd rfl hnil
    | cons name names ih =>
      intro _ hnames cs
      have hname := hnames name List.mem_cons_self
      cases names with
      | nil =>
        rw [String.intercalate_singleton, List.getLast?_append]
        intro hslash
        cases hchars : name.toList.getLast? with
        | none =>
          exact hname.nonempty (String.toList_eq_nil_iff.mp (List.getLast?_eq_none_iff.mp hchars))
        | some c =>
          rw [hchars] at hslash
          cases hslash
          exact hname.plain (List.mem_of_getLast? hchars)
      | cons second names =>
        rw [String.intercalate_cons_cons, String.toList_append, String.toList_append,
          ← List.append_assoc]
        exact ih (List.cons_ne_nil _ _) (fun other hother => hnames other
          (List.mem_cons_of_mem name hother)) _
  unfold Path.EndsInSlash Path.ofParts
  rw [String.toList_append]
  exact hlast place hne h _

/-- **A place that is spelled out is found.** -/
theorem locate_ofParts (h : files.Stands place) (htop : files.entryAt [] = some .directory) :
    files.locate (Path.ofParts place) = .ok place := by
  have hcomponents : ∀ name ∈ place, Path.IsComponent name := fun name hname =>
    (h.names name hname).toIsComponent
  have hstart : files.start (Path.ofParts place) = [] := if_pos (isAbsolute_ofParts place)
  rw [locate_eq (ofParts_ne_empty place), hstart]
  unfold Path.steps
  rw [parts_ofParts hcomponents]
  by_cases hne : place = []
  · subst hne
    show files.walk [] ["."] = _
    rw [walk, htop]
    rfl
  · rw [if_neg (not_endsInSlash_ofParts hne hcomponents)]
    exact walk_of_stands h

/-- What a path leads to is such a place. -/
theorem stands_of_locate {path : String} (hhome : files.HasHome)
    (h : files.locate path = .ok place) : files.Stands place := by
  have hpath : path ≠ "" := by
    rintro rfl
    cases h
  rw [locate_eq hpath] at h
  refine stands_of_walk ?_ ?_ h
  · intro name hname
    unfold Path.steps at hname
    split at hname
    · rcases List.mem_append.mp hname with hname | hname
      · exact Path.isComponent_of_mem_parts hname
      · rw [List.mem_singleton.mp hname]
        exact ⟨by decide, by decide⟩
    · exact Path.isComponent_of_mem_parts hname
  · unfold start
    split
    · exact stands_nil files
    · exact hhome.stands

/-- The working directory is found under its name. -/
theorem locate_home (h : files.HasHome) : files.locate (Path.ofParts files.home) = .ok files.home :=
  locate_ofParts h.stands h.top

/-! ## §4. What is typed for a root. -/

/-- A path that says no more than "here" leads to the working directory. -/
theorem locate_isHere {path : String} (hhome : files.HasHome) (h : Path.isHere path = true) :
    files.locate path = .ok files.home := by
  simp only [Path.isHere, Bool.and_eq_true, Bool.not_eq_true', beq_iff_eq] at h
  obtain ⟨hrelative, hnormal⟩ := h
  have hpath : path ≠ "" := by
    rintro rfl
    exact absurd hnormal (by decide)
  have hparts : ∀ name ∈ Path.parts path, name = "." := by
    unfold Path.normal at hnormal
    intro name hname
    split at hnormal
    · exact absurd hnormal (by decide)
    · next first rest hfirst =>
      rw [hrelative] at hnormal
      dsimp only at hnormal
      rw [if_neg (fun hboth => absurd hboth.2 Bool.false_ne_true), List.cons.injEq] at hnormal
      rw [hfirst] at hname
      rcases List.mem_cons.mp hname with rfl | hname
      · exact hnormal.1
      · -- every later component is dropped, so it is a point
        have hdropped := List.filter_eq_nil_iff.mp hnormal.2 name hname
        simpa using hdropped
  have hsteps : ∀ name ∈ Path.steps path, name = "." := by
    unfold Path.steps
    intro name hname
    split at hname
    · rcases List.mem_append.mp hname with hname | hname
      · exact hparts name hname
      · exact List.mem_singleton.mp hname
    · exact hparts name hname
  have hstay : ∀ names : List String, (∀ name ∈ names, name = ".") →
      files.walk files.home names = .ok files.home := by
    intro names
    induction names with
    | nil => exact fun _ => rfl
    | cons name names ih =>
      intro hnames
      rw [walk, hhome.directory]
      dsimp only
      rw [if_pos (hnames name List.mem_cons_self)]
      exact ih fun other hother => hnames other (List.mem_cons_of_mem name hother)
  rw [locate_eq hpath, start_of_relative hrelative]
  exact hstay _ hsteps

/-- A relative path is walked from the working directory, also when its name is spelled out. -/
theorem locate_join_home {path : String} (hhome : files.HasHome)
    (hrelative : Path.isAbsolute path = false) (hpath : path ≠ "") :
    files.locate (Path.join (Path.ofParts files.home) path) = files.locate path := by
  have hbase := ofParts_ne_empty files.home
  have habsolute : Path.isAbsolute (Path.join (Path.ofParts files.home) path) = true :=
    (Path.isAbsolute_join hrelative hbase).trans (isAbsolute_ofParts _)
  have hcomponents : ∀ name ∈ files.home, Path.IsComponent name := fun name hname =>
    (hhome.stands.names name hname).toIsComponent
  have hsteps : Path.steps (Path.join (Path.ofParts files.home) path)
      = files.home ++ Path.steps path := by
    unfold Path.steps
    rw [Path.parts_join hrelative hbase, parts_ofParts hcomponents]
    by_cases hslash : Path.EndsInSlash path
    · rw [if_pos hslash, if_pos ((Path.endsInSlash_join hrelative hbase hpath).mpr hslash),
        List.append_assoc]
    · rw [if_neg hslash,
        if_neg fun hjoin => hslash ((Path.endsInSlash_join hrelative hbase hpath).mp hjoin)]
  have hwalk : files.walk [] files.home = .ok files.home :=
    walk_of_stands (by rw [List.nil_append]; exact hhome.stands)
  have hstart : files.start (Path.join (Path.ofParts files.home) path) = [] := if_pos habsolute
  rw [locate_eq (Path.join_ne_empty hrelative hbase), locate_eq hpath, hsteps, hstart,
    start_of_relative hrelative, walk_append, hwalk]
  rfl

end Files

section Resolution

variable {files later : Files}

/-- Two paths to one place lead to the same place below it. -/
theorem locate_metaDir_congr {root other : String} (hroot : root ≠ "") (hother : other ≠ "")
    (h : files.locate root = files.locate other) :
    files.locate (Layout.ofRoot root).metaDir = files.locate (Layout.ofRoot other).metaDir := by
  show files.locate (Path.join root ".symbridge") = files.locate (Path.join other ".symbridge")
  rw [Files.locate_join (by decide) hroot, Files.locate_join (by decide) hother, h]

/-- **A text and its resolution name the same project**, also when the text was resolved
before directories were made. -/
theorem locate_metaDir_resolveRoot (hhome : files.HasHome) (hkeeps : files.KeepsDirectories later)
    (text : String) :
    later.locate (Layout.ofRoot (resolveRoot files text)).metaDir
      = later.locate (Layout.ofRoot text).metaDir := by
  have hlater := hhome.of_keeps hkeeps
  unfold resolveRoot
  dsimp only
  rw [← hkeeps.home]
  split
  case isTrue hhere =>
    have htext : text ≠ "" := by
      rintro rfl
      exact absurd hhere (by decide)
    refine locate_metaDir_congr (Files.ofParts_ne_empty _) htext ?_
    rw [Files.locate_home hlater, Files.locate_isHere hlater hhere]
  case isFalse =>
    unfold Files.canonical?
    split
    case h_1 place entry hget =>
      -- what is there was walked to, and its place is spelled out
      have hlocate := (Files.get_eq_ok_iff.mp hget).1
      have htext : text ≠ "" := by
        rintro rfl
        cases hlocate
      refine locate_metaDir_congr (Files.ofParts_ne_empty _) htext ?_
      show later.locate (Path.ofParts place) = _
      rw [Files.locate_ofParts ((Files.stands_of_locate hhome hlocate).of_keeps hkeeps) hlater.top,
        Files.locate_of_keeps hkeeps hlocate]
    case h_2 =>
      show later.locate (Layout.ofRoot (Path.join (Path.ofParts later.home) text)).metaDir = _
      by_cases habsolute : Path.isAbsolute text = true
      · -- an absolute text stays as it is
        have hjoin : Path.join (Path.ofParts later.home) text = text := by
          unfold Path.join
          rw [habsolute, Bool.true_or, if_pos rfl]
        rw [hjoin]
      · rw [Bool.not_eq_true] at habsolute
        have hhere : Path.isAbsolute ".symbridge" = false := by decide
        by_cases htext : text = ""
        · -- nothing typed is the working directory with a slash behind it
          subst htext
          show later.locate (Path.join (Path.join (Path.ofParts later.home) "") ".symbridge")
            = later.locate (Path.join "" ".symbridge")
          rw [Path.join_empty_join hhere (Files.ofParts_ne_empty _), Path.empty_join,
            Files.locate_join_home hlater hhere (by decide)]
        · exact locate_metaDir_congr (Path.join_ne_empty habsolute (Files.ofParts_ne_empty _)) htext
            (Files.locate_join_home hlater habsolute htext)

end Resolution

end DebugMerge
