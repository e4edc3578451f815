/-
  DebugMerge.Proofs.Files.Directories
  ───────────────────────────────────
  **Making directories.**

  The path to a name below a base is walked as the base is, and one step on.
  Making directories adds directories where nothing stood; in the end there is
  one at the path.  How deep they can lie is bounded by the components of the
  path, so that below a path without steps upwards nothing is made.

  Main statements
    • `Files.locate_join`                       — names below a base
    • `exists_iff`, `exists_put`                — what is there
    • `makeDirectoriesWithin_rel`, `makeDirectories_spec` — directories that are made
    • `keepsBelow_makeDirectories`              — how deep they are made
    • `not_exists_makeDirectories`              — what stays missing in a tree
-/
import DebugMerge.Proofs.Files.Paths
import DebugMerge.Proofs.Files.Walking

namespace DebugMerge

namespace Files

variable {files made : Files} {place next : List String} {path base name : String} {entry : Entry}

/-! ## §1. Places. -/

/-- Where the walk along a path starts. -/
def start (files : Files) (path : String) : List String :=
  if Path.isAbsolute path then [] else files.home

theorem start_join (h : Path.IsName name) (hbase : base ≠ "") :
    files.start (Path.join base name) = files.start base := by
  unfold start
  rw [Path.isAbsolute_join h.isAbsolute hbase]

theorem start_of_home (h : made.home = files.home) : made.start path = files.start path := by
  unfold start
  rw [h]

/-- A relative path starts at the working directory. -/
theorem start_of_relative (h : Path.isAbsolute path = false) : files.start path = files.home :=
  if_neg (by rw [h]; exact Bool.false_ne_true)

theorem locate_eq (h : path ≠ "") :
    files.locate path = files.walk (files.start path) (Path.steps path) := by
  unfold locate
  rw [if_neg (by rwa [String.isEmpty_iff])]
  rfl

/-- A step downwards leads out of directories only. -/
theorem walk_name (h : Path.IsName name) :
    files.walk place [name] = .ok next
      ↔ files.entryAt place = some .directory ∧ next = place ++ [name] := by
  rw [walk]
  cases files.entryAt place with
  | none =>
    refine iff_of_false (fun hwalk => ?_) (fun hnext => ?_)
    · cases hwalk
    · cases hnext.1
  | some entry =>
    cases entry with
    | directory =>
      dsimp only
      rw [if_neg h.not_here, if_neg h.not_up, walk, Except.ok.injEq, eq_comm]
      exact (and_iff_right rfl).symm
    | file | database =>
      refine iff_of_false (fun hwalk => ?_) (fun hnext => ?_)
      · cases hwalk
      · cases hnext.1

/-- To stay somewhere before a step asks for what the step asks for. -/
theorem walk_here_bind (files : Files) (place : List String) (name : String) :
    ((files.walk place ["."]).bind fun next => files.walk next [name])
      = files.walk place [name] := by
  cases hentry : files.entryAt place with
  | none => simp only [walk, hentry, Except.bind]
  | some entry =>
    cases entry with
    | directory =>
      have hhere : files.walk place ["."] = .ok place := by
        rw [walk, hentry]
        rfl
      rw [hhere]
      rfl
    | file => simp only [walk, hentry, Except.bind]
    | database => simp only [walk, hentry, Except.bind]

/-- **The place of a name below a base.** -/
theorem locate_join (h : Path.IsName name) (hbase : base ≠ "") :
    files.locate (Path.join base name)
      = (files.locate base).bind fun place => files.walk place [name] := by
  rw [locate_eq (Path.join_ne_empty h.isAbsolute hbase), locate_eq hbase, Path.steps_join h hbase,
    start_join h hbase, walk_append]
  unfold Path.steps
  split
  · -- a slash at the end of the base asks for a directory, as the step does
    rw [walk_append]
    cases files.walk (files.start base) (Path.parts base) with
    | error e => rfl
    | ok place => exact (walk_here_bind files place name).symm
  · rfl

theorem locate_join_eq_ok (h : Path.IsName name) (hbase : base ≠ "") :
    files.locate (Path.join base name) = .ok next
      ↔ ∃ place, files.locate base = .ok place ∧ files.entryAt place = some .directory
        ∧ next = place ++ [name] := by
  rw [locate_join h hbase]
  cases files.locate base with
  | error e => exact ⟨nofun, nofun⟩
  | ok place =>
    show files.walk place [name] = .ok next ↔ _
    rw [walk_name h]
    constructor
    · rintro ⟨hentry, rfl⟩
      exact ⟨place, rfl, hentry, rfl⟩
    · rintro ⟨_, ⟨⟩, hentry, hnext⟩
      exact ⟨hentry, hnext⟩

/-! ## §2. What is there. -/

theorem get_eq_ok_iff :
    files.get path = .ok (place, entry)
      ↔ files.locate path = .ok place ∧ files.entryAt place = some entry := by
  constructor
  · intro h
    obtain ⟨found, hlocate, h⟩ := bind_ok.mp h
    cases hentry : files.entryAt found with
    | none =>
      rw [hentry] at h
      cases h
    | some stored =>
      rw [hentry] at h
      cases h
      exact ⟨hlocate, hentry⟩
  · rintro ⟨hlocate, hentry⟩
    refine bind_ok.mpr ⟨place, hlocate, ?_⟩
    rw [hentry]
    rfl

theorem exists_iff :
    files.exists path = true
      ↔ ∃ place entry, files.locate path = .ok place ∧ files.entryAt place = some entry := by
  simp only [← get_eq_ok_iff]
  unfold «exists»
  cases files.get path with
  | error e =>
    refine iff_of_false Bool.false_ne_true ?_
    rintro ⟨_, _, ⟨⟩⟩
  | ok found =>
    obtain ⟨place, entry⟩ := found
    exact iff_of_true rfl ⟨place, entry, rfl⟩

theorem exists_of_locate (h : files.locate path = .ok place) :
    files.exists path = (files.entryAt place).isSome := by
  rw [Bool.eq_iff_iff, exists_iff, Option.isSome_iff_exists]
  constructor
  · rintro ⟨_, entry, hlocate, hentry⟩
    cases h.symm.trans hlocate
    exact ⟨entry, hentry⟩
  · rintro ⟨entry, hentry⟩
    exact ⟨place, entry, h, hentry⟩

theorem isDirectory_iff :
    files.isDirectory path = true
      ↔ ∃ place, files.locate path = .ok place ∧ files.entryAt place = some .directory := by
  simp only [← get_eq_ok_iff]
  unfold isDirectory
  cases files.get path with
  | error e => exact ⟨nofun, nofun⟩
  | ok found =>
    obtain ⟨place, entry⟩ := found
    cases entry with
    | directory => exact ⟨fun _ => ⟨place, rfl⟩, fun _ => rfl⟩
    | file => exact ⟨nofun, nofun⟩
    | database => exact ⟨nofun, nofun⟩

/-- What is there stays there when something is put in the place of no directory. -/
theorem exists_put (hexists : files.exists path = true)
    (h : files.entryAt place ≠ some .directory) (entry : Entry) :
    (files.put place entry).exists path = true := by
  obtain ⟨found, stored, hlocate, hstored⟩ := exists_iff.mp hexists
  have hlocate' := locate_of_keeps (keepsDirectories_put h entry) hlocate
  by_cases heq : found = place
  · exact exists_iff.mpr ⟨found, entry, hlocate', heq ▸ entryAt_put files place entry⟩
  · exact exists_iff.mpr
      ⟨found, stored, hlocate', (entryAt_put_of_ne files entry heq).trans hstored⟩

/-- A file is written in the place of no directory. -/
theorem write_eq_ok {bytes : List UInt8} {written : Files}
    (h : files.write path bytes = .ok written) :
    ∃ place executable, files.locateNew path = .ok place
      ∧ files.entryAt place ≠ some .directory
      ∧ written = files.put place (.file bytes executable) := by
  obtain ⟨place, hplace, h⟩ := bind_ok.mp h
  refine ⟨place, ?_⟩
  cases hentry : files.entryAt place with
  | none =>
    rw [hentry] at h
    cases h
    exact ⟨false, hplace, nofun, rfl⟩
  | some entry =>
    rw [hentry] at h
    cases entry with
    | directory => cases h
    | file _ executable =>
      cases h
      exact ⟨executable, hplace, nofun, rfl⟩
    | database =>
      cases h
      exact ⟨false, hplace, nofun, rfl⟩

/-- What was written is there. -/
theorem exists_of_write {bytes : List UInt8} {written : Files}
    (h : files.write path bytes = .ok written) : written.exists path = true := by
  obtain ⟨place, executable, hplace, hfree, rfl⟩ := write_eq_ok h
  obtain ⟨hlocate, -⟩ := locateNew_eq_ok_iff.mp hplace
  exact exists_iff.mpr ⟨place, _, locate_of_keeps (keepsDirectories_put hfree _) hlocate,
    entryAt_put files place _⟩

/-! ## §3. Directories where nothing stood. -/

/-- The one tree has what the other has, and directories where nothing stood. -/
structure AddsDirectories (files made : Files) : Prop where
  home : made.home = files.home
  entries : ∀ place, made.entryAt place = files.entryAt place
    ∨ files.entryAt place = none ∧ made.entryAt place = some .directory

theorem addsDirectories_refl (files : Files) : files.AddsDirectories files :=
  ⟨rfl, fun _ => .inl rfl⟩

theorem AddsDirectories.trans {last : Files} (h : files.AddsDirectories made)
    (h' : made.AddsDirectories last) : files.AddsDirectories last := by
  refine ⟨h'.home.trans h.home, fun place => ?_⟩
  rcases h'.entries place with hlast | ⟨hnone, hlast⟩
  · rw [hlast]
    exact h.entries place
  · rcases h.entries place with hmade | ⟨-, hmade⟩
    · exact .inr ⟨hmade.symm.trans hnone, hlast⟩
    · rw [hmade] at hnone
      cases hnone

theorem AddsDirectories.keeps (h : files.AddsDirectories made) : files.KeepsDirectories made := by
  refine ⟨h.home, fun place hplace => ?_⟩
  rcases h.entries place with hsame | ⟨hnone, -⟩
  · exact hsame.trans hplace
  · rw [hplace] at hnone
    cases hnone

theorem addsDirectories_put (h : files.entryAt place = none) :
    files.AddsDirectories (files.put place .directory) := by
  refine ⟨rfl, fun other => ?_⟩
  by_cases heq : other = place
  · exact .inr ⟨heq ▸ h, heq ▸ entryAt_put files place .directory⟩
  · exact .inl (entryAt_put_of_ne files .directory heq)

/-- A directory is made where nothing stands, in a directory. -/
theorem makeDirectory_eq_ok_iff :
    files.makeDirectory path = .ok made
      ↔ ∃ place, files.locateNew path = .ok place ∧ files.entryAt place = none
        ∧ made = files.put place .directory := by
  unfold makeDirectory
  rw [bind_ok]
  refine exists_congr fun place => and_congr_right fun _ => ?_
  cases files.entryAt place with
  | none =>
    constructor
    · rintro ⟨⟩
      exact ⟨rfl, rfl⟩
    · rintro ⟨-, rfl⟩
      rfl
  | some entry => exact ⟨nofun, nofun⟩

/-- Making a directory makes one directory. -/
theorem makeDirectory_spec (h : files.makeDirectory path = .ok made) :
    files.AddsDirectories made ∧ made.isDirectory path = true := by
  obtain ⟨place, hplace, hfree, rfl⟩ := makeDirectory_eq_ok_iff.mp h
  have hadds := addsDirectories_put hfree
  obtain ⟨hlocate, -⟩ := locateNew_eq_ok_iff.mp hplace
  exact ⟨hadds, isDirectory_iff.mpr
    ⟨place, locate_of_keeps hadds.keeps hlocate, entryAt_put files place .directory⟩⟩

/-- A directory is there, or one is made. -/
theorem ensureDirectory_cases (h : files.ensureDirectory path = .ok made) :
    files.makeDirectory path = .ok made ∨ made = files ∧ files.isDirectory path = true := by
  unfold ensureDirectory at h
  split at h
  · next hmake =>
    cases h
    exact .inl hmake
  · split at h
    · next hdirectory =>
      cases h
      exact .inr ⟨rfl, hdirectory⟩
    · cases h

/-- **One more level**: the directory is there, or it is made, or those that lead to it are made
first. -/
theorem makeDirectoriesWithin_cases {depth : Nat} (hpath : path ≠ "")
    (h : files.makeDirectoriesWithin depth path = .ok made) :
    (made = files ∧ files.isDirectory path = true)
      ∨ files.makeDirectory path = .ok made
      ∨ ∃ shallower parent upper, depth = shallower + 1
        ∧ files.makeDirectory path = .error .notFound ∧ Path.parent? path = some parent
        ∧ files.makeDirectoriesWithin shallower parent = .ok upper
        ∧ upper.ensureDirectory path = .ok made := by
  cases depth with
  | zero =>
    unfold makeDirectoriesWithin at h
    split at h
    · next hdirectory =>
      cases h
      exact .inl ⟨rfl, hdirectory⟩
    · cases h
  | succ depth =>
    rw [makeDirectoriesWithin, if_neg (by rwa [String.isEmpty_iff])] at h
    split at h
    · next hmake =>
      cases h
      exact .inr (.inl hmake)
    · next hmissing =>
      split at h
      · cases h
      · next parent hparent =>
        obtain ⟨upper, hupper, h⟩ := bind_ok.mp h
        exact .inr (.inr ⟨depth, parent, upper, rfl, hmissing, hparent, hupper, h⟩)
    · split at h
      · next hdirectory =>
        cases h
        exact .inl ⟨rfl, hdirectory⟩
      · cases h

/-- On the way to the empty path nothing is made. -/
theorem makeDirectoriesWithin_empty {depth : Nat}
    (h : files.makeDirectoriesWithin depth "" = .ok made) : made = files := by
  cases depth with
  | zero =>
    unfold makeDirectoriesWithin at h
    split at h
    · cases h
      rfl
    · cases h
  | succ depth =>
    cases h
    rfl

/-- **What one directory after the other does**, if it goes together with doing nothing and with
doing more, and holds for each single one on the way. -/
theorem makeDirectoriesWithin_rel {R : Files → Files → Prop} (OnTheWay : String → Prop)
    (refl : ∀ files, R files files)
    (trans : ∀ {files upper made}, R files upper → R upper made → R files made)
    (parent : ∀ {path parent}, OnTheWay path → Path.parent? path = some parent → OnTheWay parent)
    (make : ∀ {files made path}, OnTheWay path → files.makeDirectory path = .ok made →
      R files made)
    {depth : Nat} (hpath : OnTheWay path)
    (h : files.makeDirectoriesWithin depth path = .ok made) : R files made := by
  -- by induction on the depth, which is that of the parent one level up
  induction depth generalizing files made path with
  | zero =>
    unfold makeDirectoriesWithin at h
    split at h
    · cases h
      exact refl files
    · cases h
  | succ depth ih =>
    by_cases hempty : path = ""
    · subst hempty
      rw [makeDirectoriesWithin_empty h]
      exact refl files
    · rcases makeDirectoriesWithin_cases hempty h with ⟨rfl, -⟩ | hmake
        | ⟨_, above, upper, hdepth, -, hparent, hupper, hlast⟩
      · exact refl made
      · exact make hpath hmake
      · cases hdepth
        have habove : R files upper := ih (parent hpath hparent) hupper
        rcases ensureDirectory_cases hlast with hmake | ⟨rfl, -⟩
        · exact trans habove (make hpath hmake)
        · exact habove

/-- **Directories that were made**: nothing else was changed, and there is one at the path. -/
theorem makeDirectories_spec (hpath : path ≠ "") (h : files.makeDirectories path = .ok made) :
    files.AddsDirectories made ∧ made.isDirectory path = true := by
  constructor
  · exact makeDirectoriesWithin_rel (fun _ => True) addsDirectories_refl
      (fun habove hlast => habove.trans hlast) (fun _ _ => trivial)
      (fun _ hmake => (makeDirectory_spec hmake).1) trivial h
  · rcases makeDirectoriesWithin_cases hpath h with ⟨rfl, hdirectory⟩ | hmake
      | ⟨_, _, _, -, -, -, -, hlast⟩
    · exact hdirectory
    · exact (makeDirectory_spec hmake).2
    · rcases ensureDirectory_cases hlast with hmake | ⟨rfl, hdirectory⟩
      · exact (makeDirectory_spec hmake).2
      · exact hdirectory

/-- In a directory at most one is made. -/
theorem makeDirectories_of_locateNew (hplace : files.locateNew path = .ok place)
    (h : files.makeDirectories path = .ok made) :
    made = files ∨ files.entryAt place = none ∧ made = files.put place .directory := by
  have hpath : path ≠ "" := by
    rintro rfl
    cases hplace
  rcases makeDirectoriesWithin_cases hpath h with ⟨rfl, -⟩ | hmake
    | ⟨_, _, _, -, hmissing, -⟩
  · exact .inl rfl
  · obtain ⟨place', hplace', hfree, rfl⟩ := makeDirectory_eq_ok_iff.mp hmake
    rw [hplace] at hplace'
    cases hplace'
    exact .inr ⟨hfree, rfl⟩
  · -- what leads to the directory is there
    rcases bind_error.mp hmissing with hmissing | ⟨found, -, hmissing⟩
    · rw [hplace] at hmissing
      cases hmissing
    · split at hmissing <;> cases hmissing

/-! ## §4. How deep directories are made. -/

/-- The steps of a walk that lead on. -/
def leading (names : List String) : List String :=
  names.filter (· ≠ ".")

theorem leading_cons {name : String} (h : ¬ name = ".") (names : List String) :
    leading (name :: names) = name :: leading names :=
  List.filter_cons_of_pos (decide_eq_true h)

theorem leading_append {name : String} (h : ¬ name = ".") (names : List String) :
    leading (names ++ [name]) = leading names ++ [name] := by
  unfold leading
  rw [List.filter_append]
  exact congrArg _ (leading_cons h [])

theorem leading_steps (path : String) : leading (Path.steps path) = leading (Path.parts path) := by
  unfold Path.steps leading
  split
  · rw [List.filter_append]
    exact List.append_nil _
  · rfl

/-- No step leads down by more than one level. -/
theorem length_walk {names : List String} (h : files.walk place names = .ok next) :
    next.length ≤ place.length + (leading names).length := by
  induction names generalizing place with
  | nil =>
    cases h
    exact Nat.le_add_right _ _
  | cons name names ih =>
    rw [walk] at h
    split at h
    · cases h
    · have hrest := ih h
      by_cases hhere : name = "."
      · subst hhere
        exact hrest
      · rw [leading_cons hhere, List.length_cons]
        rw [if_neg hhere] at hrest
        split at hrest
        · rw [List.length_dropLast] at hrest
          omega
        · rw [List.length_append, List.length_singleton] at hrest
          omega
    · cases h

/-- Without steps upwards each step that leads on leads down. -/
theorem walk_eq_append {names : List String} (hplain : ".." ∉ names)
    (h : files.walk place names = .ok next) : next = place ++ leading names := by
  induction names generalizing place with
  | nil =>
    cases h
    exact (List.append_nil _).symm
  | cons name names ih =>
    have hup : ¬ name = ".." := fun heq => hplain (heq ▸ List.mem_cons_self)
    rw [walk] at h
    split at h
    · cases h
    · rw [if_neg hup] at h
      rw [ih (fun hmem => hplain (List.mem_cons_of_mem name hmem)) h]
      by_cases hhere : name = "."
      · subst hhere
        rfl
      · rw [if_neg hhere, leading_cons hhere, List.append_assoc]
        rfl
    · cases h

theorem length_locate (h : files.locate path = .ok place) :
    place.length ≤ (files.start path).length + Path.depth path := by
  have hpath : path ≠ "" := by
    rintro rfl
    cases h
  rw [locate_eq hpath] at h
  have hlength := length_walk h
  rw [leading_steps] at hlength
  exact hlength

/-- Below the path everything stays. -/
def KeepsBelow (path : String) (files made : Files) : Prop :=
  made.home = files.home ∧ ∀ place : List String,
    (files.start path).length + Path.depth path < place.length →
      made.entryAt place = files.entryAt place

/-- A directory that is made on the way to a path does not lie below the path. -/
theorem keepsBelow_makeDirectory {above : String}
    (habove : Path.isAbsolute above = Path.isAbsolute path ∧ Path.depth above ≤ Path.depth path)
    (h : files.makeDirectory above = .ok made) : KeepsBelow path files made := by
  obtain ⟨found, hfound, -, rfl⟩ := makeDirectory_eq_ok_iff.mp h
  refine ⟨rfl, fun place hdeep => entryAt_put_of_ne files .directory fun heq => ?_⟩
  have hlength := length_locate (locateNew_eq_ok_iff.mp hfound).1
  have hstart : files.start above = files.start path := by
    unfold start
    rw [habove.1]
  rw [hstart, ← heq] at hlength
  omega

/-- **How deep directories are made**: below their path everything stays. -/
theorem keepsBelow_makeDirectories (h : files.makeDirectories path = .ok made) :
    KeepsBelow path files made := by
  -- the paths on the way start where the path does, and are no deeper
  refine makeDirectoriesWithin_rel
    (fun above => Path.isAbsolute above = Path.isAbsolute path ∧ Path.depth above ≤ Path.depth path)
    (fun _ => ⟨rfl, fun _ _ => rfl⟩) ?trans ?parent keepsBelow_makeDirectory ⟨rfl, Nat.le_refl _⟩ h
  case trans =>
    intro files upper made hupper hlast
    refine ⟨hlast.1.trans hupper.1, fun place hdeep => ?_⟩
    have hsame : upper.start path = files.start path := start_of_home hupper.1
    exact (hlast.2 place (hsame ▸ hdeep)).trans (hupper.2 place hdeep)
  case parent =>
    intro above parent hway hparent
    obtain ⟨habsolute, hle⟩ := Path.parent?_spec hparent
    exact ⟨habsolute.trans hway.1, Nat.le_trans hle hway.2⟩

/-! ## §5. Trees. -/

/-- Everything hangs in directories. -/
def IsTree (files : Files) : Prop :=
  ∀ place below entry, below ≠ [] → files.entryAt (place ++ below) = some entry →
    files.entryAt place = some .directory

/-- In a tree everything is walked to downwards. -/
theorem walk_of_isTree (htree : files.IsTree) {names : List String} (hplain : ".." ∉ names)
    (hname : Path.IsName name)
    (hentry : files.entryAt (place ++ (leading names ++ [name])) = some entry) :
    files.walk place (names ++ [name]) = .ok (place ++ (leading names ++ [name])) := by
  -- what stands at the end hangs in every place on the way
  have hplace : files.entryAt place = some .directory :=
    htree place (leading names ++ [name]) entry (by simp) hentry
  induction names generalizing place with
  | nil => exact (walk_name hname).mpr ⟨hplace, rfl⟩
  | cons first names ih =>
    have hup : ¬ first = ".." := fun heq => hplain (heq ▸ List.mem_cons_self)
    have hrest : ".." ∉ names := fun hmem => hplain (List.mem_cons_of_mem first hmem)
    rw [List.cons_append, walk, hplace]
    dsimp only
    rw [if_neg hup]
    by_cases hhere : first = "."
    · subst hhere
      exact ih hrest hentry hplace
    · rw [if_neg hhere]
      rw [leading_cons hhere, List.cons_append,
        List.append_cons place first (leading names ++ [name])] at hentry ⊢
      exact ih hrest hentry (htree _ (leading names ++ [name]) entry (by simp) hentry)

/-- **Below a path without steps upwards nothing is made.** -/
theorem not_exists_makeDirectories (htree : files.IsTree) (hbase : base ≠ "")
    (hplain : ".." ∉ Path.parts base) (hname : Path.IsName name)
    (h : files.makeDirectories base = .ok made)
    (hexists : files.exists (Path.join base name) = false) :
    made.exists (Path.join base name) = false := by
  rw [← Bool.not_eq_true] at hexists ⊢
  refine fun hmade => hexists ?_
  obtain ⟨place, entry, hlocate, hentry⟩ := exists_iff.mp hmade
  have hjoin := Path.join_ne_empty hname.isAbsolute hbase
  -- the path leads straight down to the place, which is deeper than all that was made
  have hstart : made.start (Path.join base name) = files.start base :=
    (start_join hname hbase).trans (start_of_home (makeDirectories_spec hbase h).1.home)
  have hsteps : Path.steps (Path.join base name) = Path.parts base ++ [name] :=
    Path.steps_join hname hbase
  have hplace : place = files.start base ++ (leading (Path.parts base) ++ [name]) := by
    rw [locate_eq hjoin, hstart, hsteps] at hlocate
    have hstraight : ".." ∉ Path.parts base ++ [name] := by
      rw [List.mem_append, List.mem_singleton]
      exact fun hmem => hmem.elim hplain hname.not_up.symm
    rw [walk_eq_append hstraight hlocate, leading_append hname.not_here]
  have hdeep : (files.start base).length + Path.depth base < place.length := by
    rw [hplace, List.length_append, List.length_append, List.length_singleton]
    show _ + (leading (Path.parts base)).length < _
    omega
  rw [(keepsBelow_makeDirectories h).2 place hdeep, hplace] at hentry
  -- so it was there before
  refine exists_iff.mpr ⟨_, entry, ?_, hentry⟩
  rw [locate_eq hjoin, start_join hname hbase, hsteps]
  exact walk_of_isTree htree hplain hname hentry

end Files

end DebugMerge
