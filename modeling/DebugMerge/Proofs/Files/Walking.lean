/-
  DebugMerge.Proofs.Files.Walking
  ───────────────────────────────
  **Where a path leads while the tree changes.**

  Walking a path looks at directories only.  As long as every directory stays
  one, a path that leads somewhere leads to the same place, whatever files are
  written meanwhile.

  Main statements
    • `Files.KeepsDirectories`, `keepsDirectories_put` — changes that keep directories
    • `walk_append`, `walk_of_keeps`, `locateNew_of_keeps` — walking
    • `Files.storedDatabase?`, `openDatabase_eq_stored` — opening what is stored
    • `openDatabase_put`, `openDatabase_eq_ok`     — and opening it again
-/
import DebugMerge.Proofs.Folds
import DebugMerge.Files.Tree

namespace DebugMerge.Files

variable {files files' : Files} {place : List String} {path : String} {entry : Entry}

/-! ## §1. Changes that keep directories. -/

/-- Every directory of the one tree is a directory of the other, in the same working directory. -/
structure KeepsDirectories (files files' : Files) : Prop where
  home : files'.home = files.home
  directories : ∀ place, files.entryAt place = some .directory →
    files'.entryAt place = some .directory

theorem KeepsDirectories.trans {later : Files} (h : files.KeepsDirectories files')
    (h' : files'.KeepsDirectories later) : files.KeepsDirectories later :=
  ⟨h'.home.trans h.home, fun place hplace => h'.directories place (h.directories place hplace)⟩

/-- An entry that replaces no directory keeps them all. -/
theorem keepsDirectories_put (h : files.entryAt place ≠ some .directory) (entry : Entry) :
    files.KeepsDirectories (files.put place entry) := by
  refine ⟨rfl, fun other hother => ?_⟩
  have hne : other ≠ place := fun heq => h (heq ▸ hother)
  rw [entryAt_put_of_ne files entry hne]
  exact hother

/-- What was put at a place gives way to what is put there next. -/
theorem put_put (files : Files) (place : List String) (entry entry' : Entry) :
    (files.put place entry).put place entry' = files.put place entry' := by
  unfold put
  simp [List.filter_append]

/-! ## §2. Walking. -/

/-- Walking on from where a walk ended. -/
theorem walk_append (files : Files) (place : List String) (names rest : List String) :
    files.walk place (names ++ rest)
      = (files.walk place names).bind fun next => files.walk next rest := by
  induction names generalizing place with
  | nil => rfl
  | cons name names ih =>
    rw [List.cons_append, walk, walk]
    cases files.entryAt place with
    | none => rfl
    | some entry =>
      cases entry with
      | directory => exact ih _
      | file => rfl
      | database => rfl

/-- **A path that leads somewhere leads there as long as the directories stay.** -/
theorem walk_of_keeps (hkeeps : files.KeepsDirectories files') {start : List String}
    {names : List String} (h : files.walk start names = .ok place) :
    files'.walk start names = .ok place := by
  induction names generalizing start with
  | nil => exact h
  | cons name names ih =>
    rw [walk] at h ⊢
    cases hentry : files.entryAt start with
    | none =>
      rw [hentry] at h
      cases h
    | some entry =>
      rw [hentry] at h
      cases entry with
      | directory =>
        rw [hkeeps.directories start hentry]
        exact ih h
      | file => cases h
      | database => cases h

theorem locate_of_keeps (hkeeps : files.KeepsDirectories files')
    (h : files.locate path = .ok place) : files'.locate path = .ok place := by
  unfold locate at h ⊢
  rw [hkeeps.home]
  split at h
  · cases h
  · next hempty =>
    rw [if_neg hempty]
    exact walk_of_keeps hkeeps h

/-- A place at which something can be made: the path leads there, and its directory is there. -/
theorem locateNew_eq_ok_iff :
    files.locateNew path = .ok place
      ↔ files.locate path = .ok place ∧ files.entryAt place.dropLast = some .directory := by
  unfold locateNew
  constructor
  · intro h
    obtain ⟨place', hlocate, h⟩ := bind_ok.mp h
    cases hentry : files.entryAt place'.dropLast with
    | none =>
      rw [hentry] at h
      cases h
    | some entry =>
      rw [hentry] at h
      cases entry with
      | directory =>
        cases h
        exact ⟨hlocate, hentry⟩
      | file => cases h
      | database => cases h
  · rintro ⟨hlocate, hentry⟩
    refine bind_ok.mpr ⟨place, hlocate, ?_⟩
    rw [hentry]
    rfl

theorem locateNew_of_keeps (hkeeps : files.KeepsDirectories files')
    (h : files.locateNew path = .ok place) : files'.locateNew path = .ok place := by
  obtain ⟨hlocate, hentry⟩ := locateNew_eq_ok_iff.mp h
  exact locateNew_eq_ok_iff.mpr ⟨locate_of_keeps hkeeps hlocate, hkeeps.directories _ hentry⟩

/-! ## §3. Stored databases. -/

/-- The database that is stored at a place; nothing and an empty file stand for one without
tables. -/
def storedDatabase? (files : Files) (place : List String) : Option Database :=
  match files.entryAt place with
  | none => some .blank
  | some (.file [] _) => some .blank
  | some (.database db) => some db
  | some _ => none

@[simp] theorem storedDatabase?_put (files : Files) (place : List String) (db : Database) :
    (files.put place (.database db)).storedDatabase? place = some db := by
  unfold storedDatabase?
  rw [entryAt_put]

/-- Where a database is stored there is no directory. -/
theorem not_directory_of_storedDatabase? {db : Database}
    (h : files.storedDatabase? place = some db) : files.entryAt place ≠ some .directory := by
  intro hdirectory
  unfold storedDatabase? at h
  rw [hdirectory] at h
  cases h

/-- **What is stored is opened and stored again**; anything else is no database. -/
theorem openDatabase_eq_stored (hplace : files.locateNew path = .ok place) :
    files.openDatabase path = match files.storedDatabase? place with
      | some db => db.opened.map fun db => (files.put place (.database db), db)
      | none => .error .notOpened := by
  have hstore : ∀ db : Database, (do
      let db ← db.opened
      return (files.put place (.database db), db) : Except StoreError (Files × Database))
        = db.opened.map fun db => (files.put place (.database db), db) := by
    intro db
    cases db.opened <;> rfl
  unfold openDatabase storedDatabase?
  rw [hplace]
  dsimp only
  cases files.entryAt place with
  | none => exact hstore .blank
  | some entry =>
    cases entry with
    | directory => rfl
    | database db => exact hstore db
    | file bytes executable =>
      cases bytes with
      | nil => exact hstore .blank
      | cons => rfl

/-- A database that is put where one is stored is the one that is opened next. -/
theorem openDatabase_put (hplace : files.locateNew path = .ok place)
    (hstored : (files.storedDatabase? place).isSome = true) (db : Database) :
    (files.put place (.database db)).openDatabase path
      = db.opened.map fun db => (files.put place (.database db), db) := by
  obtain ⟨old, hold⟩ := Option.isSome_iff_exists.mp hstored
  have hkeeps := keepsDirectories_put (not_directory_of_storedDatabase? hold) (.database db)
  rw [openDatabase_eq_stored (locateNew_of_keeps hkeeps hplace), storedDatabase?_put]
  simp only [put_put]

/-- What an opening did: the stored database was brought up to date and stored again. -/
theorem openDatabase_eq_ok {opened : Files} {db : Database}
    (h : files.openDatabase path = .ok (opened, db)) :
    ∃ place stored, files.locateNew path = .ok place ∧ files.storedDatabase? place = some stored
      ∧ stored.opened = .ok db ∧ opened = files.put place (.database db) := by
  cases hplace : files.locateNew path with
  | error e =>
    unfold openDatabase at h
    rw [hplace] at h
    cases h
  | ok place =>
    rw [openDatabase_eq_stored hplace] at h
    cases hstored : files.storedDatabase? place with
    | none =>
      rw [hstored] at h
      cases h
    | some stored =>
      rw [hstored] at h
      obtain ⟨new, hnew, hpair⟩ := map_ok.mp h
      cases hpair
      exact ⟨place, stored, rfl, hstored, hnew, rfl⟩

end DebugMerge.Files
