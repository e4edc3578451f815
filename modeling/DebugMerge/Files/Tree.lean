/-
  DebugMerge.Files.Tree
  ─────────────────────
  **Files and directories.**

  A tree holds entries under absolute names.  A path is walked component by
  component from the root or from the working directory; everything that is
  walked through must be a directory.  Program databases are entries of their
  own kind, which only the store reads.

  Main definitions
    • `Entry`, `Files`                       — the tree
    • `Files.locate`                         — walking a path
    • `Files.readBytes`, `.readText`, `.isFile`, `.isDirectory`, `.canonical?`
    • `Files.write`, `.makeDirectories`      — changes
    • `Files.openDatabase`, `.saveDatabase`  — program databases
-/
import DebugMerge.Files.Path
import DebugMerge.Load.Error
import DebugMerge.Store.Schema
import DebugMerge.Text.Utf8

namespace DebugMerge

/-! ## §1. Entries. -/

/-- What can stand at a place. -/
inductive Entry where
  | directory
  | file (bytes : List UInt8) (executable : Bool)
  | database (db : Database)
  deriving DecidableEq

/-- Is the entry no directory? -/
def Entry.isFile : Entry → Bool
  | directory => false
  | _ => true

/-- A tree of entries, and the working directory. -/
structure Files where
  /-- Components of the working directory, which exists. -/
  home : List String
  entries : List (List String × Entry)
  deriving DecidableEq

namespace Files

/-- The entry at a place; the working directory and what leads to it are directories. -/
def entryAt (files : Files) (place : List String) : Option Entry :=
  match files.entries.find? fun e => e.1 = place with
  | some (_, entry) => some entry
  | none => if place.isPrefixOf files.home then some .directory else none

/-- Put an entry at a place. -/
def put (files : Files) (place : List String) (entry : Entry) : Files :=
  { files with entries := files.entries.filter (fun e => e.1 ≠ place) ++ [(place, entry)] }

theorem find?_append_filter (es : List (List String × Entry)) (place other : List String)
    (entry : Entry) :
    (es.filter (fun e => e.1 ≠ place) ++ [(place, entry)]).find? (fun e => e.1 = other)
      = if other = place then some (place, entry) else es.find? fun e => e.1 = other := by
  induction es with
  | nil =>
      by_cases h : other = place
      · simp [h]
      · simp [h, Ne.symm h]
  | cons e es ih =>
      rw [List.filter_cons]
      by_cases he : e.1 = place
      · rw [if_neg (by simp [he]), ih]
        by_cases ho : other = place
        · simp [ho]
        · rw [if_neg ho, if_neg ho, List.find?_cons_of_neg]
          simp [he, Ne.symm ho]
      · rw [if_pos (by simp [he]), List.cons_append]
        by_cases ho : e.1 = other
        · rw [List.find?_cons_of_pos (by simp [ho]), if_neg (ho ▸ he),
            List.find?_cons_of_pos (by simp [ho])]
        · rw [List.find?_cons_of_neg (by simp [ho]), ih, List.find?_cons_of_neg (by simp [ho])]

theorem entryAt_put (files : Files) (place : List String) (entry : Entry) :
    (files.put place entry).entryAt place = some entry := by
  simp only [entryAt, put, find?_append_filter, if_true]

theorem entryAt_put_of_ne (files : Files) {place other : List String} (entry : Entry)
    (h : other ≠ place) : (files.put place entry).entryAt other = files.entryAt other := by
  simp only [entryAt, put, find?_append_filter, if_neg h]
  rfl

/-! ## §2. Walking. -/

/-- Walk on from a place.  Everything that is left behind must be a directory, also
when it is left upwards. -/
def walk (files : Files) (place : List String) : List String → Except IoError (List String)
  | [] => .ok place
  | name :: rest =>
      match files.entryAt place with
      | none => .error .notFound
      | some .directory =>
          let next := if name = "." then place else if name = ".." then place.dropLast
            else place ++ [name]
          walk files next rest
      | some _ => .error .notDirectory

/-- The place of a path, which need not hold anything; the empty path has none.  A
slash at the end stands before an unnamed component. -/
def locate (files : Files) (path : String) : Except IoError (List String) :=
  if path.isEmpty then .error .notFound
  else
    let start := if Path.isAbsolute path then [] else files.home
    let names := Path.parts path
    let names := if path.toList.getLast? = some '/' then names ++ ["."] else names
    walk files start names

/-- The place and entry of a path. -/
def get (files : Files) (path : String) : Except IoError (List String × Entry) := do
  let place ← files.locate path
  match files.entryAt place with
  | some entry => return (place, entry)
  | none => throw .notFound

/-! ## §3. Reading. -/

/-- Is there a file at the path? -/
def isFile (files : Files) (path : String) : Bool :=
  match files.get path with
  | .ok (_, entry) => entry.isFile
  | .error _ => false

/-- Is there a directory at the path? -/
def isDirectory (files : Files) (path : String) : Bool :=
  match files.get path with
  | .ok (_, .directory) => true
  | _ => false

/-- Is there anything at the path? -/
def «exists» (files : Files) (path : String) : Bool :=
  match files.get path with
  | .ok _ => true
  | .error _ => false

/-- The absolute path without detours of something that is there. -/
def canonical? (files : Files) (path : String) : Option String :=
  match files.get path with
  | .ok (place, _) => some (Path.ofParts place)
  | .error _ => none

/-- The bytes of the header that a stored database starts with. -/
def databaseMark : List UInt8 := [0xDB, 0xFF]

/-- The bytes of a file. -/
def readBytes (files : Files) (path : String) : Except IoError (List UInt8) := do
  match ← files.get path with
  | (_, .directory) => throw .isDirectory
  | (_, .file bytes _) => return bytes
  | (_, .database _) => return databaseMark

/-- The text of a file. -/
def readText (files : Files) (path : String) : Except IoError String := do
  let bytes ← files.readBytes path
  match Text.Utf8.decode? ⟨bytes.toArray⟩ with
  | some text => return text
  | none => throw .invalidText

/-! ## §4. Writing. -/

/-- The place of a path at which something can be made: its directory is there. -/
def locateNew (files : Files) (path : String) : Except IoError (List String) := do
  let place ← files.locate path
  match files.entryAt place.dropLast with
  | some .directory => return place
  | some _ => throw .notDirectory
  | none => throw .notFound

/-- Write a file, replacing what it held. -/
def write (files : Files) (path : String) (bytes : List UInt8) : Except IoError Files := do
  let place ← files.locateNew path
  match files.entryAt place with
  | some .directory => throw .isDirectory
  | some (.file _ executable) => return files.put place (.file bytes executable)
  | _ => return files.put place (.file bytes false)

/-- Make a directory. -/
def makeDirectory (files : Files) (path : String) : Except IoError Files := do
  let place ← files.locateNew path
  match files.entryAt place with
  | some _ => throw .alreadyExists
  | none => return files.put place .directory

/-- Make a directory; one that is there is left alone. -/
def ensureDirectory (files : Files) (path : String) : Except IoError Files :=
  match files.makeDirectory path with
  | .ok files => .ok files
  | .error e => if files.isDirectory path then .ok files else .error e

/-- Make a directory and those that lead to it.  `depth` bounds how many those are. -/
def makeDirectoriesWithin : Nat → Files → String → Except IoError Files
  | 0, files, path => if files.isDirectory path then .ok files else .error .notFound
  | depth + 1, files, path =>
      if path.isEmpty then .ok files
      else match files.makeDirectory path with
        | .ok files => .ok files
        | .error .notFound =>
            match Path.parent? path with
            | none => .error .notFound
            | some parent => do
                let files ← makeDirectoriesWithin depth files parent
                files.ensureDirectory path
        | .error e => if files.isDirectory path then .ok files else .error e

/-- Make a directory and those that lead to it; one that is there is left alone. -/
def makeDirectories (files : Files) (path : String) : Except IoError Files :=
  makeDirectoriesWithin ((Path.parts path).length + 1) files path

/-! ## §5. Program databases. -/

/-- Open the program database at a path.  A missing or an empty file is a new
database; any other file is none. -/
def openDatabase (files : Files) (path : String) : Except StoreError (Files × Database) :=
  match files.locateNew path with
  | .error _ => .error .notOpened
  | .ok place =>
      let opened (db : Database) : Except StoreError (Files × Database) := do
        let db ← db.opened
        return (files.put place (.database db), db)
      match files.entryAt place with
      | none => opened .blank
      | some (.file [] _) => opened .blank
      | some (.database db) => opened db
      | some _ => .error .notOpened

/-- Store a database at the path from which it was opened. -/
def saveDatabase (files : Files) (path : String) (db : Database) : Files :=
  match files.locateNew path with
  | .ok place => files.put place (.database db)
  | .error _ => files

end Files

end DebugMerge
