/-
  DebugMerge.Files.Path
  ─────────────────────
  **Paths as texts with slashes.**

  A path keeps the text it was given; only what is read off it ignores
  repeated slashes, points for "here", and slashes at the end.

  Main definitions
    • `Path.parts`, `Path.normal`            — components
    • `Path.join`, `Path.parent?`, `Path.fileName?`, `Path.extension?`
    • `Path.isAbsolute`, `Path.isHere`
-/
import DebugMerge.Text.Blank

namespace DebugMerge.Path

/-! ## §1. Components. -/

/-- The texts between slashes, empty ones left out. -/
def parts (path : String) : List String :=
  ((Text.splitAll '/' path.toList).filter (!·.isEmpty)).map String.ofList

/-- Does the path start at the root? -/
def isAbsolute (path : String) : Bool :=
  Text.startsWith "/" path

/-- The components that count: a point counts only at the start of a relative path. -/
def normal (path : String) : List String :=
  match parts path with
  | [] => []
  | first :: rest =>
      let rest := rest.filter (· ≠ ".")
      if first = "." ∧ isAbsolute path then rest else first :: rest

/-- Does the path say no more than "here"? -/
def isHere (path : String) : Bool :=
  !isAbsolute path && normal path == ["."]

/-! ## §2. Operations. -/

/-- The path `path`, taken from `base` unless it is absolute. -/
def join (base path : String) : String :=
  if isAbsolute path || base.isEmpty then path
  else if base.toList.getLast? = some '/' then base ++ path
  else base ++ "/" ++ path

/-- The last component, unless it is a point or two. -/
def fileName? (path : String) : Option String :=
  match (normal path).getLast? with
  | some name => if name = "." ∨ name = ".." then none else some name
  | none => none

/-- The text behind the last point of the file name; a point at its start does not count. -/
def extension? (path : String) : Option String := do
  let name ← fileName? path
  match (Text.splitAll '.' name.toList).reverse with
  | last :: before :: more =>
      if before.isEmpty ∧ more.isEmpty then none else some (String.ofList last)
  | _ => none

/-- An absolute path from its components. -/
def ofParts (names : List String) : String :=
  "/" ++ String.intercalate "/" names

/-- A path from its components. -/
def ofNormal (absolute : Bool) (names : List String) : String :=
  (if absolute then "/" else "") ++ String.intercalate "/" names

/-- The path without its last component; the root and the empty path have none. -/
def parent? (path : String) : Option String :=
  match normal path with
  | [] => none
  | names => some (ofNormal (isAbsolute path) names.dropLast)

/-- What is left of `path` behind `base`, if its components start with those of `base`. -/
def stripBase? (base path : String) : Option String :=
  if isAbsolute base == isAbsolute path && (normal base).isPrefixOf (normal path) then
    some (String.intercalate "/" ((normal path).drop (normal base).length))
  else none

end DebugMerge.Path
