/-
  DebugMerge.Program.Info
  ───────────────────────
  **What is recorded about a program besides its memory.**

  A program has a name, a preferred load address and, if its executable says
  so, the identity of the debug file that belongs to it.  Options are texts
  grouped by category; the analyses read some of them as switches.

  Main definitions
    • `ProgramInfo`                       — name, image base, expected identity
    • `ProgramOptions`, `.get?`, `.flag`  — the options of one category
-/
import DebugMerge.Identity.Basic

namespace DebugMerge

open Json

/-! ## §1. Attributes. -/

/-- The attributes of a program. -/
structure ProgramInfo where
  name : String
  /-- Preferred load address, against which records are located. -/
  imageBase : UInt64
  /-- Identity of the debug file that belongs to the program. -/
  expected : Option Identity
  deriving DecidableEq, Repr

/-- The attributes as JSON. -/
def ProgramInfo.toJson (info : ProgramInfo) : Json :=
  object [("name", text info.name), ("image_base", ofWord64 info.imageBase),
    ("expected_pdb", ofOption Identity.toJson info.expected)]

/-- Read the attributes. -/
def ProgramInfo.ofJson? (v : Json) : Option ProgramInfo := do
  match ← slots? ["name", "image_base", "expected_pdb"] v with
  | [name, imageBase, expected] =>
      return {
        name := ← name.required text?
        imageBase := ← imageBase.required word64?
        expected := ← expected.nullable Identity.ofJson? }
  | _ => none

/-! ## §2. Options. -/

/-- The options of one category, sorted by key. -/
structure ProgramOptions where
  category : String
  values : List (String × String)
  deriving DecidableEq, Repr

namespace ProgramOptions

/-- Set one option among sorted ones. -/
def insert (key value : String) : List (String × String) → List (String × String)
  | [] => [(key, value)]
  | (k, v) :: rest =>
      if key < k then (key, value) :: (k, v) :: rest
      else if key = k then (key, value) :: rest
      else (k, v) :: insert key value rest

/-- The value of an option. -/
def get? (options : ProgramOptions) (key : String) : Option String :=
  (options.values.find? fun entry => entry.1 = key).map (·.2)

/-- An option read as a switch: it is on if its trimmed text is `true` in any ASCII
case, and `fallback` if it is not set. -/
def flag (options : ProgramOptions) (key : String) (fallback : Bool) : Bool :=
  match options.get? key with
  | some value => Text.asciiLower (Text.trim value) == "true"
  | none => fallback

/-- Options as JSON. -/
def toJson (options : ProgramOptions) : Json :=
  object [("category", text options.category),
    ("values", object (options.values.map fun (key, value) => (key, text value)))]

/-- Read a table of texts; of a repeated key the last value counts. -/
def readValues? : List (String × Json) → Option (List (String × String))
  | [] => some []
  | fields => fields.foldlM (fun values (key, v) => do return insert key (← text? v) values) []

/-- Read options. -/
def ofJson? (v : Json) : Option ProgramOptions := do
  match ← slots? ["category", "values"] v with
  | [category, values] =>
      return {
        category := ← category.required text?
        values := ← values.required fun
          | object fields => readValues? fields
          | _ => none }
  | _ => none

end ProgramOptions

end DebugMerge
