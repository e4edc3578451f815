/-
  DebugMerge.Load.Settings
  ────────────────────────
  **How a load is to be carried out.**

  Settings choose the backend that reads the debug file, the categories of
  records that may be merged, how often a stage looks for a request to stop,
  how long to wait for the program, and whether the run is recorded.

  Main definitions
    • `BackendChoice`, `Restrictions`       — choices and their spellings
    • `ApplyOptions`, `ReaderOptions`, `LoadSettings`
-/
import DebugMerge.Records.Format
import DebugMerge.Text.Blank
import DebugMerge.Text.LowerCase

namespace DebugMerge

open Json

/-! ## §1. Backends. -/

/-- Which backend reads the debug file. -/
inductive BackendChoice where
  /-- An external tool that prints a JSON document. -/
  | legacyInterop
  /-- The built-in reader. -/
  | universalReader
  deriving DecidableEq, Repr

namespace BackendChoice

/-- Every backend. -/
def all : List BackendChoice :=
  [legacyInterop, universalReader]

/-- The name of a backend. -/
def word : BackendChoice → String
  | legacyInterop => "legacy-interop"
  | universalReader => "universal-reader"

/-- The backend with the given name. -/
def ofWord? (s : String) : Option BackendChoice :=
  all.find? fun choice => choice.word = s

/-- The backend that a word on the command line chooses. -/
def parse (s : String) : Except String BackendChoice :=
  let word := Text.asciiLower (Text.trim s)
  if word = "legacy-interop" ∨ word = "legacy" ∨ word = "dia" then .ok legacyInterop
  else if word = "universal-reader" ∨ word = "universal" ∨ word = "pdb" then .ok universalReader
  else .error
    ("unknown backend '" ++ word ++ "' (expected legacy-interop or universal-reader)")

/-- A backend as JSON. -/
def toJson (choice : BackendChoice) : Json := text choice.word

/-- Read a backend. -/
def ofJson? : Json → Option BackendChoice := choice? ofWord?

end BackendChoice

/-! ## §2. Restrictions. -/

/-- The categories of records that a load may merge. -/
structure Restrictions where
  dataTypes : Bool
  publicSymbols : Bool
  globalSymbols : Bool
  lineNumbers : Bool
  comments : Bool
  deriving DecidableEq, Repr

namespace Restrictions

/-- May records of the category be merged? -/
def allows (r : Restrictions) : RecordKind → Bool
  | .dataType => r.dataTypes
  | .publicSymbol => r.publicSymbols
  | .globalSymbol => r.globalSymbols
  | .lineNumber => r.lineNumbers
  | .comment => r.comments

/-- Exactly the given categories. -/
def only (kinds : List RecordKind) : Restrictions :=
  { dataTypes := kinds.contains .dataType
    publicSymbols := kinds.contains .publicSymbol
    globalSymbols := kinds.contains .globalSymbol
    lineNumbers := kinds.contains .lineNumber
    comments := kinds.contains .comment }

/-- No restriction: every category. -/
def none : Restrictions :=
  only RecordKind.all

/-- The allowed categories, in their order. -/
def toList (r : Restrictions) : List RecordKind :=
  RecordKind.all.filter r.allows

theorem only_toList (r : Restrictions) : only r.toList = r := by
  obtain ⟨a, b, c, d, e⟩ := r
  cases a <;> cases b <;> cases c <;> cases d <;> cases e <;> rfl

/-- The restriction that a word on the command line names. -/
def parse (s : String) : Except String Restrictions :=
  let word := Text.asciiLower (Text.trim s)
  if word = "none" then .ok none
  else if word = "data-types-only" then .ok (only [.dataType])
  else if word = "public-symbols-only" then .ok (only [.publicSymbol])
  else if word = "exclude-all" then .ok (only [])
  else .error
    ("unknown restriction preset '" ++ word ++
      "' (expected none, data-types-only, public-symbols-only or exclude-all)")

/-- Restrictions as JSON: the list of allowed categories. -/
def toJson (r : Restrictions) : Json := list (r.toList.map RecordKind.toJson)

/-- Read restrictions; order and repetition do not matter. -/
def ofJson? (v : Json) : Option Restrictions :=
  (list? RecordKind.ofJson? v).map only

end Restrictions

/-! ## §3. Options of the stages. -/

/-- How many units of work lie between two checkpoints unless said otherwise. -/
def defaultInterval : UInt64 := 256

/-- How records are merged. -/
structure ApplyOptions where
  restrictions : Restrictions
  checkInterval : UInt64
  deriving DecidableEq, Repr

namespace ApplyOptions

/-- Everything is merged. -/
def standard : ApplyOptions :=
  ⟨.none, defaultInterval⟩

/-- Options as JSON. -/
def toJson (o : ApplyOptions) : Json :=
  object [("restrictions", o.restrictions.toJson), ("check_interval", ofWord64 o.checkInterval)]

/-- Read options; what is left out is standard. -/
def ofJson? (v : Json) : Option ApplyOptions := do
  match ← slots? ["restrictions", "check_interval"] v with
  | [restrictions, checkInterval] =>
      return {
        restrictions := ← restrictions.defaulted .none Restrictions.ofJson?
        checkInterval := ← checkInterval.defaulted defaultInterval word64? }
  | _ => none

end ApplyOptions

/-- How a debug file is read. -/
structure ReaderOptions where
  checkInterval : UInt64
  /-- Are member lists read, or only sizes? -/
  parseMembers : Bool
  deriving DecidableEq, Repr

namespace ReaderOptions

/-- Everything is read. -/
def standard : ReaderOptions :=
  ⟨defaultInterval, true⟩

/-- Options as JSON. -/
def toJson (o : ReaderOptions) : Json :=
  object [("check_interval", ofWord64 o.checkInterval), ("parse_members", bool o.parseMembers)]

/-- Read options; what is left out is standard. -/
def ofJson? (v : Json) : Option ReaderOptions := do
  match ← slots? ["check_interval", "parse_members"] v with
  | [checkInterval, parseMembers] =>
      return {
        checkInterval := ← checkInterval.defaulted defaultInterval word64?
        parseMembers := ← parseMembers.defaulted true bool? }
  | _ => none

end ReaderOptions

/-! ## §4. Settings. -/

/-- The settings of a load. -/
structure LoadSettings where
  backend : BackendChoice
  /-- The tool of the legacy backend. -/
  dumpTool : Option String
  applying : ApplyOptions
  reading : ReaderOptions
  /-- How many milliseconds to wait for the program at most. -/
  slotTimeout : Option UInt64
  /-- Is the run recorded in the load history? -/
  recordRuns : Bool
  deriving DecidableEq, Repr

namespace LoadSettings

/-- The settings of a load about which nothing is said. -/
def standard : LoadSettings :=
  ⟨.universalReader, none, .standard, .standard, none, true⟩

/-- Settings as JSON; an absent tool or timeout is left out. -/
def toJson (s : LoadSettings) : Json :=
  object ([("backend", s.backend.toJson)]
    ++ (s.dumpTool.map fun tool => ("dump_tool", text tool)).toList
    ++ [("applicator", s.applying.toJson), ("reader", s.reading.toJson)]
    ++ (s.slotTimeout.map fun ms => ("slot_timeout_ms", ofWord64 ms)).toList
    ++ [("record_runs", bool s.recordRuns)])

/-- Read settings; what is left out is standard. -/
def ofJson? (v : Json) : Option LoadSettings := do
  match ← slots? ["backend", "dump_tool", "applicator", "reader", "slot_timeout_ms",
      "record_runs"] v with
  | [backend, dumpTool, applying, reading, slotTimeout, recordRuns] =>
      return {
        backend := ← backend.defaulted .universalReader BackendChoice.ofJson?
        dumpTool := ← dumpTool.optional text?
        applying := ← applying.defaulted .standard ApplyOptions.ofJson?
        reading := ← reading.defaulted .standard ReaderOptions.ofJson?
        slotTimeout := ← slotTimeout.optional word64?
        recordRuns := ← recordRuns.defaulted true bool? }
  | _ => none

end LoadSettings

end DebugMerge
