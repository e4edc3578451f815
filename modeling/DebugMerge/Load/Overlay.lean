/-
  DebugMerge.Load.Overlay
  ───────────────────────
  **Where the settings of a load come from.**

  The settings of the program come first.  A settings file, in JSON if its name
  says so and in YAML otherwise, is laid over them; single choices for one load
  are laid over both.

  Main definitions
    • `SettingsError`          — why a settings file is refused
    • `readOverlay`            — the document of a settings file
    • `LoadChoices`            — choices for one load
    • `resolveSettings`        — the settings of one load
-/
import DebugMerge.Files.Tree
import DebugMerge.Json.Merge
import DebugMerge.Json.Reader
import DebugMerge.Load.Settings
import DebugMerge.Yaml.Reader

namespace DebugMerge

/-! ## §1. Settings files. -/

/-- Why a settings file is refused. -/
inductive SettingsError where
  | unreadable (path : String) (cause : IoError)
  | badJson
  | badYaml
  | notMapping (path : String)
  | invalid (path : String)
  deriving DecidableEq, Repr

/-- The explanation of an error. -/
def SettingsError.message : SettingsError → String
  | unreadable path _ => "Failed to read settings file " ++ path
  | badJson => "Failed to parse settings JSON"
  | badYaml => "Failed to parse settings YAML"
  | notMapping path => "Settings file " ++ path ++ " must contain a mapping"
  | invalid path => "Invalid load settings in " ++ path

/-- What lies behind an error, if anything does. -/
def SettingsError.cause? : SettingsError → Option String
  | unreadable _ cause => some cause.message
  | badJson | badYaml => some "not a document"
  | notMapping _ => none
  | invalid _ => some "a field has a value that it cannot have"

/-- The ending of the names of files in JSON. -/
def jsonExtension : String := "json"

/-- The document of a settings file. -/
def readOverlay (files : Files) (path : String) : Except SettingsError Json :=
  match files.readText path with
  | .error e => .error (.unreadable path e)
  | .ok text =>
      let document : Except SettingsError Json :=
        if Path.extension? path = some jsonExtension then
          match (Json.parse? text).bind (Json.generic? Json.maxDepth) with
          | some v => .ok v
          | none => .error .badJson
        else match Yaml.parse? text with
          | some v => .ok v
          | none => .error .badYaml
      match document with
      | .error e => .error e
      | .ok (.object fields) => .ok (.object fields)
      | .ok _ => .error (.notMapping path)

/-! ## §2. Choices for one load. -/

/-- Choices for one load; what is not chosen stays. -/
structure LoadChoices where
  settingsFile : Option String
  backend : Option BackendChoice
  dumpTool : Option String
  restrictions : Option Restrictions
  slotTimeout : Option UInt64
  recordRuns : Option Bool
  deriving DecidableEq, Repr

namespace LoadChoices

/-- Nothing is chosen. -/
def none : LoadChoices :=
  ⟨.none, .none, .none, .none, .none, .none⟩

/-- The settings with the single choices laid over them. -/
def onto (c : LoadChoices) (s : LoadSettings) : LoadSettings :=
  { backend := c.backend.getD s.backend
    dumpTool := c.dumpTool <|> s.dumpTool
    applying := { s.applying with restrictions := c.restrictions.getD s.applying.restrictions }
    reading := s.reading
    slotTimeout := c.slotTimeout <|> s.slotTimeout
    recordRuns := c.recordRuns.getD s.recordRuns }

end LoadChoices

/-- The settings with the document of a settings file laid over them. -/
def overlaySettings (path : String) (overlay : Json) (base : LoadSettings) :
    Except SettingsError LoadSettings :=
  match LoadSettings.ofJson? (base.toJson.merge overlay) with
  | some settings => .ok settings
  | none => .error (.invalid path)

/-- The settings of one load. -/
def resolveSettings (files : Files) (base : LoadSettings) (choices : LoadChoices) :
    Except SettingsError LoadSettings := do
  let settings ← match choices.settingsFile with
    | some path => do overlaySettings path (← readOverlay files path) base
    | none => pure base
  return choices.onto settings

end DebugMerge
