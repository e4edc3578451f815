/-
  DebugMerge.Project.Config
  ─────────────────────────
  **The configuration file of a project.**

  Main definitions
    • `ProgramConfig`                   — the configuration
    • `loadConfig`, `saveConfig`        — reading and writing the file
    • `ProjectError`                    — what can go wrong
-/
import DebugMerge.Json.Reader
import DebugMerge.Json.Writer
import DebugMerge.Load.Settings
import DebugMerge.Project.Layout

namespace DebugMerge

open Json

/-! ## §1. Configurations. -/

/-- The configuration of a project. -/
structure ProgramConfig where
  name : String
  description : Option String
  /-- The version of the file's format. -/
  formatVersion : String
  /-- Path of the database, usually from the root on. -/
  database : String
  /-- The settings of loads. -/
  load : LoadSettings
  deriving DecidableEq, Repr

namespace ProgramConfig

/-- The version of the format of new configurations. -/
def currentFormat : String := "0.1.0"

/-- A new configuration. -/
def new (name database : String) : ProgramConfig :=
  ⟨name, none, currentFormat, database, .standard⟩

/-- A configuration as JSON. -/
def toJson (c : ProgramConfig) : Json :=
  object [("name", text c.name), ("description", ofOption text c.description),
    ("config_version", text c.formatVersion), ("db", object [("path", text c.database)]),
    ("load", c.load.toJson)]

/-- Read the part about the database. -/
def databaseOf? (v : Json) : Option String := do
  match ← slots? ["path"] v with
  | [path] => path.required text?
  | _ => none

/-- Read a configuration; what is left out of the settings is standard. -/
def ofJson? (v : Json) : Option ProgramConfig := do
  match ← slots? ["name", "description", "config_version", "db", "load"] v with
  | [name, description, formatVersion, database, load] =>
      return {
        name := ← name.required text?
        description := ← description.nullable text?
        formatVersion := ← formatVersion.required text?
        database := ← database.required databaseOf?
        load := ← load.defaulted .standard LoadSettings.ofJson? }
  | _ => none

/-- The text of the file that holds a configuration. -/
def fileText (c : ProgramConfig) : String :=
  c.toJson.pretty

/-- Read the text of the file. -/
def parse? (s : String) : Option ProgramConfig :=
  (Json.parse? s).bind ofJson?

end ProgramConfig

/-! ## §2. Files. -/

/-- Why a project cannot be opened or saved. -/
inductive ProjectError where
  | unreadableConfig (path : String) (cause : IoError)
  | badConfig
  | unwritableConfig (path : String) (cause : IoError)
  | database (path : String) (cause : StoreError)
  deriving DecidableEq, Repr

namespace ProjectError

/-- The explanation of an error. -/
def message : ProjectError → String
  | unreadableConfig path _ => "Failed to read project config at " ++ path
  | badConfig => "Failed to parse project config JSON"
  | unwritableConfig path _ => "Failed to write project config: " ++ path
  | database path _ => "Failed to open program database at " ++ path

/-- What lies behind an error. -/
def cause : ProjectError → String
  | unreadableConfig _ cause => cause.message
  | badConfig => "not a configuration"
  | unwritableConfig _ cause => cause.message
  | database _ cause => cause.message

end ProjectError

/-- Read the configuration of a project. -/
def loadConfig (files : Files) (layout : Layout) : Except ProjectError ProgramConfig :=
  match files.readText layout.config with
  | .error e => .error (.unreadableConfig layout.config e)
  | .ok content =>
      match ProgramConfig.parse? content with
      | some config => .ok config
      | none => .error .badConfig

/-- Write the configuration of a project. -/
def saveConfig (files : Files) (layout : Layout) (config : ProgramConfig) :
    Except ProjectError Files :=
  match files.write layout.config (Text.Utf8.encode config.fileText).toList with
  | .ok files => .ok files
  | .error e => .error (.unwritableConfig layout.config e)

end DebugMerge
