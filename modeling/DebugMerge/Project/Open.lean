/-
  DebugMerge.Project.Open
  ───────────────────────
  **Opening a project: its configuration and its program.**

  Main definitions
    • `Project`, `openProject`
-/
import DebugMerge.Project.Config
import DebugMerge.Slot

namespace DebugMerge

/-- An open project. -/
structure Project where
  layout : Layout
  config : ProgramConfig
  /-- The path of the database. -/
  database : String
  program : Program
  deriving DecidableEq, Repr

/-- Open the project below a root.  Its database is brought up to date. -/
def openProject (files : Files) (root : String) : Except ProjectError (Files × Project) :=
  let layout := Layout.ofRoot root
  match loadConfig files layout with
  | .error e => .error e
  | .ok config =>
      let path := layout.resolveDatabase config.database
      match files.openDatabase path with
      | .error e => .error (.database path e)
      | .ok (files, db) => .ok (files, ⟨layout, config, path, .ofDatabase config.name db⟩)

/-- Store the database of a project. -/
def Project.save (project : Project) (files : Files) : Files :=
  files.saveDatabase project.database project.program.db

end DebugMerge
