/-
  DebugMerge.Project.Layout
  ─────────────────────────
  **Where a program project keeps its files.**

  Main definitions
    • `Layout.ofRoot`            — the places below a root
    • `Layout.storedDatabase`, `.resolveDatabase` — database paths in a config
    • `resolveRoot`, `inferName` — from what is typed to a root and a name
-/
import DebugMerge.Files.Tree

namespace DebugMerge

/-- The places of a project. -/
structure Layout where
  root : String
  /-- Directory of what the project records about itself. -/
  metaDir : String
  config : String
  /-- The database, unless the config names another one. -/
  database : String
  /-- Directory of saved reports. -/
  reports : String
  deriving DecidableEq, Repr

namespace Layout

/-- The places below a root. -/
def ofRoot (root : String) : Layout :=
  let metaDir := Path.join root ".symbridge"
  { root
    metaDir
    config := Path.join metaDir "program.json"
    database := Path.join metaDir "program.db"
    reports := Path.join root "reports" }

/-- The path of the database as a new config stores it: from the root on if possible. -/
def storedDatabase (layout : Layout) : String :=
  (Path.stripBase? layout.root layout.database).getD layout.database

/-- The database that a config names. -/
def resolveDatabase (layout : Layout) (configured : String) : String :=
  Path.join layout.root configured

end Layout

/-- The root that is meant by a text: an absolute path without detours if it is there,
and a path from the working directory otherwise. -/
def resolveRoot (files : Files) (text : String) : String :=
  let home := Path.ofParts files.home
  if Path.isHere text then home
  else (files.canonical? text).getD (Path.join home text)

/-- The name of a program that is given none: that of the root's directory. -/
def inferName (root : String) : String :=
  (Path.fileName? root).getD "unnamed-program"

end DebugMerge
