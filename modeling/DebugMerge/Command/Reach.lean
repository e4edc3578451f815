/-
  DebugMerge.Command.Reach
  ────────────────────────
  **Which files a command line may touch.**

  A command works on files that are in memory, so they have to be fetched
  beforehand.  What is fetched is generous: every path that the command line
  and the environment spell, the project that lies at such a path, and the
  paths that configurations, settings and scripts among these files spell.

  Main definitions
    • `spelled`         — the words of a text that may be paths
    • `projectPaths`    — the files of a project
    • `Files.changes`   — what a command changed
-/
import DebugMerge.Project.Layout
import DebugMerge.Dump.Tool

namespace DebugMerge.Command

/-! ## §1. Paths. -/

/-- Does the character stand between the words of a text? -/
def isBreak (c : Char) : Bool :=
  Text.isBlank c || [Char.ofNat 39, '"', '=', ':', ',', ';', '<', '>', '|', '(', ')'].contains c

/-- Split a text before every break; the pieces are built from the end. -/
def pieces : List Char → List (List Char)
  | [] => [[]]
  | c :: rest =>
      match pieces rest with
      | [] => [[]]
      | piece :: more => if isBreak c then [] :: piece :: more else (c :: piece) :: more

/-- The words of a text that may be paths. -/
def spelled (text : String) : List String :=
  ((pieces text.toList).filter (!·.isEmpty)).map String.ofList

/-- The paths that a command line spells: its words, and what follows an equals sign. -/
def wordPaths (words : List String) : List String :=
  words ++ words.flatMap spelled

/-- The files of the project that may lie at a path. -/
def projectPaths (root : String) : List String :=
  let layout := Layout.ofRoot root
  [root, layout.metaDir, layout.config, layout.database, layout.reports]

/-- The variables that a command reads. -/
def variableNames : List String := [toolVariable, documentVariable]

/-- The paths with which fetching starts. -/
def firstPaths (words : List String) (environment : List (String × String)) : List String :=
  ("." :: wordPaths words ++ environment.map (·.2)).flatMap projectPaths

/-- The paths that a fetched file spells, if it is a text: as they are, and from the
given roots. -/
def furtherPaths (roots : List String) : Entry → List String
  | .file bytes _ =>
      match Text.Utf8.decode? ⟨bytes.toArray⟩ with
      | some text => (spelled text).flatMap fun p => p :: roots.map fun root => Path.join root p
      | none => []
  | _ => []

/-! ## §2. Changes. -/

/-- The entries that are new or not what they were. -/
def changes (before after : Files) : List (List String × Entry) :=
  after.entries.filter fun (place, entry) => before.entryAt place != some entry

end DebugMerge.Command
