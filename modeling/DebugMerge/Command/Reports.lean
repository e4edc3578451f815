/-
  DebugMerge.Command.Reports
  ──────────────────────────
  **Reports: shown to the operator and saved.**

  A report is saved under the first free name: that of its time stamp, and then
  that name with the numbers from one on.  The numbers are counted in 32 bits
  with a sign, and what a count beyond the largest one does is up to the build.

  Main definitions
    • `reportText`, `reportLines`   — a report saved and shown
    • `Overflow`                    — counting beyond the largest number
    • `Files.freeFrom`, `freePath`  — the first free one of numbered paths
    • `saveReport`, `showReport`    — saving and showing
-/
import DebugMerge.Command.Session
import DebugMerge.Load.Run

namespace DebugMerge

/-! ## §1. Counting. -/

/-- What a build does when it counts beyond the largest number. -/
inductive Overflow where
  /-- It breaks down, as builds for testing do. -/
  | breaks
  /-- It goes on with the smallest number, as released builds do. -/
  | wraps
  deriving DecidableEq, Repr

/-- The number behind `n`, if the build survives the count. -/
def Overflow.next? : Overflow → Int32 → Option Int32
  | breaks, n => if n = Int32.maxValue then none else some (n + 1)
  | wraps, n => some (n + 1)

/-- The path of a report with a number. -/
def numberedPath (directory stem : String) (n : Int32) : String :=
  Path.join directory (stem ++ "-" ++ Text.signed n.toInt ++ ".log")

/-- The first free path: the given one, or one of the numbered ones from `n` on.  There is no
answer if the count breaks down on the way, and none if all of them are taken and it never ends. -/
def Files.freeFrom (files : Files) (overflow : Overflow) (directory stem path : String)
    (n : Int32) : Option String := do
  if files.exists path then
    let next ← overflow.next? n
    files |>.freeFrom overflow directory stem (numberedPath directory stem n) next
  else return path
partial_fixpoint

namespace Command

/-- The first free path for a report. -/
def freePath (overflow : Overflow) (files : Files) (directory stem : String) : Option String :=
  files.freeFrom overflow directory stem (Path.join directory (stem ++ ".log")) 1

/-! ## §2. Texts. -/

/-- The text of the file in which a report is saved. -/
def reportText (r : Report) : String :=
  r.title ++ "\n" ++ r.summary ++ "\n\n" ++ r.fullLog ++ "\n"

/-- The lines that show a report. -/
def reportLines (r : Report) : List String :=
  ["== " ++ r.title ++ " ==", r.summary] ++ (if r.fullLog.isEmpty then [] else [r.fullLog])

/-! ## §3. Showing and saving. -/

/-- How saving a report ends. -/
inductive SaveEnding where
  | saved (path : String)
  /-- The directory or the file could not be made. -/
  | unsaved
  /-- Never: no free path was found. -/
  | lost
  deriving DecidableEq, Repr

/-- The files with a saved report, and how saving it ended. -/
def saveReport (overflow : Overflow) (files : Files) (directory stem : String) (r : Report) :
    Files × SaveEnding :=
  match files.makeDirectories directory with
  | .error _ => (files, .unsaved)
  | .ok made =>
      match freePath overflow made directory stem with
      | none => (made, .lost)
      | some path =>
          match made.write path (Text.Utf8.encode (reportText r)).toList with
          | .error _ => (made, .unsaved)
          | .ok written => (written, .saved path)

/-- Show a report and save it; one that cannot be saved is only shown. -/
def showReport (overflow : Overflow) (directory stem : String) (r : Report) : Action Unit := do
  (reportLines r).forM warn
  let (files, ending) := saveReport overflow (← get).files directory stem r
  modify fun s => { s with files }
  match ending with
  | .saved path => warn ("Report saved to " ++ path)
  | .unsaved => pure ()
  | .lost => throw .lost

end Command

end DebugMerge
