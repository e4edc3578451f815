/-
  DebugMerge.Main
  ───────────────
  **The program on real files.**

  The files that a command may touch are fetched, the command is run on them,
  and what it changed is written back.  A command that asks is run up to its
  question first; it is run again with the answer.

  Main definitions
    • `fetch`     — files into memory
    • `deliver`   — changes onto the disk
    • `main`
-/
import DebugMerge.Command.Reach
import DebugMerge.Command.Run
import DebugMerge.Store.Archive
import Std.Time.DateTime

namespace DebugMerge.Command

/-! ## §1. Files. -/

/-- Fetch what is at a place. -/
def fetchPlace (files : Files) (place : List String) : IO Files := do
  if (files.entryAt place).isSome then
    return files
  let path := (← IO.currentDir) / Path.ofParts place
  if ← path.isDir then
    return files.put place .directory
  if ← path.pathExists then
    match ← (IO.FS.readBinFile path).toBaseIO with
    | .ok content => return files.put place (Archive.entry content.toList)
    | .error _ => return files
  return files

/-- Fetch what is at a path, the directories that lead to it first. -/
def fetchPath (files : Files) (path : String) : IO Files := do
  let start := if Path.isAbsolute path then [] else files.home
  let (files, _) ← (Path.parts path).foldlM (fun (files, place) name => do
    let place := if name = "." then place else if name = ".." then place.dropLast
      else place ++ [name]
    return (← fetchPlace files place, place)) (files, start)
  return files

/-- Fetch what lies in a directory. -/
def fetchDirectory (files : Files) (path : String) : IO Files := do
  if ¬ files.isDirectory path then
    return files
  let listed ← ((← IO.currentDir) / path).readDir.toBaseIO
  let names := match listed with
    | .ok entries => entries.toList.map IO.FS.DirEntry.fileName
    | .error _ => []
  names.foldlM (fun files name => fetchPath files (Path.join path name)) files

/-- Fetch the files that a command may touch. -/
def fetch (words : List String) (environment : List (String × String)) : IO Files := do
  let home := Path.parts (← IO.currentDir).toString
  let roots := "." :: wordPaths words
  let files ← (firstPaths words environment).foldlM fetchPath ⟨home, []⟩
  let files ← (roots.map fun root => (Layout.ofRoot root).reports).foldlM fetchDirectory files
  let further := files.entries.flatMap fun (_, entry) => furtherPaths roots entry
  further.foldlM fetchPath files

/-- Write an entry. -/
def deliver (place : List String) (entry : Entry) : IO Unit := do
  let path := (← IO.currentDir) / Path.ofParts place
  match entry with
  | .directory => IO.FS.createDirAll path
  | .file bytes _ => IO.FS.writeBinFile path ⟨bytes.toArray⟩
  | .database db => IO.FS.writeBinFile path ⟨(Archive.bytes db).toArray⟩

/-! ## §2. Time. -/

/-- A number with at least the given count of digits. -/
def padded (width n : Nat) : String :=
  let digits := Text.decimal n
  String.ofList (List.replicate (width - digits.length) '0') ++ digits

/-- The present as the time of a run and in the names of reports. -/
def moment : IO (String × String) := do
  let now := Std.Time.DateTime.ofTimestampWithZone (← Std.Time.Timestamp.now) .UTC
  let date := [padded 4 now.year.toInt.toNat, padded 2 now.month.toNat, padded 2 now.day.toNat]
  let time := [padded 2 now.hour.toNat, padded 2 now.minute.toNat, padded 2 now.second.toNat]
  let nanos := now.nanosecond.toNat
  return (String.intercalate "-" date ++ "T" ++ String.intercalate ":" time ++ "." ++ padded 9 nanos
      ++ "+00:00",
    String.join date ++ "T" ++ String.join time ++ "." ++ padded 3 (nanos / 1000000) ++ "Z")

/-! ## §3. The program. -/

/-- Run the command line on the disk. -/
def runOnDisk (words : List String) : IO UInt32 := do
  let environment ← variableNames.filterMapM fun name => do
    return (← IO.getEnv name).map fun value => (name, value)
  let files ← fetch words environment
  let (startedAt, stamp) ← moment
  let invocation : Invocation := ⟨words, files, environment, "", ⟨startedAt, startedAt, stamp⟩⟩
  let stdout ← IO.getStdout
  let stderr ← IO.getStderr
  let asked := run invocation
  stderr.putStr asked.prompt
  stderr.flush
  let answer ← if asked.prompt.isEmpty then pure asked else do
    let input ← (← IO.getStdin).getLine
    pure (run { invocation with input })
  (changes files answer.files).forM fun (place, entry) => deliver place entry
  stdout.putStr answer.out
  stderr.putStr answer.remarks
  return UInt32.ofNat (answer.status.getD failed)

end DebugMerge.Command

def main (words : List String) : IO UInt32 :=
  DebugMerge.Command.runOnDisk words
