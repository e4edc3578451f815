/-
  DebugMerge.Load.Error
  ─────────────────────
  **Why reading or merging a debug file fails.**

  Main definitions
    • `IoError`     — what the file system refuses
    • `LoadError`   — the causes of a failed load
-/
import DebugMerge.Store.Database

namespace DebugMerge

/-- What the file system refuses. -/
inductive IoError where
  | notFound
  | permissionDenied
  | execFormat
  | notDirectory
  | isDirectory
  | alreadyExists
  | invalidText
  /-- A failure with a text of its own. -/
  | other (text : String)
  deriving DecidableEq, Repr

/-- The explanation of a refusal. -/
def IoError.message : IoError → String
  | notFound => "No such file or directory (os error 2)"
  | permissionDenied => "Permission denied (os error 13)"
  | execFormat => "Exec format error (os error 8)"
  | notDirectory => "Not a directory (os error 20)"
  | isDirectory => "Is a directory (os error 21)"
  | alreadyExists => "File exists (os error 17)"
  | invalidText => "stream did not contain valid UTF-8"
  | other text => text

/-- Why reading or merging a debug file fails. -/
inductive LoadError where
  | missingFile (path : String)
  | io (path : String) (cause : IoError)
  | malformed (detail : String)
  | typeConflict (name : String)
  | cancelled
  | toolUnavailable (detail : String)
  | store (cause : StoreError)
  /-- Never an answer: the reading of the file goes on forever. -/
  | endless
  deriving DecidableEq, Repr

namespace LoadError

/-- The explanation of a failure; what goes on forever has none. -/
def message : LoadError → String
  | missingFile path => "Debug file not found at " ++ path
  | io path cause => "Failed to read " ++ path ++ ": " ++ cause.message
  | malformed detail => "Malformed debug file: " ++ detail
  | typeConflict name => "Data type '" ++ name ++ "' conflicts with an existing definition"
  | cancelled => "Cancelled"
  | toolUnavailable detail => "Debug info tool unavailable: " ++ detail
  | store cause => cause.message
  | endless => ""

/-- Could the file not be read at all? -/
def isIo : LoadError → Bool
  | missingFile _ | io _ _ => true
  | _ => false

end LoadError

end DebugMerge
