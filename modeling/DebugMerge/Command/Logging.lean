/-
  DebugMerge.Command.Logging
  ──────────────────────────
  **How much is logged, and in what form.**

  Main definitions
    • `LogFormat.parse`, `LogLevel.ofVerbosity`
-/
import DebugMerge.Text.Blank
import DebugMerge.Text.LowerCase

namespace DebugMerge.Command

/-- The form of log lines. -/
inductive LogFormat where
  | pretty
  | json
  deriving DecidableEq, Repr

/-- The form that a word names, in any case. -/
def LogFormat.parse (s : String) : Except String LogFormat :=
  let word := Text.lowerCase (Text.trim s)
  if word = "pretty" ∨ word = "text" then .ok pretty
  else if word = "json" then .ok json
  else .error ("Unknown log format: " ++ s ++ ". Use 'pretty' or 'json'")

/-- The least level that is logged. -/
inductive LogLevel where
  | warn
  | info
  | debug
  | trace
  deriving DecidableEq, Repr

/-- The word for a level. -/
def LogLevel.word : LogLevel → String
  | warn => "WARN"
  | info => "INFO"
  | debug => "DEBUG"
  | trace => "TRACE"

/-- The level for a number of requests to say more. -/
def LogLevel.ofVerbosity : Nat → LogLevel
  | 0 => warn
  | 1 => info
  | 2 => debug
  | _ => trace

end DebugMerge.Command
