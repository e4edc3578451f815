/-
  DebugMerge.Diagnostics
  ──────────────────────
  **The messages of a run.**

  A log collects messages in the order in which they arise; none is ever
  removed.  Its text has one line per message.

  Main definitions
    • `Log`, `Log.text`
-/

namespace DebugMerge

/-- The messages of a run, oldest first. -/
abbrev Log := List String

namespace Log

/-- The text of a log: every message followed by a new line. -/
def text (log : Log) : String :=
  String.join (log.map (· ++ "\n"))

/-- Has anything been logged? -/
def hasMessages (log : Log) : Bool :=
  !log.isEmpty

end Log

end DebugMerge
