/-
  DebugMerge.Command.Run
  ──────────────────────
  **A whole command line, from its words to what is printed.**

  Main definitions
    • `Invocation`, `Answer`   — what a command gets and gives
    • `perform`                — what a request does
    • `run`                    — the whole command
-/
import DebugMerge.Command.Listing
import DebugMerge.Command.Load
import DebugMerge.Command.Program

namespace DebugMerge.Command

/-- Everything that a command gets. -/
structure Invocation where
  words : List String
  files : Files
  /-- The environment. -/
  environment : List (String × String)
  /-- What the operator types. -/
  input : String
  clock : Clock

/-- Everything that a command gives. -/
structure Answer where
  /-- None if the command gives no answer. -/
  status : Option Nat
  out : String
  /-- What is shown before the operator's input is read. -/
  prompt : String
  /-- What is shown after that. -/
  remarks : String
  files : Files

/-- The version of the program. -/
def version : String := "0.1.0"

/-- What a request does. -/
def perform (i : Invocation) : Request → Action Unit
  | .greeting => do
      print ("symbridge v" ++ version)
      print "Run `symbridge --help` for available commands."
  | .version => print ("symbridge " ++ version)
  | .initProgram root name choices => initProgram root name choices
  | .programInfo root asJson => programInfo root asJson
  | .setOption root category name value => setOption root category name value
  | .loadPdb root arguments => loadPdb i.environment i.input i.clock root arguments
  | .list what root asJson => showListing what root asJson
  | .listBackends asJson => listBackends i.environment asJson

/-- How the commands are called. -/
def usage : String :=
  "Usage: symbridge [OPTIONS] [COMMAND]\n\nCommands:\n"
    ++ String.join (commands.map fun command => "  " ++ command.name ++ "\n")
    ++ "\nOptions:\n  -v, --verbose  Raise log verbosity\n  -h, --help     Print help\n"
    ++ "  -V, --version  Print version\n"

/-- The status of a command that did what it was asked. -/
def succeeded : Nat := 0

/-- The status of a command that failed. -/
def failed : Nat := 1

/-- The status of a command line that asks for nothing sensible. -/
def misused : Nat := 2

/-- Run a command line. -/
def run (i : Invocation) : Answer :=
  match Request.parse i.words with
  | .error .help => ⟨succeeded, usage, "", "", i.files⟩
  | .error e => ⟨misused, "", "", "error: " ++ e.message ++ "\n\n" ++ usage, i.files⟩
  | .ok request =>
      let (result, s) := (perform i request).run.run ⟨i.files, [], "", []⟩
      let (status, failure) := match result with
        | .ok () => (some succeeded, "")
        | .error (.failed e) => (some failed, e.text)
        | .error .lost => (none, "")
      ⟨status, linesText s.out, s.prompt, linesText s.remarks ++ failure, s.files⟩

end DebugMerge.Command
