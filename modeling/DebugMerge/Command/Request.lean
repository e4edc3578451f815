/-
  DebugMerge.Command.Request
  ──────────────────────────
  **What a command line asks for.**

  Main definitions
    • `InitChoices`, `LoadArguments`, `Request`   — requests
    • `Request.parse`                             — from words to a request
-/
import DebugMerge.Command.Options
import DebugMerge.Load.Overlay
import DebugMerge.Program.Info
import DebugMerge.Program.Memory

namespace DebugMerge

/-! ## §1. Requests. -/

/-- The attributes of a new program that the command line gives. -/
structure InitChoices where
  executable : Option String
  imageBase : Option UInt64
  blocks : List MemoryBlock
  guid : Option String
  signature : Option UInt32
  age : Option UInt32
  file : Option String
  deriving DecidableEq, Repr

/-- The arguments of a load. -/
structure LoadArguments where
  file : String
  choices : LoadChoices
  /-- The answer to the question about another build; without one the operator is asked. -/
  confirm : Option Bool
  skipHash : Bool
  asJson : Bool
  deriving DecidableEq, Repr

/-- What is listed. -/
inductive Listing where
  | types
  | symbols
  | runs
  deriving DecidableEq, Repr

/-- What a command line asks for. -/
inductive Request where
  /-- Nothing. -/
  | greeting
  | version
  | initProgram (root : String) (name : Option String) (choices : InitChoices)
  | programInfo (root : String) (asJson : Bool)
  | setOption (root category name value : String)
  | loadPdb (root : String) (arguments : LoadArguments)
  | list (what : Listing) (root : String) (asJson : Bool)
  | listBackends (asJson : Bool)
  deriving DecidableEq, Repr

/-! ## §2. Values. -/

/-- A path, which is not empty. -/
def path? (s : String) : Option String :=
  if s.isEmpty then none else some s

/-- A number of 32 bits; a minus sign may stand before zero. -/
def number32? (s : String) : Option UInt32 :=
  match s.toList with
  | '-' :: digits =>
      match Text.parseDigits 10 1 0 digits with
      | .ok n => if digits.isEmpty then none else some (UInt32.ofNat n)
      | .error _ => none
  | cs => (Text.parse 10 Text.limit32 cs).toOption.map UInt32.ofNat

/-- A number of 64 bits. -/
def number64? (s : String) : Option UInt64 :=
  (Text.parse 10 Text.limit64 s.toList).toOption.map UInt64.ofNat

/-- A signature, spelled like an address. -/
def signature? (s : String) : Option UInt32 := do
  let n ← (parseAddress s).toOption
  if n.toNat < Text.limit32 then some n.toUInt32 else none

/-! ## §3. Commands. -/

/-- The option that names the root. -/
def rootOption : OptionSpec := ⟨"root", .single⟩

/-- The switch that asks for JSON. -/
def jsonOption : OptionSpec := ⟨"json", .switch⟩

/-- The root that is meant if none is given. -/
def defaultRoot : String := "."

/-- The root that is given. -/
def Given.root (given : Given) : String :=
  (given.value? "root").getD defaultRoot

/-- Options with one value each. -/
def singles (names : List String) : List OptionSpec :=
  names.map fun name => ⟨name, .single⟩

/-- Options without values. -/
def switches (names : List String) : List OptionSpec :=
  names.map fun name => ⟨name, .switch⟩

/-- A command: its name, its options, and what it asks for. -/
structure CommandSpec where
  name : String
  options : List OptionSpec
  build : Given → Except UsageError Request

/-- The commands. -/
def commands : List CommandSpec :=
  [{ name := "init-program"
     options := rootOption :: singles ["name", "exe", "image-base", "pdb-guid", "pdb-signature",
       "pdb-age", "pdb-file"] ++ [⟨"block", .repeatable⟩]
     build := fun given => do
       let choices : InitChoices := {
         executable := ← given.read "exe" path?
         imageBase := ← given.read "image-base" fun s => (parseAddress s).toOption
         blocks := ← given.readAll "block" fun s => (parseBlock s).toOption
         guid := given.value? "pdb-guid"
         signature := ← given.read "pdb-signature" signature?
         age := ← given.read "pdb-age" number32?
         file := given.value? "pdb-file" }
       return .initProgram given.root (given.value? "name") choices },
   { name := "program-info"
     options := [rootOption, jsonOption]
     build := fun given => return .programInfo given.root (given.has "json") },
   { name := "set-option"
     options := rootOption :: singles ["category", "name", "value"]
     build := fun given => do
       let category ← given.required "category"
       let name ← given.required "name"
       let value ← given.required "value"
       return .setOption given.root category name value },
   { name := "load-pdb"
     options := rootOption :: jsonOption :: singles ["pdb", "backend", "dump-tool",
       "restrictions", "settings", "slot-timeout-ms"]
       ++ switches ["yes", "no", "no-record", "skip-hash"]
     build := fun given => do
       let some file ← given.read "pdb" path? | throw (.missingOption "pdb")
       let choices : LoadChoices := {
         settingsFile := ← given.read "settings" path?
         backend := ← given.read "backend" fun s => (BackendChoice.parse s).toOption
         dumpTool := ← given.read "dump-tool" path?
         restrictions := ← given.read "restrictions" fun s => (Restrictions.parse s).toOption
         slotTimeout := ← given.read "slot-timeout-ms" number64?
         recordRuns := if given.has "no-record" then some false else none }
       if given.has "yes" ∧ given.has "no" then throw (.conflict "yes" "no")
       let confirm := if given.has "yes" then some true
         else if given.has "no" then some false else none
       return .loadPdb given.root
         ⟨file, choices, confirm, given.has "skip-hash", given.has "json"⟩ },
   listCommand "list-types" .types,
   listCommand "list-symbols" .symbols,
   listCommand "list-runs" .runs,
   { name := "list-backends"
     options := [jsonOption]
     build := fun given => return .listBackends (given.has "json") }]
where
  /-- A command that lists something. -/
  listCommand (name : String) (what : Listing) : CommandSpec :=
    { name
      options := [rootOption, jsonOption]
      build := fun given => return .list what given.root (given.has "json") }

namespace Request

/-- Read the words behind the name of a command. -/
def parseCommand (name : String) (words : List String) : Except UsageError Request :=
  if name = "help" then .error .help
  else match commands.find? fun command => command.name = name with
    | none => .error (.unknownWord name)
    | some command => do
        let given ← readOptions command.options words
        checkRepeats command.options given
        command.build given

/-- Read a command line. -/
def parse : List String → Except UsageError Request
  | [] => .ok .greeting
  | word :: rest =>
      if word = "--version" then .ok .version
      else if word = "--verbose" then parse rest
      else match word.toList with
        | '-' :: c :: letters =>
            if c = '-' then
              if letters.isEmpty ∧ rest.isEmpty then .ok .greeting
              else if word = "--help" then .error .help
              else .error (.unknownWord word)
            else if (c :: letters).all (· = 'v') then parse rest
            else match (c :: letters).dropWhile (· = 'v') with
              | 'V' :: _ => .ok .version
              | 'h' :: _ => .error .help
              | _ => .error (.unknownWord word)
        | _ => parseCommand word rest

end Request

end DebugMerge
