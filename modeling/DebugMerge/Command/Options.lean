/-
  DebugMerge.Command.Options
  ──────────────────────────
  **Words of a command line read as options.**

  An option is spelled with two hyphens; its value stands behind an equals sign
  or is the next word, which then must not look like an option.  A switch has
  no value.  Except for repeatable options, each may be given once.  There are
  no words that are not options.

  Main definitions
    • `OptionShape`, `OptionSpec`      — what options there are
    • `Given`                          — the options that were given
    • `readOptions`                    — from words to options
-/
import DebugMerge.Text.Blank

namespace DebugMerge

/-! ## §1. Options. -/

/-- What an option looks like. -/
inductive OptionShape where
  | switch
  | single
  | repeatable
  deriving DecidableEq, Repr

/-- An option. -/
structure OptionSpec where
  name : String
  shape : OptionShape
  deriving DecidableEq, Repr

/-- Why a command line is refused, or that help was asked for. -/
inductive UsageError where
  | help
  | unknownWord (word : String)
  | missingValue (option : String)
  | unexpectedValue (option : String)
  | givenTwice (option : String)
  | missingOption (option : String)
  | badValue (option value : String)
  | conflict (option other : String)
  deriving DecidableEq, Repr

/-- The explanation of an error. -/
def UsageError.message : UsageError → String
  | help => ""
  | unknownWord word => "unexpected argument '" ++ word ++ "' found"
  | missingValue option => "a value is required for '--" ++ option ++ "' but none was supplied"
  | unexpectedValue option => "unexpected value for '--" ++ option ++ "' found"
  | givenTwice option => "the argument '--" ++ option ++ "' cannot be used multiple times"
  | missingOption option => "the required argument '--" ++ option ++ "' was not provided"
  | badValue option value => "invalid value '" ++ value ++ "' for '--" ++ option ++ "'"
  | conflict option other =>
      "the argument '--" ++ option ++ "' cannot be used with '--" ++ other ++ "'"

/-- Options with their values, in order; a switch has the empty value. -/
abbrev Given := List (String × String)

/-- Is the option given? -/
def Given.has (given : Given) (name : String) : Bool :=
  given.any fun g => g.1 = name

/-- The first value of an option. -/
def Given.value? (given : Given) (name : String) : Option String :=
  (given.find? fun g => g.1 = name).map (·.2)

/-- Every value of an option. -/
def Given.values (given : Given) (name : String) : List String :=
  (given.filter fun g => g.1 = name).map (·.2)

/-! ## §2. Words. -/

/-- Does the word look like an option? -/
def looksLikeOption (word : String) : Bool :=
  Text.startsWith "-" word && word ≠ "-"

/-- The options in a word of single letters behind one hyphen: `v` raises the
verbosity, and `h` asks for help. -/
def readLetters (word : String) : List Char → Except UsageError Given
  | [] => .ok []
  | 'v' :: rest => (readLetters word rest).map (("verbose", "") :: ·)
  | 'h' :: _ => .error .help
  | _ => .error (.unknownWord word)

/-- The name in a word with two hyphens, and the value behind an equals sign. -/
def splitWord (cs : List Char) : String × Option String :=
  match Text.splitOnce? '=' cs with
  | some (name, value) => (String.ofList name, some (String.ofList value))
  | none => (String.ofList cs, none)

/-- Read words as options. -/
def readOptions (specs : List OptionSpec) : List String → Except UsageError Given
  | [] => .ok []
  | word :: rest =>
      match Text.dropPrefix? ['-', '-'] word.toList with
      | some [] =>
          match rest with
          | [] => .ok []
          | extra :: _ => .error (.unknownWord extra)
      | some cs =>
          let (name, value) := splitWord cs
          if name = "help" ∧ value.isNone then .error .help
          else if name = "verbose" ∧ value.isNone then
            (readOptions specs rest).map ((name, "") :: ·)
          else match specs.find? fun spec => spec.name = name with
            | none => .error (.unknownWord word)
            | some ⟨_, .switch⟩ =>
                if value.isSome then .error (.unexpectedValue name)
                else (readOptions specs rest).map ((name, "") :: ·)
            | some _ =>
                match value with
                | some v => (readOptions specs rest).map ((name, v) :: ·)
                | none =>
                    match rest with
                    | [] => .error (.missingValue name)
                    | v :: rest =>
                        if looksLikeOption v then .error (.missingValue name)
                        else (readOptions specs rest).map ((name, v) :: ·)
      | none =>
          if looksLikeOption word then do
            let letters ← readLetters word (word.toList.drop 1)
            let more ← readOptions specs rest
            return letters ++ more
          else .error (.unknownWord word)

/-- Refuse options that are given more often than they may be. -/
def checkRepeats (specs : List OptionSpec) (given : Given) : Except UsageError Unit :=
  match specs.find? fun spec =>
      spec.shape ≠ .repeatable ∧ 1 < (given.values spec.name).length with
  | some spec => .error (.givenTwice spec.name)
  | none => .ok ()

/-! ## §3. Values. -/

/-- The value of an option that must be given. -/
def Given.required (given : Given) (name : String) : Except UsageError String :=
  match given.value? name with
  | some v => .ok v
  | none => .error (.missingOption name)

/-- The value of an option, read; a value that cannot be read is refused. -/
def Given.read {α : Type} (given : Given) (name : String) (read : String → Option α) :
    Except UsageError (Option α) :=
  match given.value? name with
  | none => .ok none
  | some v =>
      match read v with
      | some a => .ok (some a)
      | none => .error (.badValue name v)

/-- Every value of an option, read. -/
def Given.readAll {α : Type} (given : Given) (name : String) (read : String → Option α) :
    Except UsageError (List α) :=
  (given.values name).mapM fun v =>
    match read v with
    | some a => .ok a
    | none => .error (.badValue name v)

end DebugMerge
