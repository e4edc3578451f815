/-
  DebugMerge.Dump.Script
  ──────────────────────
  **Small shell scripts.**

  A dump tool may be a shell script.  The scripts that are understood choose
  among lists of commands by their first argument and run commands that print.
  A script answers what it printed and its status.

  Main definitions
    • `Part`, `Token`, `tokens?`     — the words of a script
    • `Command`, `commands?`         — its commands
    • `Outcome`, `runScript`         — what it does
-/
import DebugMerge.Files.Tree
import DebugMerge.Text.Numeral

namespace DebugMerge.Script

/-! ## §1. Words. -/

/-- A part of a word: a text, or one of the script's arguments. -/
inductive Part where
  | text (s : String)
  | argument (n : Nat)
  deriving DecidableEq

/-- What a script is made of. -/
inductive Token where
  | word (parts : List Part)
  /-- The end of a command: a new line or a semicolon. -/
  | stop
  /-- The end of a list in a choice. -/
  | stopList
  /-- The end of a pattern. -/
  | close
  /-- Print as an error. -/
  | toErrors
  deriving DecidableEq

/-- The apostrophe. -/
def apostrophe : Char := Char.ofNat 39

/-- The parts between double quotes, and what follows them. -/
def quotedParts : List Char → Option (List Part × List Char)
  | [] => none
  | '"' :: rest => some ([], rest)
  | '\\' :: c :: rest => do
      let (parts, rest) ← quotedParts rest
      let text := if c = '"' ∨ c = '\\' ∨ c = '$' then String.ofList [c] else String.ofList ['\\', c]
      return (.text text :: parts, rest)
  | '$' :: c :: rest => do
      let (parts, rest) ← quotedParts rest
      return ((if c.isDigit then .argument (c.toNat - 48) else .text (String.ofList ['$', c])) :: parts,
        rest)
  | c :: rest => do
      let (parts, rest) ← quotedParts rest
      return (.text (String.ofList [c]) :: parts, rest)

/-- Does the character end a word? -/
def endsWord (c : Char) : Bool :=
  c == ' ' || c == '\t' || c == '\n' || c == ';' || c == ')' || c == '>'

/-- The parts of a word, and what follows it.  Every part takes characters, so
`steps` may be their number. -/
def wordParts : Nat → List Char → Option (List Part × List Char)
  | 0, cs => some ([], cs)
  | _ + 1, [] => some ([], [])
  | steps + 1, c :: rest =>
      if endsWord c then some ([], c :: rest)
      else if c = apostrophe then do
        let text := rest.takeWhile (· ≠ apostrophe)
        let rest ← match rest.dropWhile (· ≠ apostrophe) with
          | [] => none
          | _ :: rest => some rest
        let (parts, rest) ← wordParts steps rest
        return (.text (String.ofList text) :: parts, rest)
      else if c = '"' then do
        let (inner, rest) ← quotedParts rest
        let (parts, rest) ← wordParts steps rest
        return (.text "" :: inner ++ parts, rest)
      else match c, rest with
        | '$', d :: rest =>
            if d.isDigit then do
              let (parts, rest) ← wordParts steps rest
              return (.argument (d.toNat - 48) :: parts, rest)
            else none
        | '\\', d :: rest => do
            let (parts, rest) ← wordParts steps rest
            return (.text (String.ofList [d]) :: parts, rest)
        | _, _ => do
            let (parts, rest) ← wordParts steps rest
            return (.text (String.ofList [c]) :: parts, rest)

/-- The tokens of a script.  Every token takes characters, so `steps` may be their number. -/
def tokens? : Nat → List Char → Option (List Token)
  | 0, _ => some []
  | _ + 1, [] => some []
  | steps + 1, c :: rest =>
      match c, rest with
      | ' ', _ | '\t', _ => tokens? steps rest
      | '\n', _ => (tokens? steps rest).map (.stop :: ·)
      | ';', ';' :: rest => (tokens? steps rest).map (.stopList :: ·)
      | ';', _ => (tokens? steps rest).map (.stop :: ·)
      | ')', _ => (tokens? steps rest).map (.close :: ·)
      | '>', '&' :: '2' :: rest => (tokens? steps rest).map (.toErrors :: ·)
      | '>', _ => none
      | '#', _ => tokens? steps (rest.dropWhile (· ≠ '\n'))
      | _, _ => do
          let (parts, rest) ← wordParts (rest.length + 1) (c :: rest)
          let more ← tokens? steps rest
          return .word parts :: more

/-! ## §2. Commands. -/

/-- A command. -/
inductive Command where
  | print (words : List (List Part)) (toErrors : Bool)
  /-- A choice among lists of commands by patterns. -/
  | choose (subject : List Part) (arms : List (String × List Command))

/-- The text of a word without arguments. -/
def plainText (parts : List Part) : String :=
  String.join (parts.map fun
    | .text s => s
    | .argument _ => "")

/-- The words of a simple command, whether it prints errors, and what follows. -/
def simpleWords : List Token → List (List Part) × Bool × List Token
  | .word parts :: rest =>
      let (words, toErrors, rest) := simpleWords rest
      (parts :: words, toErrors, rest)
  | .toErrors :: rest =>
      let (words, _, rest) := simpleWords rest
      (words, true, rest)
  | rest => ([], false, rest)

mutual

/-- The commands up to the end of their list, and what follows.  `steps` bounds the
tokens that are looked at. -/
def commands? : Nat → List Token → Option (List Command × List Token)
  | 0, _ => none
  | _ + 1, [] => some ([], [])
  | steps + 1, .stop :: rest => commands? steps rest
  | _ + 1, .stopList :: rest => some ([], .stopList :: rest)
  | _ + 1, .close :: _ => none
  | steps + 1, .word parts :: rest =>
      if plainText parts = "case" then
        match rest with
        | .word subject :: .word _ :: rest => do
            let (arms, rest) ← arms? steps rest
            let (more, rest) ← commands? steps rest
            return (.choose subject arms :: more, rest)
        | _ => none
      else if plainText parts = "esac" then some ([], .word parts :: rest)
      else do
        let (words, toErrors, rest) := simpleWords rest
        let (more, rest) ← commands? steps rest
        return (.print (parts :: words) toErrors :: more, rest)
  | _ + 1, .toErrors :: _ => none

/-- The arms of a choice, and what follows it. -/
def arms? : Nat → List Token → Option (List (String × List Command) × List Token)
  | 0, _ => none
  | steps + 1, .stop :: rest => arms? steps rest
  | steps + 1, .stopList :: rest => arms? steps rest
  | steps + 1, .word parts :: rest =>
      if plainText parts = "esac" then some ([], rest)
      else match rest with
        | .close :: rest => do
            let (body, rest) ← commands? steps rest
            let (arms, rest) ← arms? steps rest
            return ((plainText parts, body) :: arms, rest)
        | _ => none
  | _ + 1, _ => none

end

/-- The commands of a script.  Its first line names the shell. -/
def parse? (text : String) : Option (List Command) := do
  let rest ← Text.dropPrefix? "#!/bin/sh".toList text.toList
  let tokens ← tokens? (rest.length + 1) ('#' :: rest)
  match ← commands? (2 * tokens.length + 2) tokens with
  | (commands, []) => some commands
  | _ => none

/-! ## §3. Running. -/

/-- What a script has printed, and its status. -/
structure Outcome where
  out : List UInt8
  errors : List UInt8
  status : Nat
  /-- Has the script been left? -/
  left : Bool
  deriving DecidableEq

/-- The bytes of a text. -/
def bytesOf (s : String) : List UInt8 :=
  (Text.Utf8.encode s).toList

/-- A word with the script's arguments in place. -/
def expand (arguments : List String) (parts : List Part) : String :=
  String.join (parts.map fun
    | .text s => s
    | .argument n => (arguments[n]?).getD "")

/-- Does a text fit a pattern?  A star stands for anything. -/
def fits : List Char → List Char → Bool
  | [], cs => cs.isEmpty
  | '*' :: pattern, [] => fits pattern []
  | '*' :: pattern, c :: cs => fits pattern (c :: cs) || fits ('*' :: pattern) cs
  | '?' :: pattern, _ :: cs => fits pattern cs
  | p :: pattern, c :: cs => p == c && fits pattern cs
  | _ :: _, [] => false
termination_by pattern cs => pattern.length + cs.length

/-- A format with its escapes replaced and its places filled. -/
def formatted : List Char → List String → List Char
  | [], _ => []
  | '\\' :: 'n' :: rest, args => '\n' :: formatted rest args
  | '\\' :: 't' :: rest, args => '\t' :: formatted rest args
  | '\\' :: 'r' :: rest, args => '\r' :: formatted rest args
  | '\\' :: '\\' :: rest, args => '\\' :: formatted rest args
  | '%' :: '%' :: rest, args => '%' :: formatted rest args
  | '%' :: 's' :: rest, args => (args.headD "").toList ++ formatted rest args.tail
  | c :: rest, args => c :: formatted rest args

/-- Print to one of the two outputs. -/
def Outcome.print (o : Outcome) (toErrors : Bool) (bytes : List UInt8) : Outcome :=
  if toErrors then { o with errors := o.errors ++ bytes, status := 0 }
  else { o with out := o.out ++ bytes, status := 0 }

/-- Print the contents of files. -/
def printFiles (files : Files) (toErrors : Bool) (paths : List String) (o : Outcome) : Outcome :=
  paths.foldl (fun o path =>
    match files.readBytes path with
    | .ok bytes => { o.print toErrors bytes with status := o.status }
    | .error _ =>
        { o with
          errors := o.errors ++ bytesOf ("cat: " ++ path ++ ": No such file or directory\n")
          status := 1 }) { o with status := 0 }

/-- Run a simple command. -/
def runSimple (files : Files) (toErrors : Bool) (words : List String) (o : Outcome) : Outcome :=
  match words with
  | "echo" :: args => o.print toErrors (bytesOf (String.intercalate " " args ++ "\n"))
  | "printf" :: format :: args =>
      o.print toErrors (bytesOf (String.ofList (formatted format.toList args)))
  | "cat" :: paths => printFiles files toErrors paths o
  | "exit" :: [] => { o with left := true }
  | "exit" :: status :: _ => { o with status := (status.toNat?.getD 2) % 256, left := true }
  | "true" :: _ | ":" :: _ => { o with status := 0 }
  | "false" :: _ => { o with status := 1 }
  | name :: _ =>
      { o with errors := o.errors ++ bytesOf ("sh: " ++ name ++ ": not found\n"), status := 127 }
  | [] => o

mutual

/-- Run a command. -/
def Command.run (files : Files) (arguments : List String) (o : Outcome) : Command → Outcome
  | .print words toErrors => runSimple files toErrors (words.map (expand arguments)) o
  | .choose subject arms => runArms files arguments (expand arguments subject) { o with status := 0 } arms

/-- Run the list of the first pattern that fits. -/
def runArms (files : Files) (arguments : List String) (subject : String) (o : Outcome) :
    List (String × List Command) → Outcome
  | [] => o
  | (pattern, body) :: rest =>
      if fits pattern.toList subject.toList then runAll files arguments o body
      else runArms files arguments subject o rest

/-- Run commands until the script is left. -/
def runAll (files : Files) (arguments : List String) (o : Outcome) : List Command → Outcome
  | [] => o
  | command :: rest =>
      let o := command.run files arguments o
      if o.left then o else runAll files arguments o rest

end

/-- Run a script with its name and arguments.  A script that is not understood
ends with the shell's status for that. -/
def runScript (files : Files) (text name : String) (arguments : List String) : Outcome :=
  match parse? text with
  | some commands => runAll files (name :: arguments) ⟨[], [], 0, false⟩ commands
  | none => ⟨[], bytesOf "sh: Syntax error\n", 2, true⟩

end DebugMerge.Script
