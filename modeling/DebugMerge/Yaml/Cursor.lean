/-
  DebugMerge.Yaml.Cursor
  ──────────────────────
  **A place in a YAML text.**

  Indentation counts in YAML, so a place is known by its line and column.  At a
  *fresh* place only blanks stand before it on its line, or a mark that lets a
  collection begin there; no tab may stand before a token at a fresh place.

  Main definitions
    • `Cursor`, `Reader`                    — places and readers
    • `step`, `skipBlanks`, `skipToToken`   — moving on
    • `Cursor.atWord`, `.atMarker`          — what stands there
-/
import DebugMerge.Yaml.Node

namespace DebugMerge.Yaml

/-! ## §1. Places. -/

/-- A place in a text. -/
structure Cursor where
  rest : List Char
  line : Nat
  column : Nat
  fresh : Bool
  /-- The nodes that have been given a name. -/
  anchors : List (String × Node)

/-- A reader of YAML text. -/
abbrev Reader (α : Type) := StateT Cursor Option α

/-- The text is not well-formed. -/
def refuse {α : Type} : Reader α := fun _ => none

/-- Refuse unless the condition holds. -/
def require (condition : Bool) : Reader Unit :=
  if condition then pure () else refuse

/-- The place behind one character. -/
def Cursor.next (c : Cursor) : Cursor :=
  match c.rest with
  | [] => c
  | '\n' :: rest => { c with rest, line := c.line + 1, column := 0 }
  | _ :: rest => { c with rest, column := c.column + 1 }

/-- Go on by one character. -/
def step : Reader Unit := modify Cursor.next

/-- Go on by `n` characters. -/
def steps : Nat → Reader Unit
  | 0 => pure ()
  | n + 1 => do step; steps n

/-- The characters that follow. -/
def ahead : Reader (List Char) := return (← get).rest

/-- Mark the place as fresh or not. -/
def setFresh (fresh : Bool) : Reader Unit := modify fun c => { c with fresh }

/-! ## §2. Characters. -/

/-- A blank or a tab. -/
def isBlankChar (c : Char) : Bool :=
  c == ' ' || c == '\t'

/-- A mark of a flow collection. -/
def isFlowMark (c : Char) : Bool :=
  c == ',' || c == '[' || c == ']' || c == '\x7b' || c == '\x7d'

/-- Does a blank, a line break or the end follow? -/
def endsWord : List Char → Bool
  | [] => true
  | c :: _ => isBlankChar c || c == '\n'

/-- Does a document marker follow, if the line starts here? -/
def startsMarker : List Char → Bool
  | '-' :: '-' :: '-' :: rest => endsWord rest
  | '.' :: '.' :: '.' :: rest => endsWord rest
  | _ => false

/-- Does a document marker stand here? -/
def Cursor.atMarker (c : Cursor) : Bool :=
  c.column == 0 && startsMarker c.rest

/-- Does `mark` stand here as a word of its own? -/
def Cursor.atWord (mark : Char) (c : Cursor) : Bool :=
  match c.rest with
  | d :: rest => d == mark && endsWord rest
  | [] => false

/-- Can a character stand in a text at all? -/
def isPrintable (c : Char) : Bool :=
  let n := c.toNat
  n == 9 || n == 10 || n == 13 || (0x20 ≤ n && n ≤ 0x7E) || n == 0x85 || (0xA0 ≤ n && n ≤ 0xFFFD)
    || 0x10000 ≤ n

/-- The text with every line break as a single new line. -/
def unifyBreaks : List Char → List Char
  | '\r' :: '\n' :: rest => '\n' :: unifyBreaks rest
  | c :: rest =>
      (if c = '\r' ∨ c = Char.ofNat 0x85 then '\n' else c) :: unifyBreaks rest
  | [] => []

/-! ## §3. Between tokens. -/

/-- Skip the rest of the line. -/
def skipLine : List Char → Reader Unit
  | [] => pure ()
  | '\n' :: _ => pure ()
  | _ :: rest => do step; skipLine rest

/-- Skip blanks, comments and line breaks up to the next token.  The list is the text
that follows; inside flow collections tabs are blanks everywhere. -/
def skipSpace (inFlow : Bool) : List Char → Reader Unit
  | ' ' :: rest => do step; skipSpace inFlow rest
  | '\t' :: rest => do
      require (inFlow || !(← get).fresh)
      step
      skipSpace inFlow rest
  | '\n' :: rest => do
      step
      if !inFlow then setFresh true
      skipSpace inFlow rest
  | '#' :: rest => do step; skipComment inFlow rest
  | _ => pure ()
where
  /-- Skip a comment and what follows it up to the next token. -/
  skipComment (inFlow : Bool) : List Char → Reader Unit
    | '\n' :: rest => do
        step
        if !inFlow then setFresh true
        skipSpace inFlow rest
    | _ :: rest => do step; skipComment inFlow rest
    | [] => pure ()

/-- Skip up to the next token. -/
def skipToToken (inFlow : Bool) : Reader Unit := do
  skipSpace inFlow (← ahead)

/-- Skip blanks on the line. -/
def skipBlanks : Reader Unit := do
  steps ((← ahead).takeWhile isBlankChar).length

end DebugMerge.Yaml
