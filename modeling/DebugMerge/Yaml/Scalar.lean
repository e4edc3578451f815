/-
  DebugMerge.Yaml.Scalar
  ──────────────────────
  **Scalars: plain, quoted and in blocks.**

  A scalar may go over several lines.  In plain and quoted scalars one line
  break stands for a blank, and of several breaks all but the first stand for
  themselves; blanks around breaks do not count.  A block scalar keeps its
  lines, or folds them in the same way, and has rules of its own for its end.

  Main definitions
    • `gap`                             — blanks and breaks inside a scalar
    • `plainScalar`                     — scalars without quotes
    • `singleQuoted`, `doubleQuoted`    — scalars in quotes
    • `blockScalar`                     — scalars behind `|` and `>`
-/
import DebugMerge.Yaml.Cursor

namespace DebugMerge.Yaml

/-! ## §1. Gaps. -/

/-- What stands between two runs of characters of a scalar. -/
inductive Gap where
  /-- Blanks on one line. -/
  | blanks (cs : List Char)
  /-- So many line breaks. -/
  | breaks (count : Nat)

/-- The characters that a gap stands for. -/
def Gap.folded : Gap → List Char
  | blanks cs => cs
  | breaks 0 => []
  | breaks 1 => [' ']
  | breaks (n + 2) => List.replicate (n + 1) '\n'

/-- Does the gap hold a line break? -/
def Gap.isBroken : Gap → Bool
  | blanks _ => false
  | breaks _ => true

/-- Skip line breaks and the blanks at the start of lines; answers how many breaks.  A
tab before column `floor` is refused. -/
def skipBreaks (floor : Nat) : List Char → Nat → Reader Nat
  | '\n' :: rest, count => do step; skipBreaks floor rest (count + 1)
  | ' ' :: rest, count => do step; skipBreaks floor rest count
  | '\t' :: rest, count => do
      require (floor ≤ (← get).column)
      step
      skipBreaks floor rest count
  | _, count => pure count

/-- The gap that follows. -/
def gap (floor : Nat) : Reader Gap := do
  let blanks := (← ahead).takeWhile isBlankChar
  steps blanks.length
  match ← ahead with
  | '\n' :: rest => return .breaks (← skipBreaks floor ('\n' :: rest) 0)
  | _ => return .blanks blanks

/-! ## §2. Plain scalars. -/

/-- Can a plain scalar start here? -/
def startsPlain (inFlow : Bool) : List Char → Bool
  | [] => false
  | c :: rest =>
      if c = '-' then !(endsWord rest)
      else if c = '?' ∨ c = ':' then !inFlow && !(endsWord rest)
      else !(isBlankChar c || c == '\n' || isFlowMark c || c == '#' || c == '&' || c == '*'
        || c == '!' || c == '|' || c == '>' || c == Char.ofNat 39 || c == '"' || c == '%'
        || c == '@' || c == Char.ofNat 96)

/-- The characters of a plain scalar up to a blank or to its end.  Inside a flow
collection a colon may not stand before a mark. -/
def plainRun (inFlow : Bool) : List Char → Option (List Char)
  | [] => some []
  | c :: rest =>
      if isBlankChar c || c == '\n' then some []
      else if c = ':' ∧ endsWord rest then some []
      else if c = ':' ∧ inFlow ∧ rest.head?.any (fun d => isFlowMark d || d == '?') then none
      else if inFlow && isFlowMark c then some []
      else (plainRun inFlow rest).map (c :: ·)

/-- Read a plain scalar on from characters read so far.  In a block its lines start at
or behind column `floor`.  `fuel` bounds the number of runs. -/
def plainFrom (inFlow : Bool) (floor : Nat) : Nat → List Char → Reader (List Char)
  | 0, _ => refuse
  | fuel + 1, before => do
      let c ← get
      if c.atMarker || c.rest.head? == some '#' then return []
      match plainRun inFlow c.rest with
      | none => refuse
      | some [] => return []
      | some run => do
          steps run.length
          setFresh false
          let text := before ++ run
          if !(endsWord (← ahead)) || (← ahead).isEmpty then return text
          let between ← gap floor
          if between.isBroken then setFresh true
          if !inFlow && between.isBroken && decide ((← get).column < floor) then return text
          let more ← plainFrom inFlow floor fuel between.folded
          return text ++ more

/-- Read a plain scalar. -/
def plainScalar (inFlow : Bool) (floor : Nat) : Reader (List Char) := do
  let c ← get
  let text ← plainFrom inFlow floor (c.rest.length + 1) []
  require (!text.isEmpty)
  return text

/-! ## §3. Quoted scalars. -/

/-- The mark of simple quotes. -/
def singleMark : Char := Char.ofNat 39

/-- Read the rest of a scalar in simple quotes, in which a doubled quote stands for one. -/
def singleFrom : Nat → Reader (List Char)
  | 0 => refuse
  | fuel + 1 => do
      let c ← get
      require (!c.atMarker)
      match c.rest with
      | [] => refuse
      | d :: rest =>
          if d = singleMark then
            if rest.head? = some singleMark then
              steps 2
              return singleMark :: (← singleFrom fuel)
            else
              step
              return []
          else if isBlankChar d || d == '\n' then
            let between ← gap 0
            return between.folded ++ (← singleFrom fuel)
          else
            step
            return d :: (← singleFrom fuel)

/-- The character that a letter behind a backslash names. -/
def namedEscape? : Char → Option Char
  | '0' => some (Char.ofNat 0)
  | 'a' => some (Char.ofNat 7)
  | 'b' => some (Char.ofNat 8)
  | 't' => some '\t'
  | '\t' => some '\t'
  | 'n' => some '\n'
  | 'v' => some (Char.ofNat 11)
  | 'f' => some (Char.ofNat 12)
  | 'r' => some '\r'
  | 'e' => some (Char.ofNat 27)
  | ' ' => some ' '
  | '"' => some '"'
  | '/' => some '/'
  | '\\' => some '\\'
  | 'N' => some (Char.ofNat 0x85)
  | '_' => some (Char.ofNat 0xA0)
  | 'L' => some (Char.ofNat 0x2028)
  | 'P' => some (Char.ofNat 0x2029)
  | _ => none

/-- How many hexadecimal digits follow a letter behind a backslash. -/
def codeLength? : Char → Option Nat
  | 'x' => some 2
  | 'u' => some 4
  | 'U' => some 8
  | _ => none

/-- The character with a code, unless it is a surrogate or too large. -/
def charOfCode? (n : Nat) : Option Char :=
  if n.isValidChar then some (Char.ofNat n) else none

/-- Read the escape behind a backslash; a line break behind a backslash stands for nothing. -/
def escape : Reader (List Char) := do
  match ← ahead with
  | [] => refuse
  | '\n' :: rest => do
      let _ ← skipBreaks 0 ('\n' :: rest) 0
      return []
  | c :: rest =>
      match namedEscape? c, codeLength? c with
      | some named, _ => do
          step
          return [named]
      | none, some count => do
          let ds := rest.take count
          require (ds.length = count)
          match (digits? 16 ds).bind charOfCode? with
          | some coded => do
              steps (count + 1)
              return [coded]
          | none => refuse
      | none, none => refuse

/-- Read the rest of a scalar in double quotes. -/
def doubleFrom : Nat → Reader (List Char)
  | 0 => refuse
  | fuel + 1 => do
      let c ← get
      require (!c.atMarker)
      match c.rest with
      | [] => refuse
      | '"' :: _ => do
          step
          return []
      | '\\' :: _ => do
          step
          let cs ← escape
          return cs ++ (← doubleFrom fuel)
      | d :: _ =>
          if isBlankChar d || d == '\n' then
            let between ← gap 0
            return between.folded ++ (← doubleFrom fuel)
          else
            step
            return d :: (← doubleFrom fuel)

/-- Read a scalar in simple quotes. -/
def singleQuoted : Reader (List Char) := do
  step
  setFresh false
  singleFrom ((← ahead).length + 1)

/-- Read a scalar in double quotes. -/
def doubleQuoted : Reader (List Char) := do
  step
  setFresh false
  doubleFrom ((← ahead).length + 1)

/-! ## §4. Block scalars. -/

/-- What becomes of the line breaks at the end of a block scalar. -/
inductive Chomping where
  | clip
  | strip
  | keep
  deriving DecidableEq

/-- The header of a block scalar: its chomping, and how much deeper it is indented than
its parent, if it says so. -/
def blockHeader (cs : List Char) : Chomping × Option Nat × Nat :=
  match cs with
  | '+' :: d :: _ => indicated .keep d
  | '+' :: [] => (.keep, none, 1)
  | '-' :: d :: _ => indicated .strip d
  | '-' :: [] => (.strip, none, 1)
  | d :: more =>
      if isIndent d then
        match more with
        | '+' :: _ => (.keep, some (d.toNat - 48), 2)
        | '-' :: _ => (.strip, some (d.toNat - 48), 2)
        | _ => (.clip, some (d.toNat - 48), 1)
      else (.clip, none, 0)
  | [] => (.clip, none, 0)
where
  /-- A digit that says how deep a block is indented. -/
  isIndent (d : Char) : Bool := '1' ≤ d && d ≤ '9'
  /-- A chomping mark with what follows it. -/
  indicated (chomping : Chomping) (d : Char) : Chomping × Option Nat × Nat :=
    if isIndent d then (chomping, some (d.toNat - 48), 2) else (chomping, none, 1)

/-- Skip the blank lines before a line of a block scalar that is indented by `indent`;
answers their number and the greatest column reached.  Without an indent every blank
counts as indentation, and a tab is refused. -/
def skipBlankLines (indent : Option Nat) : List Char → Nat → Nat → Reader (Nat × Nat)
  | ' ' :: rest, count, deepest => do
      let column := (← get).column
      if indent.any (· ≤ column) then return (count, deepest)
      step
      skipBlankLines indent rest count (max deepest (column + 1))
  | '\t' :: _, count, deepest => do
      require (indent.any (· ≤ (← get).column))
      return (count, deepest)
  | '\n' :: rest, count, deepest => do
      step
      skipBlankLines indent rest (count + 1) deepest
  | _, count, deepest => return (count, deepest)

/-- Read the lines of a block scalar.  `pending` are the breaks before the next line, of
which the first ended the line before; `led` says whether that line began with a blank. -/
def blockLines (folds : Bool) (indent : Nat) :
    Nat → (first : Bool) → (pending : Nat) → (led : Bool) → Reader (List Char × Nat)
  | 0, _, _, _ => refuse
  | fuel + 1, first, pending, led => do
      let c ← get
      if c.column ≠ indent || c.rest.isEmpty then return ([], pending)
      let blank := (c.rest.head?.map isBlankChar).getD false
      let between :=
        if folds && !first && !led && !blank then (Gap.breaks pending).folded
        else List.replicate pending '\n'
      let line := c.rest.takeWhile (· ≠ '\n')
      steps line.length
      match ← ahead with
      | [] => return (between ++ line, 0)
      | _ => do
          step
          let (count, _) ← skipBlankLines (some indent) (← ahead) 0 0
          let (more, last) ← blockLines folds indent fuel false (count + 1) blank
          return (between ++ line ++ more, last)

/-- Read a block scalar whose parent is indented to the column before `floor`. -/
def blockScalar (floor : Nat) : Reader (List Char) := do
  let folds := (← ahead).head? == some '>'
  step
  let (chomping, explicit, used) := blockHeader (← ahead)
  steps used
  skipBlanks
  if (← ahead).head? == some '#' then skipLine (← ahead)
  match ← ahead with
  | '\n' :: _ => step
  | [] => pure ()
  | _ => refuse
  let given := explicit.map (floor - 1 + ·)
  let (count, deepest) ← skipBlankLines given (← ahead) 0 0
  let indent := given.getD (max deepest (max floor 1))
  let (text, last) ← blockLines folds indent ((← ahead).length + 1) true count false
  setFresh true
  match chomping with
  | .strip => return text
  | .keep => return text ++ List.replicate last '\n'
  | .clip => return if text.isEmpty ∨ last = 0 then text else text ++ ['\n']

end DebugMerge.Yaml
