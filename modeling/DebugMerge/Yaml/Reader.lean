/-
  DebugMerge.Yaml.Reader
  ──────────────────────
  **Reading a YAML text.**

  A text holds one document.  Collections are written in blocks, where
  indentation says what belongs together, or in flow form with brackets.  A
  mapping key that is not marked must stand on one line, with its colon.

  Main definitions
    • `blockNode`, `flowNode`        — nodes of the two forms
    • `document`                     — a whole text
    • `parse?`                       — a text as JSON
-/
import DebugMerge.Yaml.Scalar

namespace DebugMerge.Yaml

/-! ## §1. Properties of nodes. -/

/-- Can the character stand in the name of a node? -/
def isNameChar (c : Char) : Bool :=
  c.isAlphanum || c == '_' || c == '-'

/-- May the text that follows stand behind the name of a node? -/
def endsName : List Char → Bool
  | [] => true
  | c :: rest =>
      endsWord (c :: rest) || c == '?' || c == ':' || c == ',' || c == ']' || c == '\x7d'
        || c == '%' || c == '@' || c == Char.ofNat 96

/-- Read the name behind its mark. -/
def anchorName : Reader String := do
  step
  setFresh false
  let name := (← ahead).takeWhile isNameChar
  steps name.length
  require (!name.isEmpty && endsName (← ahead))
  return String.ofList name

/-- What the tags of the core schema start with. -/
def coreTags : List Char := "tag:yaml.org,2002:".toList

/-- The tag with the given full name. -/
def tagOf (cs : List Char) : Tag :=
  match Text.dropPrefix? coreTags cs with
  | some name => .core (String.ofList name)
  | none => if cs.head? = some '!' then .own else .foreign

/-- Can the character stand in a tag? -/
def isTagChar (c : Char) : Bool :=
  c.isAlphanum || ['-', '_', ';', '/', '?', ':', '@', '&', '=', '+', '$', '.', '~', '*',
    Char.ofNat 39, '(', ')', '%', '!'].contains c

/-- Read a tag behind its mark. -/
def tag : Reader Tag := do
  step
  setFresh false
  match ← ahead with
  | '<' :: rest => do
      let name := rest.takeWhile fun c => isTagChar c || isFlowMark c && c ≠ '\x7b' && c ≠ '\x7d'
      steps (name.length + 1)
      require ((← ahead).head? = some '>' && !name.isEmpty)
      step
      require (endsWord (← ahead))
      return tagOf name
  | '!' :: rest => do
      let name := rest.takeWhile isTagChar
      steps (name.length + 1)
      require (!name.isEmpty && (endsWord (← ahead) || (← ahead).head?.any (· == ',')))
      return .core (String.ofList name)
  | rest => do
      let name := rest.takeWhile isTagChar
      steps name.length
      require (!(name.contains '!') && (endsWord (← ahead) || (← ahead).head?.any (· == ',')))
      return .own

/-- The name and tag of a node. -/
structure Properties where
  name : Option String
  tag : Option Tag

/-- Does the node have neither? -/
def Properties.isEmpty (p : Properties) : Bool :=
  p.name.isNone && p.tag.isNone

/-- Read name and tag, in any order, with the blanks behind them. -/
def properties : Reader Properties := do
  match (← ahead).head? with
  | some '&' => do
      let name ← anchorName
      skipBlanks
      if (← ahead).head? = some '!' then
        let found ← tag
        skipBlanks
        return ⟨some name, some found⟩
      else return ⟨some name, none⟩
  | some '!' => do
      let found ← tag
      skipBlanks
      if (← ahead).head? = some '&' then
        let name ← anchorName
        skipBlanks
        return ⟨some name, some found⟩
      else return ⟨none, some found⟩
  | _ => return ⟨none, none⟩

/-- Give a node its properties, and remember it by its name. -/
def finish (p : Properties) (node : Node) : Reader Node := do
  let node := node.withTag p.tag
  match p.name with
  | some name => modify fun c => { c with anchors := (name, node) :: c.anchors }
  | none => pure ()
  return node

/-- Read a reference to a named node. -/
def aliased : Reader Node := do
  let name ← anchorName
  match (← get).anchors.find? fun a => a.1 = name with
  | some (_, node) => return node
  | none => refuse

/-! ## §2. Flow form. -/

mutual

/-- Read a node inside a flow collection. -/
def flowNode (floor : Nat) : Nat → Reader Node
  | 0 => refuse
  | fuel + 1 => do
      skipToToken true
      require !(← get).atMarker
      if (← ahead).head? = some '*' then aliased
      else
        let p ← properties
        if !p.isEmpty then skipToToken true
        let c ← get
        let endsEmpty := match c.rest with
          | [] => false
          | d :: _ => d == ',' || d == ']' || d == '\x7d' || d == ':'
        if !p.isEmpty && endsEmpty then finish p (.empty p.tag)
        else flowContent floor fuel >>= finish p

/-- Read a node inside a flow collection, without properties. -/
def flowContent (floor : Nat) : Nat → Reader Node
  | 0 => refuse
  | fuel + 1 => do
      match ← ahead with
      | [] => refuse
      | '[' :: _ => do
          step
          setFresh false
          return .sequence none (← flowItems floor fuel)
      | '\x7b' :: _ => do
          step
          setFresh false
          return .mapping none (← flowEntries floor fuel)
      | '"' :: _ => return .scalar none false (← doubleQuoted)
      | d :: rest =>
          if d = singleMark then return .scalar none false (← singleQuoted)
          else if startsPlain true (d :: rest) then
            return .scalar none true (← plainScalar true floor)
          else refuse

/-- Read the value behind a colon. -/
def flowValue (floor : Nat) : Nat → Reader Node
  | 0 => refuse
  | fuel + 1 => do
      step
      skipToToken true
      match ← ahead with
      | [] => refuse
      | d :: _ =>
          if d == ',' || d == ']' || d == '\x7d' then return .empty none
          else flowNode floor fuel

/-- Read a key behind a question mark, with the value that may follow. -/
def flowMarkedEntry (floor : Nat) : Nat → Reader (Node × Node)
  | 0 => refuse
  | fuel + 1 => do
      step
      skipToToken true
      let key ← match (← ahead).head? with
        | none => refuse
        | some d =>
            if d == ':' || d == ',' || d == ']' || d == '\x7d' then pure (Node.empty none)
            else flowNode floor fuel
      skipToToken true
      if (← ahead).head? = some ':' then return (key, ← flowValue floor fuel)
      else return (key, .empty none)

/-- Read a key and the value behind a colon on its line, if there is one. -/
def flowEntry (floor : Nat) : Nat → Reader (Node × Option Node)
  | 0 => refuse
  | fuel + 1 => do
      let line := (← get).line
      let key ← flowNode floor fuel
      skipToToken true
      if (← ahead).head? = some ':' then
        require ((← get).line = line)
        return (key, some (← flowValue floor fuel))
      else return (key, none)

/-- Read the items of a flow sequence and its closing bracket. -/
def flowItems (floor : Nat) : Nat → Reader (List Node)
  | 0 => refuse
  | fuel + 1 => do
      skipToToken true
      match ← ahead with
      | ']' :: _ => do
          step
          return []
      | rest => do
          let item ←
            if rest.head? = some '?' then do
              let entry ← flowMarkedEntry floor fuel
              pure (Node.mapping none [entry])
            else do
              match ← flowEntry floor fuel with
              | (key, some value) => pure (Node.mapping none [(key, value)])
              | (key, none) => pure key
          skipToToken true
          match ← ahead with
          | ',' :: _ => do
              step
              return item :: (← flowItems floor fuel)
          | ']' :: _ => do
              step
              return [item]
          | _ => refuse

/-- Read the entries of a flow mapping and its closing brace. -/
def flowEntries (floor : Nat) : Nat → Reader (List (Node × Node))
  | 0 => refuse
  | fuel + 1 => do
      skipToToken true
      match ← ahead with
      | '\x7d' :: _ => do
          step
          return []
      | rest => do
          let entry ←
            if rest.head? = some '?' then flowMarkedEntry floor fuel
            else do
              let (key, value) ← flowEntry floor fuel
              pure (key, value.getD (.empty none))
          skipToToken true
          match ← ahead with
          | ',' :: _ => do
              step
              return entry :: (← flowEntries floor fuel)
          | '\x7d' :: _ => do
              step
              return [entry]
          | _ => refuse

end

/-! ## §3. Keys. -/

/-- How long a key without a mark may be. -/
def maxKeyLength : Nat := 1024

/-- Read a key that stands on one line with its colon, which is read as well.  Answers
nothing, and stays, if there is none. -/
def key? (floor fuel : Nat) : Reader (Option Node) := fun start =>
  let attempt : Reader Node := do
    let node ←
      if (← ahead).head? = some '*' then aliased
      else do
        let p ← properties
        if (← get).atWord ':' then finish p (.empty p.tag)
        else flowOrPlain p
    skipBlanks
    let c ← get
    require (c.line = start.line && c.atWord ':'
      && decide (start.rest.length - c.rest.length ≤ maxKeyLength))
    step
    return node
  match attempt start with
  | some (node, after) => some (some node, after)
  | none => some (none, start)
where
  /-- A key without properties. -/
  flowOrPlain (p : Properties) : Reader Node := do
    let cs ← ahead
    if startsPlain false cs then
      match plainRuns cs with
      | [] => refuse
      | text => do
          steps text.length
          finish p (.scalar none true text)
    else flowContent floor fuel >>= finish p
  /-- The plain scalar on this line. -/
  plainRuns (cs : List Char) : List Char :=
    Text.dropEndWhile isBlankChar (lineRun cs)
  /-- The characters of this line up to a colon at the end of a word or a comment. -/
  lineRun : List Char → List Char
    | [] => []
    | c :: rest =>
        if c = '\n' then []
        else if c = ':' ∧ endsWord rest then []
        else if isBlankChar c ∧ rest.head? = some '#' then []
        else c :: lineRun rest

/-! ## §4. Block form. -/

/-- Read a scalar or a flow collection. -/
def blockScalarOrFlow (fuel floor : Nat) : Reader Node := do
  match ← ahead with
  | '|' :: _ => return .scalar none false (← blockScalar floor)
  | '>' :: _ => return .scalar none false (← blockScalar floor)
  | cs =>
      if startsPlain false cs then return .scalar none true (← plainScalar false floor)
      else flowContent floor fuel

mutual

/-- Read a node whose column is at least `floor`.  With `same`, a sequence may also
stand one column before it.  Where nothing stands, the node is empty. -/
def blockNode (fuel floor : Nat) (same : Bool) : Reader Node :=
  match fuel with
  | 0 => refuse
  | fuel + 1 => do
      skipToToken false
      let c ← get
      if c.rest.isEmpty || c.atMarker then return .empty none
      if c.column < floor then
        if same && c.atWord '-' && c.column + 1 == floor then
          return .sequence none (← blockItems fuel c.column)
        else return .empty none
      if c.fresh then
        if c.atWord '-' then return .sequence none (← blockItems fuel c.column)
        if c.atWord '?' then return .mapping none (← blockEntries fuel c.column)
        match ← key? floor fuel with
        | some key => do
            let value ← entryValue fuel c.column
            let more ← blockEntries fuel c.column
            return .mapping none ((key, value) :: more)
        | none => blockContent fuel floor same
      else
        if c.atWord '-' || c.atWord '?' then refuse
        blockContent fuel floor same
termination_by structural fuel

/-- Read a node that is no block mapping on this line. -/
def blockContent (fuel floor : Nat) (same : Bool) : Reader Node :=
  match fuel with
  | 0 => refuse
  | fuel + 1 => do
      if (← ahead).head? = some '*' then aliased
      else
        let p ← properties
        if p.isEmpty then blockScalarOrFlow fuel floor
        else
          let line := (← get).line
          skipToToken false
          let c ← get
          if c.line = line && !c.rest.isEmpty then blockScalarOrFlow fuel floor >>= finish p
          else
            let node ← blockNode fuel floor same
            finish p node
termination_by structural fuel

/-- Read the value behind the colon of an entry whose key stands in the given column. -/
def entryValue (fuel column : Nat) : Reader Node :=
  match fuel with
  | 0 => refuse
  | fuel + 1 => do
      setFresh false
      blockNode fuel (column + 1) true
termination_by structural fuel

/-- Read the items of a block sequence whose marks stand in the given column. -/
def blockItems (fuel column : Nat) : Reader (List Node) :=
  match fuel with
  | 0 => refuse
  | fuel + 1 => do
      step
      setFresh true
      let item ← blockNode fuel (column + 1) false
      skipToToken false
      let c ← get
      if c.column = column && c.atWord '-' && !c.atMarker then
        return item :: (← blockItems fuel column)
      else return [item]
termination_by structural fuel

/-- Read the entries of a block mapping whose keys stand in the given column, from here on. -/
def blockEntries (fuel column : Nat) : Reader (List (Node × Node)) :=
  match fuel with
  | 0 => refuse
  | fuel + 1 => do
      skipToToken false
      let c ← get
      if c.rest.isEmpty || c.atMarker || c.column < column then return []
      require (c.column = column && c.fresh)
      if c.atWord '?' then
        step
        setFresh true
        let key ← blockNode fuel (column + 1) true
        skipToToken false
        let c ← get
        if c.column = column && c.atWord ':' then
          step
          setFresh true
          let value ← blockNode fuel (column + 1) true
          return (key, value) :: (← blockEntries fuel column)
        else return (key, .empty none) :: (← blockEntries fuel column)
      else
        match ← key? (column + 1) fuel with
        | some key => do
            let value ← entryValue fuel column
            return (key, value) :: (← blockEntries fuel column)
        | none => refuse
termination_by structural fuel

end

/-! ## §5. Documents. -/

/-- A line that states the version of the language. -/
def isVersionLine (line : List Char) : Bool :=
  match Text.dropPrefix? "%YAML".toList line with
  | none => false
  | some rest =>
      let text := Text.dropEndWhile isBlankChar ((rest.takeWhile (· ≠ '#')).dropWhile isBlankChar)
      endsWord rest && (text = "1.1".toList || text = "1.2".toList)

/-- Skip the lines before a document that start with a percent sign; a document marker
must follow them. -/
def directives : Nat → (seen : Bool) → Reader Unit
  | 0, _ => refuse
  | fuel + 1, seen => do
      skipToToken false
      let c ← get
      if c.column = 0 && c.rest.head? = some '%' then
        require (!seen && isVersionLine (c.rest.takeWhile (· ≠ '\n')))
        skipLine c.rest
        directives fuel true
      else require (!seen || (c.atMarker && c.rest.head? = some '-'))

/-- Skip what may follow a document: nothing, or the marker of its end. -/
def ending : Nat → Reader Unit
  | 0 => refuse
  | fuel + 1 => do
      skipToToken false
      let c ← get
      if c.rest.isEmpty then pure ()
      else if c.atMarker && c.rest.head? = some '.' then do
        steps 3
        setFresh true
        ending fuel
      else refuse

/-- Read a whole text. -/
def document (fuel : Nat) : Reader Node := do
  directives fuel false
  let c ← get
  if c.atMarker && c.rest.head? = some '-' then
    steps 3
    setFresh false
  let node ← blockNode fuel 0 false
  ending fuel
  return node

/-- The value of a text that holds one document; a text without any is nothing. -/
def parse? (text : String) : Option Json := do
  let cs := unifyBreaks text.toList
  let cs := if cs.head? = some (Char.ofNat 0xFEFF) then cs.drop 1 else cs
  if cs.all isPrintable then
    let fuel := 4 * cs.length + 16
    let (node, _) ← (document fuel).run ⟨cs, 0, 0, true, []⟩
    let v ← node.toJson?
    if v.depth ≤ maxDepth then some v else none
  else none

end DebugMerge.Yaml
