/-
  DebugMerge.Mangling.Path
  ────────────────────────
  **Names of the form `_R…`: paths, types and constants as one tree.**

  A name is a tree in prefix notation.  A node that occurred before is written
  as a back reference to its position.  A name is accepted if it can be
  read to its end with back references left alone; they are followed when the
  name is shown, so that what they refer to can still turn out to be malformed.
  Then the fault is shown in its place, and a question mark for every part that
  was to come after it.

  Main definitions
    • `Cursor`, `Painter`, `Painting`     — a name being shown
    • `Node`, `production`, `paint`       — the grammar
    • `PathName.parse?`, `PathName.render` — acceptance and text
-/
import DebugMerge.Mangling.Punycode
import DebugMerge.Text.Blank
import DebugMerge.Text.Printable
import DebugMerge.Text.Utf8

namespace DebugMerge.PathName

/-! ## §1. Reading characters. -/

/-- Numbers must fit a machine word. -/
def wordLimit : Nat := Text.limit64

/-- A reader takes something from the front of the text. -/
abbrev Reader (α : Type) := List Char → Option (α × List Char)

/-- One character. -/
def anyChar : Reader Char
  | [] => none
  | c :: rest => some (c, rest)

/-- The value of a digit in base sixty-two. -/
def digit62? (c : Char) : Option Nat :=
  if c.isDigit then some (c.toNat - 48)
  else if 'a' ≤ c ∧ c ≤ 'z' then some (c.toNat - 87)
  else if 'A' ≤ c ∧ c ≤ 'Z' then some (c.toNat - 29)
  else none

/-- The digits of a number up to the underscore that ends it.  The number is one
more than its digits say. -/
def digits62 (value : Nat) : Reader Nat
  | [] => none
  | '_' :: rest => if value + 1 < wordLimit then some (value + 1, rest) else none
  | c :: rest => do
      let d ← digit62? c
      let value := value * 62 + d
      if value < wordLimit then digits62 value rest else none

/-- A number; no digits mean zero. -/
def number : Reader Nat
  | '_' :: rest => some (0, rest)
  | cs => digits62 0 cs

/-- A number behind a tag; without the tag it is zero, with it at least one. -/
def tagged (tag : Char) : Reader Nat
  | [] => some (0, [])
  | c :: rest =>
      if c = tag then do
        let (n, rest) ← number rest
        if n + 1 < wordLimit then some (n + 1, rest) else none
      else some (0, c :: rest)

/-- What tells apart two things of one name. -/
def disambiguator : Reader Nat := tagged 's'

/-- Small hexadecimal digits up to an underscore. -/
def nibbles : Reader (List Char) := fun cs =>
  let isNibble (c : Char) := c.isDigit || ('a' ≤ c && c ≤ 'f')
  match cs.dropWhile isNibble with
  | '_' :: rest => some (cs.takeWhile isNibble, rest)
  | _ => none

/-- An identifier: its ASCII characters, and the deltas for the others. -/
structure Identifier where
  ascii : List Char
  deltas : List Char
  deriving DecidableEq

/-- Is there nothing to show? -/
def Identifier.isEmpty (name : Identifier) : Bool :=
  name.ascii.isEmpty && name.deltas.isEmpty

/-- The decimal length of an identifier.  A leading zero stands alone. -/
def identifierLength : Reader Nat
  | '0' :: rest => some (0, rest)
  | cs =>
      let digits := cs.takeWhile Char.isDigit
      match Text.parseDigits 10 wordLimit 0 digits with
      | .ok n => if digits.isEmpty then none else some (n, cs.drop digits.length)
      | .error _ => none

/-- Split an identifier with deltas at its last underscore. -/
def splitDeltas (cs : List Char) : Identifier :=
  let back := cs.reverse
  let deltas := (back.takeWhile (· ≠ '_')).reverse
  match back.dropWhile (· ≠ '_') with
  | [] => ⟨[], cs⟩
  | _ :: ascii => ⟨ascii.reverse, deltas⟩

/-- An identifier behind its length.  A `u` before the length announces deltas, and
an underscore may separate the two. -/
def identifier : Reader Identifier := fun cs => do
  let (hasDeltas, cs) := match cs with
    | 'u' :: rest => (true, rest)
    | cs => (false, cs)
  let (n, cs) ← identifierLength cs
  let cs := match cs with
    | '_' :: rest => rest
    | cs => cs
  if cs.length < n then none
  else
    let body := cs.take n
    if hasDeltas then
      let name := splitDeltas body
      if name.deltas.isEmpty then none else some (name, cs.drop n)
    else some (⟨body, []⟩, cs.drop n)

/-! ## §2. A name being shown. -/

/-- Why a name cannot be read on. -/
inductive Fault where
  | malformed
  | tooDeep
  deriving DecidableEq

/-- The text shown in place of a faulty part. -/
def Fault.text : Fault → String
  | malformed => "\x7binvalid syntax\x7d"
  | tooDeep => "\x7brecursion limit reached\x7d"

/-- How far a name has been read, and how deep its tree is there. -/
structure Cursor where
  rest : List Char
  depth : Nat

/-- Deepest tree that is read. -/
def maxDepth : Nat := 500

/-- The state of showing a name. -/
structure Painter where
  /-- Once a fault has occurred, nothing more is read. -/
  cursor : Except Fault Cursor
  out : String
  /-- How many bytes may still be shown. -/
  room : Nat
  /-- Reading only. -/
  silent : Bool
  /-- How many lifetimes the enclosing binders name. -/
  lifetimes : Nat

/-- Showing stops for good when there is no more room. -/
inductive Full where
  | full

/-- An action on the name `List Char` that is being shown. -/
abbrev Painting := ReaderT (List Char) (ExceptT Full (StateM Painter))

/-- Show a piece, unless reading only. -/
def say (piece : String) : Painting Unit := do
  let p ← get
  if p.silent then return
  else if piece.utf8ByteSize ≤ p.room then
    modify fun p => { p with out := p.out ++ piece, room := p.room - piece.utf8ByteSize }
  else throw .full

/-- Show every character as a piece of its own. -/
def sayEach : List Char → Painting Unit
  | [] => return
  | c :: rest => do
      say (String.ofList [c])
      sayEach rest

/-- Stop reading because of a fault. -/
def stop (fault : Fault) : Painting Unit := do
  say fault.text
  modify fun p => { p with cursor := .error fault }

/-- The name is malformed here. -/
def malformed : Painting Unit := stop .malformed

/-- Read and go on.  A new fault is shown, an old one as a question mark, and
either gives `otherwise`. -/
def reading {α β : Type} (read : Reader α) (otherwise : β) (next : α → Painting β) :
    Painting β := do
  match (← get).cursor with
  | .error _ =>
      say "?"
      return otherwise
  | .ok cursor =>
      match read cursor.rest with
      | none =>
          malformed
          return otherwise
      | some (a, rest) =>
          modify fun p => { p with cursor := .ok { cursor with rest } }
          next a

/-- Take the character `c` if it comes next. -/
def eat (c : Char) : Painting Bool := do
  match (← get).cursor with
  | .ok ⟨d :: rest, depth⟩ =>
      if d = c then
        modify fun p => { p with cursor := .ok ⟨rest, depth⟩ }
        return true
      else return false
  | _ => return false

/-- Has a fault occurred? -/
def faulty : Painting Bool := do
  match (← get).cursor with
  | .error _ => return true
  | .ok _ => return false

/-- One level deeper in the tree. -/
def deeper (inner : Painting Unit) : Painting Unit := do
  match (← get).cursor with
  | .error _ => say "?"
  | .ok cursor =>
      if cursor.depth < maxDepth then
        modify fun p => { p with cursor := .ok { cursor with depth := cursor.depth + 1 } }
        inner
        modify fun p => { p with
          cursor := p.cursor.map fun c => { c with depth := c.depth - 1 } }
      else stop .tooDeep

/-- Read without showing. -/
def silently (inner : Painting Unit) : Painting Unit := do
  let silent := (← get).silent
  modify fun p => { p with silent := true }
  inner
  modify fun p => { p with silent }

/-- Read a back reference, whose mark has been taken, and show its target.  The
target stands before the mark.  Nothing is followed when reading only. -/
def backReference {β : Type} (otherwise : β) (target : Painting β) : Painting β := do
  let name ← read
  match (← get).cursor with
  | .error _ =>
      say "?"
      return otherwise
  | .ok cursor =>
      match number cursor.rest with
      | none =>
          malformed
          return otherwise
      | some (position, rest) =>
          let mark := name.length - cursor.rest.length - 1
          if mark ≤ position then
            malformed
            return otherwise
          else if maxDepth ≤ cursor.depth then
            stop .tooDeep
            return otherwise
          else
            let after : Cursor := { cursor with rest }
            if (← get).silent then
              modify fun p => { p with cursor := .ok after }
              return otherwise
            else
              modify fun p => { p with cursor := .ok ⟨name.drop position, cursor.depth + 1⟩ }
              let b ← target
              modify fun p => { p with cursor := .ok after }
              return b

/-! ## §3. Small parts. -/

/-- Show an identifier.  One that cannot be decoded is shown in its written form. -/
def sayIdentifier (name : Identifier) : Painting Unit := do
  if name.deltas.isEmpty then say (String.ofList name.ascii)
  else
    match Punycode.decode? name.ascii name.deltas with
    | some chars => sayEach chars
    | none =>
        say "punycode\x7b"
        if !name.ascii.isEmpty then
          say (String.ofList name.ascii)
          say "-"
        say (String.ofList name.deltas)
        say "\x7d"

/-- Show a lifetime.  Number zero has no name; the others count outwards from the
innermost binder and are lettered from the outermost one. -/
def lifetime (index : Nat) : Painting Unit := do
  let p ← get
  if p.silent then return
  say (String.ofList [Char.ofNat 39])
  if index = 0 then say "_"
  else if index ≤ p.lifetimes then
    let level := p.lifetimes - index
    if level < 26 then say (String.ofList [Char.ofNat (97 + level)])
    else
      say "_"
      say (Text.decimal level)
  else malformed

/-- Name that many new lifetimes. -/
def nameLifetimes (isFirst : Bool) : Nat → Painting Unit
  | 0 => return
  | count + 1 => do
      if !isFirst then say ", "
      modify fun p => { p with lifetimes := p.lifetimes + 1 }
      lifetime 1
      nameLifetimes false count

/-- A part inside a binder, which may name lifetimes. -/
def binder (inner : Painting Unit) : Painting Unit :=
  reading (tagged 'G') () fun count => do
    if (← get).silent then inner
    else
      if count > 0 then
        say "for<"
        nameLifetimes true count
        say "> "
      inner
      modify fun p => { p with lifetimes := p.lifetimes - count }

/-- Show characters between quotes. -/
def sayQuoted (quote : Char) (chars : List Char) : Painting Unit := do
  say (String.ofList [quote])
  for c in chars do
    sayEach (Text.quotedChar quote c).toList
  say (String.ofList [quote])

/-- The number of hexadecimal digits, if it has at most sixteen of them. -/
def hexValue? (digits : List Char) : Option Nat :=
  let digits := digits.dropWhile (· = '0')
  match Text.parseDigits 16 wordLimit 0 digits with
  | .ok n => some n
  | .error _ => none

/-- A constant number; what does not fit a word is shown as it is written. -/
def constNumber : Painting Unit :=
  reading nibbles () fun digits => do
    match hexValue? digits with
    | some n => say (Text.decimal n)
    | none =>
        say "0x"
        say (String.ofList digits)

/-- The bytes that pairs of hexadecimal digits spell. -/
def hexBytes? : List Char → Option (List UInt8)
  | [] => some []
  | [_] => none
  | a :: b :: rest => do
      let high ← Text.digitValue? 16 a
      let low ← Text.digitValue? 16 b
      let bytes ← hexBytes? rest
      return UInt8.ofNat (high * 16 + low) :: bytes

/-- A constant text, which must be well-formed. -/
def constText : Painting Unit :=
  reading nibbles () fun digits => do
    match (hexBytes? digits).bind fun bytes => Text.Utf8.decode? ⟨bytes.toArray⟩ with
    | some s => sayQuoted '"' s.toList
    | none => malformed

/-- The types that are one letter. -/
def basicType? : Char → Option String
  | 'b' => some "bool"
  | 'c' => some "char"
  | 'e' => some "str"
  | 'u' => some "()"
  | 'a' => some "i8"
  | 's' => some "i16"
  | 'l' => some "i32"
  | 'x' => some "i64"
  | 'n' => some "i128"
  | 'i' => some "isize"
  | 'h' => some "u8"
  | 't' => some "u16"
  | 'm' => some "u32"
  | 'y' => some "u64"
  | 'o' => some "u128"
  | 'j' => some "usize"
  | 'f' => some "f32"
  | 'd' => some "f64"
  | 'z' => some "!"
  | 'p' => some "_"
  | 'v' => some "..."
  | _ => none

/-! ## §4. The grammar. -/

/-- The parts of a tree. -/
inductive Node where
  /-- A path; inside a value its generic arguments follow a separator. -/
  | path (inValue : Bool)
  /-- A path whose generic arguments are left open; answers whether there are any. -/
  | openPath
  | type
  | pattern
  | genericArg
  | dynTrait
  /-- A constant; outside an expression some need braces. -/
  | const (inValue : Bool)
  /-- A named field of a constant. -/
  | field
  /-- Parts up to the letter `E`, of which `seen` came before; answers their number. -/
  | list (item : Node) (separator : String) (seen : Nat)

/-- The answer of parts that have none. -/
def done (inner : Painting Unit) : Painting Nat := do
  inner
  return 0

section Productions

variable (sub : Node → Painting Nat)

/-- Show a part without an answer. -/
def plain (node : Node) : Painting Unit := do
  let _ ← sub node

/-- Parts with a separator, closed by the letter `E`. -/
def items (item : Node) (separator : String) : Painting Nat :=
  sub (.list item separator 0)

/-- A tuple: a single item is followed by a comma. -/
def tuple (item : Node) : Painting Unit := do
  say "("
  let count ← items sub item ", "
  if count = 1 then say ","
  say ")"

/-- The last identifier of a path, which a capital letter marks as unnamed. -/
def sayLast (space : Char) (dis : Nat) (name : Identifier) : Painting Unit := do
  if 'A' ≤ space ∧ space ≤ 'Z' then
    say "::\x7b"
    say (if space = 'C' then "closure" else if space = 'S' then "shim"
      else String.ofList [space])
    if !name.isEmpty then
      say ":"
      sayIdentifier name
    say "#"
    say (Text.decimal dis)
    say "\x7d"
  else if !name.isEmpty then
    say "::"
    sayIdentifier name

/-- A letter that says what kind of thing an identifier names. -/
def nameSpace : Reader Char
  | c :: rest => if c.isAlpha then some (c, rest) else none
  | [] => none

/-- A path. -/
def path (inValue : Bool) : Painting Unit :=
  deeper <| reading anyChar () fun tag => do
    match tag with
    | 'C' =>
        reading disambiguator () fun _ => reading identifier () fun name => sayIdentifier name
    | 'N' =>
        reading nameSpace () fun space => do
          plain sub (.path inValue)
          if ← faulty then say "::"
          reading disambiguator () fun dis =>
            reading identifier () fun name => sayLast space dis name
    | 'M' | 'X' =>
        reading disambiguator () fun _ => do
          silently (plain sub (.path false))
          say "<"
          plain sub .type
          if tag = 'X' then
            say " as "
            plain sub (.path false)
          say ">"
    | 'Y' =>
        say "<"
        plain sub .type
        say " as "
        plain sub (.path false)
        say ">"
    | 'I' =>
        plain sub (.path inValue)
        if inValue then say "::"
        say "<"
        let _ ← items sub .genericArg ", "
        say ">"
    | 'B' => backReference () (plain sub (.path inValue))
    | _ => malformed

/-- A generic argument: a lifetime, a constant or a type. -/
def genericArg : Painting Unit := do
  if ← eat 'L' then reading number () lifetime
  else if ← eat 'K' then plain sub (.const false)
  else plain sub .type

/-- The calling convention of a function type; its hyphens are written as underscores. -/
def sayConvention (name : List Char) : Painting Unit := do
  say "extern \""
  match Text.splitAll '_' name with
  | [] => return
  | first :: parts =>
      say (String.ofList first)
      for part in parts do
        say "-"
        say (String.ofList part)
  say "\" "

/-- What follows the convention of a function type. -/
def signature (isUnsafe : Bool) (convention : Option (List Char)) : Painting Unit := do
  if isUnsafe then say "unsafe "
  match convention with
  | some name => sayConvention name
  | none => pure ()
  say "fn("
  let _ ← items sub .type ", "
  say ")"
  if !(← eat 'u') then
    say " -> "
    plain sub .type

/-- A function type inside its binder. -/
def functionType : Painting Unit := do
  let isUnsafe ← eat 'U'
  if ← eat 'K' then
    if ← eat 'C' then signature sub isUnsafe (some ['C'])
    else reading identifier () fun name => do
      if name.ascii.isEmpty || !name.deltas.isEmpty then malformed
      else signature sub isUnsafe (some name.ascii)
  else signature sub isUnsafe none

/-- Go back to the letter just read. -/
def putBack (c : Char) : Painting Unit :=
  modify fun p => { p with cursor := p.cursor.map fun cursor =>
    { cursor with rest := c :: cursor.rest } }

/-- A type that is not one letter. -/
def compoundType (tag : Char) : Painting Unit := do
  match tag with
  | 'R' | 'Q' =>
      say "&"
      let next : Painting Unit := do
        if tag = 'Q' then say "mut "
        plain sub .type
      if ← eat 'L' then
        reading number () fun index => do
          if index ≠ 0 then
            lifetime index
            say " "
          next
      else next
  | 'P' =>
      say "*"
      say "const "
      plain sub .type
  | 'O' =>
      say "*"
      say "mut "
      plain sub .type
  | 'A' =>
      say "["
      plain sub .type
      say "; "
      plain sub (.const true)
      say "]"
  | 'S' =>
      say "["
      plain sub .type
      say "]"
  | 'T' => tuple sub .type
  | 'F' => binder (functionType sub)
  | 'D' =>
      say "dyn "
      binder do
        let _ ← items sub .dynTrait " + "
      if ← eat 'L' then
        reading number () fun index => do
          if index ≠ 0 then
            say " + "
            lifetime index
      else malformed
  | 'B' => backReference () (plain sub .type)
  | 'W' =>
      plain sub .type
      say " is "
      plain sub .pattern
  | c =>
      putBack c
      plain sub (.path false)

/-- A type. -/
def type : Painting Unit :=
  reading anyChar () fun tag => do
    match basicType? tag with
    | some word => say word
    | none => deeper (compoundType sub tag)

/-- A restriction of a type's values: a range, one of several, or anything but null. -/
def pattern : Painting Unit :=
  reading anyChar () fun tag => do
    match tag with
    | 'R' =>
        plain sub (.const false)
        say "..="
        plain sub (.const false)
    | 'O' =>
        plain sub .pattern
        let _ ← sub (.list .pattern " | " 1)
    | 'N' => say "!null"
    | _ => malformed

/-- A path whose generic arguments are left open; answers one if there are any. -/
def openPath : Painting Nat := do
  if ← eat 'B' then backReference 0 (sub .openPath)
  else if ← eat 'I' then
    plain sub (.path false)
    say "<"
    let _ ← items sub .genericArg ", "
    return 1
  else
    plain sub (.path false)
    return 0

/-- The associated types of a trait, written into its angle brackets. -/
def associatedTypes (sub : Node → Painting Nat) : Nat → Bool → Painting Unit
  | 0, _ => return
  | steps + 1, isOpen => do
      if ← eat 'p' then
        say (if isOpen then ", " else "<")
        reading identifier () fun name => do
          sayIdentifier name
          say " = "
          plain sub .type
          associatedTypes sub steps true
      else if isOpen then say ">"

/-- A trait with its associated types. -/
def dynTrait : Painting Unit := do
  let count ← openPath sub
  let name ← read
  associatedTypes sub (name.length + 1) (count = 1)

/-- A constant of a path: bare, with items, or with fields. -/
def constPath (close : Painting Unit) : Painting Unit := do
  plain sub (.path true)
  reading anyChar () fun tag => do
    match tag with
    | 'U' => close
    | 'T' =>
        say "("
        let _ ← items sub (.const true) ", "
        say ")"
        close
    | 'S' =>
        say " \x7b "
        let _ ← items sub .field ", "
        say " \x7d"
        close
    | _ => malformed

/-- A constant. -/
def const (inValue : Bool) : Painting Unit :=
  reading anyChar () fun tag => deeper do
    let enter : Painting Unit := if inValue then pure () else say "\x7b"
    let leave : Painting Unit := if inValue then pure () else say "\x7d"
    match tag with
    | 'p' => say "_"
    | 'h' | 't' | 'm' | 'y' | 'o' | 'j' => constNumber
    | 'a' | 's' | 'l' | 'x' | 'n' | 'i' =>
        if ← eat 'n' then say "-"
        constNumber
    | 'b' =>
        reading nibbles () fun digits => do
          match hexValue? digits with
          | some 0 => say "false"
          | some 1 => say "true"
          | _ => malformed
    | 'c' =>
        reading nibbles () fun digits => do
          match (hexValue? digits).filter fun n => decide n.isValidChar with
          | some n => sayQuoted (Char.ofNat 39) [Char.ofNat n]
          | none => malformed
    | 'e' =>
        enter
        say "*"
        constText
        leave
    | 'R' | 'Q' =>
        if tag = 'R' ∧ (← eat 'e') then constText
        else
          enter
          say "&"
          if tag = 'Q' then say "mut "
          plain sub (.const true)
          leave
    | 'A' =>
        enter
        say "["
        let _ ← items sub (.const true) ", "
        say "]"
        leave
    | 'T' =>
        enter
        tuple sub (.const true)
        leave
    | 'V' =>
        enter
        constPath sub leave
    | 'B' => backReference () (plain sub (.const inValue))
    | _ => malformed

/-- A named field of a constant. -/
def field : Painting Unit :=
  reading disambiguator () fun _ => reading identifier () fun name => do
    sayIdentifier name
    say ": "
    plain sub (.const true)

/-- The items of a list from item number `seen` on. -/
def list (item : Node) (separator : String) (seen : Nat) : Painting Nat := do
  if ← faulty then return seen
  else if ← eat 'E' then return seen
  else
    if seen > 0 then say separator
    plain sub item
    sub (.list item separator (seen + 1))

/-- Show a part whose own parts are shown by `sub`. -/
def production : Node → Painting Nat
  | .path inValue => done (path sub inValue)
  | .openPath => openPath sub
  | .type => done (type sub)
  | .pattern => done (pattern sub)
  | .genericArg => done (genericArg sub)
  | .dynTrait => done (dynTrait sub)
  | .const inValue => done (const sub inValue)
  | .field => done (field sub)
  | .list item separator seen => list sub item separator seen

end Productions

/-- Show a part.  Nodes nest at most `maxDepth` deep, and a list at one depth has at
most one item for each character, which bounds the steps that are needed. -/
def paint : Nat → Node → Painting Nat
  | 0, _ => return 0
  | steps + 1, node => production (paint steps) node

/-- Enough steps for a name. -/
def stepsFor (name : List Char) : Nat :=
  (maxDepth + 12) * (name.length + 16)

/-! ## §5. Whole names. -/

/-- What follows a path at the front of `rest`, if it can be read. -/
def skipPath? (name rest : List Char) : Option (List Char) :=
  let start : Painter := ⟨.ok ⟨rest, 0⟩, "", 0, true, 0⟩
  let (_, p) := (((paint (stepsFor name) (.path false)).run name).run).run start
  match p.cursor with
  | .ok cursor => some cursor.rest
  | .error _ => none

/-- Does a path start here? -/
def startsPath : List Char → Bool
  | c :: _ => 'A' ≤ c && c ≤ 'Z'
  | [] => false

/-- Read a mangled name: its inner text, and what follows it.  A second path
names the place of instantiation. -/
def parse? (cs : List Char) : Option (List Char × List Char) := do
  let inner ← Text.dropPrefix? ['_', 'R'] cs
  if startsPath inner && inner.all (fun c => c.toNat < 128) then
    let rest ← skipPath? inner inner
    if startsPath rest then
      let rest ← skipPath? inner rest
      return (inner, rest)
    else return (inner, rest)
  else none

/-- A name is shown with at most so many bytes. -/
def maxSize : Nat := 1000000

/-- The text of an inner name. -/
def render (inner : List Char) : String :=
  let start : Painter := ⟨.ok ⟨inner, 0⟩, "", maxSize, false, 0⟩
  match (((paint (stepsFor inner) (.path true)).run inner).run).run start with
  | (.ok _, p) => p.out
  | (.error .full, p) => p.out ++ "\x7bsize limit reached\x7d"

end DebugMerge.PathName
