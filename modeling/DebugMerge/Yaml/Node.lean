/-
  DebugMerge.Yaml.Node
  ────────────────────
  **The nodes of a YAML document, and their meaning as JSON.**

  A node is a scalar, a sequence or a mapping, and may carry a tag.  A plain
  scalar without a tag means what its text looks like: nothing, a truth value,
  an integer in base two, eight, ten or sixteen, another number, or a text.  A
  quoted scalar is a text.  Tags of the core schema force a meaning; local tags
  have none here.

  Main definitions
    • `Tag`, `Node`              — nodes
    • `plainValue?`              — the meaning of a plain scalar
    • `Node.toJson?`             — the meaning of a node
-/
import DebugMerge.Json.Value
import DebugMerge.Text.Blank
import DebugMerge.Text.Numeral

namespace DebugMerge.Yaml

/-! ## §1. Nodes. -/

/-- A tag. -/
inductive Tag where
  /-- A tag of the core schema, by its last part. -/
  | core (name : String)
  /-- A tag of the document's own. -/
  | own
  /-- Any other tag. -/
  | foreign
  deriving DecidableEq, Repr

/-- A node. -/
inductive Node where
  | scalar (tag : Option Tag) (plain : Bool) (text : List Char)
  | sequence (tag : Option Tag) (items : List Node)
  | mapping (tag : Option Tag) (entries : List (Node × Node))

namespace Node

instance : Inhabited Node := ⟨scalar none true []⟩

/-- The node that stands where nothing is written. -/
def empty (tag : Option Tag) : Node :=
  scalar tag true []

/-- The node with a tag of its own, if it has none. -/
def withTag (tag : Option Tag) : Node → Node
  | scalar old plain text => scalar (old <|> tag) plain text
  | sequence old items => sequence (old <|> tag) items
  | mapping old entries => mapping (old <|> tag) entries

end Node

/-! ## §2. Plain scalars. -/

/-- The texts that mean nothing. -/
def isNull (s : String) : Bool :=
  ["null", "Null", "NULL", "~"].contains s

/-- The texts that mean a truth value. -/
def truth? (s : String) : Option Bool :=
  if ["true", "True", "TRUE"].contains s then some true
  else if ["false", "False", "FALSE"].contains s then some false
  else none

/-- The text behind a sign. -/
def unsigned (cs : List Char) : List Char :=
  match cs with
  | '+' :: rest => rest
  | '-' :: rest => rest
  | cs => cs

/-- Is this a decimal numeral with leading zeros, which is a text? -/
def isPaddedNumeral (cs : List Char) : Bool :=
  match unsigned cs with
  | '0' :: d :: rest => (d :: rest).all Char.isDigit
  | _ => false

/-- The number of digits alone. -/
def digits? (base : Nat) (cs : List Char) : Option Nat :=
  if cs.isEmpty then none
  else cs.foldlM (fun n c => do return n * base + (← Text.digitValue? base c)) 0

/-- The size of an integer written with a base mark or in decimal. -/
def magnitude? (whole cs : List Char) : Option Nat :=
  let inDecimal := if isPaddedNumeral whole then none else digits? 10 cs
  match cs with
  | '0' :: 'x' :: rest => digits? 16 rest
  | '0' :: 'o' :: rest => digits? 8 rest
  | '0' :: 'b' :: rest => digits? 2 rest
  | _ => inDecimal

/-- An integer with an optional sign. -/
def integer? (cs : List Char) : Option Int :=
  match cs with
  | '-' :: rest => (magnitude? cs rest).map fun n => -(n : Int)
  | '+' :: rest => (magnitude? cs rest).map fun n => (n : Int)
  | _ => (magnitude? cs cs).map fun n => (n : Int)

/-- Is this a decimal fraction: digits with at most one point, at least one digit, and
an optional exponent? -/
def isFraction (cs : List Char) : Bool :=
  let body := cs.takeWhile fun c => c ≠ 'e' ∧ c ≠ 'E'
  let exponent := cs.drop body.length
  let before := body.takeWhile Char.isDigit
  let after := body.drop before.length
  let bodyOk := match after with
    | [] => !before.isEmpty
    | '.' :: places => places.all Char.isDigit && !(before.isEmpty && places.isEmpty)
    | _ => false
  let exponentOk := match exponent with
    | [] => true
    | _ :: rest =>
        let ds := unsigned rest
        !ds.isEmpty && ds.all Char.isDigit
  bodyOk && exponentOk

/-- The texts of numbers that are not finite. -/
def isUnbounded (s : String) : Bool :=
  [".inf", ".Inf", ".INF", "+.inf", "+.Inf", "+.INF", "-.inf", "-.Inf", "-.INF", ".nan", ".NaN",
    ".NAN"].contains s

/-- A finite number with a fraction or an exponent; one that is not finite is nothing. -/
def fraction? (cs : List Char) : Option Json :=
  if isUnbounded (String.ofList cs) then some .null
  else if isFraction (unsigned cs) ∧ Json.isFinite cs then some (.numeral cs)
  else none

/-- An integer as JSON, if it has 64 bits. -/
def ofInteger? (n : Int) : Option Json :=
  match n with
  | .ofNat k => if k < Text.limit64 then some (.natural k) else none
  | .negSucc k => if k < 9223372036854775808 then some (.negative k) else none

/-- Is the integer too large even for 128 bits? -/
def isHuge (n : Int) : Bool :=
  n ≥ Nat.pow 2 128 || n < -(Nat.pow 2 127)

/-- The meaning of a plain scalar; an integer between 64 and 128 bits has none. -/
def plainValue? (cs : List Char) : Option Json :=
  let s := String.ofList cs
  if cs.isEmpty || isNull s then some .null
  else match truth? s with
    | some b => some (.bool b)
    | none =>
        let otherwise : Option Json :=
          if isPaddedNumeral cs then some (.text s)
          else some ((fraction? cs).getD (.text s))
        match integer? cs with
        | some n => if isHuge n then otherwise else ofInteger? n
        | none => otherwise

/-! ## §3. Nodes as JSON. -/

/-- The meaning of a scalar. -/
def scalarValue? (tag : Option Tag) (plain : Bool) (cs : List Char) : Option Json :=
  let s := String.ofList cs
  match tag with
  | none => if plain then plainValue? cs else some (.text s)
  | some .own => none
  | some .foreign => some (.text s)
  | some (.core name) =>
      if name = "bool" then (truth? s).map .bool
      else if name = "int" then (integer? cs).bind ofInteger?
      else if name = "float" then fraction? cs
      else if name = "null" then if isNull s then some .null else none
      else some (.text s)

mutual

/-- The meaning of a node.  The keys of a mapping are texts; of repeated keys the last
counts. -/
def Node.toJson? : Node → Option Json
  | .scalar tag plain text => scalarValue? tag plain text
  | .sequence tag items =>
      if tag = some .own then none else (itemsToJson? items).map .list
  | .mapping tag entries =>
      if tag = some .own then none else (entriesToJson? [] entries).map .object

/-- The meaning of every item. -/
def itemsToJson? : List Node → Option (List Json)
  | [] => some []
  | node :: rest => do
      let v ← node.toJson?
      let vs ← itemsToJson? rest
      return v :: vs

/-- The meaning of entries behind the fields `before`. -/
def entriesToJson? (before : List (String × Json)) :
    List (Node × Node) → Option (List (String × Json))
  | [] => some before
  | (.scalar _ _ key, value) :: rest => do
      let v ← value.toJson?
      entriesToJson? (Json.setField (String.ofList key) v before) rest
  | _ :: _ => none

end

/-- How deep sequences and mappings may nest. -/
def maxDepth : Nat := 128

end DebugMerge.Yaml
