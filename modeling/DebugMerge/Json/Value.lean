/-
  DebugMerge.Json.Value
  ─────────────────────
  **JSON values.**

  An object keeps its fields in the order in which they stand, repeated
  names included, because a typed document refuses a repeated field while a
  generic one keeps the last.  Integers that fit 64 bits are numbers;
  every other numeral keeps its text, since no document of this library
  stores one.  `unreadable` is a value whose syntax is sound but which holds
  a lone surrogate: it can be skipped, and nothing else.

  Main definitions
    • `Json`               — the value type
    • `Json.depth`         — nesting depth of lists and objects
    • `Json.generic?`      — the value as a generic document
    • `Json.lookup?`       — a field of an object
-/

namespace DebugMerge

/-- A JSON value. -/
inductive Json where
  | null
  | bool (value : Bool)
  /-- An integer from zero to `2 ^ 64 - 1`. -/
  | natural (value : Nat)
  /-- The integer `-(value + 1)`, not below `-2 ^ 63`. -/
  | negative (value : Nat)
  /-- Any other numeral, with its text. -/
  | numeral (text : List Char)
  | text (value : String)
  | list (items : List Json)
  | object (fields : List (String × Json))
  /-- Sound syntax whose text cannot be represented. -/
  | unreadable

namespace Json

instance : Inhabited Json := ⟨null⟩

/-! ## §1. Depth. -/

mutual

/-- How deep lists and objects nest; a scalar has depth zero. -/
def depth : Json → Nat
  | list items => depthItems items + 1
  | object fields => depthFields fields + 1
  | _ => 0

/-- The greatest depth among items. -/
def depthItems : List Json → Nat
  | [] => 0
  | v :: rest => max (depth v) (depthItems rest)

/-- The greatest depth among field values. -/
def depthFields : List (String × Json) → Nat
  | [] => 0
  | (_, v) :: rest => max (depth v) (depthFields rest)

end

/-- A document may nest one hundred and twenty-seven levels. -/
def maxDepth : Nat := 127

/-! ## §2. Fields. -/

/-- The value of the first field called `name`. -/
def lookup? (name : String) (fields : List (String × Json)) : Option Json :=
  match fields with
  | [] => none
  | (key, v) :: rest => if key = name then some v else lookup? name rest

/-- Set the field `name`, in place if it is there and at the end otherwise. -/
def setField (name : String) (value : Json) : List (String × Json) → List (String × Json)
  | [] => [(name, value)]
  | (key, v) :: rest =>
      if key = name then (key, value) :: rest else (key, v) :: setField name value rest

/-- The names of the fields, in order. -/
def fieldNames (fields : List (String × Json)) : List String :=
  fields.map (·.1)

/-! ## §3. Numerals beyond 64 bits. -/

/-- The decimal digits of a numeral read as one number, its sign, point and
exponent left out, with the power of ten that scales it. -/
def scaled (cs : List Char) : Nat × Int :=
  let mantissa := cs.takeWhile fun c => c ≠ 'e' ∧ c ≠ 'E'
  let exponent := (cs.dropWhile fun c => c ≠ 'e' ∧ c ≠ 'E').drop 1
  let digitsOf (ds : List Char) : Nat :=
    ds.foldl (fun n c => if c.isDigit then n * 10 + (c.toNat - 48) else n) 0
  let fraction := (mantissa.dropWhile (· ≠ '.')).drop 1
  let shift : Int :=
    match exponent with
    | '-' :: ds => -(digitsOf ds : Int)
    | ds => (digitsOf ds : Int)
  (digitsOf mantissa, shift - fraction.length)

/-- Numerals from here on round to no finite binary64 number: the largest finite number
and half its last place. -/
def floatLimit : Nat := Nat.pow 2 1024 - Nat.pow 2 970

/-- Does the numeral round to a finite binary64 number? -/
def isFinite (cs : List Char) : Bool :=
  let (mantissa, shift) := scaled cs
  if mantissa = 0 then true
  else if shift > 400 then false
  else if shift ≥ 0 then decide (mantissa * Nat.pow 10 shift.toNat < floatLimit)
  else if (-shift).toNat > 2000 + cs.length then true
  else decide (mantissa < floatLimit * Nat.pow 10 (-shift).toNat)

/-! ## §4. Generic documents. -/

mutual

/-- The value read without knowing its type: every part must be readable, every
number finite, and of repeated fields the last counts. -/
def normal? : Json → Option Json
  | unreadable => none
  | numeral cs => if isFinite cs then some (numeral cs) else none
  | list items => (normalItems? items).map list
  | object fields => (normalFields? [] fields).map object
  | v => some v

/-- Every item read without knowing its type. -/
def normalItems? : List Json → Option (List Json)
  | [] => some []
  | v :: rest => do
      let v ← normal? v
      let rest ← normalItems? rest
      return v :: rest

/-- The fields read after `before`, where a repeated name overwrites. -/
def normalFields? (before : List (String × Json)) : List (String × Json) →
    Option (List (String × Json))
  | [] => some before
  | (key, v) :: rest => do
      let v ← normal? v
      normalFields? (setField key v before) rest

end

/-- The value as a generic document, at most `levels` deep. -/
def generic? (levels : Nat) (v : Json) : Option Json :=
  if v.depth ≤ levels then v.normal? else none

end Json

end DebugMerge
