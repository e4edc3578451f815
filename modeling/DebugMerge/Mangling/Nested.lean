/-
  DebugMerge.Mangling.Nested
  ──────────────────────────
  **Names of the form `_ZN … E`: a list of identifiers, each after its length.**

  The identifiers of a path follow one another, every one behind its decimal
  length, until a capital `E`.  The last one may be a hash, which is not
  shown.  Characters that an identifier cannot hold are spelled between dollar
  signs, and two points stand for the path separator.

  Main definitions
    • `Nested.parse?`     — the identifiers, and what follows the closing `E`
    • `Nested.render`     — the path without its hash
-/
import DebugMerge.Text.Blank
import DebugMerge.Text.Numeral

namespace DebugMerge.Nested

/-! ## §1. Identifiers behind their lengths. -/

/-- Lengths must fit a machine word. -/
def lengthLimit : Nat := Text.limit64

/-- Read a decimal length; at least one digit must stand there. -/
def readLength? (cs : List Char) : Option (Nat × List Char) :=
  let digits := cs.takeWhile Char.isDigit
  match Text.parseDigits 10 lengthLimit 0 digits with
  | .ok n => if digits.isEmpty then none else some (n, cs.drop digits.length)
  | .error _ => none

/-- The identifiers up to the closing `E`, and the rest.  Every identifier takes
at least the one digit of its length, so `steps` may be the length of the text. -/
def identifiers? : Nat → List Char → Option (List (List Char) × List Char)
  | _, 'E' :: rest => some ([], rest)
  | 0, _ => none
  | steps + 1, cs => do
      let (n, rest) ← readLength? cs
      if rest.length ≤ n then none
      else
        let (names, rest') ← identifiers? steps (rest.drop n)
        return (rest.take n :: names, rest')

/-- Read a mangled name: ASCII only, behind its mark. -/
def parse? (cs : List Char) : Option (List (List Char) × List Char) := do
  let inner ← Text.dropPrefix? ['_', 'Z', 'N'] cs
  if inner.all fun c => c.toNat < 128 then identifiers? inner.length inner else none

/-! ## §2. Escapes inside identifiers. -/

/-- Is the character a control? -/
def isControl (n : Nat) : Bool :=
  n < 0x20 || (0x7F ≤ n && n < 0xA0)

/-- The character with a small hexadecimal number. -/
def numbered? (digits : List Char) : Option Char :=
  if digits.all fun c => c.isDigit || ('a' ≤ c && c ≤ 'f') then
    match Text.parseDigits 16 Text.limit32 0 digits with
    | .ok n => if digits.isEmpty || !n.isValidChar || isControl n then none else some (Char.ofNat n)
    | .error _ => none
  else none

/-- The character that a word between dollar signs stands for. -/
def escape? (word : List Char) : Option Char :=
  match word with
  | ['S', 'P'] => some '@'
  | ['B', 'P'] => some '*'
  | ['R', 'F'] => some '&'
  | ['L', 'T'] => some '<'
  | ['G', 'T'] => some '>'
  | ['L', 'P'] => some '('
  | ['R', 'P'] => some ')'
  | ['C'] => some ','
  | 'u' :: digits => numbered? digits
  | _ => none

/-- An identifier with its escapes replaced.  From the first escape that is none
on, the rest stands as it is.  Every step takes at least one character. -/
def unescape : Nat → List Char → List Char
  | 0, cs => cs
  | steps + 1, cs =>
      match cs with
      | [] => []
      | '.' :: '.' :: rest => ':' :: ':' :: unescape steps rest
      | '.' :: rest => '.' :: unescape steps rest
      | '$' :: rest =>
          match Text.splitOnce? '$' rest with
          | none => cs
          | some (word, after) =>
              match escape? word with
              | none => cs
              | some c => c :: unescape steps after
      | c :: rest => c :: unescape steps rest

/-- An identifier as it is shown; an underscore that only protects an escape is dropped. -/
def shown (name : List Char) : List Char :=
  let name := match name with
    | '_' :: '$' :: rest => '$' :: rest
    | name => name
  unescape name.length name

/-! ## §3. Paths. -/

/-- Is the identifier a hash: an `h` and hexadecimal digits? -/
def isHash : List Char → Bool
  | 'h' :: digits => digits.all fun c => (Text.digitValue? 16 c).isSome
  | _ => false

/-- The identifiers without a hash at the end. -/
def withoutHash (names : List (List Char)) : List (List Char) :=
  match names.getLast? with
  | some last => if isHash last then names.dropLast else names
  | none => names

/-- The path of the identifiers. -/
def render (names : List (List Char)) : String :=
  String.intercalate "::" ((withoutHash names).map fun name => String.ofList (shown name))

end DebugMerge.Nested
