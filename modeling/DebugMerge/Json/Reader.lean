/-
  DebugMerge.Json.Reader
  ──────────────────────
  **Reading JSON text.**

  The grammar is the standard one and nothing more: no comments, no trailing
  commas, no byte order mark, no raw control characters inside strings, no
  leading zeros.  A reader takes the rest of the text and answers the value
  with what follows it.  Recursion spends one unit of fuel per level or item,
  and `parse?` supplies more than any text of its length can spend.

  Main definitions
    • `stringBody?`   — a string after its opening quote
    • `number?`       — a numeral
    • `value?`        — any value
    • `parse?`        — a whole text
-/
import DebugMerge.Json.Value
import DebugMerge.Text.Blank
import DebugMerge.Text.Numeral

namespace DebugMerge.Json

/-! ## §1. Blanks. -/

/-- The four characters allowed between tokens. -/
def isSpace (c : Char) : Bool :=
  c == ' ' || c == '\n' || c == '\t' || c == '\r'

/-- The text from its first token on. -/
def skipSpace (cs : List Char) : List Char :=
  cs.dropWhile isSpace

/-! ## §2. Strings. -/

/-- The number written by four hexadecimal digits. -/
def fourHex? (a b c d : Char) : Option Nat := do
  let a ← Text.digitValue? 16 a
  let b ← Text.digitValue? 16 b
  let c ← Text.digitValue? 16 c
  let d ← Text.digitValue? 16 d
  return ((a * 16 + b) * 16 + c) * 16 + d

/-- Does the code unit open a surrogate pair? -/
def isHighSurrogate (n : Nat) : Bool :=
  0xD800 ≤ n && n ≤ 0xDBFF

/-- Does the code unit close a surrogate pair? -/
def isLowSurrogate (n : Nat) : Bool :=
  0xDC00 ≤ n && n ≤ 0xDFFF

/-- The character that a surrogate pair stands for. -/
def pairedChar (high low : Nat) : Char :=
  Char.ofNat (0x10000 + (high - 0xD800) * 0x400 + (low - 0xDC00))

/-- The character named by the letter after a backslash, `u` apart. -/
def simpleEscape? : Char → Option Char
  | '"' => some '"'
  | '\\' => some '\\'
  | '/' => some '/'
  | 'b' => some (Char.ofNat 8)
  | 'f' => some (Char.ofNat 12)
  | 'n' => some '\n'
  | 'r' => some '\r'
  | 't' => some '\t'
  | _ => none

/-- One code unit of a string: a character, or half of a surrogate pair. -/
inductive Piece where
  | char (c : Char)
  | high (unit : Nat)
  | low (unit : Nat)
  deriving DecidableEq

/-- The pieces of a string after its opening quote, and what follows the closing one. -/
def pieces? : List Char → Option (List Piece × List Char)
  | [] => none
  | '"' :: rest => some ([], rest)
  | '\\' :: 'u' :: a :: b :: c :: d :: rest => do
      let unit ← fourHex? a b c d
      let (tail, after) ← pieces? rest
      let piece :=
        if isHighSurrogate unit then Piece.high unit
        else if isLowSurrogate unit then Piece.low unit
        else Piece.char (Char.ofNat unit)
      return (piece :: tail, after)
  | '\\' :: e :: rest => do
      let c ← simpleEscape? e
      let (tail, after) ← pieces? rest
      return (Piece.char c :: tail, after)
  | c :: rest =>
      if c.toNat < 0x20 then none
      else do
        let (tail, after) ← pieces? rest
        return (Piece.char c :: tail, after)

/-- The characters of the pieces; `none` if half a surrogate pair stands alone. -/
def joinPieces? : List Piece → Option (List Char)
  | [] => some []
  | .char c :: rest => (joinPieces? rest).map (c :: ·)
  | .high h :: .low l :: rest => (joinPieces? rest).map (pairedChar h l :: ·)
  | .high _ :: _ => none
  | .low _ :: _ => none

/-- A string after its opening quote: its text, if it has one, and the rest. -/
def stringBody? (cs : List Char) : Option (Option String × List Char) := do
  let (pieces, rest) ← pieces? cs
  return ((joinPieces? pieces).map String.ofList, rest)

/-! ## §3. Numbers. -/

/-- Split off a run of digits. -/
def spanDigits (cs : List Char) : List Char × List Char :=
  (cs.takeWhile Char.isDigit, cs.dropWhile Char.isDigit)

/-- The integer part: a zero alone, or digits that start with another one. -/
def integerPart? (cs : List Char) : Option (List Char × List Char) :=
  match spanDigits cs with
  | ([], _) => none
  | (['0'], rest) => some (['0'], rest)
  | ('0' :: _, _) => none
  | (ds, rest) => some (ds, rest)

/-- A point and digits, if a point stands there. -/
def fractionPart? (cs : List Char) : Option (List Char × List Char) :=
  match cs with
  | '.' :: rest =>
      match spanDigits rest with
      | ([], _) => none
      | (ds, rest) => some ('.' :: ds, rest)
  | cs => some ([], cs)

/-- An exponent, if one stands there. -/
def exponentPart? (cs : List Char) : Option (List Char × List Char) :=
  let digits (mark : List Char) (rest : List Char) :=
    match spanDigits rest with
    | ([], _) => none
    | (ds, rest) => some (mark ++ ds, rest)
  match cs with
  | e :: '+' :: rest => if e = 'e' ∨ e = 'E' then digits ['e'] rest else some ([], cs)
  | e :: '-' :: rest => if e = 'e' ∨ e = 'E' then digits ['e', '-'] rest else some ([], cs)
  | e :: rest => if e = 'e' ∨ e = 'E' then digits ['e'] rest else some ([], cs)
  | [] => some ([], [])

/-- The number that digits denote. -/
def digitsValue (ds : List Char) : Nat :=
  ds.foldl (fun n c => n * 10 + (c.toNat - 48)) 0

/-- A numeral.  Minus zero is no integer. -/
def number? (cs : List Char) : Option (Json × List Char) := do
  let (minus, body) := match cs with
    | '-' :: rest => (true, rest)
    | cs => (false, cs)
  let (whole, rest) ← integerPart? body
  let (fraction, rest) ← fractionPart? rest
  let (exponent, rest) ← exponentPart? rest
  let n := digitsValue whole
  let numeralText := (if minus then ['-'] else []) ++ whole ++ fraction ++ exponent
  let value :=
    if fraction ≠ [] ∨ exponent ≠ [] then numeral numeralText
    else if minus then
      if 0 < n ∧ n ≤ 9223372036854775808 then negative (n - 1) else numeral numeralText
    else if n < Text.limit64 then natural n else numeral numeralText
  return (value, rest)

/-! ## §4. Values. -/

mutual

/-- Any value at the start of the text. -/
def value? : Nat → List Char → Option (Json × List Char)
  | 0, _ => none
  | fuel + 1, cs =>
      match cs with
      | 'n' :: 'u' :: 'l' :: 'l' :: rest => some (null, rest)
      | 't' :: 'r' :: 'u' :: 'e' :: rest => some (bool true, rest)
      | 'f' :: 'a' :: 'l' :: 's' :: 'e' :: rest => some (bool false, rest)
      | '"' :: rest => do
          let (content, rest) ← stringBody? rest
          return ((content.map text).getD unreadable, rest)
      | '[' :: rest =>
          match skipSpace rest with
          | ']' :: rest => some (list [], rest)
          | rest => do
              let (items, rest) ← items? fuel rest
              return (list items, rest)
      | '\x7b' :: rest =>
          match skipSpace rest with
          | '\x7d' :: rest => some (object [], rest)
          | rest => do
              let (fields, rest) ← fields? fuel rest
              return ((fields.map object).getD unreadable, rest)
      | cs => number? cs

/-- The items of a list up to and with its closing bracket. -/
def items? : Nat → List Char → Option (List Json × List Char)
  | 0, _ => none
  | fuel + 1, cs => do
      let (v, rest) ← value? fuel cs
      match skipSpace rest with
      | ',' :: rest => do
          let (items, rest) ← items? fuel (skipSpace rest)
          return (v :: items, rest)
      | ']' :: rest => return ([v], rest)
      | _ => none

/-- The fields of an object up to and with its closing brace; no fields at all if
the name of one is unreadable. -/
def fields? : Nat → List Char → Option (Option (List (String × Json)) × List Char)
  | 0, _ => none
  | fuel + 1, cs =>
      match cs with
      | '"' :: rest => do
          let (name, rest) ← stringBody? rest
          match skipSpace rest with
          | ':' :: rest => do
              let (v, rest) ← value? fuel (skipSpace rest)
              match skipSpace rest with
              | ',' :: rest => do
                  let (fields, rest) ← fields? fuel (skipSpace rest)
                  return (name.bind fun name => fields.map ((name, v) :: ·), rest)
              | '\x7d' :: rest => return (name.map fun name => [(name, v)], rest)
              | _ => none
          | _ => none
      | _ => none

end

/-- The value that the whole text denotes. -/
def parseChars? (cs : List Char) : Option Json := do
  let (v, rest) ← value? (2 * cs.length + 2) (skipSpace cs)
  if skipSpace rest = [] then return v else none

/-- The value that the whole text denotes. -/
def parse? (s : String) : Option Json :=
  parseChars? s.toList

end DebugMerge.Json
