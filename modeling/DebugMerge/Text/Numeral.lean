/-
  DebugMerge.Text.Numeral
  ───────────────────────
  **Numerals in any base up to sixteen, written and read.**

  Addresses are written in capital hexadecimal, type indices in small
  hexadecimal and everything else in decimal.  A numeral that is read may
  carry one leading plus sign and any number of leading zeros; it is
  refused when it is empty, holds a foreign digit, or exceeds its limit.

  Main definitions
    • `digits`, `render`     — the shortest numeral of a number
    • `padded`               — a numeral filled up with zeros on the left
    • `parse`                — a numeral below a limit, or the cause of refusal
-/

namespace DebugMerge.Text

/-! ## §1. Writing numerals. -/

/-- The digits of `n`, most significant first; `0` has the one digit `0`. -/
def digits (base n : Nat) : List Nat :=
  if _h : base < 2 ∨ n < base then [n]
  else digits base (n / base) ++ [n % base]
termination_by n
decreasing_by
  have hb : 1 < base := by omega
  exact Nat.div_lt_self (by omega) hb

/-- The small-letter character of a digit below sixteen. -/
def digitChar (d : Nat) : Char :=
  if d < 10 then Char.ofNat (48 + d) else Char.ofNat (87 + d)

/-- The numeral of `n` with small letters. -/
def render (base n : Nat) : List Char :=
  (digits base n).map digitChar

/-- The decimal numeral of `n`. -/
def decimal (n : Nat) : String :=
  String.ofList (render 10 n)

/-- The decimal numeral of an integer, with a minus sign if it is negative. -/
def signed : Int → String
  | .ofNat n => decimal n
  | .negSucc n => "-" ++ decimal (n + 1)

/-- The hexadecimal numeral of `n` with small letters. -/
def hex (n : Nat) : String :=
  String.ofList (render 16 n)

/-- The hexadecimal numeral of `n` with capital letters. -/
def hexUpper (n : Nat) : String :=
  String.ofList ((render 16 n).map Char.toUpper)

/-- Fill `s` up with `fill` on the left until it has `width` characters. -/
def padLeft (width : Nat) (fill : Char) (s : String) : String :=
  String.ofList (List.replicate (width - s.length) fill) ++ s

/-- Fill `s` up with blanks on the right until it has `width` characters. -/
def padRight (width : Nat) (s : String) : String :=
  s ++ String.ofList (List.replicate (width - s.length) ' ')

/-- The capital hexadecimal numeral of `n` with at least `width` digits. -/
def hexUpperPadded (width n : Nat) : String :=
  padLeft width '0' (hexUpper n)

/-! ## §2. Reading numerals. -/

/-- Why a numeral is refused. -/
inductive NumeralError where
  | empty
  | foreignDigit
  | tooLarge
  deriving DecidableEq, Repr

/-- The explanation shown for a refused numeral. -/
def NumeralError.message : NumeralError → String
  | .empty => "cannot parse integer from empty string"
  | .foreignDigit => "invalid digit found in string"
  | .tooLarge => "number too large to fit in target type"

/-- The value of a digit in base `base`; letters count in either case. -/
def digitValue? (base : Nat) (c : Char) : Option Nat :=
  let n := c.toNat
  let value? :=
    if 48 ≤ n ∧ n ≤ 57 then some (n - 48)
    else if 97 ≤ n ∧ n ≤ 122 then some (n - 87)
    else if 65 ≤ n ∧ n ≤ 90 then some (n - 55)
    else none
  value?.filter (· < base)

/-- Read digits after the value `value`.  The first foreign digit or the first
excess over the limit, whichever comes first, decides the error. -/
def parseDigits (base limit : Nat) (value : Nat) : List Char → Except NumeralError Nat
  | [] => .ok value
  | c :: rest =>
      match digitValue? base c with
      | none => .error .foreignDigit
      | some d =>
          let next := value * base + d
          if next < limit then parseDigits base limit next rest else .error .tooLarge

/-- Read a numeral below `limit`, with an optional leading plus sign. -/
def parse (base limit : Nat) (cs : List Char) : Except NumeralError Nat :=
  match cs with
  | [] => .error .empty
  | ['+'] => .error .foreignDigit
  | '+' :: rest => parseDigits base limit 0 rest
  | cs => parseDigits base limit 0 cs

/-- One past the largest 64-bit word, the power of two with exponent 64. -/
def limit64 : Nat := 18446744073709551616

/-- One past the largest 32-bit word. -/
def limit32 : Nat := 4294967296

end DebugMerge.Text
