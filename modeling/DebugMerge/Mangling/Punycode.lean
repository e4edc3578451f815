/-
  DebugMerge.Mangling.Punycode
  ────────────────────────────
  **Identifiers with characters beyond ASCII.**

  Punycode writes an identifier as its ASCII characters and a list of deltas.
  Each delta says how far to walk on through all pairs of a character and a
  position until the next character is inserted.  Deltas are numbers of mixed
  base, least significant digit first, whose thresholds adapt to the deltas
  read before.

  Main definitions
    • `Punycode.readDelta?`    — one number of mixed base
    • `Punycode.adapt`         — the next bias
    • `Punycode.decode?`       — the whole identifier
-/
import DebugMerge.Text.Numeral

namespace DebugMerge.Punycode

/-! ## §1. Deltas. -/

/-- Number of digits. -/
def base : Nat := 36

/-- Deltas and positions must fit a machine word. -/
def wordLimit : Nat := Text.limit64

/-- The value of a digit: letters come before numerals. -/
def digit? (c : Char) : Option Nat :=
  if 'a' ≤ c ∧ c ≤ 'z' then some (c.toNat - 97)
  else if c.isDigit then some (c.toNat - 48 + 26)
  else none

/-- The threshold below which the digit at distance `k` ends its number. -/
def threshold (bias k : Nat) : Nat :=
  min (max (k - bias) 1) 26

/-- Read one delta: `k` is the distance of the previous digit, `weight` the value of
the next one and `delta` what was read so far. -/
def readDelta? (bias k weight delta : Nat) : List Char → Option (Nat × List Char)
  | [] => none
  | c :: rest => do
      let d ← digit? c
      let k := k + base
      let t := threshold bias k
      let delta := delta + d * weight
      if delta ≥ wordLimit then none
      else if d < t then some (delta, rest)
      else
        let weight := weight * (base - t)
        if weight ≥ wordLimit then none else readDelta? bias k weight delta rest

/-- Reading a delta uses up characters. -/
theorem readDelta?_length {bias k weight delta n : Nat} {cs rest : List Char}
    (h : readDelta? bias k weight delta cs = some (n, rest)) : rest.length < cs.length := by
  induction cs generalizing k weight delta with
  | nil => simp [readDelta?] at h
  | cons c cs ih =>
      simp only [readDelta?, Option.bind_eq_bind, Option.bind_eq_some_iff] at h
      obtain ⟨d, -, h⟩ := h
      split at h
      · cases h
      · split at h
        · cases h
          simp
        · split at h
          · cases h
          · have := ih h
            simp only [List.length_cons]
            omega

/-! ## §2. The bias. -/

/-- Scale a delta down until it is small; answers what is left and the distance
covered.  Every step makes the delta smaller. -/
def scaleDown (delta k : Nat) : Nat × Nat :=
  if _h : delta > 455 then scaleDown (delta / 35) (k + base) else (delta, k)
termination_by delta
decreasing_by exact Nat.div_lt_self (by omega) (by omega)

/-- The bias after a delta, when the identifier has `len` characters.  The first
delta is damped more than the others. -/
def adapt (delta len damp : Nat) : Nat :=
  let delta := delta / damp
  let (delta, k) := scaleDown (delta + delta / len) 0
  k + (base * delta) / (delta + 38)

/-! ## §3. Identifiers. -/

/-- Longest identifier that is decoded. -/
def maxLength : Nat := 128

/-- Insert the characters of all deltas.  `position` and `code` say where the walk
stands; `damp` is the damping of the next delta. -/
def insertAll? (chars : List Char) (position code bias damp : Nat) (cs : List Char) :
    Option (List Char) :=
  match h : readDelta? bias 0 1 0 cs with
  | none => none
  | some (delta, rest) =>
      let len := chars.length + 1
      let distance := position + delta
      let code := code + distance / len
      let position := distance % len
      if distance ≥ wordLimit ∨ ¬ code.isValidChar ∨ len > maxLength then none
      else
        let chars := chars.take position ++ Char.ofNat code :: chars.drop position
        if rest.isEmpty then some chars
        else insertAll? chars (position + 1) code (adapt delta len damp) 2 rest
termination_by cs.length
decreasing_by exact readDelta?_length h

/-- The identifier with the given ASCII characters and deltas. -/
def decode? (ascii deltas : List Char) : Option (List Char) :=
  if deltas.isEmpty ∨ ascii.length > maxLength then none
  else insertAll? ascii 0 0x80 72 700 deltas

end DebugMerge.Punycode
