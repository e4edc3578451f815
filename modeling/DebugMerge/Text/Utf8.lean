/-
  DebugMerge.Text.Utf8
  ────────────────────
  **Bytes read as UTF-8 text.**

  Documents must be well-formed; names inside binary records need not be.
  A malformed name is decoded lossily: every maximal part of an encoded
  character that is not completed becomes one replacement character.

  Main definitions
    • `decode?`   — the text of well-formed bytes
    • `lossy`     — the text of any bytes
    • `encode`    — the bytes of a text
-/

namespace DebugMerge.Text.Utf8

/-- The character that stands for undecodable bytes. -/
def replacement : Char := Char.ofNat 0xFFFD

/-- What a leading byte announces: how many bytes follow, the range of the first
of them, and the bits it contributes itself. -/
def announced (lead : Nat) : Option (Nat × Nat × Nat × Nat) :=
  if lead < 0xC2 then none
  else if lead < 0xE0 then some (1, 0x80, 0xBF, lead - 0xC0)
  else if lead = 0xE0 then some (2, 0xA0, 0xBF, 0)
  else if lead = 0xED then some (2, 0x80, 0x9F, 0xD)
  else if lead < 0xF0 then some (2, 0x80, 0xBF, lead - 0xE0)
  else if lead = 0xF0 then some (3, 0x90, 0xBF, 0)
  else if lead < 0xF4 then some (3, 0x80, 0xBF, lead - 0xF0)
  else if lead = 0xF4 then some (3, 0x80, 0x8F, 4)
  else none

/-- Read `pending` continuation bytes, the first in `[low, high]` and the others
in the full continuation range.  Answers the character read, or the replacement
when a byte does not fit, and how many bytes were used. -/
def follow (pending low high bits used : Nat) (bs : List UInt8) : Char × Nat :=
  match pending, bs with
  | 0, _ => (Char.ofNat bits, used)
  | _ + 1, [] => (replacement, used)
  | pending + 1, b :: rest =>
      let n := b.toNat
      if low ≤ n ∧ n ≤ high then
        follow pending 0x80 0xBF (bits * 64 + (n - 0x80)) (used + 1) rest
      else (replacement, used)

/-- The character that starts with byte `b`, and how many of the bytes after it belong to it. -/
def decodeOne (b : UInt8) (rest : List UInt8) : Char × Nat :=
  let lead := b.toNat
  if lead < 0x80 then (Char.ofNat lead, 0)
  else match announced lead with
    | none => (replacement, 0)
    | some (pending, low, high, bits) => follow pending low high bits 0 rest

/-- The characters of any bytes, with replacements for what is malformed. -/
def lossyChars : List UInt8 → List Char
  | [] => []
  | b :: rest =>
      let (c, used) := decodeOne b rest
      c :: lossyChars (rest.drop used)
termination_by bs => bs.length
decreasing_by simp only [List.length_drop, List.length_cons]; omega

/-- The text of any bytes, with replacements for what is malformed. -/
def lossy (bs : List UInt8) : String :=
  String.ofList (lossyChars bs)

/-- The text of well-formed bytes. -/
def decode? (bs : ByteArray) : Option String :=
  String.fromUTF8? bs

/-- The bytes of a text. -/
def encode (s : String) : ByteArray :=
  s.toUTF8

/-- What is encoded is decoded. -/
theorem decode?_encode (s : String) : decode? (encode s) = some s :=
  dif_pos s.isValidUTF8

end DebugMerge.Text.Utf8
