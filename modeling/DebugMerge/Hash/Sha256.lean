/-
  DebugMerge.Hash.Sha256
  ──────────────────────
  **The checksum under which a debug file is remembered: SHA-256.**

  A message is filled up to whole blocks of sixty-four bytes, and the blocks are
  mixed one after the other into eight words.

  Main definitions
    • `filled`           — the message with its filling
    • `schedule`         — the words of a block
    • `compress`         — mixing one block in
    • `digest`, `hexDigest`
-/
import DebugMerge.Text.Numeral

namespace DebugMerge.Sha256

/-! ## §1. Words. -/

/-- The word rotated to the right. -/
def rotate (n : UInt32) (x : UInt32) : UInt32 :=
  (x >>> n) ||| (x <<< (32 - n))

/-- Four bytes as a word, most significant first. -/
def word (a b c d : UInt8) : UInt32 :=
  (a.toUInt32 <<< 24) ||| (b.toUInt32 <<< 16) ||| (c.toUInt32 <<< 8) ||| d.toUInt32

/-- The words of bytes; an unfinished word is left out. -/
def words : List UInt8 → List UInt32
  | a :: b :: c :: d :: rest => word a b c d :: words rest
  | _ => []

/-- The `count` bytes of a number, most significant first. -/
def bigEndian (count n : Nat) : List UInt8 :=
  (List.range count).map fun i => UInt8.ofNat (n / Nat.pow 256 (count - 1 - i))

/-! ## §2. Constants. -/

/-- The words before the first block. -/
def initial : List UInt32 :=
  [0x6a09e667, 0xbb67ae85, 0x3c6ef372, 0xa54ff53a, 0x510e527f, 0x9b05688c, 0x1f83d9ab, 0x5be0cd19]

/-- The constant of each round. -/
def rounds : List UInt32 :=
  [0x428a2f98, 0x71374491, 0xb5c0fbcf, 0xe9b5dba5, 0x3956c25b, 0x59f111f1, 0x923f82a4, 0xab1c5ed5,
   0xd807aa98, 0x12835b01, 0x243185be, 0x550c7dc3, 0x72be5d74, 0x80deb1fe, 0x9bdc06a7, 0xc19bf174,
   0xe49b69c1, 0xefbe4786, 0x0fc19dc6, 0x240ca1cc, 0x2de92c6f, 0x4a7484aa, 0x5cb0a9dc, 0x76f988da,
   0x983e5152, 0xa831c66d, 0xb00327c8, 0xbf597fc7, 0xc6e00bf3, 0xd5a79147, 0x06ca6351, 0x14292967,
   0x27b70a85, 0x2e1b2138, 0x4d2c6dfc, 0x53380d13, 0x650a7354, 0x766a0abb, 0x81c2c92e, 0x92722c85,
   0xa2bfe8a1, 0xa81a664b, 0xc24b8b70, 0xc76c51a3, 0xd192e819, 0xd6990624, 0xf40e3585, 0x106aa070,
   0x19a4c116, 0x1e376c08, 0x2748774c, 0x34b0bcb5, 0x391c0cb3, 0x4ed8aa4a, 0x5b9cca4f, 0x682e6ff3,
   0x748f82ee, 0x78a5636f, 0x84c87814, 0x8cc70208, 0x90befffa, 0xa4506ceb, 0xbef9a3f7, 0xc67178f2]

/-! ## §3. Filling. -/

/-- The size of a block. -/
def blockSize : Nat := 64

/-- The message with its filling: a byte with the top bit, zeros, and the length in bits. -/
def filled (message : List UInt8) : List UInt8 :=
  let zeros := (blockSize - (message.length + 9) % blockSize) % blockSize
  message ++ [0x80] ++ List.replicate zeros 0 ++ bigEndian 8 (8 * message.length)

/-! ## §4. Mixing. -/

/-- The next word of a schedule whose last sixteen words are given, oldest first. -/
def nextWord (recent : List UInt32) : UInt32 :=
  match recent with
  | [w16, w15, _, _, _, _, _, _, _, w7, _, _, _, _, w2, _] =>
      let s0 := rotate 7 w15 ^^^ rotate 18 w15 ^^^ (w15 >>> 3)
      let s1 := rotate 17 w2 ^^^ rotate 19 w2 ^^^ (w2 >>> 10)
      w16 + s0 + w7 + s1
  | _ => 0

/-- The next `count` words of a schedule, behind those given. -/
def extend : Nat → List UInt32 → List UInt32
  | 0, recent => recent
  | count + 1, recent =>
      match recent with
      | [] => []
      | oldest :: others => oldest :: extend count (others ++ [nextWord recent])

/-- The sixty-four words of a block of sixteen words. -/
def schedule (block : List UInt32) : List UInt32 :=
  extend 48 block

/-- One round. -/
def round (state : List UInt32) (input : UInt32 × UInt32) : List UInt32 :=
  match state with
  | [a, b, c, d, e, f, g, h] =>
      let s1 := rotate 6 e ^^^ rotate 11 e ^^^ rotate 25 e
      let choice := (e &&& f) ^^^ ((e ^^^ 0xFFFFFFFF) &&& g)
      let t1 := h + s1 + choice + input.1 + input.2
      let s0 := rotate 2 a ^^^ rotate 13 a ^^^ rotate 22 a
      let majority := (a &&& b) ^^^ (a &&& c) ^^^ (b &&& c)
      [t1 + s0 + majority, a, b, c, d + t1, e, f, g]
  | other => other

/-- Mix a block of sixteen words into the state. -/
def compress (state block : List UInt32) : List UInt32 :=
  List.zipWith (· + ·) state ((rounds.zip (schedule block)).foldl round state)

/-- Mix in `count` blocks. -/
def compressAll : Nat → List UInt32 → List UInt32 → List UInt32
  | 0, state, _ => state
  | count + 1, state, ws => compressAll count (compress state (ws.take 16)) (ws.drop 16)

/-! ## §5. Digests. -/

/-- The eight words of a digest. -/
def digest (message : List UInt8) : List UInt32 :=
  let bytes := filled message
  compressAll (bytes.length / blockSize) initial (words bytes)

/-- A digest in small hexadecimal. -/
def hexDigest (message : List UInt8) : String :=
  String.join ((digest message).map fun w => Text.padLeft 8 '0' (Text.hex w.toNat))

end DebugMerge.Sha256
