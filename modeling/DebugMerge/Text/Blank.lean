/-
  DebugMerge.Text.Blank
  ─────────────────────
  **White space and trimming over the whole of Unicode.**

  Command-line words, option values and GUID texts are trimmed before they
  are compared.  The class of blanks is the Unicode property `White_Space`,
  so a no-break space or an ideographic space is trimmed like a tab.

  Main definitions
    • `isBlank`                 — membership in the property
    • `trim`                    — a text without its outer blanks
    • `dropPrefix?`             — strip a leading text
    • `splitOnce?`              — cut at the first occurrence of a character
-/

namespace DebugMerge.Text

/-! ## §1. The class of blanks. -/

/-- The Unicode property `White_Space`. -/
def isBlank (c : Char) : Bool :=
  let n := c.toNat
  (9 ≤ n && n ≤ 13) || n == 0x20 || n == 0x85 || n == 0xA0 || n == 0x1680
    || (0x2000 ≤ n && n ≤ 0x200A) || n == 0x2028 || n == 0x2029 || n == 0x202F
    || n == 0x205F || n == 0x3000

/-! ## §2. Trimming. -/

/-- Drop the longest tail whose characters all satisfy `p`. -/
def dropEndWhile (p : Char → Bool) (cs : List Char) : List Char :=
  (cs.reverse.dropWhile p).reverse

/-- The characters without leading and trailing blanks. -/
def trimChars (cs : List Char) : List Char :=
  dropEndWhile isBlank (cs.dropWhile isBlank)

/-- The text without leading and trailing blanks. -/
def trim (s : String) : String :=
  String.ofList (trimChars s.toList)

/-! ## §3. Cutting texts. -/

/-- What follows `head` in `cs`, if `cs` starts with it. -/
def dropPrefix? (head : List Char) (cs : List Char) : Option (List Char) :=
  if head.isPrefixOf cs then some (cs.drop head.length) else none

/-- The parts before and after the first `c`. -/
def splitOnce? (c : Char) (cs : List Char) : Option (List Char × List Char) :=
  match cs with
  | [] => none
  | d :: rest =>
      if d = c then some ([], rest)
      else (splitOnce? c rest).map fun (before, after) => (d :: before, after)

/-- Does `s` start with `head`? -/
def startsWith (head s : String) : Bool :=
  head.toList.isPrefixOf s.toList

/-- Split at every `c`; a text without `c` is one piece. -/
def splitAll (c : Char) : List Char → List (List Char)
  | [] => [[]]
  | d :: rest =>
      if d = c then [] :: splitAll c rest
      else match splitAll c rest with
        | [] => [[d]]
        | piece :: pieces => (d :: piece) :: pieces

end DebugMerge.Text
