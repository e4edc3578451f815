/-
  DebugMerge.Mangling.Basic
  ─────────────────────────
  **Mangled names made readable.**

  A name that starts with a question mark is a decorated declaration; one that
  starts with `_R` or `_ZN` is a mangled path.  A mangled path may carry an ending that a
  link-time optimiser put there, which is dropped, and another one of words
  behind points, which is kept.  Every other name is plain.

  Main definitions
    • `looksMangled`     — does the name start like a mangled one?
    • `demangle`         — the readable name
-/
import DebugMerge.Mangling.Decorated
import DebugMerge.Mangling.Nested
import DebugMerge.Mangling.Path

namespace DebugMerge

/-! ## §1. Endings of mangled paths. -/

/-- Does the name start like a mangled path? -/
def isMangledPath (name : String) : Bool :=
  Text.startsWith "_R" name || Text.startsWith "_ZN" name

/-- Does the name start like a decorated declaration? -/
def isDecorated (name : String) : Bool :=
  Text.startsWith "?" name

/-- Does the name start like a mangled one? -/
def looksMangled (name : String) : Bool :=
  isDecorated name || isMangledPath name

/-- The mark of an ending put there by a link-time optimiser. -/
def optimiserMark : List Char := ".llvm.".toList

/-- What stands before and after the first optimiser's mark. -/
def splitOptimiser? : List Char → Option (List Char × List Char)
  | [] => none
  | c :: rest =>
      match Text.dropPrefix? optimiserMark (c :: rest) with
      | some after => some ([], after)
      | none => (splitOptimiser? rest).map fun (before, after) => (c :: before, after)

/-- The name without an optimiser's ending: numerals, capitals up to `F` and at signs. -/
def withoutOptimiser (cs : List Char) : List Char :=
  match splitOptimiser? cs with
  | some (before, after) =>
      if after.all fun c => c.isDigit || ('A' ≤ c && c ≤ 'F') || c == '@' then before else cs
  | none => cs

/-- Is an ending one that is kept: empty, or printable and behind a point? -/
def isKept (ending : List Char) : Bool :=
  match ending with
  | [] => true
  | c :: _ => c == '.' && ending.all fun c => 0x21 ≤ c.toNat && c.toNat ≤ 0x7E

/-! ## §2. Readable names. -/

/-- The readable form of a mangled path. -/
def demanglePath (name : String) : Option String :=
  let cs := withoutOptimiser name.toList
  let parts := match Nested.parse? cs with
    | some (names, ending) => some (Nested.render names, ending)
    | none => (PathName.parse? cs).map fun (inner, ending) => (PathName.render inner, ending)
  match parts with
  | some (text, ending) => if isKept ending then some (text ++ String.ofList ending) else none
  | none => none

/-- The readable form of a mangled name; a plain or unreadable name has none. -/
def demangle (name : String) : Option String :=
  if isDecorated name then Decorated.demangle? name
  else if isMangledPath name then demanglePath name
  else none

end DebugMerge
