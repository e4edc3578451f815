/-
  DebugMerge.Identity.Basic
  ─────────────────────────
  **Which build a debug file belongs to.**

  A debug file and an executable carry the same identity if they come from the
  same build: a unique id (a GUID, or a 32-bit signature in older formats) and
  an age that every incremental link raises.  A program records the identity it
  expects; a candidate matches only if both parts are equal, and a program
  without an expectation matches nothing.

  Main definitions
    • `UniqueId`, `Identity`             — identities
    • `normalGuid`                       — GUID texts made comparable
    • `Identity.matches`, `verify`       — comparison
    • `Mismatch.message`                 — the question put to the operator
    • `guidText`                         — the text of sixteen stored bytes
-/
import DebugMerge.Json.Shape
import DebugMerge.Records.Format
import DebugMerge.Text.Blank
import DebugMerge.Text.LowerCase
import DebugMerge.Text.Numeral

namespace DebugMerge

/-! ## §1. Identities. -/

/-- The part of an identity that is unique to a build. -/
inductive UniqueId where
  | guid (text : String)
  | signature (value : UInt32)
  deriving DecidableEq, Repr

/-- A GUID without outer blanks and braces, its letters raised. -/
def normalGuid (s : String) : String :=
  let inner := Text.dropEndWhile (· = '\x7d') ((Text.trimChars s.toList).dropWhile (· = '\x7b'))
  String.ofList (inner.map Char.toUpper)

/-- The id of a GUID text. -/
def UniqueId.ofGuid (s : String) : UniqueId :=
  .guid (normalGuid s)

/-- An id as it is shown. -/
def UniqueId.label : UniqueId → String
  | guid g => "GUID: " ++ g
  | signature s => "Signature: 0x" ++ Text.hexUpperPadded 8 s.toNat

/-- The identity of a debug file or of the file an executable asks for. -/
structure Identity where
  uniqueId : UniqueId
  age : UInt32
  /-- Name or path of the file, for display only. -/
  file : Option String
  deriving DecidableEq, Repr

namespace Identity

/-- An identity from a GUID text. -/
def ofGuid (guid : String) (age : UInt32) : Identity :=
  ⟨.ofGuid guid, age, none⟩

/-- An identity from a signature. -/
def ofSignature (signature age : UInt32) : Identity :=
  ⟨.signature signature, age, none⟩

/-- The identity with a file name. -/
def withFile (file : String) (identity : Identity) : Identity :=
  { identity with file := some file }

/-- Two identities match if id and age are equal; the file name does not count. -/
def «matches» (a b : Identity) : Bool :=
  a.uniqueId == b.uniqueId && a.age == b.age

/-- Three lines that describe an identity. -/
def describe (identity : Identity) : String :=
  "PDB File: " ++ identity.file.getD "(unknown)" ++ "\n"
    ++ identity.uniqueId.label ++ "\n"
    ++ "Age: " ++ Text.decimal identity.age.toNat ++ "\n"

end Identity

/-! ## §2. Comparison with the expectation. -/

/-- What an expectation and a candidate that does not meet it look like. -/
structure Mismatch where
  expected : Option Identity
  candidate : Identity
  deriving DecidableEq, Repr

/-- A line with one blank, which no display collapses. -/
def blankLine : String := " \n"

/-- The question that names both identities. -/
def Mismatch.message (m : Mismatch) : String :=
  "Selected PDB does not match program's PDB specification!\n" ++ blankLine
    ++ "Program's PDB specification:\n"
    ++ (match m.expected with
        | some expected => expected.describe
        | none => "(no PDB information recorded for this program)\n")
    ++ blankLine
    ++ "Selected PDB file specification:\n"
    ++ m.candidate.describe
    ++ blankLine
    ++ "Do you wish to force load this PDB?"

/-- The result of comparing a candidate with the expectation. -/
inductive IdentityCheck where
  | match
  | mismatch (details : Mismatch)
  deriving DecidableEq, Repr

/-- Compare a candidate with what the program expects. -/
def verify (expected : Option Identity) (candidate : Identity) : IdentityCheck :=
  match expected with
  | some e => if e.matches candidate then .match else .mismatch ⟨expected, candidate⟩
  | none => .mismatch ⟨none, candidate⟩

/-! ## §3. GUIDs in binary records. -/

/-- The number that bytes denote, least significant first. -/
def littleEndian : List UInt8 → Nat
  | [] => 0
  | b :: rest => b.toNat + 256 * littleEndian rest

/-- The text of a GUID stored in sixteen bytes: the first three fields are
little-endian numbers, the other eight bytes stand as they are. -/
def guidText (bytes : List UInt8) : String :=
  let byte (b : UInt8) := Text.hexUpperPadded 2 b.toNat
  let field (width start count : Nat) :=
    Text.hexUpperPadded width (littleEndian ((bytes.drop start).take count))
  field 8 0 4 ++ "-" ++ field 4 4 2 ++ "-" ++ field 4 6 2 ++ "-"
    ++ String.join (((bytes.drop 8).take 2).map byte) ++ "-"
    ++ String.join (((bytes.drop 10).take 6).map byte)

/-! ## §4. Documents. -/

open Json

/-- An id as JSON: an object with the one field that names its form. -/
def UniqueId.toJson : UniqueId → Json
  | guid g => object [("guid", text g)]
  | signature s => object [("signature", ofWord32 s)]

/-- Read an id. -/
def UniqueId.ofJson? : Json → Option UniqueId
  | object [(name, v)] =>
      if name = "guid" then (text? v).map guid
      else if name = "signature" then (word32? v).map signature
      else none
  | _ => none

/-- An identity as JSON; the file is left out if there is none. -/
def Identity.toJson (identity : Identity) : Json :=
  object ([("unique_id", identity.uniqueId.toJson), ("age", ofWord32 identity.age)]
    ++ (identity.file.map fun file => ("file", text file)).toList)

/-- Read an identity. -/
def Identity.ofJson? (v : Json) : Option Identity := do
  match ← slots? ["unique_id", "age", "file"] v with
  | [uniqueId, age, file] =>
      return {
        uniqueId := ← uniqueId.required UniqueId.ofJson?
        age := ← age.required word32?
        file := ← file.optional text? }
  | _ => none

end DebugMerge
