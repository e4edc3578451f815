/-
  DebugMerge.Dump.Document
  ────────────────────────
  **The documents of a dump tool.**

  A dump tool prints one JSON object that holds the identity of the debug file
  beside the four lists of records.  The identity is read as a record; the
  other fields are first read without knowing their types, so all of them must
  be readable, and unknown ones do not matter.

  Main definitions
    • `DumpIdentity`, `.toIdentity`     — identities as a tool prints them
    • `DumpDocument`, `.parse?`         — documents
-/
import DebugMerge.Identity.Basic
import DebugMerge.Json.Reader
import DebugMerge.Load.Error

namespace DebugMerge

open Json

/-- An identity as a tool prints it. -/
structure DumpIdentity where
  guid : Option String
  signature : Option UInt32
  age : UInt32
  file : Option String
  deriving DecidableEq

namespace DumpIdentity

/-- Read an identity. -/
def ofJson? (v : Json) : Option DumpIdentity := do
  match ← slots? ["guid", "signature", "age", "file"] v with
  | [guid, signature, age, file] =>
      return {
        guid := ← guid.optional text?
        signature := ← signature.optional word32?
        age := ← age.required word32?
        file := ← file.optional text? }
  | _ => none

/-- The identity of the debug file `path`.  A GUID wins over a signature. -/
def toIdentity (identity : DumpIdentity) (path : String) : Except LoadError Identity :=
  let file := identity.file.getD path
  match identity.guid, identity.signature with
  | some guid, _ => .ok ((Identity.ofGuid guid identity.age).withFile file)
  | none, some signature => .ok ((Identity.ofSignature signature identity.age).withFile file)
  | none, none => .error (.malformed "dump identity carries neither a GUID nor a signature")

end DumpIdentity

/-- A dump tool's document. -/
structure DumpDocument where
  identity : DumpIdentity
  info : DebugInfo
  deriving DecidableEq

namespace DumpDocument

/-- The field of the identity. -/
def identityField : String := "identity"

/-- Read a document. -/
def ofJson? : Json → Option DumpDocument
  | object fields => do
      let slot ← slotOf? identityField fields
      let identity ← slot.required DumpIdentity.ofJson?
      let others := fields.filter fun field => field.1 ≠ identityField
      if others.all fun field => (field.2.generic? (maxDepth - 1)).isSome then
        let info ← DebugInfo.ofJson? (object others)
        return ⟨identity, info⟩
      else none
  | _ => none

/-- Read the text of a document. -/
def parse? (text : String) : Option DumpDocument :=
  (Json.parse? text).bind ofJson?

end DumpDocument

end DebugMerge
