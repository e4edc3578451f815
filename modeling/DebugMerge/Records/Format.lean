/-
  DebugMerge.Records.Format
  ─────────────────────────
  **Records as JSON documents.**

  Each record has a writer `toJson`, whose fields stand in declaration order,
  and a reader `ofJson?`.  Sizes, member lists and the scope of a symbol may be
  left out; so may each of the four lists of a whole file.

  Main definitions
    • `toJson`, `ofJson?` of every record type
-/
import DebugMerge.Json.Shape
import DebugMerge.Records.Basic

namespace DebugMerge

open Json

/-! ## §1. Vocabularies. -/

/-- Read a choice by the word for it. -/
def Json.choice? {α : Type} (ofWord? : String → Option α) (v : Json) : Option α :=
  (tag? v).bind ofWord?

/-- A category as JSON. -/
def RecordKind.toJson (kind : RecordKind) : Json := text kind.word

/-- Read a category. -/
def RecordKind.ofJson? : Json → Option RecordKind := choice? RecordKind.ofWord?

/-- A kind of type as JSON. -/
def TypeKind.toJson (kind : TypeKind) : Json := text kind.word

/-- Read a kind of type. -/
def TypeKind.ofJson? : Json → Option TypeKind := choice? TypeKind.ofWord?

/-- A kind of symbol as JSON. -/
def SymbolKind.toJson (kind : SymbolKind) : Json := text kind.word

/-- Read a kind of symbol. -/
def SymbolKind.ofJson? : Json → Option SymbolKind := choice? SymbolKind.ofWord?

/-- A scope as JSON. -/
def SymbolScope.toJson (scope : SymbolScope) : Json := text scope.word

/-- Read a scope. -/
def SymbolScope.ofJson? : Json → Option SymbolScope := choice? SymbolScope.ofWord?

/-! ## §2. Words. -/

/-- A 64-bit word as JSON. -/
def Json.ofWord64 (n : UInt64) : Json := natural n.toNat

/-- A 32-bit word as JSON. -/
def Json.ofWord32 (n : UInt32) : Json := natural n.toNat

/-! ## §3. Records. -/

namespace Member

/-- A member as JSON. -/
def toJson (m : Member) : Json :=
  object [("name", text m.name), ("offset", ofWord64 m.offset), ("type_name", text m.typeName)]

/-- Read a member; its type's name may be left out. -/
def ofJson? (v : Json) : Option Member := do
  match ← slots? ["name", "offset", "type_name"] v with
  | [name, offset, typeName] =>
      return {
        name := ← name.required text?
        offset := ← offset.required word64?
        typeName := ← typeName.defaulted "" text? }
  | _ => none

end Member

namespace TypeRecord

/-- A data type as JSON. -/
def toJson (r : TypeRecord) : Json :=
  object [("name", text r.name), ("kind", r.kind.toJson), ("size", ofWord64 r.size),
    ("members", list (r.members.map Member.toJson))]

/-- Read a data type; its size and members may be left out. -/
def ofJson? (v : Json) : Option TypeRecord := do
  match ← slots? ["name", "kind", "size", "members"] v with
  | [name, kind, size, members] =>
      return {
        name := ← name.required text?
        kind := ← kind.required TypeKind.ofJson?
        size := ← size.defaulted 0 word64?
        members := ← members.defaulted [] (list? Member.ofJson?) }
  | _ => none

end TypeRecord

namespace SymbolRecord

/-- A symbol as JSON. -/
def toJson (r : SymbolRecord) : Json :=
  object [("name", text r.name), ("rva", ofWord64 r.rva), ("size", ofOption ofWord64 r.size),
    ("kind", r.kind.toJson), ("scope", r.scope.toJson)]

/-- Read a symbol; without a scope it is public. -/
def ofJson? (v : Json) : Option SymbolRecord := do
  match ← slots? ["name", "rva", "size", "kind", "scope"] v with
  | [name, rva, size, kind, scope] =>
      return {
        name := ← name.required text?
        rva := ← rva.required word64?
        size := ← size.optional word64?
        kind := ← kind.required SymbolKind.ofJson?
        scope := ← scope.defaulted .publicTable SymbolScope.ofJson? }
  | _ => none

end SymbolRecord

namespace LineRecord

/-- A source line as JSON. -/
def toJson (r : LineRecord) : Json :=
  object [("rva", ofWord64 r.rva), ("file", text r.file), ("line", ofWord32 r.line)]

/-- Read a source line. -/
def ofJson? (v : Json) : Option LineRecord := do
  match ← slots? ["rva", "file", "line"] v with
  | [rva, file, line] =>
      return {
        rva := ← rva.required word64?
        file := ← file.required text?
        line := ← line.required word32? }
  | _ => none

end LineRecord

namespace CommentRecord

/-- A comment as JSON. -/
def toJson (r : CommentRecord) : Json :=
  object [("rva", ofWord64 r.rva), ("text", Json.text r.text)]

/-- Read a comment. -/
def ofJson? (v : Json) : Option CommentRecord := do
  match ← slots? ["rva", "text"] v with
  | [rva, text] =>
      return {
        rva := ← rva.required word64?
        text := ← text.required text? }
  | _ => none

end CommentRecord

/-! ## §4. Whole files. -/

namespace DebugInfo

/-- The fields of a file's content. -/
def toFields (info : DebugInfo) : List (String × Json) :=
  [("types", list (info.types.map TypeRecord.toJson)),
   ("symbols", list (info.symbols.map SymbolRecord.toJson)),
   ("lines", list (info.lines.map LineRecord.toJson)),
   ("comments", list (info.comments.map CommentRecord.toJson))]

/-- A file's content as JSON. -/
def toJson (info : DebugInfo) : Json :=
  object info.toFields

/-- Read a file's content; a list that is left out is empty. -/
def ofJson? (v : Json) : Option DebugInfo := do
  match ← slots? ["types", "symbols", "lines", "comments"] v with
  | [types, symbols, lines, comments] =>
      return {
        types := ← types.defaulted [] (list? TypeRecord.ofJson?)
        symbols := ← symbols.defaulted [] (list? SymbolRecord.ofJson?)
        lines := ← lines.defaulted [] (list? LineRecord.ofJson?)
        comments := ← comments.defaulted [] (list? CommentRecord.ofJson?) }
  | _ => none

end DebugInfo

end DebugMerge
