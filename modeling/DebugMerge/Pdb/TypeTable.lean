/-
  DebugMerge.Pdb.TypeTable
  ────────────────────────
  **The type stream: numbered records that refer to one another.**

  Records are numbered from the first number of the stream on; smaller numbers
  up to `0x1000` are built-in types.  While the stream is read from front to
  back, a record can be looked up once the reading has come near enough:
  positions are noted for every eighth record, and the seven behind a noted one
  are found from it.  A stream whose numbers end where they start notes nothing.

  Main definitions
    • `TypeTable`, `typeTable`         — the stream
    • `TypeTable.find?`                — looking up while reading
    • `typeName`                       — the name of a type
    • `collectMembers?`                — the members behind a field list
    • `readDefinition`                 — the data type of a record
-/
import DebugMerge.Pdb.Symbols
import DebugMerge.Pdb.TypeData

namespace DebugMerge.Pdb

/-! ## §1. The stream. -/

/-- The type stream: its first and last numbers, its records, and how it breaks off. -/
structure TypeTable where
  first : Nat
  last : Nat
  records : Array (List UInt8)
  failure : Option PdbError

/-- The length of the header that is understood. -/
def typeHeaderSize : Nat := 56

/-- The type stream.  An empty stream has no records. -/
def typeTable (c : Container) : Except PdbError TypeTable := do
  let bs ← c.stream 2
  if bs.isEmpty then return ⟨0, 0, #[], none⟩
  let ((headerSize, first, last), rest) ← whole (do
    Take.skip 4
    let headerSize ← Take.u32
    let first ← Take.u32
    let last ← Take.u32
    Take.skip 40
    return (headerSize, first, last)) bs
  if headerSize < typeHeaderSize then
    throw (.typeHeader "header size is impossibly small")
  if headerSize > 1024 then throw (.typeHeader "header size is unreasonably large")
  let (_, rest) ← whole (Take.skip (headerSize - typeHeaderSize)) rest
  if first < 0x1000 then throw (.typeHeader "minimum type index is < 4096")
  if last < first then
    throw (.typeHeader "maximum type index is < minimum type index")
  let list := readRecords .typeTooShort rest.length rest
  return ⟨first, last, list.records.toArray, list.failure⟩

/-! ## §2. Looking up. -/

/-- A built-in type: its name, and whether it is a pointer to it. -/
structure Builtin where
  name : String
  isPointer : Bool
  deriving DecidableEq

/-- The names of built-in types by the low half of their number. -/
def builtinName? : Nat → Option String
  | 0x00 => some "notype"
  | 0x03 => some "void"
  | 0x08 => some "hresult"
  | 0x10 => some "char"
  | 0x11 => some "short"
  | 0x12 => some "long"
  | 0x13 => some "quad"
  | 0x14 => some "octa"
  | 0x20 => some "uchar"
  | 0x21 => some "ushort"
  | 0x22 => some "ulong"
  | 0x23 => some "uquad"
  | 0x24 => some "uocta"
  | 0x30 => some "bool8"
  | 0x31 => some "bool16"
  | 0x32 => some "bool32"
  | 0x33 => some "bool64"
  | 0x40 => some "f32"
  | 0x41 => some "f64"
  | 0x42 => some "f80"
  | 0x43 => some "f128"
  | 0x44 => some "f48"
  | 0x45 => some "f32pp"
  | 0x46 => some "f16"
  | 0x50 => some "complex32"
  | 0x51 => some "complex64"
  | 0x52 => some "complex80"
  | 0x53 => some "complex128"
  | 0x68 => some "i8"
  | 0x69 => some "u8"
  | 0x70 => some "rchar"
  | 0x71 => some "wchar"
  | 0x72 => some "i16"
  | 0x73 => some "u16"
  | 0x74 => some "i32"
  | 0x75 => some "u32"
  | 0x76 => some "i64"
  | 0x77 => some "u64"
  | 0x78 => some "i128"
  | 0x79 => some "u128"
  | 0x7A => some "rchar16"
  | 0x7B => some "rchar32"
  | _ => none

/-- The built-in type with a number below `0x1000`. -/
def builtin? (index : Nat) : Option Builtin := do
  let form := index / 0x100 % 16
  let name ← builtinName? (index % 0x100)
  if form < 8 then some ⟨name, form ≠ 0⟩ else none

/-- A type that was looked up. -/
inductive Found where
  | builtin (b : Builtin)
  | record (data : TypeData)
  deriving DecidableEq

/-- Can record number `k` be looked up when the reading has just passed record
number `at`?  Both count from zero. -/
def isNoted (at' k : Nat) : Bool :=
  k / 8 ≤ (at' + 1) / 8

/-- Look up a type while the reading has just passed record number `at'`.  The records are
those that the reading passes; one behind a record that is too short is not found, although a
noted position may lie in front of it. -/
def TypeTable.find? (table : TypeTable) (at' index : Nat) : Option Found :=
  if index < 0x1000 then (builtin? index).map .builtin
  else if table.last = table.first ∨ index < table.first ∨ table.last < index then none
  else
    let k := index - table.first
    if isNoted at' k then do
      let record ← table.records[k]?
      let data ← typeData? record
      return .record data
    else none

/-! ## §3. Names and members. -/

/-- A look-up of types. -/
abbrev Lookup := Nat → Option Found

/-- A type that can only be named by its number. -/
def opaqueName (index : Nat) : String :=
  "type#0x" ++ Text.hex index

/-- The name of a type, if it is no deeper than `depth` wrappers. -/
def typeNameWithin (find : Lookup) : Nat → Nat → String
  | 0, index => opaqueName index
  | depth + 1, index =>
      match find index with
      | some (.builtin b) => if b.isPointer then b.name ++ "*" else b.name
      | some (.record (.definition d)) => d.name
      | some (.record (.pointer target)) => typeNameWithin find depth target ++ "*"
      | some (.record (.modifier target)) => typeNameWithin find depth target
      | some (.record (.array item)) => typeNameWithin find depth item ++ "[]"
      | _ => opaqueName index

/-- Types nest at most so many wrappers deep before they are named by number. -/
def maxWrappers : Nat := 8

/-- The name of a type. -/
def typeName (find : Lookup) (index : Nat) : String :=
  typeNameWithin find (maxWrappers + 1) index

/-- A field as a member of a data type. -/
def Field.toMember (find : Lookup) : Field → Member
  | .dataMember name offset type => ⟨name, offset, typeName find type⟩
  | .enumerator name value => ⟨name, value, ""⟩

/-- The members behind a field list, after those that were read before.  A list may go on
in another one.  Lists that lead back to themselves are followed forever, so this loop does
not end for every stream; where it does not end it has no answer. -/
def Lookup.collectAfter? (find : Lookup) (before : List Member) (index : Nat) :
    Option (List Member) :=
  match find index with
  | some (.record (.fieldList fields next)) =>
      let members := before ++ fields.map (Field.toMember find)
      match next with
      | none => some members
      | some index => find |>.collectAfter? members index
  | _ => some before
partial_fixpoint

/-- The members behind a field list. -/
def collectMembers? (find : Lookup) (index : Nat) : Option (List Member) :=
  find.collectAfter? [] index

/-! ## §4. Data types. -/

/-- Names that the compiler made up. -/
def isUnnamed (name : String) : Bool :=
  Text.startsWith "<unnamed-" name || Text.startsWith "<anonymous-" name

/-- What reading one record gives. -/
inductive Reading where
  /-- Not a data type, unreadable, or without a name of its own. -/
  | nothing
  | type (record : TypeRecord)
  /-- Never an answer: the fields are followed forever. -/
  | endless

/-- The data type of record number `k`, counted from zero. -/
def readDefinition (table : TypeTable) (wantsMembers : Bool) (k : Nat) (record : List UInt8) :
    Reading :=
  match typeData? record with
  | some (.definition d) =>
      if isUnnamed d.name then .nothing
      else
        let size := if d.isForward then 0 else d.size
        match d.fields with
        | some fields =>
            if wantsMembers && !d.isForward then
              match collectMembers? (table.find? k) fields with
              | some members => .type ⟨d.name, d.kind, size, members⟩
              | none => .endless
            else .type ⟨d.name, d.kind, size, []⟩
        | none => .type ⟨d.name, d.kind, size, []⟩
  | _ => .nothing

end DebugMerge.Pdb
