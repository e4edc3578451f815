/-
  DebugMerge.Pdb.TypeData
  ───────────────────────
  **What a type record says.**

  A type record starts with its kind.  Classes, unions and enumerations have a
  name and point to a list of fields; pointers, modifiers and arrays wrap
  another type.  A field list is a run of fields, which cannot be skipped
  without being understood: one bad field makes the whole list unreadable.

  Main definitions
    • `TypeData`, `Field`              — records and fields
    • `takeUnsigned`, `takeValue`      — numbers of variable length
    • `takeFields`                     — field lists
    • `typeData?`                      — the record of some bytes
-/
import DebugMerge.Binary.Take
import DebugMerge.Records.Basic

namespace DebugMerge.Pdb

/-! ## §1. Records. -/

/-- A field of interest. -/
inductive Field where
  | dataMember (name : String) (offset : UInt64) (type : Nat)
  | enumerator (name : String) (value : UInt64)
  deriving DecidableEq

/-- A class, union or enumeration. -/
structure Definition where
  name : String
  kind : TypeKind
  size : UInt64
  /-- Where its fields are listed, if anywhere. -/
  fields : Option Nat
  /-- Declared here and defined elsewhere. -/
  isForward : Bool
  deriving DecidableEq

/-- What a type record says. -/
inductive TypeData where
  /-- A class, union or enumeration. -/
  | definition (d : Definition)
  | pointer (target : Nat)
  | modifier (target : Nat)
  | array (item : Nat)
  /-- The fields of interest, and where the list goes on. -/
  | fieldList (fields : List Field) (next : Option Nat)
  /-- A readable record of another kind. -/
  | other
  deriving DecidableEq

/-! ## §2. Numbers and names. -/

/-- An unsigned number: small ones stand for themselves, others follow their width. -/
def takeUnsigned : Take UInt64 := do
  let leaf ← Take.u16
  if leaf < 0x8000 then return UInt64.ofNat leaf
  else match leaf with
    | 0x8000 => return UInt64.ofNat (← Take.u8)
    | 0x8002 => return UInt64.ofNat (← Take.u16)
    | 0x8004 => return UInt64.ofNat (← Take.u32)
    | 0x800A => return UInt64.ofNat (← Take.u64)
    | _ => Take.fail

/-- A number of `width` bytes, extended by its sign to 64 bits. -/
def takeSigned (width : Nat) : Take UInt64 := do
  let n ← Take.number width
  if n < Nat.pow 2 (8 * width - 1) then return UInt64.ofNat n
  else return UInt64.ofNat (Text.limit64 - Nat.pow 2 (8 * width) + n)

/-- The value of an enumerator; negative ones keep their bits. -/
def takeValue : Take UInt64 := do
  let leaf ← Take.u16
  if leaf < 0x8000 then return UInt64.ofNat leaf
  else match leaf with
    | 0x8000 => return UInt64.ofNat (← Take.u8)
    | 0x8001 => takeSigned 2
    | 0x8002 => return UInt64.ofNat (← Take.u16)
    | 0x8003 => takeSigned 4
    | 0x8004 => return UInt64.ofNat (← Take.u32)
    | 0x8009 => takeSigned 8
    | 0x800A => return UInt64.ofNat (← Take.u64)
    | _ => Take.fail

/-- A name; older kinds of records put its length in front. -/
def takeRecordName (leaf : Nat) : Take String :=
  if leaf > 0x1500 then Take.zeroText else Take.countedText

/-- Drop the second name of a record that has one. -/
def skipUniqueName (leaf properties : Nat) : Take Unit := do
  if properties.testBit 9 then
    let _ ← takeRecordName leaf

/-! ## §3. Definitions and wrappers. -/

/-- Where a class lists its fields; two numbers stand for nowhere. -/
def fieldsOf (index : Nat) : Option Nat :=
  if index = 0 ∨ index = 0xFFFF then none else some index

/-- Does the record only declare the name? -/
def isForward (properties : Nat) : Bool :=
  properties.testBit 7

/-- A class or structure. -/
def takeClass (leaf : Nat) (kind : TypeKind) : Take TypeData := do
  Take.skip 2
  let properties ← Take.u16
  let fields ← Take.u32
  Take.skip 8
  let size ← takeUnsigned
  let name ← takeRecordName leaf
  skipUniqueName leaf properties
  return .definition ⟨name, kind, size, fieldsOf fields, isForward properties⟩

/-- A union. -/
def takeUnion (leaf : Nat) : Take TypeData := do
  Take.skip 2
  let properties ← Take.u16
  let fields ← Take.u32
  let size ← takeUnsigned
  let name ← takeRecordName leaf
  skipUniqueName leaf properties
  return .definition ⟨name, .union, size, some fields, isForward properties⟩

/-- An enumeration, whose size is not recorded. -/
def takeEnum (leaf : Nat) : Take TypeData := do
  Take.skip 2
  let properties ← Take.u16
  Take.skip 4
  let fields ← Take.u32
  let name ← takeRecordName leaf
  skipUniqueName leaf properties
  return .definition ⟨name, .enum, 0, some fields, isForward properties⟩

/-- A pointer; one to a member also names the class. -/
def takePointer : Take TypeData := do
  let target ← Take.u32
  let attributes ← Take.u32
  let mode := attributes / 0x20 % 8
  if mode = 2 ∨ mode = 3 then Take.skip 4
  return .pointer target

/-- A modified type. -/
def takeModifier : Take TypeData := do
  let target ← Take.u32
  Take.skip 2
  return .modifier target

/-- The dimensions of an array up to a zero byte.  Every dimension takes bytes, so
`steps` may be their number. -/
def skipDimensions : Nat → Take Unit
  | 0 => Take.fail
  | steps + 1 => do
      let size ← takeUnsigned
      if size.toNat ≥ Text.limit32 then Take.fail
      if (← Take.peek) = 0 then Take.skip 1 else skipDimensions steps

/-- An array; a strided one has a stride. -/
def takeArray (isStrided : Bool) : Take TypeData := do
  let item ← Take.u32
  Take.skip 4
  if isStrided then Take.skip 4
  let bs ← get
  skipDimensions (bs.length + 1)
  return .array item

/-! ## §4. Fields. -/

/-- A field that is not of interest has this form: nothing, or the reading failed. -/
def passed (take : Take Unit) : Take (Option Field) := do
  take
  return none

/-- A field that is no list, after its kind. -/
def takeField (leaf : Nat) : Take (Option Field) :=
  match leaf with
  | 0x150D | 0x1405 => do
      Take.skip 2
      let type ← Take.u32
      let offset ← takeUnsigned
      let name ← takeRecordName leaf
      return some (.dataMember name offset type)
  | 0x1502 | 0x0403 => do
      Take.skip 2
      let value ← takeValue
      let name ← takeRecordName leaf
      return some (.enumerator name value)
  -- nested types and static members
  | 0x1510 | 0x1408 | 0x1512 | 0x140D | 0x150E | 0x1406 => passed do
      Take.skip 6
      let _ ← takeRecordName leaf
  -- methods; a new virtual one has a table offset
  | 0x1511 | 0x140B => passed do
      let attributes ← Take.u16
      Take.skip 4
      let form := attributes / 4 % 8
      if form = 4 ∨ form = 6 then Take.skip 4
      let _ ← takeRecordName leaf
  -- overloaded methods
  | 0x150F | 0x1407 => passed do
      Take.skip 6
      let _ ← takeRecordName leaf
  -- base classes
  | 0x1400 | 0x151A => passed do
      Take.skip 6
      let _ ← takeUnsigned
  -- virtual base classes
  | 0x1401 | 0x1402 => passed do
      Take.skip 10
      let _ ← takeUnsigned
      let _ ← takeUnsigned
  -- pointers to virtual function tables
  | 0x1409 => passed (Take.skip 6)
  | 0x140C => passed (Take.skip 10)
  | _ => Take.fail

/-- A record that is no field list, after its kind. -/
def takeRecord (leaf : Nat) : Take TypeData :=
  match leaf with
  | 0x1504 | 0x1004 | 0x1519 => takeClass leaf .class
  | 0x1505 | 0x1005 => takeClass leaf .struct
  | 0x1506 | 0x1006 => takeUnion leaf
  | 0x1507 | 0x1007 => takeEnum leaf
  | 0x1002 => takePointer
  | 0x1001 => takeModifier
  | 0x1503 | 0x1003 => takeArray false
  | 0x1516 => takeArray true
  -- bit fields, functions and methods
  | 0x1205 => do
      Take.skip 6
      return .other
  | 0x1008 => do
      Take.skip 12
      return .other
  | 0x1009 => do
      Take.skip 24
      return .other
  | _ => do
      let _ ← takeField leaf
      return .other

/-! ## §5. Field lists. -/

/-- Drop padding: bytes from `F0` up, whose low half says how many bytes there are.
Every pad takes bytes, so `steps` may be their number. -/
def skipPadding : Nat → Take Unit
  | 0 => return
  | steps + 1 => do
      if !(← Take.atEnd) then
        let pad ← Take.peek
        if pad ≥ 0xF0 then
          Take.skip 1
          Take.skip (pad % 16 - 1)
          skipPadding steps

/-- One field or the number of the list that goes on. -/
inductive Item where
  | field (f : Option Field)
  | next (list : Nat)

/-- The item after a kind that is no list's.  Lists of arguments (`0x1201`) and of methods
(`0x1206`) are not read: they never stand among fields, and one that did would make the
whole list unreadable here. -/
def takeItem (leaf : Nat) : Take Item :=
  match leaf with
  | 0x1404 => do return .next (← Take.u32)
  | 0x1504 | 0x1004 | 0x1519 | 0x1505 | 0x1005 | 0x1506 | 0x1006 | 0x1507 | 0x1007 | 0x1002
  | 0x1001 | 0x1503 | 0x1003 | 0x1516 | 0x1205 | 0x1008 | 0x1009 => do
      let _ ← takeRecord leaf
      return .field none
  | _ => do return .field (← takeField leaf)

/-- The kind of field lists. -/
def fieldListLeaf : Nat := 0x1203

/-- The fields of interest to the end of the bytes, and where the list goes on.  Of
several continuations the last counts.  A list inside a list takes all bytes
and adds nothing.  Every item takes bytes, so `steps` may be their number. -/
def takeFields : Nat → Take (List Field × Option Nat)
  | 0 => return ([], none)
  | steps + 1 => do
      if ← Take.atEnd then return ([], none)
      let leaf ← Take.u16
      if leaf = fieldListLeaf then
        let _ ← takeFields steps
        return ([], none)
      let item ← takeItem leaf
      let bs ← get
      skipPadding bs.length
      let (fields, next) ← takeFields steps
      match item with
      | .field f => return (f.toList ++ fields, next)
      | .next list => return (fields, next <|> some list)

/-- What the bytes of a record say. -/
def typeData? (record : List UInt8) : Option TypeData :=
  Take.front? (do
    let leaf ← Take.u16
    if leaf = fieldListLeaf then
      let bs ← get
      let (fields, next) ← takeFields (bs.length + 1)
      return .fieldList fields next
    takeRecord leaf) record

end DebugMerge.Pdb
