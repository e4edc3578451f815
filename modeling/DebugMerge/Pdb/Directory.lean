/-
  DebugMerge.Pdb.Directory
  ────────────────────────
  **What the fixed streams say about the others.**

  Stream one identifies the file; stream three names the streams of symbols,
  lists the modules, and names the streams that describe sections.  Stream two
  holds the types.

  Main definitions
    • `FileInfo`, `DebugHeader`, `Module`     — the fixed records
    • `FileInfo.guidText`                     — the GUID as a text
    • `fileInfo`, `debugStream`, `modules`    — reading them
    • `Extras`, `extras`                      — the streams about sections
    • `fileIdentity`                          — the identity of a debug file
-/
import DebugMerge.Pdb.Container

namespace DebugMerge.Pdb

/-! ## §1. The file's identity. -/

/-- The record of stream one. -/
structure FileInfo where
  age : Nat
  guid : List UInt8
  deriving DecidableEq

/-- Read the record of stream one, which ends in the size of a table of names. -/
def takeFileInfo : Take FileInfo := do
  Take.skip 8
  let age ← Take.u32
  let guid ← Take.bytes 16
  Take.skip 4
  return ⟨age, guid⟩

/-- The record of stream one. -/
def fileInfo (c : Container) : Except PdbError FileInfo := do
  let (info, _) ← whole takeFileInfo (← c.stream 1)
  return info

/-- The bytes of a GUID in the order of its text: the first three fields are stored with the
least significant byte in front. -/
def guidOrder (guid : List UInt8) : List UInt8 :=
  (guid.take 4).reverse ++ ((guid.drop 4).take 2).reverse ++ ((guid.drop 6).take 2).reverse
    ++ guid.drop 8

/-- The two small hexadecimal digits of a byte. -/
def smallDigits (b : UInt8) : String :=
  Text.padLeft 2 '0' (Text.hex b.toNat)

/-- The GUID as a text: small digits, byte after byte, with hyphens between its five groups. -/
def FileInfo.guidText (info : FileInfo) : String :=
  let group (start count : Nat) :=
    String.join ((((guidOrder info.guid).drop start).take count).map smallDigits)
  group 0 4 ++ "-" ++ group 4 2 ++ "-" ++ group 6 2 ++ "-" ++ group 8 2 ++ "-" ++ group 10 6

/-! ## §2. The debug stream. -/

/-- The header of stream three. -/
structure DebugHeader where
  age : Nat
  symbolStream : Nat
  moduleListSize : Nat
  /-- The sizes of the parts between the module list and the extras. -/
  middleSizes : List Nat
  extrasSize : Nat
  deriving DecidableEq

/-- The length of the header. -/
def debugHeaderSize : Nat := 64

/-- Read the header; answers also its mark. -/
def takeDebugHeader : Take (Nat × DebugHeader) := do
  let mark ← Take.u32
  Take.skip 4
  let age ← Take.u32
  Take.skip 8
  let symbolStream ← Take.u16
  Take.skip 2
  let moduleListSize ← Take.u32
  let contributions ← Take.u32
  let sectionMap ← Take.u32
  let fileInfo ← Take.u32
  let typeServers ← Take.u32
  Take.skip 4
  let extrasSize ← Take.u32
  let editAndContinue ← Take.u32
  Take.skip 8
  return (mark, {
    age, symbolStream, moduleListSize, extrasSize
    middleSizes := [contributions, sectionMap, fileInfo, typeServers, editAndContinue] })

/-- The debug stream: its header and all its bytes. -/
structure DebugStream where
  header : DebugHeader
  bytes : List UInt8

/-- The debug stream.  Headers without the mark belong to an older format. -/
def debugStream (c : Container) : Except PdbError DebugStream := do
  let bytes ← c.stream 3
  let ((mark, header), _) ← whole takeDebugHeader bytes
  if mark ≠ 0xFFFFFFFF then throw (.unsupported "ancient DBI header")
  return ⟨header, bytes⟩

/-! ## §3. Modules. -/

/-- An entry of the module list. -/
structure Module where
  stream : Nat
  /-- How many bytes of the module's stream are symbols. -/
  symbolsSize : Nat
  deriving DecidableEq

/-- Read a module's entry.  Entries start at multiples of four; `start` is where this
one starts.  Answers also where it ends. -/
def takeModule (start : Nat) : Take (Module × Nat) := do
  let before ← get
  Take.skip 34
  let stream ← Take.u16
  let symbolsSize ← Take.u32
  Take.skip 24
  let _ ← Take.zeroText
  let _ ← Take.zeroText
  let after ← get
  let stop := start + (before.length - after.length)
  let padding := (4 - stop % 4) % 4
  if padding > 0 then Take.skip padding
  return (⟨stream, symbolsSize⟩, stop + padding)

/-- The entries of a module list, and whether the list breaks off behind them. -/
structure ModuleList where
  entries : List Module
  failure : Option PdbError

/-- Read the entries of a module list from position `start` on.  Every entry takes
bytes, so `steps` may be their number. -/
def readModules : Nat → Nat → List UInt8 → ModuleList
  | 0, _, _ => ⟨[], none⟩
  | steps + 1, start, bs =>
      if bs.isEmpty then ⟨[], none⟩
      else match (takeModule start).run bs with
        | none => ⟨[], some .shortStream⟩
        | some ((entry, stop), rest) =>
            let more := readModules steps stop rest
            { more with entries := entry :: more.entries }

/-- The modules. -/
def modules (d : DebugStream) : Except PdbError ModuleList := do
  let (list, _) ← whole (do
    Take.skip debugHeaderSize
    Take.bytes d.header.moduleListSize) d.bytes
  return readModules list.length 0 list

/-! ## §4. Extra streams. -/

/-- The streams about sections, by their numbers. -/
structure Extras where
  mapToSource : Nat
  mapFromSource : Nat
  sections : Nat
  linkedSections : Nat
  deriving DecidableEq

/-- The stream number at position `n` of the list; the list may end early. -/
def extraAt (n : Nat) (bs : List UInt8) : Nat :=
  (Take.front? Take.u16 (bs.drop (2 * n))).getD 0xFFFF

/-- The numbers of the streams about sections. -/
def extras (d : DebugStream) : Except PdbError Extras := do
  let offset := debugHeaderSize
    + (d.header.middleSizes.foldl Nat.add d.header.moduleListSize) % Text.limit32
  let (list, _) ← whole (do
    Take.skip offset
    Take.bytes d.header.extrasSize) d.bytes
  if list.length % 2 = 1 then throw (.streamLength "DbgHeader")
  return ⟨extraAt 3 list, extraAt 4 list, extraAt 5 list, extraAt 10 list⟩

/-! ## §5. The identity of a debug file. -/

/-- The age that counts: that of the debug stream unless it is zero. -/
def effectiveAge (info : FileInfo) (header : DebugHeader) : Nat :=
  if header.age = 0 then info.age else header.age

/-- The identity of a debug file. -/
def fileIdentity (c : Container) (path : String) : Except PdbError Identity := do
  let info ← fileInfo c
  let debug ← debugStream c
  let age := UInt32.ofNat (effectiveAge info debug.header)
  return (Identity.ofGuid info.guidText age).withFile path

end DebugMerge.Pdb
