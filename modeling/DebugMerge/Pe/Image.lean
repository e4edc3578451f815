/-
  DebugMerge.Pe.Image
  ───────────────────
  **Executables: the headers that say where a program lives.**

  An executable starts with an old header that points to the real one.  Behind
  the real header stand an optional header, with the preferred load address and
  a table of directories, and the section headers.  The directory of debug
  entries is located by its address in memory, which the sections map to a
  place in the file; its first entry may name the debug file.

  Main definitions
    • `ImageError`                      — why an image is refused
    • `OptionalHeader`, `Section`       — headers
    • `fileOffset?`                     — from memory to file
    • `DebugReference`                  — the debug file that an image names
    • `Image`, `Image.parse`            — the whole image
-/
import DebugMerge.Binary.Take

namespace DebugMerge.Pe

/-! ## §1. Errors. -/

/-- Why an image is refused. -/
inductive ImageError where
  | truncated (part : String)
  | magic (part : String)
  | sectionName (name : String)
  | tooManyDirectories (count : Nat)
  | unmappedDebugDirectory (rva : Nat)
  | debugEntrySize (size : Nat)
  deriving DecidableEq, Repr

/-- The explanation of an error. -/
def ImageError.message : ImageError → String
  | truncated part => "the " ++ part ++ " is cut off"
  | magic part => "the " ++ part ++ " has no valid mark"
  | sectionName name => "invalid indirect section name " ++ name
  | tooManyDirectories count => "data directory count " ++ Text.decimal count ++ " is too large"
  | unmappedDebugDirectory rva => "debug directory at 0x" ++ Text.hex rva ++ " lies in no section"
  | debugEntrySize size => "debug entry has size " ++ Text.decimal size

/-- Take from the bytes at an offset, which must lie inside. -/
def takeAt {α : Type} (part : String) (take : Take α) (offset : Nat) (bs : List UInt8) :
    Except ImageError α :=
  if bs.length ≤ offset then .error (.truncated part)
  else match take.front? (bs.drop offset) with
    | some a => .ok a
    | none => .error (.truncated part)

/-! ## §2. The headers in front. -/

/-- The length of the old header and of the small program behind it. -/
def oldHeaderSize : Nat := 128

/-- The place of the real header. -/
def headerOffset (bs : List UInt8) : Except ImageError Nat := do
  let mark ← takeAt "old header" Take.u16 0 bs
  let offset ← takeAt "old header" (do Take.skip 60; Take.u32) 0 bs
  let realMark ← takeAt "header" Take.u32 offset bs
  if mark ≠ 0x5A4D then throw (.magic "old header")
  if realMark ≠ 0x4550 then throw (.magic "header")
  if bs.length < oldHeaderSize then throw (.truncated "old header")
  return offset

/-- What the real header says. -/
structure FileHeader where
  sectionCount : Nat
  symbolTable : Nat
  symbolCount : Nat
  optionalSize : Nat
  deriving DecidableEq, Repr

/-- The size of the real header with its mark. -/
def fileHeaderSize : Nat := 24

/-- Take the real header behind its mark. -/
def FileHeader.take : Take FileHeader := do
  Take.skip 4
  Take.skip 2
  let sectionCount ← Take.u16
  Take.skip 4
  let symbolTable ← Take.u32
  let symbolCount ← Take.u32
  let optionalSize ← Take.u16
  Take.skip 2
  return ⟨sectionCount, symbolTable, symbolCount, optionalSize⟩

/-- The place of the texts behind the symbol table, whose entries have eighteen bytes. -/
def FileHeader.textTable (h : FileHeader) : Nat :=
  h.symbolTable + 18 * h.symbolCount

/-! ## §3. The optional header. -/

/-- What the optional header says. -/
structure OptionalHeader where
  imageBase : UInt64
  fileAlignment : Nat
  /-- Address in memory of the debug entries. -/
  debugDirectory : Option Nat
  deriving DecidableEq, Repr

namespace OptionalHeader

/-- The parts of the narrow and of the wide form up to the table of directories: the
preferred address, the alignment, and the number of directories. -/
def takeNarrow : Take (Nat × Nat × Nat) := do
  Take.skip 28
  let imageBase ← Take.u32
  Take.skip 4
  let fileAlignment ← Take.u32
  Take.skip 52
  let count ← Take.u32
  return (imageBase, fileAlignment, count)

/-- See `takeNarrow`. -/
def takeWide : Take (Nat × Nat × Nat) := do
  Take.skip 24
  let imageBase ← Take.u64
  Take.skip 4
  let fileAlignment ← Take.u32
  Take.skip 68
  let count ← Take.u32
  return (imageBase, fileAlignment, count)

/-- Take a table of directories: address and size of each. -/
def takeDirectories : Nat → Take (List (Nat × Nat))
  | 0 => return []
  | count + 1 => do
      let address ← Take.u32
      let size ← Take.u32
      let more ← takeDirectories count
      return (address, size) :: more

/-- How many directories there can be. -/
def maxDirectories : Nat := 16

/-- Which directory is that of the debug entries. -/
def debugDirectoryIndex : Nat := 6

/-- The optional header at an offset. -/
def parse (offset : Nat) (bs : List UInt8) : Except ImageError OptionalHeader := do
  let mark ← takeAt "optional header" Take.u16 offset bs
  let (form, size) ←
    if mark = 0x10B then pure (takeNarrow, 96)
    else if mark = 0x20B then pure (takeWide, 112)
    else throw (.magic "optional header")
  let (imageBase, fileAlignment, count) ← takeAt "optional header" form offset bs
  if maxDirectories < count then throw (.tooManyDirectories count)
  let directories ← match (takeDirectories count).front? (bs.drop (offset + size)) with
    | some directories => pure directories
    | none => throw (.truncated "table of directories")
  let debugDirectory := match directories[debugDirectoryIndex]? with
    | some (address, size) => if address = 0 ∧ size = 0 then none else some address
    | none => none
  return ⟨UInt64.ofNat imageBase, fileAlignment, debugDirectory⟩

end OptionalHeader

/-! ## §4. Sections. -/

/-- A section of an image. -/
structure Section where
  /-- The name; `none` if its bytes are no text. -/
  name : Option String
  virtualSize : UInt32
  virtualAddress : UInt32
  rawSize : UInt32
  rawOffset : UInt32
  deriving DecidableEq, Repr

namespace Section

/-- The text up to a zero byte or to the end. -/
def textOf? (bs : List UInt8) : Option String :=
  Text.Utf8.decode? ⟨(bs.takeWhile (· ≠ 0)).toArray⟩

/-- The value of a digit in base sixty-four. -/
def digit64? (c : Char) : Option Nat :=
  if 'A' ≤ c ∧ c ≤ 'Z' then some (c.toNat - 65)
  else if 'a' ≤ c ∧ c ≤ 'z' then some (c.toNat - 71)
  else if c.isDigit then some (c.toNat + 4)
  else if c = '+' then some 62
  else if c = '/' then some 63
  else none

/-- A number in base sixty-four, most significant digit first. -/
def number64? (cs : List Char) : Option Nat :=
  cs.foldlM (fun n c => do return n * 64 + (← digit64? c)) 0

/-- The place in the text table that a name refers to: a slash stands before a decimal
number, two slashes before one in base sixty-four. -/
def indirect? (name : List UInt8) : Except ImageError (Option Nat) :=
  match name with
  | 0x2F :: 0x2F :: digits => refer ((textOf? digits).bind fun s => number64? s.toList)
  | 0x2F :: digits =>
      refer ((textOf? digits).bind fun s => (Text.parse 10 Text.limit64 s.toList).toOption)
  | _ => .ok none
where
  /-- A reference that must be readable. -/
  refer : Option Nat → Except ImageError (Option Nat)
    | some n => .ok (some n)
    | none => .error (.sectionName (Text.Utf8.lossy name))

/-- Take a section header with its name as stored. -/
def take : Take (List UInt8 × Section) := do
  let name ← Take.bytes 8
  let virtualSize ← Take.u32
  let virtualAddress ← Take.u32
  let rawSize ← Take.u32
  let rawOffset ← Take.u32
  Take.skip 16
  return (name, ⟨textOf? name, UInt32.ofNat virtualSize, UInt32.ofNat virtualAddress,
    UInt32.ofNat rawSize, UInt32.ofNat rawOffset⟩)

/-- The size of a section header. -/
def headerSize : Nat := 40

/-- The section header at an offset, its name looked up. -/
def parse (textTable offset : Nat) (bs : List UInt8) : Except ImageError Section := do
  let (name, found) ← takeAt "section table" take offset bs
  match ← indirect? name with
  | none => return found
  | some n =>
      let place := textTable + n
      if bs.length ≤ place then throw (.truncated "text table")
      match textOf? (bs.drop place) with
      | some long => return { found with name := some long }
      | none => throw (.sectionName (Text.Utf8.lossy name))

/-- The section headers from an offset on. -/
def parseAll (textTable : Nat) : Nat → Nat → List UInt8 → Except ImageError (List Section)
  | 0, _, _ => .ok []
  | count + 1, offset, bs => do
      let first ← parse textTable offset bs
      let rest ← parseAll textTable count (offset + headerSize) bs
      return first :: rest

/-- The size in memory; the size in the file stands for a size of zero. -/
def effectiveSize (s : Section) : UInt32 :=
  if s.virtualSize = 0 then s.rawSize else s.virtualSize

end Section

/-! ## §5. From memory to file. -/

/-- The least multiple of `step` that is not below `n`. -/
def roundUp (step n : Nat) : Nat :=
  (n + (step - 1)) / step * step

/-- How many bytes of a section are mapped from the file. -/
def Section.mappedSize (fileAlignment : Nat) (s : Section) : Nat :=
  let fromFile := min (roundUp fileAlignment (s.rawOffset.toNat + s.rawSize.toNat))
    (roundUp 0x1000 s.rawSize.toNat)
  if s.virtualSize = 0 then fromFile else min fromFile (roundUp 0x1000 s.virtualSize.toNat)

/-- The place in the file of an address in memory, according to the first section that
holds it.  Sections start in the file at multiples of 512. -/
def fileOffset? (fileAlignment : Nat) (sections : List Section) (rva : Nat) : Option Nat :=
  if fileAlignment = 0 ∨ fileAlignment ≠ Nat.pow 2 fileAlignment.log2 then none
  else
    let holds (s : Section) : Bool :=
      s.virtualAddress.toNat ≤ rva
        && rva < s.virtualAddress.toNat + s.mappedSize fileAlignment
    (sections.find? holds).map fun s =>
      rva - s.virtualAddress.toNat + s.rawOffset.toNat / 0x200 * 0x200

/-! ## §6. The debug file that an image names. -/

/-- A reference to a debug file. -/
structure DebugReference where
  guid : List UInt8
  age : UInt32
  file : List UInt8
  deriving DecidableEq, Repr

namespace DebugReference

/-- The kind of debug entry that refers to a debug file. -/
def entryKind : Nat := 2

/-- The mark of a reference with a GUID. -/
def mark : Nat := 0x53445352

/-- The length of a reference without the name of the file. -/
def fixedSize : Nat := 24

/-- Take a debug entry: its kind, and the size and place of what it refers to. -/
def takeEntry : Take (Nat × Nat × Nat) := do
  Take.skip 12
  let kind ← Take.u32
  let size ← Take.u32
  Take.skip 4
  let place ← Take.u32
  return (kind, size, place)

/-- Take the part of a reference behind its mark. -/
def takeBody (nameSize : Nat) : Take DebugReference := do
  Take.skip 4
  let guid ← Take.bytes 16
  let age ← Take.u32
  let file ← Take.bytes nameSize
  return ⟨guid, UInt32.ofNat age, file⟩

/-- The reference of the debug entry at an offset; an entry of another kind has none. -/
def parse (offset : Nat) (bs : List UInt8) : Except ImageError (Option DebugReference) := do
  let (kind, size, place) ← takeAt "debug entry" takeEntry offset bs
  if kind ≠ entryKind then return none
  if size < fixedSize then throw (.debugEntrySize size)
  if (← takeAt "debug reference" Take.u32 place bs) ≠ mark then return none
  return some (← takeAt "debug reference" (takeBody (size - fixedSize)) place bs)

end DebugReference

/-! ## §7. The whole image. -/

/-- An executable image. -/
structure Image where
  imageBase : UInt64
  sections : List Section
  reference : Option DebugReference
  deriving DecidableEq, Repr

/-- Read an image.  Without an optional header it has load address zero.  Of the directories
only that of the debug entries is followed: whatever the directories of imports, of exceptions
and of certificates point to, it does not make an image invalid. -/
def Image.parse (bs : List UInt8) : Except ImageError Image := do
  let offset ← headerOffset bs
  let header ← takeAt "header" FileHeader.take offset bs
  let behind := offset + fileHeaderSize
  let optional ←
    if header.optionalSize = 0 then pure none
    else some <$> OptionalHeader.parse behind bs
  if bs.length / Section.headerSize < header.sectionCount then throw (.truncated "section table")
  let sections ← Section.parseAll header.textTable header.sectionCount
    (behind + header.optionalSize) bs
  match optional with
  | none => return ⟨0, sections, none⟩
  | some optional =>
      match optional.debugDirectory with
      | none => return ⟨optional.imageBase, sections, none⟩
      | some rva =>
          match fileOffset? optional.fileAlignment sections rva with
          | none => throw (.unmappedDebugDirectory rva)
          | some place =>
              return ⟨optional.imageBase, sections, ← DebugReference.parse place bs⟩

end DebugMerge.Pe
