/-
  DebugMerge.Pdb.Container
  ────────────────────────
  **The container: numbered streams spread over pages.**

  A container is a sequence of pages of one size.  Its first page says where
  the pages of the directory are listed, and the directory says how long every
  stream is and which pages hold it.  A stream that is not present has the
  largest length.  Only the header is checked when a container is opened; the
  directory is read when a stream is asked for.

  Main definitions
    • `PdbError`                          — why a container is refused
    • `Container.open?`                   — the header
    • `Container.directory`, `.stream`    — streams
-/
import DebugMerge.Binary.Take

namespace DebugMerge

/-! ## §1. Errors. -/

/-- Why a debug file cannot be read. -/
inductive PdbError where
  | unrecognized
  | pageSize (size : Nat)
  | pageNumber (page : Nat)
  | streamNotFound (stream : Nat)
  /-- A page lies behind the end of the file. -/
  | truncated
  /-- A structure is longer than its stream. -/
  | shortStream
  | symbolTooShort
  | typeTooShort
  | noGlobalSymbols
  | noAddressMap
  | streamLength (name : String)
  | typeHeader (reason : String)
  | unsupported (feature : String)
  deriving DecidableEq, Repr

/-- The explanation of an error. -/
def PdbError.message : PdbError → String
  | unrecognized => "UnrecognizedFileFormat"
  | pageSize size => "The MSF header specifies an invalid page size (" ++ Text.decimal size ++ ")"
  | pageNumber page => "MSF referred to page number (" ++ Text.decimal page ++ ") out of range"
  | streamNotFound stream =>
      "The requested stream (" ++ Text.decimal stream ++ ") is not stored in this file"
  | truncated => "IO error while reading PDB: failed to fill whole buffer"
  | shortStream => "UnexpectedEof"
  | symbolTooShort => "SymbolTooShort"
  | typeTooShort => "TypeTooShort"
  | noGlobalSymbols => "GlobalSymbolsNotFound"
  | noAddressMap => "AddressMapNotFound"
  | streamLength name =>
      "Stream " ++ name ++ " has an invalid length or alignment for its records"
  | typeHeader reason => "The type information header is invalid: " ++ reason
  | unsupported feature => "Unsupported feature: " ++ feature

namespace Pdb

/-- A take whose failure means that the stream is too short. -/
def whole {α : Type} (take : Take α) (bs : List UInt8) : Except PdbError (α × List UInt8) :=
  match take.run bs with
  | some result => .ok result
  | none => .error .shortStream

/-! ## §2. The header. -/

/-- The text that a container starts with. -/
def signature : List UInt8 :=
  "Microsoft C/C++ MSF 7.00\r\n".toList.map (fun c => UInt8.ofNat c.toNat)
    ++ [0x1A, 0x44, 0x53, 0, 0, 0]

/-- The part of the file that must be there to look for a header. -/
def headerSize : Nat := 4096

/-- An opened container. -/
structure Container where
  bytes : List UInt8
  pageSize : Nat
  /-- The largest page number that may be referred to. -/
  lastPage : Nat
  directorySize : Nat
  /-- The pages that list the pages of the directory. -/
  indexPages : List Nat

namespace Container

/-- How many pages hold `n` bytes. -/
def pagesFor (pageSize n : Nat) : Nat :=
  (n + (pageSize - 1)) / pageSize

/-- Is the size a power of two that pages may have? -/
def isPageSize (n : Nat) : Bool :=
  0x100 ≤ n && n ≤ 128 * 0x10000 && n == Nat.pow 2 n.log2

/-- A page that may be referred to. -/
def checkPage (lastPage page : Nat) : Except PdbError Nat :=
  if page = 0 ∨ lastPage < page then .error (.pageNumber page) else .ok page

/-- Read `count` page numbers. -/
def pageNumbers (lastPage : Nat) : Nat → List UInt8 → Except PdbError (List Nat)
  | 0, _ => .ok []
  | count + 1, bs => do
      let (page, rest) ← whole Take.u32 bs
      let page ← checkPage lastPage page
      let pages ← pageNumbers lastPage count rest
      return page :: pages

/-- Open a container: check its header. -/
def open? (bytes : List UInt8) : Except PdbError Container := do
  let header := bytes.take headerSize
  if header.length < headerSize then throw .unrecognized
  if header.take signature.length ≠ signature then throw .unrecognized
  let ((pageSize, lastPage, directorySize), rest) ←
    whole (do
      Take.skip signature.length
      let pageSize ← Take.u32
      Take.skip 4
      let lastPage ← Take.u32
      let directorySize ← Take.u32
      Take.skip 4
      return (pageSize, lastPage, directorySize)) header
  if !isPageSize pageSize then throw (.pageSize pageSize)
  let directoryPages := pagesFor pageSize directorySize
  let indexPages ← pageNumbers lastPage (pagesFor pageSize (4 * directoryPages)) rest
  return ⟨bytes, pageSize, lastPage, directorySize, indexPages⟩

/-! ## §3. Streams. -/

/-- The first `size` bytes on the given pages; all that is used of a page must be
in the file. -/
def gather (c : Container) : Nat → List Nat → Except PdbError (List UInt8)
  | _, [] => .ok []
  | size, page :: pages => do
      let part := min size c.pageSize
      let found := (c.bytes.drop (page * c.pageSize)).take part
      if found.length < part then throw .truncated
      let more ← gather c (size - part) pages
      return found ++ more

/-- The directory. -/
def directory (c : Container) : Except PdbError (List UInt8) := do
  let count := pagesFor c.pageSize c.directorySize
  let index ← c.gather (4 * count) c.indexPages
  let pages ← pageNumbers c.lastPage count index
  c.gather c.directorySize pages

/-- The length of a stream that is not present. -/
def absent : Nat := 0xFFFFFFFF

/-- How many pages a stream of the given length has. -/
def streamPages (pageSize length : Nat) : Nat :=
  if length = absent then 0 else pagesFor pageSize length

/-- The number with position `n` in bytes that hold numbers. -/
def numberAt (n : Nat) (bs : List UInt8) : Except PdbError Nat :=
  match Take.front? Take.u32 (bs.drop (4 * n)) with
  | some value => .ok value
  | none => .error .shortStream

/-- The lengths of the first `count` streams. -/
def lengths : Nat → List UInt8 → Except PdbError (List Nat)
  | 0, _ => .ok []
  | count + 1, bs => do
      let (length, rest) ← whole Take.u32 bs
      let more ← lengths count rest
      return length :: more

/-- The bytes of stream number `n`. -/
def stream (c : Container) (n : Nat) : Except PdbError (List UInt8) := do
  let directory ← c.directory
  let (count, rest) ← whole Take.u32 directory
  if count ≤ n then throw (.streamNotFound n)
  let before ← lengths n rest
  let length ← numberAt n rest
  if length = absent then throw (.streamNotFound n)
  let skipped := (before.map (streamPages c.pageSize)).foldl Nat.add 0
  let (_, pages) ← whole (Take.skip (4 * (count + skipped))) rest
  let pages ← pageNumbers c.lastPage (pagesFor c.pageSize length) pages
  c.gather length pages

/-- The bytes of a stream that may be none: its number is then the largest one. -/
def optionalStream (c : Container) (n : Nat) : Except PdbError (Option (List UInt8)) :=
  if n = 0xFFFF then .ok none else (c.stream n).map some

end Container

end Pdb

end DebugMerge
