/-
  DebugMerge.Pdb.Symbols
  ──────────────────────
  **The symbols of a debug file.**

  A symbol stream is a sequence of records behind their lengths.  Public
  symbols, data and procedures become symbols of the program, if their place
  can be located; everything else is passed over.  Fillers are not even
  counted.

  Main definitions
    • `RawSymbol`, `symbolsIn`     — the records of a stream
    • `readSymbol`                 — the symbol of a record
    • `symbolStreams`              — the streams in their order
-/
import DebugMerge.Pdb.AddressMap
import DebugMerge.Records.Basic

namespace DebugMerge.Pdb

/-! ## §1. Records. -/

/-- The records of a stream, and how the stream breaks off behind them. -/
structure RecordList where
  records : List (List UInt8)
  failure : Option PdbError

namespace RecordList

/-- No records. -/
def none : RecordList := ⟨[], .none⟩

/-- Nothing but a failure. -/
def failed (e : PdbError) : RecordList := ⟨[], some e⟩

/-- The records of `a`, and if it does not break off, those of `b`. -/
def append (a b : RecordList) : RecordList :=
  match a.failure with
  | some _ => a
  | .none => ⟨a.records ++ b.records, b.failure⟩

/-- The records of several lists up to where the first one breaks off. -/
def concat (lists : List RecordList) : RecordList :=
  lists.foldr append none

end RecordList

/-- The records behind their lengths.  A record shorter than two bytes is the error
`tooShort`.  Every record takes bytes, so `steps` may be their number. -/
def readRecords (tooShort : PdbError) : Nat → List UInt8 → RecordList
  | 0, _ => .none
  | steps + 1, bs =>
      if bs.isEmpty then .none
      else match Take.u16.run bs with
        | none => .failed .shortStream
        | some (length, rest) =>
            if length < 2 then .failed tooShort
            else if rest.length < length then .failed .shortStream
            else
              let more := readRecords tooShort steps (rest.drop length)
              { more with records := rest.take length :: more.records }

/-- The kind of a record. -/
def recordKind (record : List UInt8) : Nat :=
  littleEndian (record.take 2)

/-- Is the record a filler? -/
def isFiller (record : List UInt8) : Bool :=
  recordKind record == 0x0402 || recordKind record == 0x0007

/-- The symbol records of a stream, without fillers. -/
def symbolsIn (bs : List UInt8) : RecordList :=
  let all := readRecords .symbolTooShort bs.length bs
  { all with records := all.records.filter (!isFiller ·) }

/-! ## §2. Symbols. -/

/-- What a record says about a symbol of interest. -/
structure RawSymbol where
  name : String
  sectionNumber : Nat
  offset : UInt32
  size : Option UInt64
  kind : SymbolKind
  scope : SymbolScope
  deriving DecidableEq

/-- A symbol's name; older kinds put its length in front. -/
def takeName (kind : Nat) : Take String :=
  if kind < 0x1100 then Take.countedText else Take.zeroText

/-- A public symbol.  A function may be flagged as code, too. -/
def takePublic (kind : Nat) : Take RawSymbol := do
  let flags ← Take.u32
  let offset ← Take.u32
  let sectionNumber ← Take.u16
  let name ← takeName kind
  let symbolKind : SymbolKind :=
    if flags.testBit 1 then .function else if flags.testBit 0 then .label else .data
  return ⟨name, sectionNumber, UInt32.ofNat offset, none, symbolKind, .publicTable⟩

/-- A data symbol. -/
def takeData (kind : Nat) : Take RawSymbol := do
  Take.skip 4
  let offset ← Take.u32
  let sectionNumber ← Take.u16
  let name ← takeName kind
  return ⟨name, sectionNumber, UInt32.ofNat offset, none, .data, .globalTable⟩

/-- A procedure. -/
def takeProcedure (kind : Nat) : Take RawSymbol := do
  Take.skip 12
  let length ← Take.u32
  Take.skip 12
  let offset ← Take.u32
  let sectionNumber ← Take.u16
  Take.skip 1
  let name ← takeName kind
  return ⟨name, sectionNumber, UInt32.ofNat offset, some (UInt64.ofNat length), .function,
    .globalTable⟩

/-- The kinds of public symbols. -/
def publicKinds : List Nat := [0x110E, 0x1009]

/-- The kinds of data symbols. -/
def dataKinds : List Nat := [0x110C, 0x1007, 0x110D, 0x1008, 0x111C, 0x1020, 0x111D, 0x1021]

/-- The kinds of procedures. -/
def procedureKinds : List Nat :=
  [0x110F, 0x100A, 0x1110, 0x100B, 0x1146, 0x1147, 0x1155, 0x1156]

/-- What a record says about a symbol, if it is of interest and complete. -/
def rawSymbol? (record : List UInt8) : Option RawSymbol :=
  let kind := recordKind record
  let body := record.drop 2
  if publicKinds.contains kind then Take.front? (takePublic kind) body
  else if dataKinds.contains kind then Take.front? (takeData kind) body
  else if procedureKinds.contains kind then Take.front? (takeProcedure kind) body
  else none

/-- The symbol of a record, if its place can be located. -/
def readSymbol (map : AddressMap) (record : List UInt8) : Option SymbolRecord := do
  let raw ← rawSymbol? record
  let rva ← map.toRva? raw.sectionNumber raw.offset
  return ⟨raw.name, rva.toUInt64, raw.size, raw.kind, raw.scope⟩

/-! ## §3. Streams. -/

/-- The stream of public and global symbols. -/
def globalSymbols (c : Container) : Except PdbError RecordList := do
  let debug ← debugStream c
  match ← c.optionalStream debug.header.symbolStream with
  | some bs => return symbolsIn bs
  | none => throw .noGlobalSymbols

/-- The mark before the symbols of a module. -/
def moduleMark : Nat := 4

/-- The symbols of a module; a module without a stream has none, and one whose
symbols take no room has not even the mark. -/
def moduleSymbols (c : Container) (entry : Module) : RecordList :=
  let read : Except PdbError RecordList := do
    match ← c.optionalStream entry.stream with
    | none => return .none
    | some bs =>
        if bs.length < entry.symbolsSize then throw .shortStream
        if entry.symbolsSize = 0 then return .none
        let (mark, rest) ← whole Take.u32 (bs.take entry.symbolsSize)
        if mark ≠ moduleMark then throw (.unsupported "Unsupported symbol data format")
        return symbolsIn rest
  match read with
  | .ok list => list
  | .error e => .failed e

/-- The records of all symbol streams: the global one, then the modules in order.
What cannot be read at all is an error before any record is counted. -/
def symbolStreams (c : Container) : Except PdbError RecordList := do
  let globals ← globalSymbols c
  let fromModules : RecordList :=
    match debugStream c >>= modules with
    | .error e => .failed e
    | .ok list =>
        (RecordList.concat (list.entries.map (moduleSymbols c))).append
          ⟨[], list.failure⟩
  return globals.append fromModules

end DebugMerge.Pdb
