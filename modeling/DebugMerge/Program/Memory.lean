/-
  DebugMerge.Program.Memory
  ─────────────────────────
  **The memory of a program: half-open blocks of 64-bit addresses.**

  A debug file locates its records relative to the image base.  A record is
  *placed* if its absolute address neither exceeds the address space nor falls
  outside every block.  Blocks can be moved from one image base to another as
  long as they keep their offsets within the address space.

  Main definitions
    • `MemoryBlock`, `.contains`, `.length`     — blocks
    • `place`                                   — from offsets to addresses
    • `rebase?`, `rebaseAll`                    — from one image base to another
    • `parseAddress`, `parseBlock`              — the spelling of blocks
-/
import DebugMerge.Json.Shape
import DebugMerge.Records.Format
import DebugMerge.Text.Blank
import DebugMerge.Text.Numeral

namespace DebugMerge

/-! ## §1. Blocks. -/

/-- A named address range; the end is the first address outside. -/
structure MemoryBlock where
  name : String
  start : UInt64
  stop : UInt64
  deriving DecidableEq, Repr

namespace MemoryBlock

/-- Is the address inside the block? -/
def contains (block : MemoryBlock) (address : UInt64) : Bool :=
  block.start ≤ address && address < block.stop

/-- How many addresses a block holds; a reversed block holds none. -/
def length (block : MemoryBlock) : Nat :=
  block.stop.toNat - block.start.toNat

/-- Does the block hold no address? -/
def isEmpty (block : MemoryBlock) : Bool :=
  block.length == 0

end MemoryBlock

/-! ## §2. Address arithmetic that does not wrap. -/

/-- The sum, if it stays in the address space. -/
def addChecked (a b : UInt64) : Option UInt64 :=
  if a.toNat + b.toNat < Text.limit64 then some (a + b) else none

/-- The difference, if it is not negative. -/
def subChecked (a b : UInt64) : Option UInt64 :=
  if b.toNat ≤ a.toNat then some (a - b) else none

/-- The absolute address of an offset, if it lands inside a block. -/
def place (imageBase rva : UInt64) (blocks : List MemoryBlock) : Option UInt64 := do
  let address ← addChecked imageBase rva
  if blocks.any (·.contains address) then some address else none

/-! ## §3. Moving blocks. -/

/-- The block at the same offsets from another image base. -/
def MemoryBlock.rebase? (source target : UInt64) (block : MemoryBlock) : Option MemoryBlock := do
  let first ← subChecked block.start source
  let last ← subChecked block.stop source
  let start ← addChecked target first
  let stop ← addChecked target last
  return ⟨block.name, start, stop⟩

/-- A block that cannot keep its offsets. -/
structure RebaseError where
  block : MemoryBlock
  source : UInt64
  target : UInt64
  deriving DecidableEq, Repr

/-- The explanation of a failed move. -/
def RebaseError.message (e : RebaseError) : String :=
  "Memory block " ++ e.block.name ++ " (0x" ++ Text.hexUpper e.block.start.toNat ++ "-0x"
    ++ Text.hexUpper e.block.stop.toNat ++ ") cannot be moved from image base 0x"
    ++ Text.hexUpper e.source.toNat ++ " to 0x" ++ Text.hexUpper e.target.toNat

/-- Move every block; the first one that cannot be moved is the error. -/
def rebaseAll (source target : UInt64) : List MemoryBlock → Except RebaseError (List MemoryBlock)
  | [] => .ok []
  | block :: rest =>
      match block.rebase? source target with
      | none => .error ⟨block, source, target⟩
      | some moved => (rebaseAll source target rest).map (moved :: ·)

/-! ## §4. The spelling of addresses and blocks. -/

/-- Why the spelling of an address or a block is refused. -/
inductive MemorySyntaxError where
  | address (value : String) (cause : Text.NumeralError)
  | shape (value : String)
  | emptyName (value : String)
  | reversed (value : String)
  deriving DecidableEq, Repr

/-- The explanation of a refused spelling. -/
def MemorySyntaxError.message : MemorySyntaxError → String
  | address value cause => "Invalid address '" ++ value ++ "': " ++ cause.message
  | shape value => "Invalid memory block '" ++ value ++ "': expected name:start-end"
  | emptyName value => "Invalid memory block '" ++ value ++ "': name is empty"
  | reversed value => "Invalid memory block '" ++ value ++ "': end must be greater than start"

/-- Read an address: outer blanks and then all underscores are dropped; a leading
`0x` or `0X` makes it hexadecimal. -/
def parseAddress (value : String) : Except MemorySyntaxError UInt64 :=
  let cs := (Text.trimChars value.toList).filter (· ≠ '_')
  let number :=
    match cs with
    | '0' :: 'x' :: digits => Text.parse 16 Text.limit64 digits
    | '0' :: 'X' :: digits => Text.parse 16 Text.limit64 digits
    | cs => Text.parse 10 Text.limit64 cs
  match number with
  | .ok n => .ok (UInt64.ofNat n)
  | .error cause => .error (.address value cause)

/-- Read a block spelled `name:start-end`. -/
def parseBlock (value : String) : Except MemorySyntaxError MemoryBlock := do
  let some (name, range) := Text.splitOnce? ':' value.toList | throw (.shape value)
  let some (first, last) := Text.splitOnce? '-' range | throw (.shape value)
  let start ← parseAddress (String.ofList first)
  let stop ← parseAddress (String.ofList last)
  if name.isEmpty then throw (.emptyName value)
  if stop ≤ start then throw (.reversed value)
  return ⟨String.ofList name, start, stop⟩

/-! ## §5. Documents. -/

open Json

/-- A block as JSON. -/
def MemoryBlock.toJson (block : MemoryBlock) : Json :=
  object [("name", text block.name), ("start", ofWord64 block.start), ("end", ofWord64 block.stop)]

/-- Read a block. -/
def MemoryBlock.ofJson? (v : Json) : Option MemoryBlock := do
  match ← slots? ["name", "start", "end"] v with
  | [name, start, stop] =>
      return {
        name := ← name.required text?
        start := ← start.required word64?
        stop := ← stop.required word64? }
  | _ => none

end DebugMerge
