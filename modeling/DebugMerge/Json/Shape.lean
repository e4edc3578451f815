/-
  DebugMerge.Json.Shape
  ─────────────────────
  **Records as JSON: one shape, two spellings.**

  A record may be written as an object or as the list of its fields in
  declaration order.  Both spellings are brought to one *slot* per declared
  field, and a record is read from its slots.  A field that is left out reads
  differently in the two spellings only if it is optional without a default:
  then an object may omit it and a list may not.

  Main definitions
    • `Slot`, `slots?`                       — the slots of a record
    • `Slot.required`, `.defaulted`, `.optional` — reading one slot
    • `natBelow?`, `text?`, `bool?`, `list?`, `tag?` — reading one value
-/
import DebugMerge.Json.Value
import DebugMerge.Text.Numeral

namespace DebugMerge.Json

/-! ## §1. Slots. -/

/-- What a document says about one declared field. -/
inductive Slot where
  | value (v : Json)
  /-- An object without the field. -/
  | omitted
  /-- A list that ends before the field. -/
  | cut

/-- The slot of the field `name`; a repeated field is refused. -/
def slotOf? (name : String) (fields : List (String × Json)) : Option Slot :=
  match fields.filter fun field => field.1 = name with
  | [] => some .omitted
  | [(_, v)] => some (.value v)
  | _ => none

/-- The slots of an object, in the order of the declared names. -/
def slotsOfFields? (names : List String) (fields : List (String × Json)) : Option (List Slot) :=
  match names with
  | [] => some []
  | name :: rest => do
      let slot ← slotOf? name fields
      let slots ← slotsOfFields? rest fields
      return slot :: slots

/-- The slots of a list, which may end early but not hold more than is declared. -/
def slotsOfItems? (names : List String) (items : List Json) : Option (List Slot) :=
  match names, items with
  | [], [] => some []
  | [], _ :: _ => none
  | _ :: names, [] => (slotsOfItems? names []).map (.cut :: ·)
  | _ :: names, v :: items => (slotsOfItems? names items).map (.value v :: ·)

/-- The slots of a record with the declared field names. -/
def slots? (names : List String) : Json → Option (List Slot)
  | object fields => slotsOfFields? names fields
  | list items => slotsOfItems? names items
  | _ => none

namespace Slot

variable {α : Type}

/-- A field without a default. -/
def required (read : Json → Option α) : Slot → Option α
  | value v => read v
  | _ => none

/-- A field that stands for `fallback` when it is left out. -/
def defaulted (fallback : α) (read : Json → Option α) : Slot → Option α
  | value v => read v
  | _ => some fallback

/-- An optional value with a default of its own: `null` and absence are no value. -/
def optional (read : Json → Option α) : Slot → Option (Option α)
  | value null => some none
  | value v => (read v).map some
  | _ => some none

/-- An optional value without a default: a list must spell it. -/
def nullable (read : Json → Option α) : Slot → Option (Option α)
  | cut => none
  | slot => slot.optional read

end Slot

/-! ## §2. Values. -/

/-- An integer below `limit`. -/
def natBelow? (limit : Nat) : Json → Option Nat
  | natural n => if n < limit then some n else none
  | _ => none

/-- A 64-bit word. -/
def word64? (v : Json) : Option UInt64 :=
  (natBelow? Text.limit64 v).map UInt64.ofNat

/-- A 32-bit word. -/
def word32? (v : Json) : Option UInt32 :=
  (natBelow? Text.limit32 v).map UInt32.ofNat

/-- A count of things held in memory. -/
def count? (v : Json) : Option Nat :=
  natBelow? Text.limit64 v

/-- A text. -/
def text? : Json → Option String
  | text s => some s
  | _ => none

/-- A truth value. -/
def bool? : Json → Option Bool
  | bool b => some b
  | _ => none

/-- Read every item of a list. -/
def readItems? {α : Type} (read : Json → Option α) : List Json → Option (List α)
  | [] => some []
  | v :: rest => do
      let a ← read v
      let more ← readItems? read rest
      return a :: more

/-- A list of values. -/
def list? {α : Type} (read : Json → Option α) : Json → Option (List α)
  | list vs => readItems? read vs
  | _ => none

/-- The name of a choice without contents: its text, or an object with that one
name and no value. -/
def tag? : Json → Option String
  | text s => some s
  | object [(name, null)] => some name
  | _ => none

/-- An optional value as JSON. -/
def ofOption {α : Type} (write : α → Json) : Option α → Json
  | none => null
  | some a => write a

end DebugMerge.Json
