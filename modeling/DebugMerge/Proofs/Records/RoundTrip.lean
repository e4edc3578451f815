/-
  DebugMerge.Proofs.Records.RoundTrip
  ───────────────────────────────────
  **Records read back from the documents that hold them.**

  A writer and a reader are a pair: what the one writes, the other takes back.
  The pairs of words and lists are proved once, and a record follows field by
  field.  What is written is plain, so its text reads back as well.

  Main statements
    • `word64?_ofWord64`, `readItems?_map`   — words and lists
    • `Member.ofJson?_toJson`                — a member
    • `decodeMembers?_encodeMembers`         — the stored text of a member list
-/
import DebugMerge.Proofs.Json.RoundTrip
import DebugMerge.Records.Format
import DebugMerge.Store.Readers

namespace DebugMerge

open Json

/-! ## §1. Words and lists. -/

theorem Json.word64?_ofWord64 (n : UInt64) : word64? (ofWord64 n) = some n := by
  have hn : n.toNat < Text.limit64 := n.toNat_lt
  simp [word64?, ofWord64, natBelow?, hn]

theorem Json.text_ne_null (s : String) : text s ≠ null := nofun

theorem Json.ofWord64_ne_null (n : UInt64) : ofWord64 n ≠ null := nofun

theorem Json.isPlain_ofWord64 (n : UInt64) : (ofWord64 n).IsPlain := n.toNat_lt

/-- A list reads back if its items do. -/
theorem Json.readItems?_map {α : Type} (read : Json → Option α) (write : α → Json)
    (h : ∀ a, read (write a) = some a) (items : List α) :
    readItems? read (items.map write) = some items := by
  induction items with
  | nil => rfl
  | cons a items ih => simp [readItems?, h a, ih]

/-- A list is plain if its items are. -/
theorem Json.arePlain_map {α : Type} (write : α → Json) (h : ∀ a, (write a).IsPlain)
    (items : List α) : ArePlain (items.map write) := by
  induction items with
  | nil => trivial
  | cons a items ih => exact ⟨h a, ih⟩

/-! ## §2. Members of data types. -/

theorem Member.ofJson?_toJson (m : Member) : Member.ofJson? m.toJson = some m := by
  simp [Member.ofJson?, Member.toJson, slots?, slotsOfFields?, slotOf?, Slot.required,
    Slot.defaulted, text?, word64?_ofWord64]

theorem Member.isPlain_toJson (m : Member) : m.toJson.IsPlain :=
  ⟨trivial, isPlain_ofWord64 m.offset, trivial, trivial⟩

/-- **A stored member list reads back.** -/
theorem decodeMembers?_encodeMembers (members : List Member) :
    decodeMembers? (encodeMembers members) = some members := by
  have hplain : (list (members.map Member.toJson)).IsPlain :=
    arePlain_map Member.toJson Member.isPlain_toJson members
  unfold decodeMembers? encodeMembers
  rw [parse?_compact _ hplain]
  exact readItems?_map Member.ofJson? Member.toJson Member.ofJson?_toJson members

end DebugMerge
