/-
  DebugMerge.Proofs.Store.TypeOrder
  ─────────────────────────────────
  **How much a definition says, and what merging makes of it.**

  Definitions of one name and kind are ordered by what they say: a forward
  declaration says less than anything, and a definition without members says
  less than one of its size with members.  Everything below a definition is a
  chain, so two definitions that both give way to a third never disagree.
  Merging answers by this order: what is offered below the stored definition
  is present already, what is offered above it completes it, and the rest is a
  conflict.

  Main statements
    • `TypeRecord.le_trans`, `.le_antisymm`, `.le_or_le_of_le` — the order
    • `TypeRecord.merge_cases`                 — the verdict by the order
    • `TypeRecord.merge_eq_conflict_iff`       — conflicts by kind, size and members
    • `TypeRecord.layout_le`                   — definitions without their members
-/
import DebugMerge.Store.Transaction

namespace DebugMerge

namespace TypeRecord

/-! ## §1. The order. -/

/-- `a` says nothing that `b` does not say: it is the same definition, or it gives way
to one of its name, kind and size. -/
instance : LE TypeRecord where
  le a b := a = b ∨ (a.name = b.name ∧ a.kind = b.kind ∧ a.yieldsTo b.size = true)

theorem isPlaceholder_iff (a : TypeRecord) :
    a.isPlaceholder = true ↔ a.size = 0 ∧ a.members = [] := by
  simp [isPlaceholder]

theorem yieldsTo_iff (a : TypeRecord) (size : UInt64) :
    a.yieldsTo size = true ↔ a.members = [] ∧ (a.size = 0 ∨ a.size = size) := by
  simp only [yieldsTo, Bool.or_eq_true, isPlaceholder_iff, Bool.and_eq_true, beq_iff_eq,
    List.isEmpty_iff]
  constructor
  · intro h
    rcases h with ⟨hsize, hmembers⟩ | ⟨hsize, hmembers⟩
    · exact ⟨hmembers, .inl hsize⟩
    · exact ⟨hmembers, .inr hsize⟩
  · intro h
    rcases h with ⟨hmembers, hsize | hsize⟩
    · exact .inl ⟨hsize, hmembers⟩
    · exact .inr ⟨hsize, hmembers⟩

@[simp] theorem le_refl (a : TypeRecord) : a ≤ a := .inl rfl

theorem name_eq_of_le {a b : TypeRecord} (h : a ≤ b) : a.name = b.name := by
  rcases h with rfl | ⟨h, -, -⟩
  · rfl
  · exact h

theorem kind_eq_of_le {a b : TypeRecord} (h : a ≤ b) : a.kind = b.kind := by
  rcases h with rfl | ⟨-, h, -⟩
  · rfl
  · exact h

/-- Two definitions of one name, kind, size and member list are one. -/
theorem eq_of_parts {a b : TypeRecord} (hname : a.name = b.name) (hkind : a.kind = b.kind)
    (hsize : a.size = b.size) (hmembers : a.members = b.members) : a = b := by
  cases a
  cases b
  simp_all

theorem le_trans {a b c : TypeRecord} (hab : a ≤ b) (hbc : b ≤ c) : a ≤ c := by
  rcases hab with rfl | ⟨hname, hkind, hyield⟩
  · exact hbc
  rcases hbc with rfl | ⟨hname', hkind', hyield'⟩
  · exact .inr ⟨hname, hkind, hyield⟩
  refine .inr ⟨hname.trans hname', hkind.trans hkind', ?_⟩
  rw [yieldsTo_iff] at hyield hyield' ⊢
  refine ⟨hyield.1, ?_⟩
  -- `a` is a placeholder, or it has the size of `b`, which gives way to `c` in turn
  rcases hyield.2 with hzero | hsize
  · exact .inl hzero
  · rw [hsize]
    exact hyield'.2

theorem le_antisymm {a b : TypeRecord} (hab : a ≤ b) (hba : b ≤ a) : a = b := by
  rcases hab with rfl | ⟨hname, hkind, hyield⟩
  · rfl
  rcases hba with rfl | ⟨-, -, hyield'⟩
  · rfl
  rw [yieldsTo_iff] at hyield hyield'
  have hsize : a.size = b.size := by
    rcases hyield.2 with hzero | hsize
    · rcases hyield'.2 with hzero' | hsize'
      · rw [hzero, hzero']
      · exact hsize'.symm
    · exact hsize
  exact eq_of_parts hname hkind hsize (by rw [hyield.1, hyield'.1])

/-- **Everything below a definition is a chain.** -/
theorem le_or_le_of_le {a b c : TypeRecord} (ha : a ≤ c) (hb : b ≤ c) : a ≤ b ∨ b ≤ a := by
  rcases ha with rfl | ⟨hname, hkind, hyield⟩
  · exact .inr hb
  rcases hb with rfl | ⟨hname', hkind', hyield'⟩
  · exact .inl (.inr ⟨hname, hkind, hyield⟩)
  have hname'' := hname.trans hname'.symm
  have hkind'' := hkind.trans hkind'.symm
  rw [yieldsTo_iff] at hyield hyield'
  -- neither has members, so the sizes decide: zero is below, and else both are that of `c`
  rcases hyield.2 with hzero | hsize
  · exact .inl (.inr ⟨hname'', hkind'', (yieldsTo_iff a _).mpr ⟨hyield.1, .inl hzero⟩⟩)
  rcases hyield'.2 with hzero' | hsize'
  · exact .inr (.inr ⟨hname''.symm, hkind''.symm,
      (yieldsTo_iff b _).mpr ⟨hyield'.1, .inl hzero'⟩⟩)
  · exact .inl (.inr ⟨hname'', hkind'',
      (yieldsTo_iff a _).mpr ⟨hyield.1, .inr (hsize.trans hsize'.symm)⟩⟩)

/-! ## §2. The verdict. -/

/-- **The verdict of merging by the order**: present, completed, or a conflict. -/
theorem merge_cases (stored offered : TypeRecord) (hname : stored.name = offered.name) :
    (offered ≤ stored ∧ stored.merge offered = .existing)
      ∨ (stored ≤ offered ∧ ¬ offered ≤ stored ∧ stored.merge offered = .replaced)
      ∨ (¬ offered ≤ stored ∧ ¬ stored ≤ offered ∧ stored.merge offered = .conflict stored) := by
  -- the branches of a merge in turn: equal, another kind, nothing new, more, a conflict
  unfold merge
  split
  · next heq => exact .inl ⟨heq ▸ le_refl stored, rfl⟩
  next hne =>
  split
  · next hkind =>
    exact .inr (.inr ⟨fun h => hkind (kind_eq_of_le h).symm, fun h => hkind (kind_eq_of_le h), rfl⟩)
  next hkind =>
  rw [ne_eq, Decidable.not_not] at hkind
  split
  · next hyield => exact .inl ⟨.inr ⟨hname.symm, hkind.symm, hyield⟩, rfl⟩
  next hyield =>
  have hnotle : ¬ offered ≤ stored := by
    intro h
    rcases h with heq | ⟨-, -, h⟩
    · exact hne heq.symm
    · exact hyield h
  split
  · next hyield' => exact .inr (.inl ⟨.inr ⟨hname, hkind, hyield'⟩, hnotle, rfl⟩)
  next hyield' =>
  refine .inr (.inr ⟨hnotle, ?_, rfl⟩)
  intro h
  rcases h with heq | ⟨-, -, h⟩
  · exact hne heq
  · exact hyield' h

theorem merge_eq_existing {stored offered : TypeRecord} (h : offered ≤ stored) :
    stored.merge offered = .existing := by
  rcases merge_cases stored offered (name_eq_of_le h).symm with hc | hc | hc
  · exact hc.2
  · exact absurd h hc.2.1
  · exact absurd h hc.1

theorem merge_eq_replaced {stored offered : TypeRecord} (h : stored ≤ offered)
    (hne : stored ≠ offered) : stored.merge offered = .replaced := by
  rcases merge_cases stored offered (name_eq_of_le h) with hc | hc | hc
  · exact absurd (le_antisymm h hc.1) hne
  · exact hc.2.2
  · exact absurd h hc.2.1

/-- Two definitions, neither a forward declaration, that one definition can unite: they
have one kind and one size, and they differ in their members only where one has none. -/
def Reconcilable (a b : TypeRecord) : Prop :=
  a.kind = b.kind ∧ a.size = b.size ∧ (a.members = b.members ∨ a.members = [] ∨ b.members = [])

instance (a b : TypeRecord) : Decidable (Reconcilable a b) :=
  inferInstanceAs (Decidable (_ ∧ _ ∧ _))

theorem reconcilable_symm {a b : TypeRecord} (h : Reconcilable a b) : Reconcilable b a := by
  obtain ⟨hkind, hsize, hmembers⟩ := h
  refine ⟨hkind.symm, hsize.symm, ?_⟩
  rcases hmembers with h | h | h
  · exact .inl h.symm
  · exact .inr (.inr h)
  · exact .inr (.inl h)

/-- What is below a definition is a forward declaration or can be united with it. -/
theorem isPlaceholder_or_reconcilable {a b : TypeRecord} (h : a ≤ b) :
    a.isPlaceholder = true ∨ Reconcilable a b := by
  rcases h with rfl | ⟨-, hkind, hyield⟩
  · exact .inr ⟨rfl, rfl, .inl rfl⟩
  rw [yieldsTo_iff] at hyield
  rcases hyield.2 with hzero | hsize
  · exact .inl ((isPlaceholder_iff a).mpr ⟨hzero, hyield.1⟩)
  · exact .inr ⟨hkind, hsize, .inr (.inl hyield.1)⟩

theorem le_of_isPlaceholder {a b : TypeRecord} (hname : a.name = b.name)
    (hkind : a.kind = b.kind) (h : a.isPlaceholder = true) : a ≤ b := by
  rw [isPlaceholder_iff] at h
  exact .inr ⟨hname, hkind, (yieldsTo_iff a _).mpr ⟨h.2, .inl h.1⟩⟩

theorem le_or_le_of_reconcilable {a b : TypeRecord} (hname : a.name = b.name)
    (h : Reconcilable a b) : a ≤ b ∨ b ≤ a := by
  obtain ⟨hkind, hsize, hmembers⟩ := h
  rcases hmembers with hmembers | hmembers | hmembers
  · exact .inl (.inl (eq_of_parts hname hkind hsize hmembers))
  · exact .inl (.inr ⟨hname, hkind, (yieldsTo_iff a _).mpr ⟨hmembers, .inr hsize⟩⟩)
  · exact .inr (.inr ⟨hname.symm, hkind.symm,
      (yieldsTo_iff b _).mpr ⟨hmembers, .inr hsize.symm⟩⟩)

/-- **When definitions of one name conflict**: their kinds differ, or neither is a
forward declaration and no definition unites them. -/
theorem merge_eq_conflict_iff (stored offered : TypeRecord)
    (hname : stored.name = offered.name) :
    stored.merge offered = .conflict stored
      ↔ stored.kind ≠ offered.kind
        ∨ (stored.isPlaceholder = false ∧ offered.isPlaceholder = false
            ∧ ¬ Reconcilable stored offered) := by
  constructor
  · intro hconflict
    have hle : ¬ offered ≤ stored := fun h => by
      rw [merge_eq_existing h] at hconflict
      cases hconflict
    have hle' : ¬ stored ≤ offered := fun h => by
      rw [merge_eq_replaced h (fun heq => hle (.inl heq.symm))] at hconflict
      cases hconflict
    by_cases hkind : stored.kind = offered.kind
    · refine .inr ⟨?_, ?_, ?_⟩
      · exact Bool.eq_false_iff.mpr fun h => hle' (le_of_isPlaceholder hname hkind h)
      · exact Bool.eq_false_iff.mpr fun h => hle (le_of_isPlaceholder hname.symm hkind.symm h)
      · exact fun h => (le_or_le_of_reconcilable hname h).elim hle' hle
    · exact .inl hkind
  · intro h
    -- neither definition can be below the other
    have hfree : ¬ offered ≤ stored ∧ ¬ stored ≤ offered := by
      rcases h with hkind | ⟨hstored, hoffered, hunite⟩
      · exact ⟨fun h => hkind (kind_eq_of_le h).symm, fun h => hkind (kind_eq_of_le h)⟩
      · constructor
        · intro hle
          rcases isPlaceholder_or_reconcilable hle with h | h
          · rw [hoffered] at h
            exact Bool.false_ne_true h
          · exact hunite (reconcilable_symm h)
        · intro hle
          rcases isPlaceholder_or_reconcilable hle with h | h
          · rw [hstored] at h
            exact Bool.false_ne_true h
          · exact hunite h
    rcases merge_cases stored offered hname with hc | hc | hc
    · exact absurd hc.1 hfree.1
    · exact absurd hc.1 hfree.2
    · exact hc.2.2

/-! ## §3. Layouts. -/

/-- The definition without its members. -/
def layout (record : TypeRecord) : TypeRecord :=
  { record with members := [] }

/-- A layout says nothing that its definition does not say. -/
theorem layout_le (record : TypeRecord) : record.layout ≤ record :=
  .inr ⟨rfl, rfl, (yieldsTo_iff record.layout record.size).mpr ⟨rfl, .inr rfl⟩⟩

end TypeRecord

end DebugMerge
