/-
  DebugMerge.Proofs.Identity.NormalForm
  ─────────────────────────────────────
  **When a recorded GUID still matches itself.**

  A GUID text is made normal when an identity is built, and once more when the
  identity is read back from a program database.  Outer blanks are dropped before
  the braces, so blanks between the braces and the digits survive the first time
  and are dropped the second time.  The normal form of a text is stable exactly if
  what stands inside its braces has no outer blank, and exactly then a recorded
  GUID is matched by the GUID it was recorded from.

  Main statements
    • `guidCore_eq_self_iff`             — when a bare text stays as it is
    • `normalGuid_normalGuid_iff`        — when a normal form is stable
    • `expectedIdentity_of_recordProgram` — what is read back
    • `recorded_guid_matches_iff`        — the exact condition
-/
import DebugMerge.Proofs.Folds
import DebugMerge.Store.Schema
import DebugMerge.Store.Transaction
import Mathlib.Data.List.DropRight

namespace DebugMerge

open Text

/-! ## §1. Outer characters. -/

/-- Does the text begin or end with a blank? -/
def HasOuterBlank (cs : List Char) : Prop :=
  ∃ c, (cs.head? = some c ∨ cs.getLast? = some c) ∧ isBlank c = true

section Dropping

variable {p : Char → Bool} {cs ds : List Char}

/-- Nothing is dropped at the front exactly if the first character stays. -/
theorem dropWhile_eq_self_iff_head :
    cs.dropWhile p = cs ↔ ∀ c, cs.head? = some c → p c = false := by
  cases cs with
  | nil => simp
  | cons d ds => simp [List.dropWhile_eq_self_iff]

/-- Nothing is dropped at the end exactly if the last character stays. -/
theorem dropEndWhile_eq_self_iff_getLast :
    dropEndWhile p cs = cs ↔ ∀ c, cs.getLast? = some c → p c = false := by
  have hreverse : dropEndWhile p cs = cs ↔ cs.reverse.dropWhile p = cs.reverse := by
    unfold dropEndWhile
    exact List.reverse_eq_iff
  rw [hreverse, dropWhile_eq_self_iff_head, List.head?_reverse]

theorem dropEndWhile_isPrefix (p : Char → Bool) (cs : List Char) : dropEndWhile p cs <+: cs :=
  List.rdropWhile_prefix p cs

theorem dropEndWhile_idempotent (p : Char → Bool) (cs : List Char) :
    dropEndWhile p (dropEndWhile p cs) = dropEndWhile p cs :=
  List.rdropWhile_idempotent p cs

/-- What is not dropped at the front of a text is not dropped at the front of its beginning. -/
theorem dropWhile_eq_self_of_isPrefix (h : ds <+: cs) (hcs : cs.dropWhile p = cs) :
    ds.dropWhile p = ds := by
  rw [dropWhile_eq_self_iff_head] at hcs ⊢
  intro c hc
  obtain ⟨rest, rfl⟩ := h
  exact hcs c (List.head?_append_of_ne_nil ds (by rintro rfl; cases hc) ▸ hc)

theorem trimChars_sublist (cs : List Char) : (trimChars cs).Sublist cs :=
  (dropEndWhile_isPrefix _ _).sublist.trans (List.dropWhile_sublist _)

/-- Trimming changes nothing exactly if there is no outer blank. -/
theorem trimChars_eq_self_iff : trimChars cs = cs ↔ ¬ HasOuterBlank cs := by
  have hboth : trimChars cs = cs ↔ cs.dropWhile isBlank = cs ∧ dropEndWhile isBlank cs = cs := by
    constructor
    · intro h
      have hfront : cs.Sublist (cs.dropWhile isBlank) := by
        have hend := (dropEndWhile_isPrefix isBlank (cs.dropWhile isBlank)).sublist
        rwa [show dropEndWhile isBlank (cs.dropWhile isBlank) = cs from h] at hend
      have hself : cs.dropWhile isBlank = cs := (List.dropWhile_sublist _).antisymm hfront
      refine ⟨hself, ?_⟩
      unfold trimChars at h
      rwa [hself] at h
    · rintro ⟨hfront, hend⟩
      unfold trimChars
      rw [hfront, hend]
  rw [hboth, dropWhile_eq_self_iff_head, dropEndWhile_eq_self_iff_getLast]
  constructor
  · rintro ⟨hfront, hend⟩ ⟨c, hc | hc, hblank⟩
    · exact absurd hblank (Bool.eq_false_iff.mp (hfront c hc))
    · exact absurd hblank (Bool.eq_false_iff.mp (hend c hc))
  · intro h
    refine ⟨fun c hc => ?_, fun c hc => ?_⟩
    · exact Bool.eq_false_iff.mpr fun hblank => h ⟨c, .inl hc, hblank⟩
    · exact Bool.eq_false_iff.mpr fun hblank => h ⟨c, .inr hc, hblank⟩

end Dropping

/-! ## §2. Bare texts. -/

/-- A text without outer blanks and then without outer braces. -/
def guidCore (cs : List Char) : List Char :=
  dropEndWhile (· = '\x7d') ((trimChars cs).dropWhile (· = '\x7b'))

/-- A GUID is made normal by baring it and raising its letters. -/
theorem normalGuid_eq (s : String) :
    normalGuid s = String.ofList ((guidCore s.toList).map Char.toUpper) :=
  rfl

/-- A bare text has no opening brace in front. -/
theorem dropWhile_guidCore (cs : List Char) :
    (guidCore cs).dropWhile (· = '\x7b') = guidCore cs :=
  dropWhile_eq_self_of_isPrefix (dropEndWhile_isPrefix _ _) (List.dropWhile_idempotent _ _)

/-- A bare text has no closing brace at its end. -/
theorem dropEndWhile_guidCore (cs : List Char) :
    dropEndWhile (· = '\x7d') (guidCore cs) = guidCore cs :=
  dropEndWhile_idempotent _ _

theorem guidCore_sublist (cs : List Char) : (guidCore cs).Sublist (trimChars cs) :=
  (dropEndWhile_isPrefix _ _).sublist.trans (List.dropWhile_sublist _)

/-- **When a bare text stays as it is**: exactly if it has no outer blank. -/
theorem guidCore_eq_self_iff (cs : List Char) :
    guidCore (guidCore cs) = guidCore cs ↔ ¬ HasOuterBlank (guidCore cs) := by
  rw [← trimChars_eq_self_iff]
  constructor
  · intro h
    have hkept : (guidCore cs).Sublist (trimChars (guidCore cs)) := by
      have hsub := guidCore_sublist (guidCore cs)
      rwa [h] at hsub
    exact (trimChars_sublist _).antisymm hkept
  · intro h
    rw [guidCore, h, dropWhile_guidCore, dropEndWhile_guidCore]

/-! ## §3. Letters. -/

/-- Raising changes small letters only. -/
theorem toUpper_cases (c : Char) :
    c.toUpper = c
      ∨ 97 ≤ c.toNat ∧ c.toNat ≤ 122 ∧ c.toUpper.toNat + 32 = c.toNat := by
  unfold Char.toUpper
  split
  · next hsmall =>
    have hlow : 97 ≤ c.val.toNat := hsmall.1
    have hhigh : c.val.toNat ≤ 122 := hsmall.2
    refine .inr ⟨hlow, hhigh, ?_⟩
    have hdistance : ('A'.val - 'a'.val).toNat = 2 ^ 32 - 32 := rfl
    show (c.val + ('A'.val - 'a'.val)).toNat + 32 = c.val.toNat
    rw [UInt32.toNat_add]
    omega
  · exact .inl rfl

theorem toUpper_toUpper (c : Char) : c.toUpper.toUpper = c.toUpper := by
  rcases toUpper_cases c with h | ⟨hlow, hhigh, hraised⟩
  · rw [h, h]
  · rcases toUpper_cases c.toUpper with h | ⟨hlow', -, -⟩
    · exact h
    · omega

/-- A test that no letter passes does not see whether letters are raised. -/
theorem comp_toUpper {p : Char → Bool}
    (h : ∀ c, p c = true → c.toNat < 65 ∨ 90 < c.toNat ∧ c.toNat < 97 ∨ 122 < c.toNat) :
    p ∘ Char.toUpper = p := by
  funext c
  rcases toUpper_cases c with hsame | ⟨hlow, hhigh, hraised⟩
  · rw [Function.comp_apply, hsame]
  · have hsmall : p c = false := Bool.eq_false_iff.mpr fun hc => by
      have := h c hc
      omega
    have hcapital : p c.toUpper = false := Bool.eq_false_iff.mpr fun hc => by
      have := h c.toUpper hc
      omega
    rw [Function.comp_apply, hsmall, hcapital]

theorem isBlank_comp_toUpper : isBlank ∘ Char.toUpper = isBlank :=
  comp_toUpper fun c hc => by
    simp only [isBlank, Bool.or_eq_true, Bool.and_eq_true, decide_eq_true_eq, beq_iff_eq] at hc
    omega

theorem brace_comp_toUpper {brace : Char} (h : 122 < brace.toNat) :
    (fun c : Char => decide (c = brace)) ∘ Char.toUpper = fun c => decide (c = brace) :=
  comp_toUpper fun c hc => by
    rw [of_decide_eq_true hc]
    omega

theorem dropEndWhile_map (p : Char → Bool) (cs : List Char) :
    dropEndWhile p (cs.map Char.toUpper)
      = (dropEndWhile (p ∘ Char.toUpper) cs).map Char.toUpper := by
  unfold dropEndWhile
  rw [← List.map_reverse, List.dropWhile_map, List.map_reverse]

theorem trimChars_map_toUpper (cs : List Char) :
    trimChars (cs.map Char.toUpper) = (trimChars cs).map Char.toUpper := by
  unfold trimChars
  rw [List.dropWhile_map, isBlank_comp_toUpper, dropEndWhile_map, isBlank_comp_toUpper]

/-- Raising the letters and baring a text can be exchanged. -/
theorem guidCore_map_toUpper (cs : List Char) :
    guidCore (cs.map Char.toUpper) = (guidCore cs).map Char.toUpper := by
  unfold guidCore
  rw [trimChars_map_toUpper, List.dropWhile_map, brace_comp_toUpper (by decide), dropEndWhile_map,
    brace_comp_toUpper (by decide)]

/-- Raising the letters makes no blank. -/
theorem hasOuterBlank_map_toUpper (cs : List Char) :
    HasOuterBlank (cs.map Char.toUpper) ↔ HasOuterBlank cs := by
  rw [← not_iff_not, ← trimChars_eq_self_iff, ← trimChars_eq_self_iff, trimChars_map_toUpper]
  constructor
  · intro h
    have hlength := congrArg List.length h
    rw [List.length_map, List.length_map] at hlength
    exact (trimChars_sublist cs).eq_of_length hlength
  · intro h
    rw [h]

/-! ## §4. The normal form. -/

/-- The normal form depends only on the text with its letters raised. -/
theorem normalGuid_eq_guidCore_asciiUpper (s : String) :
    normalGuid s = String.ofList (guidCore (asciiUpper s).toList) := by
  unfold asciiUpper
  rw [String.toList_ofList, guidCore_map_toUpper]
  rfl

/-- Nothing is dropped of a text without blanks and braces. -/
theorem guidCore_of_plain {cs : List Char}
    (h : ∀ c ∈ cs, isBlank c = false ∧ c ≠ '\x7b' ∧ c ≠ '\x7d') : guidCore cs = cs := by
  have htrim : trimChars cs = cs := by
    rw [trimChars_eq_self_iff]
    rintro ⟨c, hc | hc, hblank⟩
    · exact absurd hblank (Bool.eq_false_iff.mp (h c (List.mem_of_mem_head? hc)).1)
    · exact absurd hblank (Bool.eq_false_iff.mp (h c (List.mem_of_mem_getLast? hc)).1)
  have hfront : cs.dropWhile (· = '\x7b') = cs :=
    dropWhile_eq_self_iff_head.mpr fun c hc => decide_eq_false (h c (List.mem_of_mem_head? hc)).2.1
  have hend : dropEndWhile (· = '\x7d') cs = cs :=
    dropEndWhile_eq_self_iff_getLast.mpr fun c hc =>
      decide_eq_false (h c (List.mem_of_mem_getLast? hc)).2.2
  rw [guidCore, htrim, hfront, hend]

/-- **When the normal form is stable**: exactly if nothing between the braces is a blank at the
outside. -/
theorem normalGuid_normalGuid_iff (s : String) :
    normalGuid (normalGuid s) = normalGuid s ↔ ¬ HasOuterBlank (guidCore s.toList) := by
  -- the normal form is bare and has no letters to raise
  have hbare : (normalGuid s).toList = guidCore (s.toList.map Char.toUpper) := by
    rw [normalGuid_eq, String.toList_ofList, guidCore_map_toUpper]
  have hraised : asciiUpper (normalGuid s) = normalGuid s := by
    have htwice : Char.toUpper ∘ Char.toUpper = Char.toUpper := funext toUpper_toUpper
    unfold asciiUpper
    rw [normalGuid_eq, String.toList_ofList, List.map_map, htwice]
  rw [normalGuid_eq_guidCore_asciiUpper, hraised, ← String.toList_inj, String.toList_ofList, hbare,
    guidCore_eq_self_iff, guidCore_map_toUpper, hasOuterBlank_map_toUpper]

/-! ## §5. Recorded identities. -/

/-- The identity that comes back from a database: its GUID is made normal again. -/
def Identity.reread (identity : Identity) : Identity :=
  match identity.uniqueId with
  | .guid text => { identity with uniqueId := .ofGuid text }
  | .signature _ => identity

/-- A recorded identity has a row from which it is reread. -/
theorem expected_toInfo_toRow {info : ProgramInfo} {identity : Identity}
    (h : info.expected = some identity) : info.toRow.toInfo.expected = some identity.reread := by
  obtain ⟨uniqueId, age, file⟩ := identity
  unfold ProgramInfo.toRow
  rw [h]
  cases uniqueId with
  | guid text => simp [ProgramRow.toInfo, Identity.reread]
  | signature value => simp [ProgramRow.toInfo, Identity.reread]

/-- The attributes that come back from a database. -/
def ProgramInfo.reread (info : ProgramInfo) : ProgramInfo :=
  { info with expected := info.expected.map Identity.reread }

/-- **Attributes and their row**: everything comes back, but a GUID is made normal again. -/
theorem ProgramInfo.toInfo_toRow (info : ProgramInfo) : info.toRow.toInfo = info.reread := by
  obtain ⟨name, imageBase, expected⟩ := info
  cases expected with
  | none => rfl
  | some identity =>
    have hexpected : (ProgramInfo.mk name imageBase (some identity)).toRow.toInfo.expected
        = some identity.reread := expected_toInfo_toRow rfl
    obtain ⟨uniqueId, age, file⟩ := identity
    cases uniqueId with
    | guid text => exact congrArg (ProgramInfo.mk name imageBase) hexpected
    | signature value => exact congrArg (ProgramInfo.mk name imageBase) hexpected

/-- **What is read back** after a program was recorded. -/
theorem Database.expectedIdentity_of_recordProgram {db recorded : Database} {info : ProgramInfo}
    {blocks : List MemoryBlock} {identity : Identity} (hexpected : info.expected = some identity)
    (h : db.recordProgram info blocks = .ok recorded) :
    recorded.expectedIdentity = .ok (some identity.reread) := by
  obtain ⟨-, -, h⟩ := bind_ok.mp h
  obtain ⟨-, -, h⟩ := bind_ok.mp h
  cases h
  show Except.ok (info.toRow.toInfo.expected) = _
  rw [expected_toInfo_toRow hexpected]

theorem matches_iff {a b : Identity} :
    a.matches b = true ↔ b.uniqueId = a.uniqueId ∧ b.age = a.age := by
  unfold Identity.matches
  rw [Bool.and_eq_true, beq_iff_eq, beq_iff_eq, eq_comm, eq_comm (a := a.age)]

theorem verify_eq_match_iff {expected candidate : Identity} :
    verify (some expected) candidate = .match ↔ expected.matches candidate = true := by
  unfold verify
  dsimp only
  split
  · next h => exact iff_of_true rfl h
  · next h => exact iff_of_false nofun h

/-- **The exact condition.**  A program that expects a GUID is matched by the same GUID, whatever
the case of its letters and whatever the files, exactly if nothing between the braces is a blank
at the outside; and exactly then the normal form of the GUID is stable. -/
theorem recorded_guid_matches_iff {db recorded : Database} {info : ProgramInfo}
    {blocks : List MemoryBlock} {g g' : String} {age : UInt32} {file : Option String}
    (hletters : asciiUpper g' = asciiUpper g)
    (hexpected : info.expected = some ⟨.ofGuid g, age, file⟩)
    (hrecorded : db.recordProgram info blocks = .ok recorded) :
    ∃ expected, recorded.expectedIdentity = .ok (some expected)
      ∧ (∀ file', verify (some expected) ⟨.ofGuid g', age, file'⟩ = .match
          ↔ ¬ HasOuterBlank (guidCore g.toList))
      ∧ (normalGuid (normalGuid g) = normalGuid g ↔ ¬ HasOuterBlank (guidCore g.toList)) := by
  have hsame : normalGuid g' = normalGuid g := by
    rw [normalGuid_eq_guidCore_asciiUpper, hletters, ← normalGuid_eq_guidCore_asciiUpper]
  refine ⟨_, Database.expectedIdentity_of_recordProgram hexpected hrecorded, fun file' => ?_,
    normalGuid_normalGuid_iff g⟩
  rw [verify_eq_match_iff, matches_iff, ← normalGuid_normalGuid_iff]
  show UniqueId.guid (normalGuid g') = UniqueId.guid (normalGuid (normalGuid g)) ∧ age = age ↔ _
  rw [hsame, UniqueId.guid.injEq, and_iff_left rfl, eq_comm]

/-- The attributes of a program that expects a GUID. -/
def expectingGuid (g : String) : ProgramInfo :=
  ⟨"app.exe", 0, some (.ofGuid g 2)⟩

/-- A GUID in braces. -/
def bracedGuid : String :=
  "\x7b3F2504E0-4F89-11D3-9A0C-0305E82C3301\x7d"

/-- The GUID in braces matches its small letters after it was recorded. -/
theorem recorded_guid_matches_small_letters :
    ∃ recorded expected,
      Database.fresh.recordProgram (expectingGuid bracedGuid) [] = .ok recorded
        ∧ recorded.expectedIdentity = .ok (some expected)
        ∧ verify (some expected) ((Identity.ofGuid (asciiLower bracedGuid) 2).withFile "other.pdb")
          = .match := by
  have hletters : asciiUpper (asciiLower bracedGuid) = asciiUpper bracedGuid := by
    decide +kernel
  have hexpected : (expectingGuid bracedGuid).expected = some ⟨.ofGuid bracedGuid, 2, none⟩ := rfl
  obtain ⟨recorded, hrecorded⟩ : ∃ recorded,
      Database.fresh.recordProgram (expectingGuid bracedGuid) [] = .ok recorded := ⟨_, rfl⟩
  obtain ⟨expected, hread, hmatch, -⟩ := recorded_guid_matches_iff hletters hexpected hrecorded
  have hplain : ¬ HasOuterBlank (guidCore bracedGuid.toList) := by
    rw [← trimChars_eq_self_iff]
    decide +kernel
  exact ⟨recorded, expected, hrecorded, hread, (hmatch (some "other.pdb")).mpr hplain⟩

/-- A GUID with blanks between its digits and the braces. -/
def spacedGuid : String :=
  "\x7b 3F2504E0-4F89-11D3-9A0C-0305E82C3301 \x7d"

/-- The GUID with such blanks does not match itself once it was recorded. -/
theorem spaced_guid_does_not_match_itself :
    ∃ recorded expected,
      Database.fresh.recordProgram (expectingGuid spacedGuid) [] = .ok recorded
        ∧ recorded.expectedIdentity = .ok (some expected)
        ∧ verify (some expected) (.ofGuid spacedGuid 2) ≠ .match
        ∧ normalGuid (normalGuid spacedGuid) ≠ normalGuid spacedGuid :=
  ⟨_, _, rfl, rfl, by decide +kernel, by decide +kernel⟩

end DebugMerge
