/-
  DebugMerge.Proofs.Text.Numerals
  ───────────────────────────────
  **Which texts are numerals, and of which numbers.**

  A numeral is one or more digits, most significant first, with any number of
  leading zeros and letters in either case.  A reader with a limit takes in one
  digit after the other and gives up at the first excess.  Values never shrink
  on the way, so it gives up exactly if the number is too large in the end.

  Main statements
    • `IsDigitOf`, `Names`      — digits, and the number that they name
    • `digitValue?_eq_some_iff` — reading a digit
    • `parse_eq_ok_iff`         — reading a numeral with an optional sign
    • `names_render`, `names_render_toUpper` — written numerals name their number
    • `splitOnce?_eq_some_iff`, `trimChars_eq_iff` — cutting and trimming
-/
import DebugMerge.Proofs.Identity.NormalForm
import DebugMerge.Text.Numeral
import Mathlib.Data.List.Forall2
import Mathlib.Data.Nat.Digits.Defs
import Mathlib.Tactic.Ring

namespace DebugMerge.Text

/-! ## §1. Digits. -/

/-- The digits with small letters, each at the place of its value. -/
def smallDigits : List Char := "0123456789abcdef".toList

/-- The digits with capital letters. -/
def capitalDigits : List Char := "0123456789ABCDEF".toList

/-- The character is the digit `d` of the base, in either case. -/
def IsDigitOf (base : Nat) (c : Char) (d : Nat) : Prop :=
  d < base ∧ (smallDigits[d]? = some c ∨ capitalDigits[d]? = some c)

/-- The characters are one or more digits of the base, which name the number. -/
def Names (base : Nat) (cs : List Char) (n : Nat) : Prop :=
  cs ≠ [] ∧ ∃ ds, List.Forall₂ (IsDigitOf base) cs ds ∧ n = Nat.ofDigits base ds.reverse

/-- A numeral consists of digits. -/
theorem Names.exists_isDigitOf {base n : Nat} {cs : List Char} (h : Names base cs n) :
    ∀ c ∈ cs, ∃ d, IsDigitOf base c d := by
  obtain ⟨-, ds, hds, -⟩ := h
  have hall : List.Forall₂ (fun c d => (∃ d, IsDigitOf base c d) ∧ IsDigitOf base c d) cs ds :=
    hds.imp fun c d hd => ⟨⟨d, hd⟩, hd⟩
  exact ((List.forall₂_and_left cs ds).mp hall).1

/-- Every digit has its value, whichever case it has. -/
theorem digitValue?_of_mem {d : Nat} (hd : d < 16) {c : Char}
    (hc : c ∈ smallDigits[d]?.toList ++ capitalDigits[d]?.toList) :
    digitValue? 16 c = some d := by
  have hall : ∀ d < 16, (smallDigits[d]?.toList ++ capitalDigits[d]?.toList).all
      fun c => decide (digitValue? 16 c = some d) := by
    decide +kernel
  exact of_decide_eq_true (List.all_eq_true.mp (hall d hd) c hc)

/-- The value of a character depends on the base only in that it must be below. -/
theorem digitValue?_eq_filter {base : Nat} (hbase : base ≤ 16) (c : Char) :
    digitValue? base c = (digitValue? 16 c).filter (· < base) := by
  unfold digitValue?
  dsimp only
  rw [Option.filter_filter]
  congr 1
  funext d
  rw [Bool.eq_iff_iff, Bool.and_eq_true, decide_eq_true_iff, decide_eq_true_iff]
  omega

/-- A character with a value is the digit of that value. -/
theorem isDigitOf_of_digitValue? {c : Char} {d : Nat} (h : digitValue? 16 c = some d) :
    IsDigitOf 16 c d := by
  have hdigit : ∀ k < 10, smallDigits[k]? = some (Char.ofNat (48 + k)) := by decide
  have hsmall : ∀ k < 16, 10 ≤ k → smallDigits[k]? = some (Char.ofNat (87 + k)) := by decide
  have hcapital : ∀ k < 16, 10 ≤ k → capitalDigits[k]? = some (Char.ofNat (55 + k)) := by decide
  unfold digitValue? at h
  obtain ⟨hvalue, hlt⟩ := Option.filter_eq_some_iff.mp h
  have hlt : d < 16 := of_decide_eq_true hlt
  refine ⟨hlt, ?_⟩
  -- one case for each of the three ranges of characters
  split at hvalue
  · next hrange =>
    obtain rfl := Option.some.inj hvalue
    left
    rw [hdigit _ (by omega), Nat.add_sub_cancel' hrange.1, Char.ofNat_toNat]
  · split at hvalue
    · next hrange =>
      obtain rfl := Option.some.inj hvalue
      left
      rw [hsmall _ hlt (by omega), Nat.add_sub_cancel' (by omega), Char.ofNat_toNat]
    · split at hvalue
      · next hrange =>
        obtain rfl := Option.some.inj hvalue
        right
        rw [hcapital _ hlt (by omega), Nat.add_sub_cancel' (by omega), Char.ofNat_toNat]
      · cases hvalue

/-- **Reading a digit.** -/
theorem digitValue?_eq_some_iff {base : Nat} (hbase : base ≤ 16) {c : Char} {d : Nat} :
    digitValue? base c = some d ↔ IsDigitOf base c d := by
  rw [digitValue?_eq_filter hbase, Option.filter_eq_some_iff, decide_eq_true_iff]
  constructor
  · rintro ⟨hvalue, hlt⟩
    exact ⟨hlt, (isDigitOf_of_digitValue? hvalue).2⟩
  · rintro ⟨hlt, hmem⟩
    refine ⟨digitValue?_of_mem (by omega) (List.mem_append.mpr ?_), hlt⟩
    rw [Option.mem_toList, Option.mem_toList]
    exact hmem

/-! ## §2. Numerals. -/

/-- **Reading digits** behind those of a value. -/
theorem parseDigits_eq_ok_iff {base limit : Nat} (hbase : base ≤ 16) {cs : List Char}
    {value n : Nat} (hvalue : value < limit) :
    parseDigits base limit value cs = .ok n
      ↔ ∃ ds, List.Forall₂ (IsDigitOf base) cs ds
        ∧ n = value * base ^ ds.length + Nat.ofDigits base ds.reverse ∧ n < limit := by
  induction cs generalizing value with
  | nil =>
    rw [parseDigits]
    constructor
    · intro h
      cases h
      exact ⟨[], .nil, by simp, hvalue⟩
    · rintro ⟨ds, hds, rfl, -⟩
      cases hds
      simp
  | cons c rest ih =>
    rw [parseDigits]
    constructor
    · intro h
      split at h
      · cases h
      · next d hd =>
        dsimp only at h
        split at h
        · next hnext =>
          obtain ⟨ds, hds, hn, hlt⟩ := (ih hnext).mp h
          refine ⟨d :: ds, .cons ((digitValue?_eq_some_iff hbase).mp hd) hds, ?_, hlt⟩
          rw [hn, List.reverse_cons, Nat.ofDigits_append, Nat.ofDigits_singleton,
            List.length_reverse, List.length_cons]
          ring
        · cases h
    · rintro ⟨ds, hds, hn, hlt⟩
      cases hds with
      | @cons _ d _ ds hd hds =>
        rw [List.reverse_cons, Nat.ofDigits_append, Nat.ofDigits_singleton, List.length_reverse,
          List.length_cons] at hn
        have hn : n = (value * base + d) * base ^ ds.length + Nat.ofDigits base ds.reverse := by
          rw [hn]
          ring
        -- a value never shrinks, so the limit is kept on the way
        have hnext : value * base + d < limit := by
          have hpos : 0 < base ^ ds.length := Nat.pow_pos (Nat.zero_lt_of_lt hd.1)
          have hle := Nat.le_mul_of_pos_right (value * base + d) hpos
          omega
        rw [(digitValue?_eq_some_iff hbase).mpr hd]
        dsimp only
        rw [if_pos hnext]
        exact (ih hnext).mpr ⟨ds, hds, hn, hlt⟩

/-- Reading digits from the start. -/
theorem parseDigits_zero_eq_ok_iff {base limit : Nat} (hbase : base ≤ 16) (hlimit : 0 < limit)
    {cs : List Char} (hcs : cs ≠ []) {n : Nat} :
    parseDigits base limit 0 cs = .ok n ↔ Names base cs n ∧ n < limit := by
  rw [parseDigits_eq_ok_iff hbase hlimit]
  unfold Names
  constructor
  · rintro ⟨ds, hds, hn, hlt⟩
    rw [Nat.zero_mul, Nat.zero_add] at hn
    exact ⟨⟨hcs, ds, hds, hn⟩, hlt⟩
  · rintro ⟨⟨-, ds, hds, hn⟩, hlt⟩
    exact ⟨ds, hds, by rw [hn, Nat.zero_mul, Nat.zero_add], hlt⟩

/-- A plus sign is no digit. -/
theorem not_isDigitOf_plus {base d : Nat} : ¬ IsDigitOf base '+' d := by
  have hsmall : '+' ∉ smallDigits := by decide
  have hcapital : '+' ∉ capitalDigits := by decide
  rintro ⟨-, h | h⟩
  · exact hsmall (List.mem_of_getElem? h)
  · exact hcapital (List.mem_of_getElem? h)

/-- Digits do not begin with a plus sign. -/
theorem not_names_plus {base n : Nat} {cs : List Char} : ¬ Names base ('+' :: cs) n := by
  rintro ⟨-, ds, hds, -⟩
  cases hds with
  | cons hd _ => exact not_isDigitOf_plus hd

/-- A sign in front of a numeral: a plus sign or nothing. -/
def IsSign (cs : List Char) : Prop :=
  cs = [] ∨ cs = ['+']

/-- **Reading a numeral** below a limit. -/
theorem parse_eq_ok_iff {base limit : Nat} (hbase : base ≤ 16) (hlimit : 0 < limit)
    {cs : List Char} {n : Nat} :
    parse base limit cs = .ok n
      ↔ n < limit ∧ ∃ sign digits, cs = sign ++ digits ∧ IsSign sign ∧ Names base digits n := by
  unfold parse
  split
  · constructor
    · intro h
      cases h
    · rintro ⟨-, sign, digits, hcs, -, hne, -⟩
      exact absurd (List.append_eq_nil_iff.mp hcs.symm).2 hne
  · constructor
    · intro h
      cases h
    · rintro ⟨-, sign, digits, hcs, rfl | rfl, hnames⟩
      · cases hcs
        exact absurd hnames not_names_plus
      · cases hcs
        exact absurd rfl hnames.1
  · next rest hrest =>
    have hne : rest ≠ [] := fun h => hrest (by rw [h])
    rw [parseDigits_zero_eq_ok_iff hbase hlimit hne]
    constructor
    · rintro ⟨hnames, hlt⟩
      exact ⟨hlt, ['+'], rest, rfl, .inr rfl, hnames⟩
    · rintro ⟨hlt, sign, digits, hcs, rfl | rfl, hnames⟩
      · cases hcs
        exact absurd hnames not_names_plus
      · cases hcs
        exact ⟨hnames, hlt⟩
  · next hnil _ hplus =>
    rw [parseDigits_zero_eq_ok_iff hbase hlimit hnil]
    constructor
    · rintro ⟨hnames, hlt⟩
      exact ⟨hlt, [], cs, rfl, .inl rfl, hnames⟩
    · rintro ⟨hlt, sign, digits, rfl, rfl | rfl, hnames⟩
      · exact ⟨hnames, hlt⟩
      · exact absurd rfl (hplus digits)

/-! ## §3. Written numerals. -/

/-- The digits of a number are below the base and give the number again. -/
theorem digits_spec {base : Nat} (hbase : 1 < base) (n : Nat) :
    digits base n ≠ [] ∧ (∀ d ∈ digits base n, d < base)
      ∧ Nat.ofDigits base (digits base n).reverse = n := by
  induction n using Nat.strongRecOn with
  | _ n ih =>
    rw [digits]
    split
    · next hsmall =>
      refine ⟨List.cons_ne_nil _ _, fun d hd => ?_, Nat.ofDigits_singleton⟩
      rw [List.mem_singleton] at hd
      omega
    · next hlarge =>
      obtain ⟨-, hbelow, hvalue⟩ := ih (n / base) (Nat.div_lt_self (by omega) hbase)
      refine ⟨by simp, fun d hd => ?_, ?_⟩
      · rcases List.mem_append.mp hd with hd | hd
        · exact hbelow d hd
        · rw [List.mem_singleton.mp hd]
          exact Nat.mod_lt n (by omega)
      · rw [List.reverse_append, List.reverse_singleton, List.singleton_append,
          Nat.ofDigits_cons, hvalue]
        exact Nat.mod_add_div n base

/-- Written digits are digits, in either case. -/
theorem isDigitOf_digitChar :
    ∀ d < 16, smallDigits[d]? = some (digitChar d)
      ∧ capitalDigits[d]? = some (digitChar d).toUpper := by
  decide

/-- Characters that are the digits of a number name it. -/
theorem names_map_digits {base n : Nat} (hlow : 1 < base) {char : Nat → Char}
    (hchar : ∀ d < base, IsDigitOf base (char d) d) : Names base ((digits base n).map char) n := by
  obtain ⟨hne, hbelow, hvalue⟩ := digits_spec hlow n
  refine ⟨fun h => hne (List.map_eq_nil_iff.mp h), digits base n, ?_, hvalue.symm⟩
  rw [List.forall₂_map_left_iff, List.forall₂_same]
  exact fun d hd => hchar d (hbelow d hd)

/-- **A written numeral names its number.** -/
theorem names_render {base : Nat} (hlow : 1 < base) (hhigh : base ≤ 16) (n : Nat) :
    Names base (render base n) n :=
  names_map_digits hlow fun d hd => ⟨hd, .inl (isDigitOf_digitChar d (by omega)).1⟩

/-- So does one with capital letters. -/
theorem names_render_toUpper {base : Nat} (hlow : 1 < base) (hhigh : base ≤ 16) (n : Nat) :
    Names base ((render base n).map Char.toUpper) n := by
  unfold render
  rw [List.map_map]
  exact names_map_digits hlow fun d hd => ⟨hd, .inr (isDigitOf_digitChar d (by omega)).2⟩

/-! ## §4. Cutting and trimming. -/

/-- **Cutting at the first occurrence** of a character. -/
theorem splitOnce?_eq_some_iff {c : Char} {cs before after : List Char} :
    splitOnce? c cs = some (before, after) ↔ cs = before ++ c :: after ∧ c ∉ before := by
  induction cs generalizing before with
  | nil =>
    constructor
    · intro h
      cases h
    · rintro ⟨h, -⟩
      exact absurd h.symm (by simp)
  | cons d rest ih =>
    rw [splitOnce?]
    split
    · next hd =>
      subst hd
      constructor
      · intro h
        cases h
        exact ⟨rfl, List.not_mem_nil⟩
      · rintro ⟨h, hnot⟩
        cases before with
        | nil =>
          cases h
          rfl
        | cons e before =>
          cases h
          exact absurd List.mem_cons_self hnot
    · next hd =>
      rw [Option.map_eq_some_iff]
      constructor
      · rintro ⟨⟨before, after⟩, hrest, h⟩
        cases h
        obtain ⟨rfl, hnot⟩ := ih.mp hrest
        exact ⟨rfl, fun h => (List.mem_cons.mp h).elim (fun h => hd h.symm) hnot⟩
      · rintro ⟨h, hnot⟩
        cases before with
        | nil =>
          cases h
          exact absurd rfl hd
        | cons e before =>
          cases h
          exact ⟨(before, after), ih.mpr ⟨rfl, fun h => hnot (List.mem_cons_of_mem _ h)⟩, rfl⟩

/-- `inner` is the text without its outer blanks. -/
def TrimsTo (cs inner : List Char) : Prop :=
  ∃ front back, cs = front ++ inner ++ back ∧ (∀ c ∈ front, isBlank c = true)
    ∧ (∀ c ∈ back, isBlank c = true) ∧ ¬ HasOuterBlank inner

/-- **Trimming** leaves the text without its outer blanks. -/
theorem trimChars_eq_iff {cs inner : List Char} : trimChars cs = inner ↔ TrimsTo cs inner := by
  constructor
  · rintro rfl
    refine ⟨cs.takeWhile isBlank, ((cs.dropWhile isBlank).reverse.takeWhile isBlank).reverse,
      ?_, fun c hc => ?_, fun c hc => ?_, ?_⟩
    · unfold trimChars dropEndWhile
      rw [List.append_assoc, ← List.reverse_append, List.takeWhile_append_dropWhile,
        List.reverse_reverse, List.takeWhile_append_dropWhile]
    · exact List.mem_takeWhile_imp hc
    · exact List.mem_takeWhile_imp (List.mem_reverse.mp hc)
    · -- trimming twice is trimming once
      rw [← trimChars_eq_self_iff]
      unfold trimChars
      rw [dropWhile_eq_self_of_isPrefix (dropEndWhile_isPrefix _ _) (List.dropWhile_idempotent _ _),
        dropEndWhile_idempotent]
  · rintro ⟨front, back, rfl, hfront, hback, houter⟩
    have hend : dropEndWhile isBlank (inner ++ back) = dropEndWhile isBlank inner := by
      unfold dropEndWhile
      rw [List.reverse_append,
        List.dropWhile_append_of_pos fun c hc => hback c (List.mem_reverse.mp hc)]
    have hinner := trimChars_eq_self_iff.mpr houter
    unfold trimChars at hinner ⊢
    rw [List.append_assoc, List.dropWhile_append_of_pos hfront]
    cases inner with
    | nil =>
      -- nothing but blanks
      rw [List.nil_append, List.dropWhile_eq_nil_iff.mpr hback]
      rfl
    | cons c inner =>
      have hfirst : isBlank c = false :=
        Bool.eq_false_iff.mpr fun hblank => houter ⟨c, .inl rfl, hblank⟩
      rw [List.dropWhile_cons_of_neg (Bool.eq_false_iff.mp hfirst)] at hinner
      rw [List.cons_append, List.dropWhile_cons_of_neg (Bool.eq_false_iff.mp hfirst),
        ← List.cons_append, hend, hinner]

end DebugMerge.Text
