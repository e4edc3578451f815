/-
  DebugMerge.Proofs.Program.Spelling
  ──────────────────────────────────
  **Which texts spell addresses and blocks.**

  An address is spelled by a numeral that may be set off by blanks, broken up by
  underscores and marked as hexadecimal; a block by its name, a colon, and two
  addresses with a hyphen between them.  The blanks go before the underscores,
  so a blank behind an outer underscore stays and spoils the numeral.  What is
  written for a block, in either base, is read as that block.

  Main statements
    • `SpellsAddress`, `parseAddress_eq_ok_iff` — the texts of an address
    • `parseBlock_eq_ok_iff`                    — the texts of a block
    • `spellsAddress_of_names`                  — written numerals spell addresses
    • `block_syntax`                            — all of it
-/
import DebugMerge.Program.Memory
import DebugMerge.Proofs.Folds
import DebugMerge.Proofs.Text.Numerals

namespace DebugMerge

open Text

/-! ## §1. Addresses. -/

/-- A mark in front of a numeral, and the base that it announces. -/
inductive IsMark : List Char → Nat → Prop
  | absent : IsMark [] 10
  | small : IsMark ['0', 'x'] 16
  | capital : IsMark ['0', 'X'] 16

theorem IsMark.base_le {mark : List Char} {base : Nat} (h : IsMark mark base) : base ≤ 16 := by
  cases h <;> decide

/-- The text spells the address: without its outer blanks and then without underscores it is a
mark, a sign and digits, of which the first two may be left out, and the digits name the address. -/
def SpellsAddress (value : String) (address : UInt64) : Prop :=
  ∃ inner mark base sign digits, TrimsTo value.toList inner
    ∧ inner.filter (· ≠ '_') = mark ++ (sign ++ digits)
    ∧ IsMark mark base ∧ IsSign sign ∧ Names base digits address.toNat

/-- The number behind a mark. -/
def markedNumber (cs : List Char) : Except NumeralError Nat :=
  match cs with
  | '0' :: 'x' :: digits => parse 16 limit64 digits
  | '0' :: 'X' :: digits => parse 16 limit64 digits
  | cs => parse 10 limit64 cs

/-- Neither mark can stand where decimal digits are read. -/
theorem not_isDigitOf_ten {d : Nat} : ¬ IsDigitOf 10 'x' d ∧ ¬ IsDigitOf 10 'X' d := by
  have hforeign : digitValue? 10 'x' = none ∧ digitValue? 10 'X' = none := by decide
  rw [← digitValue?_eq_some_iff (by decide), ← digitValue?_eq_some_iff (by decide),
    hforeign.1, hforeign.2]
  exact ⟨nofun, nofun⟩

/-- A signed decimal numeral does not begin like a hexadecimal one. -/
theorem second_of_names_ten {sign digits rest : List Char} {c : Char} {n : Nat}
    (hsign : IsSign sign) (hnames : Names 10 digits n) (h : '0' :: c :: rest = sign ++ digits) :
    c ≠ 'x' ∧ c ≠ 'X' := by
  rcases hsign with rfl | rfl
  · obtain ⟨-, ds, hds, -⟩ := hnames
    cases h
    cases hds with
    | cons _ hds =>
      cases hds with
      | cons hd _ =>
        exact ⟨fun hc => not_isDigitOf_ten.1 (hc ▸ hd), fun hc => not_isDigitOf_ten.2 (hc ▸ hd)⟩
  · cases h

/-- **The number behind a mark** is that of the digits behind it, which may have a sign. -/
theorem markedNumber_eq_ok_iff {cs : List Char} {n : Nat} :
    markedNumber cs = .ok n
      ↔ n < limit64 ∧ ∃ mark base sign digits, cs = mark ++ (sign ++ digits)
        ∧ IsMark mark base ∧ IsSign sign ∧ Names base digits n := by
  have hlimit : 0 < limit64 := by decide
  unfold markedNumber
  constructor
  · intro h
    split at h
    · obtain ⟨hlt, sign, digits, rfl, hsign, hnames⟩ :=
        (parse_eq_ok_iff (by decide) hlimit).mp h
      exact ⟨hlt, _, _, sign, digits, rfl, .small, hsign, hnames⟩
    · obtain ⟨hlt, sign, digits, rfl, hsign, hnames⟩ :=
        (parse_eq_ok_iff (by decide) hlimit).mp h
      exact ⟨hlt, _, _, sign, digits, rfl, .capital, hsign, hnames⟩
    · obtain ⟨hlt, sign, digits, rfl, hsign, hnames⟩ :=
        (parse_eq_ok_iff (by decide) hlimit).mp h
      exact ⟨hlt, _, _, sign, digits, rfl, .absent, hsign, hnames⟩
  · rintro ⟨hlt, mark, base, sign, digits, rfl, hmark, hsign, hnames⟩
    have hread := (parse_eq_ok_iff hmark.base_le hlimit).mpr
      ⟨hlt, sign, digits, rfl, hsign, hnames⟩
    cases hmark with
    | small => exact hread
    | capital => exact hread
    | absent =>
      rw [List.nil_append]
      split
      · next h => exact absurd rfl (second_of_names_ten hsign hnames h.symm).1
      · next h => exact absurd rfl (second_of_names_ten hsign hnames h.symm).2
      · exact hread

/-- An address is read from the number behind a mark. -/
theorem parseAddress_eq (value : String) :
    parseAddress value = match markedNumber ((trimChars value.toList).filter (· ≠ '_')) with
      | Except.ok n => Except.ok (UInt64.ofNat n)
      | Except.error cause => Except.error (MemorySyntaxError.address value cause) :=
  rfl

/-- **The texts of an address.** -/
theorem parseAddress_eq_ok_iff {value : String} {address : UInt64} :
    parseAddress value = .ok address ↔ SpellsAddress value address := by
  have hnumber : parseAddress value = .ok address
      ↔ markedNumber ((trimChars value.toList).filter (· ≠ '_')) = .ok address.toNat := by
    rw [parseAddress_eq]
    cases hread : markedNumber ((trimChars value.toList).filter (· ≠ '_')) with
    | error cause =>
      constructor
      · intro h
        cases h
      · intro h
        cases h
    | ok n =>
      have hlt : n < 2 ^ 64 := (markedNumber_eq_ok_iff.mp hread).1
      constructor
      · intro h
        cases h
        rw [UInt64.toNat_ofNat_of_lt' hlt]
      · intro h
        cases h
        dsimp only
        rw [UInt64.ofNat_toNat]
  rw [hnumber, markedNumber_eq_ok_iff]
  unfold SpellsAddress
  constructor
  · rintro ⟨-, mark, base, sign, digits, h, hmark, hsign, hnames⟩
    exact ⟨_, mark, base, sign, digits, trimChars_eq_iff.mp rfl, h, hmark, hsign, hnames⟩
  · rintro ⟨inner, mark, base, sign, digits, htrim, h, hmark, hsign, hnames⟩
    obtain rfl := trimChars_eq_iff.mpr htrim
    exact ⟨address.toNat_lt, mark, base, sign, digits, h, hmark, hsign, hnames⟩

/-! ## §2. Blocks. -/

/-- A block spelled with the given numerals. -/
def MemoryBlock.spelled (numeral : Nat → String) (block : MemoryBlock) : String :=
  block.name ++ ":" ++ numeral block.start.toNat ++ "-" ++ numeral block.stop.toNat

/-- A text that is cut at its first colon and then at its first hyphen. -/
theorem parseBlock_of_split {value : String} {name range first last : List Char}
    {block : MemoryBlock} (hcolon : splitOnce? ':' value.toList = some (name, range))
    (hhyphen : splitOnce? '-' range = some (first, last)) :
    parseBlock value = .ok block
      ↔ parseAddress (String.ofList first) = .ok block.start
        ∧ parseAddress (String.ofList last) = .ok block.stop
        ∧ name ≠ [] ∧ block.start < block.stop ∧ block.name = String.ofList name := by
  unfold parseBlock
  rw [hcolon]
  dsimp only
  rw [hhyphen]
  dsimp only
  constructor
  · intro h
    obtain ⟨start, hstart, h⟩ := bind_ok.mp h
    obtain ⟨stop, hstop, h⟩ := bind_ok.mp h
    split at h
    · cases h
    · next hname =>
      split at h
      · cases h
      · next horder =>
        cases h
        exact ⟨hstart, hstop, fun hnil => hname (List.isEmpty_iff.mpr hnil),
          UInt64.not_le.mp horder, rfl⟩
  · rintro ⟨hstart, hstop, hname, horder, hblock⟩
    rw [hstart, hstop]
    dsimp only [bind, Except.bind]
    rw [if_neg fun hempty => hname (List.isEmpty_iff.mp hempty),
      if_neg (UInt64.not_le.mpr horder), ← hblock]
    rfl

/-- **The texts of a block**: a name that is not empty and has no colon, a colon, an address
spelled without hyphens, a hyphen, and a larger address. -/
theorem parseBlock_eq_ok_iff {value : String} {block : MemoryBlock} :
    parseBlock value = .ok block
      ↔ ∃ first last, value = block.name ++ ":" ++ first ++ "-" ++ last
        ∧ block.name ≠ "" ∧ ':' ∉ block.name.toList ∧ '-' ∉ first.toList
        ∧ parseAddress first = .ok block.start ∧ parseAddress last = .ok block.stop
        ∧ block.start < block.stop := by
  constructor
  · intro h
    cases hcolon : splitOnce? ':' value.toList with
    | none =>
      unfold parseBlock at h
      rw [hcolon] at h
      cases h
    | some parts =>
      cases hhyphen : splitOnce? '-' parts.2 with
      | none =>
        unfold parseBlock at h
        rw [hcolon] at h
        dsimp only at h
        rw [hhyphen] at h
        cases h
      | some bounds =>
        obtain ⟨hstart, hstop, hname, horder, hblock⟩ :=
          (parseBlock_of_split hcolon hhyphen).mp h
        obtain ⟨hvalue, hnocolon⟩ := splitOnce?_eq_some_iff.mp hcolon
        obtain ⟨hrange, hnohyphen⟩ := splitOnce?_eq_some_iff.mp hhyphen
        refine ⟨String.ofList bounds.1, String.ofList bounds.2, ?_, ?_, ?_, ?_, hstart, hstop,
          horder⟩
        · rw [hblock, ← String.toList_inj, hvalue, hrange]
          simp
        · rw [hblock]
          exact fun hempty => hname (by simpa using congrArg String.toList hempty)
        · rwa [hblock, String.toList_ofList]
        · rwa [String.toList_ofList]
  · rintro ⟨first, last, rfl, hname, hnocolon, hnohyphen, hstart, hstop, horder⟩
    have hcolon : splitOnce? ':' (block.name ++ ":" ++ first ++ "-" ++ last).toList
        = some (block.name.toList, first.toList ++ '-' :: last.toList) :=
      splitOnce?_eq_some_iff.mpr ⟨by simp, hnocolon⟩
    have hhyphen : splitOnce? '-' (first.toList ++ '-' :: last.toList)
        = some (first.toList, last.toList) :=
      splitOnce?_eq_some_iff.mpr ⟨rfl, hnohyphen⟩
    rw [parseBlock_of_split hcolon hhyphen, String.ofList_toList, String.ofList_toList,
      String.ofList_toList]
    exact ⟨hstart, hstop, fun hnil => hname (String.toList_eq_nil_iff.mp hnil), horder, rfl⟩

/-! ## §3. Written blocks. -/

/-- A digit is no blank, no underscore and no hyphen. -/
theorem plain_of_isDigitOf {base d : Nat} {c : Char} (hbase : base ≤ 16)
    (h : IsDigitOf base c d) : isBlank c = false ∧ c ≠ '_' ∧ c ≠ '-' := by
  have hplain : ∀ d < 16, (smallDigits[d]?.toList ++ capitalDigits[d]?.toList).all
      fun c => decide (isBlank c = false ∧ c ≠ '_' ∧ c ≠ '-') := by
    decide +kernel
  obtain ⟨hlt, hmem⟩ := h
  refine of_decide_eq_true (List.all_eq_true.mp (hplain d (by omega)) c (List.mem_append.mpr ?_))
  rw [Option.mem_toList, Option.mem_toList]
  exact hmem

/-- The characters of a marked numeral are no blanks, underscores or hyphens. -/
theorem plain_of_names {mark digits : List Char} {base n : Nat} (hmark : IsMark mark base)
    (hnames : Names base digits n) :
    ∀ c ∈ mark ++ digits, isBlank c = false ∧ c ≠ '_' ∧ c ≠ '-' := by
  intro c hc
  rcases List.mem_append.mp hc with hc | hc
  · have hmarks : ['0', 'x', 'X'].all
        fun c => decide (isBlank c = false ∧ c ≠ '_' ∧ c ≠ '-') := by
      decide +kernel
    refine of_decide_eq_true (List.all_eq_true.mp hmarks c ?_)
    cases hmark with
    | absent => cases hc
    | small =>
      simp only [List.mem_cons, List.not_mem_nil, or_false] at hc ⊢
      exact hc.imp_right .inl
    | capital =>
      simp only [List.mem_cons, List.not_mem_nil, or_false] at hc ⊢
      exact hc.imp_right .inr
  · obtain ⟨d, hd⟩ := hnames.exists_isDigitOf c hc
    exact plain_of_isDigitOf hmark.base_le hd

/-- **A marked numeral spells its number.** -/
theorem spellsAddress_of_names {mark digits : List Char} {base : Nat} {address : UInt64}
    (hmark : IsMark mark base) (hnames : Names base digits address.toNat) :
    SpellsAddress (String.ofList (mark ++ digits)) address := by
  have hplain := plain_of_names hmark hnames
  refine ⟨mark ++ digits, mark, base, [], digits, ?_, ?_, hmark, .inl rfl, hnames⟩
  · rw [String.toList_ofList]
    refine ⟨[], [], by simp, nofun, nofun, ?_⟩
    rintro ⟨c, hc, hblank⟩
    have hmem : c ∈ mark ++ digits := hc.elim List.mem_of_mem_head? List.mem_of_mem_getLast?
    exact absurd hblank (Bool.eq_false_iff.mp (hplain c hmem).1)
  · rw [List.nil_append, List.filter_eq_self]
    exact fun c hc => decide_eq_true (hplain c hc).2.1

/-- **A written block is read as that block**, if its numerals are marked and its name can be
told from what follows. -/
theorem parseBlock_spelled {mark : List Char} {base : Nat} (hmark : IsMark mark base)
    {digits : Nat → List Char} (hdigits : ∀ n, Names base (digits n) n) {block : MemoryBlock}
    (hname : block.name ≠ "") (hcolon : ':' ∉ block.name.toList)
    (horder : block.start < block.stop) :
    parseBlock (block.spelled fun n => String.ofList (mark ++ digits n)) = .ok block := by
  refine parseBlock_eq_ok_iff.mpr ⟨_, _, rfl, hname, hcolon, fun hhyphen => ?_, ?_, ?_, horder⟩
  · rw [String.toList_ofList] at hhyphen
    exact (plain_of_names hmark (hdigits _) '-' hhyphen).2.2 rfl
  · exact parseAddress_eq_ok_iff.mpr (spellsAddress_of_names hmark (hdigits _))
  · exact parseAddress_eq_ok_iff.mpr (spellsAddress_of_names hmark (hdigits _))

/-- **The spelling of addresses and blocks.**  Of all texts, exactly those are read as an address
that spell it; and exactly those as a block that are made of its name, which is not empty and has
no colon, a colon, an address spelled without hyphens, a hyphen, and a larger address.  So every
block with such a name that ends behind its beginning is read back from what is written for it, in
hexadecimal with letters of either case and in decimal. -/
theorem block_syntax :
    (∀ value address, parseAddress value = .ok address ↔ SpellsAddress value address)
    ∧ (∀ value block, parseBlock value = .ok block
        ↔ ∃ first last, value = block.name ++ ":" ++ first ++ "-" ++ last
          ∧ block.name ≠ "" ∧ ':' ∉ block.name.toList ∧ '-' ∉ first.toList
          ∧ parseAddress first = .ok block.start ∧ parseAddress last = .ok block.stop
          ∧ block.start < block.stop)
    ∧ ∀ block : MemoryBlock, block.name ≠ "" → ':' ∉ block.name.toList →
        block.start < block.stop →
        parseBlock (block.spelled fun n => "0x" ++ hex n) = .ok block
        ∧ parseBlock (block.spelled fun n => "0x" ++ hexUpper n) = .ok block
        ∧ parseBlock (block.spelled decimal) = .ok block := by
  refine ⟨fun _ _ => parseAddress_eq_ok_iff, fun _ _ => parseBlock_eq_ok_iff,
    fun block hname hcolon horder => ⟨?_, ?_, ?_⟩⟩
  · have hread := parseBlock_spelled .small (names_render (by decide) (by decide)) hname hcolon
      horder
    simp only [String.ofList_append] at hread
    exact hread
  · have hread := parseBlock_spelled .small (names_render_toUpper (by decide) (by decide)) hname
      hcolon horder
    simp only [String.ofList_append] at hread
    exact hread
  · exact parseBlock_spelled .absent (names_render (by decide) (by decide)) hname hcolon horder

/-- A block over the whole address space but its last address, with a hyphen and a letter beyond
ASCII in its name. -/
def wholeSpace : MemoryBlock := ⟨"all - κόσμος", 0, 0xFFFFFFFFFFFFFFFF⟩

/-- It is read back from both of its spellings. -/
theorem block_syntax_of_whole_space :
    wholeSpace.name ≠ "" ∧ ':' ∉ wholeSpace.name.toList ∧ wholeSpace.start < wholeSpace.stop
      ∧ parseBlock "all - κόσμος:0x0-0xffffffffffffffff" = .ok wholeSpace
      ∧ parseBlock "all - κόσμος:0-18446744073709551615" = .ok wholeSpace := by
  have hname : wholeSpace.name ≠ "" := by decide
  have hcolon : ':' ∉ wholeSpace.name.toList := by decide
  have horder : wholeSpace.start < wholeSpace.stop := by decide
  obtain ⟨hhex, -, hdecimal⟩ := block_syntax.2.2 wholeSpace hname hcolon horder
  have hspelled : (wholeSpace.spelled fun n => "0x" ++ hex n)
      = "all - κόσμος:0x0-0xffffffffffffffff" := by
    decide +kernel
  have hspelledDecimal : wholeSpace.spelled decimal
      = "all - κόσμος:0-18446744073709551615" := by
    decide +kernel
  rw [hspelled] at hhex
  rw [hspelledDecimal] at hdecimal
  exact ⟨hname, hcolon, horder, hhex, hdecimal⟩

end DebugMerge
