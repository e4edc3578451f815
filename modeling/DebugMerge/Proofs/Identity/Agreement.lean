/-
  DebugMerge.Proofs.Identity.Agreement
  ────────────────────────────────────
  **An executable and a debug file agree exactly if GUID and age agree.**

  Both files store sixteen bytes, and each has a printer of its own.  The one for
  executables writes three little-endian numbers and eight bytes with capital
  digits; the one for debug files puts the bytes in the order of the text and
  writes them one by one with small digits.  The normal form of both texts is the
  same function of the bytes, a second normal form changes nothing, and the bytes
  can be read off it.

  Main statements
    • `hexUpperPadded_toList`          — numerals of a fixed width
    • `hexUpperPadded_littleEndian`    — a little-endian number shows its bytes
    • `guidText_toList`, `asciiUpper_guidText_toList` — two printers, one text
    • `guidChars_inj`                  — the text shows the bytes
    • `identities_agree_iff`           — executables and debug files
-/
import DebugMerge.Load.Backend
import DebugMerge.Pe.Import
import DebugMerge.Proofs.Binary.Yields
import DebugMerge.Proofs.Identity.NormalForm
import DebugMerge.Proofs.Pdb.FieldLists

namespace DebugMerge

open Text

/-! ## §1. Numerals of a fixed width. -/

/-- The capital character of a hexadecimal digit. -/
def capital (d : Nat) : Char :=
  (digitChar d).toUpper

/-- The last digits of a number, as many as asked for. -/
def fixedDigits : Nat → Nat → List Char
  | 0, _ => []
  | width + 1, n => fixedDigits width (n / 16) ++ [capital (n % 16)]

theorem hexUpper_toList (n : Nat) :
    (hexUpper n).toList
      = if n < 16 then [capital n] else (hexUpper (n / 16)).toList ++ [capital (n % 16)] := by
  have hnumeral (m : Nat) : (hexUpper m).toList = (digits 16 m).map capital := by
    unfold hexUpper render
    rw [String.toList_ofList, List.map_map]
    rfl
  rw [hnumeral, hnumeral, digits]
  split
  · next h => rw [if_pos (by omega)]; rfl
  · next h => rw [if_neg (by omega), List.map_append]; rfl

theorem hexUpperPadded_eq (width n : Nat) :
    (hexUpperPadded width n).toList
      = List.replicate (width - (hexUpper n).toList.length) '0' ++ (hexUpper n).toList := by
  unfold hexUpperPadded padLeft
  rw [String.toList_append, String.toList_ofList, String.length_toList]

theorem fixedDigits_zero (width : Nat) : fixedDigits width 0 = List.replicate width '0' := by
  induction width with
  | zero => rfl
  | succ width ih =>
    rw [fixedDigits, ih, List.replicate_succ']
    rfl

/-- **A numeral that is filled up to a width** has the last digits of the number, if it fits. -/
theorem hexUpperPadded_toList {width n : Nat} (hwidth : 0 < width) (h : n < 16 ^ width) :
    (hexUpperPadded width n).toList = fixedDigits width n := by
  induction width generalizing n with
  | zero => omega
  | succ width ih =>
    rw [hexUpperPadded_eq, hexUpper_toList]
    by_cases hdigit : n < 16
    · rw [if_pos hdigit, fixedDigits, Nat.div_eq_of_lt hdigit, Nat.mod_eq_of_lt hdigit,
        fixedDigits_zero]
      rfl
    · have hquotient : n / 16 < 16 ^ width := by
        rw [Nat.pow_succ] at h
        omega
      have hpositive : 0 < width := by
        rcases width with - | width
        · omega
        · omega
      rw [if_neg hdigit, fixedDigits, ← ih hpositive hquotient, hexUpperPadded_eq,
        List.length_append, List.length_singleton, Nat.add_sub_add_right, List.append_assoc]

/-! ## §2. Bytes. -/

/-- The two digits of a byte. -/
def byteDigits (b : UInt8) : List Char :=
  [capital (b.toNat / 16), capital (b.toNat % 16)]

/-- The digits of bytes. -/
def bytesDigits (bs : List UInt8) : List Char :=
  bs.flatMap byteDigits

theorem fixedDigits_littleEndian (bs : List UInt8) :
    fixedDigits (2 * bs.length) (littleEndian bs) = bytesDigits bs.reverse := by
  induction bs with
  | nil => rfl
  | cons b bs ih =>
    have hbyte := b.toNat_lt
    have hrest : (b.toNat + 256 * littleEndian bs) / 16 / 16 = littleEndian bs := by omega
    have hhigh : (b.toNat + 256 * littleEndian bs) / 16 % 16 = b.toNat / 16 := by omega
    have hlow : (b.toNat + 256 * littleEndian bs) % 16 = b.toNat % 16 := by omega
    rw [List.length_cons, Nat.mul_succ, littleEndian, fixedDigits, fixedDigits, hrest, hhigh, hlow,
      ih, List.reverse_cons]
    unfold bytesDigits
    rw [List.flatMap_append, List.append_assoc]
    rfl

/-- **A little-endian number shows its bytes** from the last to the first. -/
theorem hexUpperPadded_littleEndian {bs : List UInt8} {n : Nat} (hlength : bs.length = n)
    (hn : 0 < n) : (hexUpperPadded (2 * n) (littleEndian bs)).toList = bytesDigits bs.reverse := by
  subst hlength
  have hfits : littleEndian bs < 16 ^ (2 * bs.length) := by
    rw [Nat.pow_mul]
    exact Take.littleEndian_lt bs
  rw [hexUpperPadded_toList (by omega) hfits, fixedDigits_littleEndian]

theorem hexUpperPadded_byte (b : UInt8) : (hexUpperPadded 2 b.toNat).toList = byteDigits b := by
  have hbyte := b.toNat_lt
  have hhigh : b.toNat / 16 < 16 := by omega
  rw [hexUpperPadded_toList Nat.two_pos hbyte, fixedDigits, fixedDigits, fixedDigits,
    Nat.mod_eq_of_lt hhigh]
  rfl

/-- Small digits, raised. -/
theorem smallDigits_map_toUpper (b : UInt8) :
    (Pdb.smallDigits b).toList.map Char.toUpper = byteDigits b := by
  rw [← hexUpperPadded_byte, hexUpperPadded_eq]
  unfold Pdb.smallDigits padLeft hex hexUpper
  rw [String.toList_append, String.toList_ofList, String.toList_ofList, String.toList_ofList,
    List.map_append, List.map_replicate, List.length_map, ← String.length_toList,
    String.toList_ofList]
  rfl

theorem bytesDigits_append (as bs : List UInt8) :
    bytesDigits (as ++ bs) = bytesDigits as ++ bytesDigits bs :=
  List.flatMap_append

/-- What the characters of digits are: raised, and neither blanks nor braces nor hyphens. -/
theorem capital_spec {d : Nat} (h : d < 16) :
    isBlank (capital d) = false ∧ capital d ≠ '\x7b' ∧ capital d ≠ '\x7d' ∧ capital d ≠ '-'
      ∧ (capital d).toUpper = capital d := by
  revert d
  decide

theorem mem_bytesDigits {bs : List UInt8} {c : Char} (h : c ∈ bytesDigits bs) :
    ∃ d, d < 16 ∧ c = capital d := by
  obtain ⟨b, -, hc⟩ := List.mem_flatMap.mp h
  have hbyte := b.toNat_lt
  rcases List.mem_pair.mp hc with rfl | rfl
  · exact ⟨_, by omega, rfl⟩
  · exact ⟨_, by omega, rfl⟩

theorem capital_inj {d e : Nat} (hd : d < 16) (he : e < 16) (h : capital d = capital e) :
    d = e := by
  have hall : ∀ d < 16, ∀ e < 16, capital d = capital e → d = e := by
    decide
  exact hall d hd e he h

/-- The digits show the bytes. -/
theorem bytesDigits_inj {as bs : List UInt8} (h : bytesDigits as = bytesDigits bs) : as = bs := by
  induction as generalizing bs with
  | nil =>
    cases bs with
    | nil => rfl
    | cons b bs => cases h
  | cons a as ih =>
    cases bs with
    | nil => cases h
    | cons b bs =>
      have ha := a.toNat_lt
      have hb := b.toNat_lt
      have hdigits : byteDigits a ++ bytesDigits as = byteDigits b ++ bytesDigits bs := h
      obtain ⟨hfirst, hrest⟩ := List.append_inj hdigits rfl
      injection hfirst with hhigh hlow
      injection hlow with hlow
      have hhigh := capital_inj (by omega) (by omega) hhigh
      have hlow := capital_inj (by omega) (by omega) hlow
      have hbyte : a = b := UInt8.toNat_inj.mp (by omega)
      rw [hbyte, ih hrest]

/-! ## §3. The text of a GUID. -/

/-- The capital digits of a GUID's bytes in the order of its text, in five groups. -/
def guidChars (guid : List UInt8) : List Char :=
  let group (start count : Nat) := bytesDigits (((Pdb.guidOrder guid).drop start).take count)
  group 0 4 ++ '-' :: (group 4 2 ++ '-' :: (group 6 2 ++ '-' :: (group 8 2 ++ '-' :: group 10 6)))

theorem join_smallDigits (bs : List UInt8) :
    (String.join (bs.map Pdb.smallDigits)).toList.map Char.toUpper = bytesDigits bs := by
  rw [String.toList_join, List.flatMap_map, List.map_flatMap]
  exact congrArg bs.flatMap (funext smallDigits_map_toUpper)

theorem join_hexUpperPadded (bs : List UInt8) :
    (String.join (bs.map fun b => hexUpperPadded 2 b.toNat)).toList = bytesDigits bs := by
  rw [String.toList_join, List.flatMap_map]
  exact congrArg bs.flatMap (funext hexUpperPadded_byte)

/-- **The printer for debug files** writes the text up to the case of letters. -/
theorem asciiUpper_guidText_toList (info : Pdb.FileInfo) :
    (asciiUpper info.guidText).toList = guidChars info.guid := by
  unfold asciiUpper Pdb.FileInfo.guidText guidChars
  simp only [String.toList_ofList, String.toList_append, List.map_append, join_smallDigits,
    List.append_assoc]
  rfl

/-- The three fields and the other bytes of sixteen bytes. -/
theorem exists_fields {guid : List UInt8} (h : guid.length = 16) :
    ∃ a b c d : List UInt8, guid = a ++ (b ++ (c ++ d))
      ∧ a.length = 4 ∧ b.length = 2 ∧ c.length = 2 ∧ d.length = 8 := by
  refine ⟨guid.take 4, (guid.drop 4).take 2, (guid.drop 6).take 2, guid.drop 8, ?_, ?_, ?_, ?_, ?_⟩
  · have hc : (guid.drop 6).take 2 ++ guid.drop 8 = guid.drop 6 := by
      rw [← List.drop_drop (i := 2) (j := 6), List.take_append_drop]
    have hb : (guid.drop 4).take 2 ++ guid.drop 6 = guid.drop 4 := by
      rw [← List.drop_drop (i := 2) (j := 4), List.take_append_drop]
    rw [hc, hb, List.take_append_drop]
  all_goals simp [h]

section Fields

variable {a b c d : List UInt8}

/-- The fields are found by their places. -/
theorem fields_spec (ha : a.length = 4) (hb : b.length = 2) (hc : c.length = 2) :
    (a ++ (b ++ (c ++ d))).take 4 = a ∧ ((a ++ (b ++ (c ++ d))).drop 4).take 2 = b
      ∧ ((a ++ (b ++ (c ++ d))).drop 6).take 2 = c ∧ (a ++ (b ++ (c ++ d))).drop 8 = d
      ∧ (a ++ (b ++ (c ++ d))).drop 10 = d.drop 2 := by
  refine ⟨?_, ?_, ?_, ?_, ?_⟩
  all_goals simp [List.drop_append, List.drop_eq_nil_of_le, ha, hb, hc]

theorem guidOrder_fields (ha : a.length = 4) (hb : b.length = 2) (hc : c.length = 2) :
    Pdb.guidOrder (a ++ (b ++ (c ++ d))) = a.reverse ++ (b.reverse ++ (c.reverse ++ d)) := by
  obtain ⟨hfirst, hsecond, hthird, hrest, -⟩ := fields_spec (d := d) ha hb hc
  unfold Pdb.guidOrder
  rw [hfirst, hsecond, hthird, hrest, List.append_assoc, List.append_assoc]

theorem guidChars_fields (ha : a.length = 4) (hb : b.length = 2) (hc : c.length = 2) :
    guidChars (a ++ (b ++ (c ++ d)))
      = bytesDigits a.reverse ++ '-' :: (bytesDigits b.reverse ++ '-' :: (bytesDigits c.reverse
        ++ '-' :: (bytesDigits (d.take 2) ++ '-' :: bytesDigits ((d.drop 2).take 6)))) := by
  obtain ⟨hfirst, hsecond, hthird, hrest, hlast⟩ := fields_spec (d := d) (a.length_reverse.trans ha)
    (b.length_reverse.trans hb) (c.length_reverse.trans hc)
  unfold guidChars
  dsimp only
  rw [guidOrder_fields ha hb hc, List.drop_zero, hfirst, hsecond, hthird, hrest, hlast]

end Fields

/-- **The printer for executables** writes the text. -/
theorem guidText_toList {guid : List UInt8} (h : guid.length = 16) :
    (guidText guid).toList = guidChars guid := by
  obtain ⟨a, b, c, d, rfl, ha, hb, hc, -⟩ := exists_fields h
  obtain ⟨hfirst, hsecond, hthird, hrest, hlast⟩ := fields_spec (d := d) ha hb hc
  rw [guidChars_fields ha hb hc]
  unfold guidText
  dsimp only
  rw [List.drop_zero, hfirst, hsecond, hthird, hrest, hlast]
  simp only [String.toList_append, join_hexUpperPadded, List.append_assoc]
  -- the widths are twice the lengths of the fields
  rw [hexUpperPadded_littleEndian ha (by decide), hexUpperPadded_littleEndian hb (by decide),
    hexUpperPadded_littleEndian hc (by decide)]
  rfl

/-- The order of the text can be undone. -/
theorem guidOrder_guidOrder {guid : List UInt8} (h : guid.length = 16) :
    Pdb.guidOrder (Pdb.guidOrder guid) = guid := by
  obtain ⟨a, b, c, d, rfl, ha, hb, hc, -⟩ := exists_fields h
  rw [guidOrder_fields ha hb hc, guidOrder_fields (a.length_reverse.trans ha)
    (b.length_reverse.trans hb) (c.length_reverse.trans hc)]
  simp only [List.reverse_reverse]

theorem filter_bytesDigits (bs : List UInt8) :
    (bytesDigits bs).filter (· ≠ '-') = bytesDigits bs := by
  refine List.filter_eq_self.mpr fun c hc => ?_
  obtain ⟨d, hd, rfl⟩ := mem_bytesDigits hc
  exact decide_eq_true (capital_spec hd).2.2.2.1

/-- Without its hyphens the text is that of the bytes in order. -/
theorem filter_guidChars {guid : List UInt8} (h : guid.length = 16) :
    (guidChars guid).filter (· ≠ '-') = bytesDigits (Pdb.guidOrder guid) := by
  obtain ⟨a, b, c, d, rfl, ha, hb, hc, hd⟩ := exists_fields h
  have htail : (d.drop 2).take 6 = d.drop 2 :=
    List.take_of_length_le (by rw [List.length_drop, hd])
  have hd : bytesDigits (d.take 2) ++ bytesDigits (d.drop 2) = bytesDigits d := by
    rw [← bytesDigits_append, List.take_append_drop]
  rw [guidChars_fields ha hb hc, guidOrder_fields ha hb hc, htail]
  simp only [List.filter_append, List.filter_cons, filter_bytesDigits, bytesDigits_append, ne_eq,
    not_true_eq_false, decide_false, Bool.false_eq_true, if_false, hd]

/-- **The text shows the bytes.** -/
theorem guidChars_inj {as bs : List UInt8} (ha : as.length = 16) (hb : bs.length = 16) :
    guidChars as = guidChars bs ↔ as = bs := by
  constructor
  · intro h
    have hdigits : bytesDigits (Pdb.guidOrder as) = bytesDigits (Pdb.guidOrder bs) := by
      rw [← filter_guidChars ha, ← filter_guidChars hb, h]
    rw [← guidOrder_guidOrder ha, bytesDigits_inj hdigits, guidOrder_guidOrder hb]
  · intro h
    rw [h]

theorem mem_guidChars {guid : List UInt8} {c : Char} (h : c ∈ guidChars guid) :
    c = '-' ∨ ∃ d, d < 16 ∧ c = capital d := by
  unfold guidChars at h
  simp only [List.mem_append, List.mem_cons] at h
  rcases h with h | h | h | h | h | h | h | h | h
  · exact .inr (mem_bytesDigits h)
  · exact .inl h
  · exact .inr (mem_bytesDigits h)
  · exact .inl h
  · exact .inr (mem_bytesDigits h)
  · exact .inl h
  · exact .inr (mem_bytesDigits h)
  · exact .inl h
  · exact .inr (mem_bytesDigits h)

/-- The normal form of a text that is a GUID up to the case of letters. -/
theorem normalGuid_of_guidChars {s : String} {guid : List UInt8}
    (h : (asciiUpper s).toList = guidChars guid) :
    normalGuid s = String.ofList (guidChars guid) := by
  rw [normalGuid_eq_guidCore_asciiUpper, h, guidCore_of_plain]
  intro c hc
  rcases mem_guidChars hc with rfl | ⟨d, hd, rfl⟩
  · decide
  · obtain ⟨hblank, hopening, hclosing, -⟩ := capital_spec hd
    exact ⟨hblank, hopening, hclosing⟩

/-- The text has no letters to raise. -/
theorem asciiUpper_guidChars (guid : List UInt8) :
    (asciiUpper (String.ofList (guidChars guid))).toList = guidChars guid := by
  have hraised : ∀ c ∈ guidChars guid, c.toUpper = id c := by
    intro c hc
    rcases mem_guidChars hc with rfl | ⟨d, hd, rfl⟩
    · rfl
    · exact (capital_spec hd).2.2.2.2
  unfold asciiUpper
  rw [String.toList_ofList, String.toList_ofList, List.map_congr_left hraised, List.map_id]

/-! ## §4. Executables and debug files. -/

/-- The id that an executable asks for. -/
theorem normalGuid_guidText {guid : List UInt8} (h : guid.length = 16) :
    normalGuid (guidText guid) = String.ofList (guidChars guid) := by
  refine normalGuid_of_guidChars ?_
  rw [← String.ofList_toList (s := guidText guid), guidText_toList h, asciiUpper_guidChars]

/-- The id that an executable asks for, once it was recorded and reread. -/
theorem reread_guidText {guid : List UInt8} (h : guid.length = 16) :
    normalGuid (normalGuid (guidText guid)) = String.ofList (guidChars guid) := by
  rw [normalGuid_guidText h, normalGuid_of_guidChars (asciiUpper_guidChars guid)]

/-- What an executable asks for, once it was recorded and reread: its bytes and its age. -/
theorem reread_identity {r : Pe.DebugReference} (h : r.guid.length = 16) :
    r.identity.reread.uniqueId = .guid (String.ofList (guidChars r.guid))
      ∧ r.identity.reread.age = r.age := by
  rw [← reread_guidText h]
  unfold Pe.DebugReference.identity
  dsimp only
  split
  · exact ⟨rfl, rfl⟩
  · exact ⟨rfl, rfl⟩

/-- An age that fits into its bytes. -/
theorem effectiveAge_lt {c : Pdb.Container} {info : Pdb.FileInfo} {debug : Pdb.DebugStream}
    (hinfo : Pdb.fileInfo c = .ok info) (hdebug : Pdb.debugStream c = .ok debug) :
    Pdb.effectiveAge info debug.header < 2 ^ 32 := by
  unfold Pdb.effectiveAge
  split
  · exact (Pdb.fileInfo_yields hinfo).2
  · exact Pdb.debugStream_yields hdebug

theorem fileIdentity_eq {path : String} {c : Pdb.Container} {info : Pdb.FileInfo}
    {debug : Pdb.DebugStream} (hinfo : Pdb.fileInfo c = .ok info)
    (hdebug : Pdb.debugStream c = .ok debug) :
    Pdb.fileIdentity c path
      = .ok ⟨.guid (String.ofList (guidChars info.guid)),
          UInt32.ofNat (Pdb.effectiveAge info debug.header), some path⟩ := by
  rw [← normalGuid_of_guidChars (asciiUpper_guidText_toList info)]
  exact bind_ok.mpr ⟨info, hinfo, bind_ok.mpr ⟨debug, hdebug, rfl⟩⟩

/-- What a debug file is: its bytes and its age. -/
theorem readIdentity_eq {files : Files} {path : String} {bytes : List UInt8} {c : Pdb.Container}
    {info : Pdb.FileInfo} {debug : Pdb.DebugStream} (hbytes : debugFileBytes files path = .ok bytes)
    (hopen : Pdb.Container.open? bytes = .ok c) (hinfo : Pdb.fileInfo c = .ok info)
    (hdebug : Pdb.debugStream c = .ok debug) :
    (readerBackend files).readIdentity path
      = .ok ⟨.guid (String.ofList (guidChars info.guid)),
          UInt32.ofNat (Pdb.effectiveAge info debug.header), some path⟩ := by
  have hidentity : (do Pdb.fileIdentity (← Pdb.Container.open? bytes) path) = .ok _ :=
    bind_ok.mpr ⟨c, hopen, fileIdentity_eq hinfo hdebug⟩
  refine bind_ok.mpr ⟨bytes, hbytes, ?_⟩
  rw [hidentity]
  rfl

/-- **Executables and debug files agree on identities.**  The identity that an executable refers
to, recorded and read back, is matched by that of a debug file exactly if both files store the
same sixteen bytes and the same age, for a debug file that of its debug stream unless it is zero.
Whenever both files can be read there are both identities. -/
theorem identities_agree_iff {name path : String} {exe bytes : List UInt8} {image : Pe.Image}
    {r : Pe.DebugReference} {db recorded : Database} {files : Files} {c : Pdb.Container}
    {info : Pdb.FileInfo} {debug : Pdb.DebugStream}
    (himage : Pe.Image.parse exe = .ok image) (hr : image.reference = some r)
    (hrecorded : db.recordProgram (image.toProgram name).info (image.toProgram name).blocks
      = .ok recorded)
    (hbytes : debugFileBytes files path = .ok bytes) (hopen : Pdb.Container.open? bytes = .ok c)
    (hinfo : Pdb.fileInfo c = .ok info) (hdebug : Pdb.debugStream c = .ok debug) :
    Pe.importBytes name exe = .ok (image.toProgram name)
      ∧ ∃ expected candidate, recorded.expectedIdentity = .ok (some expected)
        ∧ (readerBackend files).readIdentity path = .ok candidate
        ∧ (verify (some expected) candidate = .match
          ↔ r.guid = info.guid ∧ r.age.toNat = Pdb.effectiveAge info debug.header) := by
  have himport : Pe.importBytes name exe = .ok (image.toProgram name) := by
    unfold Pe.importBytes
    rw [himage]
  have hasked : (image.toProgram name).info.expected = some r.identity := by
    show image.reference.map Pe.DebugReference.identity = _
    rw [hr]
    rfl
  have hguid : r.guid.length = 16 := Pe.reference_yields himage hr
  obtain ⟨hid, hage⟩ := reread_identity hguid
  refine ⟨himport, _, _, Database.expectedIdentity_of_recordProgram hasked hrecorded,
    readIdentity_eq hbytes hopen hinfo hdebug, ?_⟩
  rw [verify_eq_match_iff, matches_iff, hid, hage, UniqueId.guid.injEq, String.ofList_inj,
    guidChars_inj (Pdb.fileInfo_yields hinfo).1 hguid, ← UInt32.toNat_inj,
    UInt32.toNat_ofNat_of_lt' (effectiveAge_lt hinfo hdebug), eq_comm,
    eq_comm (a := r.age.toNat)]

/-- The bytes of the GUID that the two files below share. -/
def sharedGuid : List UInt8 :=
  Pdb.words [0x3F2504E0, 0x11D34F89, 0x05030C9A, 0x01332CE8]

/-- An image with one section, which holds a reference of age one. -/
def referringImage : List UInt8 :=
  [Pdb.words (0x5A4D :: List.replicate 14 0 ++ [128]) ++ List.replicate 64 0
      ++ Pdb.words [0x4550, 0x1014C, 0, 0, 0, 152]
      ++ Pdb.words ([0x10B, 0, 0, 0, 0, 0, 0, 0x400000, 0, 0x200] ++ List.replicate 13 0 ++ [7]
        ++ List.replicate 12 0 ++ [0x1000, 28])
      ++ Pdb.words ([0x6164722E, 0x6174, 0x1000, 0x1000, 0x200, 0x200] ++ List.replicate 4 0),
    Pdb.words [0, 0, 0, 2, 32, 0, 540, 0x53445352] ++ sharedGuid
      ++ Pdb.words [1, 0x2E707061, 0x626470]].flatMap Pdb.page

theorem referringImage_parse :
    ∃ image, Pe.Image.parse referringImage = .ok image
      ∧ image.reference = some ⟨sharedGuid, 1, Pdb.words [0x2E707061, 0x626470]⟩ := by
  have hreference : (Pe.Image.parse referringImage).toOption.bind (·.reference)
      = some ⟨sharedGuid, 1, Pdb.words [0x2E707061, 0x626470]⟩ := by
    decide +kernel
  cases hread : Pe.Image.parse referringImage with
  | error e =>
    rw [hread] at hreference
    cases hreference
  | ok image =>
    rw [hread] at hreference
    exact ⟨image, rfl, hreference⟩

/-- The GUID and the two ages that a debug file stores. -/
def storedIdentity (bytes : List UInt8) : Except PdbError (List UInt8 × Nat × Nat) := do
  let c ← Pdb.Container.open? bytes
  let info ← Pdb.fileInfo c
  let debug ← Pdb.debugStream c
  return (info.guid, info.age, debug.header.age)

/-- The file that is read forever has an identity all the same: age two, but a debug stream of
age one. -/
theorem selfContinuingFile_identity :
    ∃ c info debug, Pdb.Container.open? Pdb.selfContinuingFile = .ok c ∧ Pdb.fileInfo c = .ok info
      ∧ Pdb.debugStream c = .ok debug ∧ info.guid = sharedGuid ∧ info.age = 2
      ∧ debug.header.age = 1 := by
  have hparts : (storedIdentity Pdb.selfContinuingFile).toOption = some (sharedGuid, 2, 1) := by
    decide +kernel
  cases hread : storedIdentity Pdb.selfContinuingFile with
  | error e =>
    rw [hread] at hparts
    cases hparts
  | ok parts =>
    rw [hread] at hparts
    obtain ⟨c, hopen, hread⟩ := bind_ok.mp hread
    obtain ⟨info, hinfo, hread⟩ := bind_ok.mp hread
    obtain ⟨debug, hdebug, hread⟩ := bind_ok.mp hread
    cases hread
    injection hparts with hparts
    injection hparts with hguid hages
    injection hages with hage hdebugAge
    exact ⟨c, info, debug, hopen, hinfo, hdebug, hguid, hage, hdebugAge⟩

/-- A working directory with this file. -/
def referredFiles : Files :=
  ⟨["work"], [(["work", "app.pdb"], .file Pdb.selfContinuingFile false)]⟩

/-- The image is met by the debug file, though another age stands in the first place. -/
theorem identities_agree_on_one_build :
    ∃ (image : Pe.Image) (recorded : Database) (expected candidate : Identity),
      Pe.importBytes "app.exe" referringImage = .ok (image.toProgram "app.exe")
        ∧ Database.fresh.recordProgram (image.toProgram "app.exe").info
            (image.toProgram "app.exe").blocks = .ok recorded
        ∧ recorded.expectedIdentity = .ok (some expected)
        ∧ (readerBackend referredFiles).readIdentity "app.pdb" = .ok candidate
        ∧ verify (some expected) candidate = .match := by
  obtain ⟨image, himage, hr⟩ := referringImage_parse
  obtain ⟨c, info, debug, hopen, hinfo, hdebug, hguid, -, hage⟩ := selfContinuingFile_identity
  obtain ⟨recorded, hrecorded⟩ : ∃ recorded, Database.fresh.recordProgram
      (image.toProgram "app.exe").info (image.toProgram "app.exe").blocks = .ok recorded := ⟨_, rfl⟩
  have hbytes : debugFileBytes referredFiles "app.pdb" = .ok Pdb.selfContinuingFile := rfl
  obtain ⟨himport, expected, candidate, hexpected, hcandidate, hmatch⟩ :=
    identities_agree_iff himage hr hrecorded hbytes hopen hinfo hdebug
  have heffective : Pdb.effectiveAge info debug.header = 1 := by
    unfold Pdb.effectiveAge
    rw [hage]
    rfl
  exact ⟨image, recorded, expected, candidate, himport, hrecorded, hexpected, hcandidate,
    hmatch.mpr ⟨hguid.symm, heffective.symm⟩⟩

end DebugMerge
