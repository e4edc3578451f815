/-
  DebugMerge.Proofs.Json.RoundTrip
  ────────────────────────────────
  **The compact form of a value reads back as the value.**

  A value is *plain* if it holds no numeral beyond 64 bits and no unreadable
  part.  Every document that this library writes is plain, and the reader takes
  back exactly what the writer gave out, whatever text stands behind it: a string
  piece by piece, a numeral digit by digit, a container item by item.  Fuel is
  spent once per level and once per item, so twice the length of the text is
  always enough.

  Main statements
    • `stringBody?_quoted`    — a string behind its opening quote
    • `number?_render`        — a numeral
    • `value?_render`         — a plain value, with any text behind it
    • `parse?_compact`        — the whole text of a plain value
-/
import DebugMerge.Json.Reader
import DebugMerge.Json.Writer

namespace DebugMerge.Json

/-! ## §1. Strings. -/

theorem digitValue?_digitChar : ∀ d < 16, Text.digitValue? 16 (Text.digitChar d) = some d := by
  decide

/-- The four digits of a control character name its number. -/
theorem fourHex?_control (n : Nat) (h : n < 0x20) :
    fourHex? '0' '0' (Text.digitChar (n / 16)) (Text.digitChar (n % 16)) = some n := by
  have hz : Text.digitValue? 16 '0' = some 0 := by decide
  have hn : n / 16 * 16 + n % 16 = n := by omega
  unfold fourHex?
  rw [hz, digitValue?_digitChar (n / 16) (by omega), digitValue?_digitChar (n % 16) (by omega)]
  simp [hn]

/-- An escaped character is one piece. -/
theorem pieces?_escapeChar (c : Char) (rest : List Char) (tail : List Piece) (after : List Char)
    (h : pieces? rest = some (tail, after)) :
    pieces? (escapeChar c ++ rest) = some (.char c :: tail, after) := by
  unfold escapeChar
  split
  · next hc => simp [hc, pieces?, simpleEscape?, h]
  split
  · next hc => simp [hc, pieces?, simpleEscape?, h]
  split
  · next hc => simp [hc, pieces?, simpleEscape?, h]
  split
  · next hc => simp [hc, pieces?, simpleEscape?, h]
  split
  · next hc => simp [hc, pieces?, simpleEscape?, h]
  split
  · next hc => simp [hc, pieces?, simpleEscape?, h]
  split
  · next hc => simp [hc, pieces?, simpleEscape?, h]
  split
  · next hc =>
    have hhigh : isHighSurrogate c.toNat = false := by
      simp only [isHighSurrogate, Bool.and_eq_false_iff, decide_eq_false_iff_not]
      omega
    have hlow : isLowSurrogate c.toNat = false := by
      simp only [isLowSurrogate, Bool.and_eq_false_iff, decide_eq_false_iff_not]
      omega
    simp [pieces?, fourHex?_control c.toNat hc, h, hhigh, hlow]
  · next hquote hslash _ _ _ _ _ hcontrol =>
    show pieces? (c :: rest) = _
    rw [pieces?]
    · simp [hcontrol, h]
    · exact hquote
    · intro _ _ _ _ _ hc
      exact absurd hc hslash
    · intro _ _ hc
      exact absurd hc hslash

/-- An escaped text is one piece for each character, up to the closing quote. -/
theorem pieces?_escaped (cs rest : List Char) :
    pieces? (cs.flatMap escapeChar ++ '"' :: rest) = some (cs.map .char, rest) := by
  induction cs with
  | nil => rfl
  | cons c cs ih =>
    rw [List.flatMap_cons, List.append_assoc]
    exact pieces?_escapeChar c _ _ _ ih

theorem joinPieces?_chars (cs : List Char) : joinPieces? (cs.map .char) = some cs := by
  induction cs with
  | nil => rfl
  | cons c cs ih => simp [joinPieces?, ih]

/-- A quoted string reads back behind its opening quote. -/
theorem stringBody?_quoted (s : String) (rest : List Char) :
    stringBody? (s.toList.flatMap escapeChar ++ '"' :: rest) = some (some s, rest) := by
  simp [stringBody?, pieces?_escaped, joinPieces?_chars]

/-! ## §2. Numerals. -/

/-- Does the text go on in a way that a numeral before it would take in? -/
def extendsNumeral : List Char → Bool
  | c :: _ => c.isDigit || c == '.' || c == 'e' || c == 'E'
  | [] => false

theorem isDigit_digitChar : ∀ d < 10, (Text.digitChar d).isDigit = true := by
  decide

theorem toNat_digitChar : ∀ d < 10, (Text.digitChar d).toNat - 48 = d := by
  decide

theorem digits_lt (n : Nat) : ∀ d ∈ Text.digits 10 n, d < 10 := by
  induction n using Nat.strongRecOn with
  | _ n ih =>
    intro d hd
    rw [Text.digits] at hd
    split at hd
    · next h =>
      rw [List.mem_singleton] at hd
      omega
    · next h =>
      rcases List.mem_append.mp hd with hd | hd
      · exact ih (n / 10) (by omega) d hd
      · rw [List.mem_singleton] at hd
        omega

/-- A number has a first digit, which is zero for zero alone. -/
theorem digits_head (n : Nat) :
    ∃ d ds, Text.digits 10 n = d :: ds ∧ (0 < n → 0 < d) := by
  induction n using Nat.strongRecOn with
  | _ n ih =>
    rw [Text.digits]
    split
    · next h => exact ⟨n, [], rfl, id⟩
    · next h =>
      obtain ⟨d, ds, hds, hd⟩ := ih (n / 10) (by omega)
      exact ⟨d, ds ++ [n % 10], by rw [hds]; rfl, fun _ => hd (by omega)⟩

theorem isDigit_render (n : Nat) : ∀ c ∈ Text.render 10 n, c.isDigit = true := by
  intro c hc
  obtain ⟨d, hd, rfl⟩ := List.mem_map.mp hc
  exact isDigit_digitChar d (digits_lt n d hd)

theorem digitsValue_render (n : Nat) : digitsValue (Text.render 10 n) = n := by
  induction n using Nat.strongRecOn with
  | _ n ih =>
    unfold Text.render
    rw [Text.digits]
    split
    · next h =>
      have hlt : n < 10 := by omega
      simp [digitsValue, toNat_digitChar n hlt]
    · next h =>
      have hprev : digitsValue ((Text.digits 10 (n / 10)).map Text.digitChar) = n / 10 :=
        ih (n / 10) (by omega)
      have hlast := toNat_digitChar (n % 10) (by omega)
      unfold digitsValue at hprev ⊢
      rw [List.map_append, List.foldl_append, hprev]
      show n / 10 * 10 + ((Text.digitChar (n % 10)).toNat - 48) = n
      rw [hlast]
      omega

/-- A run of digits ends where the text stops having digits. -/
theorem spanDigits_append (ds rest : List Char) (hds : ∀ c ∈ ds, c.isDigit = true)
    (hr : extendsNumeral rest = false) : spanDigits (ds ++ rest) = (ds, rest) := by
  have hrest : rest.takeWhile Char.isDigit = [] ∧ rest.dropWhile Char.isDigit = rest := by
    cases rest with
    | nil => exact ⟨rfl, rfl⟩
    | cons c cs =>
      have hc : c.isDigit = false := by
        simp only [extendsNumeral, Bool.or_eq_false_iff] at hr
        exact hr.1.1.1
      simp [hc]
  unfold spanDigits
  rw [List.takeWhile_append_of_pos hds, List.dropWhile_append_of_pos hds, hrest.1, hrest.2,
    List.append_nil]

theorem integerPart?_render (n : Nat) (rest : List Char) (hr : extendsNumeral rest = false) :
    integerPart? (Text.render 10 n ++ rest) = some (Text.render 10 n, rest) := by
  unfold integerPart?
  rw [spanDigits_append _ rest (isDigit_render n) hr]
  rcases Nat.eq_zero_or_pos n with rfl | hn
  · have hzero : Text.render 10 0 = ['0'] := by
      unfold Text.render
      rw [Text.digits]
      rfl
    rw [hzero]
    rfl
  · obtain ⟨d, ds, hds, hd⟩ := digits_head n
    have hlt : d < 10 := digits_lt n d (by rw [hds]; exact List.mem_cons_self)
    have hne : Text.digitChar d ≠ '0' :=
      (by decide : ∀ d < 10, 0 < d → Text.digitChar d ≠ '0') d hlt (hd hn)
    unfold Text.render
    rw [hds, List.map_cons]
    split
    · next h => simp at h
    · next h =>
      simp only [Prod.mk.injEq, List.cons.injEq] at h
      exact absurd h.1.1 hne
    · next h =>
      simp only [Prod.mk.injEq, List.cons.injEq] at h
      exact absurd h.1.1 hne
    · next h =>
      simp only [Prod.mk.injEq] at h
      rw [h.1, h.2]

theorem fractionPart?_none (rest : List Char) (hr : extendsNumeral rest = false) :
    fractionPart? rest = some ([], rest) := by
  unfold fractionPart?
  split
  · simp [extendsNumeral] at hr
  · rfl

theorem exponentPart?_none (rest : List Char) (hr : extendsNumeral rest = false) :
    exponentPart? rest = some ([], rest) := by
  unfold exponentPart?
  split <;> simp_all [extendsNumeral]

/-- A numeral begins with a digit. -/
theorem render_head (n : Nat) : ∃ c cs, Text.render 10 n = c :: cs ∧ c.isDigit = true := by
  obtain ⟨d, ds, hds, -⟩ := digits_head n
  have hr : Text.render 10 n = Text.digitChar d :: ds.map Text.digitChar := by
    unfold Text.render
    rw [hds, List.map_cons]
  exact ⟨_, _, hr, isDigit_render n _ (by rw [hr]; exact List.mem_cons_self)⟩

/-- The numeral of a number that fits 64 bits reads back. -/
theorem number?_render (n : Nat) (hn : n < Text.limit64) (rest : List Char)
    (hr : extendsNumeral rest = false) :
    number? (Text.render 10 n ++ rest) = some (natural n, rest) := by
  obtain ⟨c, cs, hcs, hc⟩ := render_head n
  unfold number?
  split
  next minus body hsplit =>
  split at hsplit
  · next tail h =>
    rw [hcs, List.cons_append] at h
    injection h with h
    rw [h] at hc
    exact absurd hc (by decide)
  · injection hsplit with hminus hbody
    subst hminus hbody
    simp [integerPart?_render n rest hr, fractionPart?_none rest hr, exponentPart?_none rest hr,
      digitsValue_render, hn]

/-- The numeral of a negative number that fits 64 bits reads back. -/
theorem number?_render_minus (n : Nat) (hn : n < 9223372036854775808) (rest : List Char)
    (hr : extendsNumeral rest = false) :
    number? ('-' :: (Text.render 10 (n + 1) ++ rest)) = some (negative n, rest) := by
  have hle : n + 1 ≤ 9223372036854775808 := by omega
  simp [number?, integerPart?_render (n + 1) rest hr, fractionPart?_none rest hr,
    exponentPart?_none rest hr, digitsValue_render, hle]

/-! ## §3. Plain values and how their text begins. -/

mutual

/-- A value whose every numeral fits 64 bits and whose every part is readable. -/
def IsPlain : Json → Prop
  | natural n => n < Text.limit64
  | negative n => n < 9223372036854775808
  | numeral _ => False
  | unreadable => False
  | list items => ArePlain items
  | object fields => HasPlainFields fields
  | _ => True

/-- Every item is plain. -/
def ArePlain : List Json → Prop
  | [] => True
  | v :: rest => IsPlain v ∧ ArePlain rest

/-- The value of every field is plain. -/
def HasPlainFields : List (String × Json) → Prop
  | [] => True
  | (_, v) :: rest => IsPlain v ∧ HasPlainFields rest

end

/-- Can a value begin with the character?  Blanks and closing brackets cannot. -/
def opensValue (c : Char) : Bool :=
  !isSpace c && c != ']' && c != '\x7d'

theorem opensValue_of_isDigit (c : Char) (h : c.isDigit = true) : opensValue c = true := by
  have hspace : isSpace c = false := by
    simp only [isSpace, Bool.or_eq_false_iff, beq_eq_false_iff_ne]
    refine ⟨⟨⟨?_, ?_⟩, ?_⟩, ?_⟩ <;> (rintro rfl; exact absurd h (by decide))
  have hlist : c ≠ ']' := by
    intro heq
    subst heq
    exact absurd h (by decide)
  have hobject : c ≠ '\x7d' := by
    intro heq
    subst heq
    exact absurd h (by decide)
  simp [opensValue, hspace, hlist, hobject]

/-- The text of a plain value begins with a character that opens a value. -/
theorem render_opens (v : Json) (hv : v.IsPlain) :
    ∃ c cs, v.render = c :: cs ∧ opensValue c = true := by
  cases v with
  | null => exact ⟨'n', _, rfl, by decide⟩
  | bool b =>
    cases b with
    | false => exact ⟨'f', _, rfl, by decide⟩
    | true => exact ⟨'t', _, rfl, by decide⟩
  | natural n =>
    obtain ⟨c, cs, hcs, hc⟩ := render_head n
    exact ⟨c, cs, hcs, opensValue_of_isDigit c hc⟩
  | negative n => exact ⟨'-', _, rfl, by decide⟩
  | numeral cs => exact hv.elim
  | text s => exact ⟨'"', _, rfl, by decide⟩
  | list items => exact ⟨'[', _, by rw [render], by decide⟩
  | object fields => exact ⟨'\x7b', _, by rw [render], by decide⟩
  | unreadable => exact hv.elim

/-- Nothing is skipped in front of a character that opens a value. -/
theorem skipSpace_of_opens (c : Char) (cs : List Char) (h : opensValue c = true) :
    skipSpace (c :: cs) = c :: cs := by
  have hc : isSpace c = false := by
    simp only [opensValue, Bool.and_eq_true, Bool.not_eq_true'] at h
    exact h.1.1
  simp [skipSpace, hc]

/-- Nothing is skipped in front of a plain value. -/
theorem skipSpace_render (v : Json) (hv : v.IsPlain) (rest : List Char) :
    skipSpace (v.render ++ rest) = v.render ++ rest := by
  obtain ⟨c, cs, hcs, hc⟩ := render_opens v hv
  rw [hcs, List.cons_append]
  exact skipSpace_of_opens c _ hc

theorem renderItems_cons_cons (v w : Json) (items : List Json) :
    renderItems (v :: w :: items) = v.render ++ ',' :: renderItems (w :: items) := by
  rw [renderItems]
  exact List.cons_ne_nil w items

theorem renderFields_cons_cons (name : String) (v : Json) (field : String × Json)
    (fields : List (String × Json)) :
    renderFields ((name, v) :: field :: fields)
      = quote name ++ ':' :: (v.render ++ ',' :: renderFields (field :: fields)) := by
  rw [renderFields]
  exact List.cons_ne_nil field fields

/-- The text of plain items begins as the first one does. -/
theorem renderItems_opens (v : Json) (items : List Json) (hv : ArePlain (v :: items)) :
    ∃ c cs, renderItems (v :: items) = c :: cs ∧ opensValue c = true := by
  obtain ⟨c, cs, hcs, hc⟩ := render_opens v hv.1
  cases items with
  | nil => exact ⟨c, cs, by rw [renderItems, hcs], hc⟩
  | cons w items =>
    refine ⟨c, cs ++ ',' :: renderItems (w :: items), ?_, hc⟩
    rw [renderItems_cons_cons, hcs, List.cons_append]

/-- The text of fields begins with the quote of the first name. -/
theorem renderFields_opens (name : String) (v : Json) (fields : List (String × Json)) :
    ∃ cs, renderFields ((name, v) :: fields) = '"' :: cs := by
  cases fields with
  | nil => exact ⟨_, by rw [renderFields, quote, List.cons_append]⟩
  | cons field fields => exact ⟨_, by rw [renderFields_cons_cons, quote, List.cons_append]⟩

/-! ## §4. Containers, one step of the reader at a time.

Blanks may stand wherever the grammar allows them: behind an opening bracket, around a
comma, behind a colon and in front of a closing bracket. -/

/-- A list that does not close at once holds the items that follow. -/
theorem value?_list (fuel : Nat) (cs : List Char) (c : Char) (body : List Char)
    (items : List Json) (rest : List Char) (hskip : skipSpace cs = c :: body)
    (hc : opensValue c = true) (h : items? fuel (c :: body) = some (items, rest)) :
    value? (fuel + 1) ('[' :: cs) = some (list items, rest) := by
  have hclose : c ≠ ']' := by
    intro heq
    subst heq
    exact absurd hc (by decide)
  rw [value?, hskip]
  split
  · next hcs => exact absurd (List.cons.inj hcs).1 hclose
  · rw [h]
    rfl

/-- An object that does not close at once holds the fields that follow. -/
theorem value?_object (fuel : Nat) (cs : List Char) (c : Char) (body : List Char)
    (fields : List (String × Json)) (rest : List Char) (hskip : skipSpace cs = c :: body)
    (hc : opensValue c = true) (h : fields? fuel (c :: body) = some (some fields, rest)) :
    value? (fuel + 1) ('\x7b' :: cs) = some (object fields, rest) := by
  have hclose : c ≠ '\x7d' := by
    intro heq
    subst heq
    exact absurd hc (by decide)
  rw [value?, hskip]
  split
  · next hcs => exact absurd (List.cons.inj hcs).1 hclose
  · rw [h]
    rfl

theorem items?_last (fuel : Nat) (cs : List Char) (v : Json) (after rest : List Char)
    (h : value? fuel cs = some (v, after)) (hclose : skipSpace after = ']' :: rest) :
    items? (fuel + 1) cs = some ([v], rest) := by
  rw [items?, h]
  simp only [Option.bind_eq_bind, Option.bind_some, hclose]
  rfl

theorem items?_more (fuel : Nat) (cs : List Char) (v : Json) (after more : List Char)
    (items : List Json) (rest : List Char)
    (h : value? fuel cs = some (v, after)) (hcomma : skipSpace after = ',' :: more)
    (hmore : items? fuel (skipSpace more) = some (items, rest)) :
    items? (fuel + 1) cs = some (v :: items, rest) := by
  rw [items?, h]
  simp only [Option.bind_eq_bind, Option.bind_some, hcomma]
  rw [hmore]
  rfl

theorem fields?_last (fuel : Nat) (name : String) (cs : List Char) (v : Json)
    (after rest : List Char) (h : value? fuel (skipSpace cs) = some (v, after))
    (hclose : skipSpace after = '\x7d' :: rest) :
    fields? (fuel + 1) (quote name ++ ':' :: cs) = some (some [(name, v)], rest) := by
  show fields? (fuel + 1) ('"' :: ((name.toList.flatMap escapeChar ++ ['"']) ++ ':' :: cs)) = _
  rw [List.append_assoc, fields?, List.singleton_append, stringBody?_quoted]
  show (value? fuel (skipSpace cs)).bind _ = _
  rw [h]
  simp only [Option.bind_eq_bind, Option.bind_some, hclose]
  rfl

theorem fields?_more (fuel : Nat) (name : String) (cs : List Char) (v : Json)
    (after more : List Char) (fields : List (String × Json)) (rest : List Char)
    (h : value? fuel (skipSpace cs) = some (v, after)) (hcomma : skipSpace after = ',' :: more)
    (hmore : fields? fuel (skipSpace more) = some (some fields, rest)) :
    fields? (fuel + 1) (quote name ++ ':' :: cs) = some (some ((name, v) :: fields), rest) := by
  show fields? (fuel + 1) ('"' :: ((name.toList.flatMap escapeChar ++ ['"']) ++ ':' :: cs)) = _
  rw [List.append_assoc, fields?, List.singleton_append, stringBody?_quoted]
  show (value? fuel (skipSpace cs)).bind _ = _
  rw [h]
  simp only [Option.bind_eq_bind, Option.bind_some, hcomma]
  rw [hmore]
  rfl

/-! ## §5. Values. -/

/-- A number is read by the reader of numerals. -/
theorem value?_number (fuel : Nat) (c : Char) (cs : List Char)
    (h : c.isDigit = true ∨ c = '-') : value? (fuel + 1) (c :: cs) = number? (c :: cs) := by
  have hne : ∀ d : Char, d.isDigit = false → d ≠ '-' → c ≠ d := by
    intro d hd hminus heq
    subst heq
    rcases h with h | h
    · rw [hd] at h
      exact Bool.false_ne_true h
    · exact hminus h
  rw [value?]
  · intro rest hcs
    exact hne 'n' (by decide) (by decide) (List.cons.inj hcs).1
  · intro rest hcs
    exact hne 't' (by decide) (by decide) (List.cons.inj hcs).1
  · intro rest hcs
    exact hne 'f' (by decide) (by decide) (List.cons.inj hcs).1
  · intro rest hcs
    exact hne '"' (by decide) (by decide) (List.cons.inj hcs).1
  · intro rest hcs
    exact hne '[' (by decide) (by decide) (List.cons.inj hcs).1
  · intro rest hcs
    exact hne '\x7b' (by decide) (by decide) (List.cons.inj hcs).1

mutual

/-- **A plain value reads back**, whatever stands behind it, as long as that does not
extend a numeral. -/
theorem value?_render (v : Json) (hv : v.IsPlain) (fuel : Nat)
    (hf : 2 * v.render.length ≤ fuel) (rest : List Char) (hr : extendsNumeral rest = false) :
    value? fuel (v.render ++ rest) = some (v, rest) := by
  -- the text is not empty, so there is fuel for the value itself
  obtain ⟨c, cs, hcs, -⟩ := render_opens v hv
  cases fuel with
  | zero =>
    rw [hcs, List.length_cons] at hf
    omega
  | succ fuel =>
  cases v with
  | null => rfl
  | bool b => cases b <;> rfl
  | natural n =>
    obtain ⟨c, cs, hcs, hc⟩ := render_head n
    show value? (fuel + 1) (Text.render 10 n ++ rest) = _
    rw [← number?_render n hv rest hr, hcs, List.cons_append]
    exact value?_number fuel c _ (.inl hc)
  | negative n =>
    rw [← number?_render_minus n hv rest hr]
    exact value?_number fuel '-' _ (.inr rfl)
  | numeral cs => exact hv.elim
  | text s =>
    show value? (fuel + 1) ('"' :: ((s.toList.flatMap escapeChar ++ ['"']) ++ rest)) = _
    rw [List.append_assoc, List.singleton_append, value?, stringBody?_quoted]
    rfl
  | list items =>
    rw [render] at hf ⊢
    cases items with
    | nil => rfl
    | cons v items =>
      -- the bracket has spent one unit, and the items are read by what is left
      obtain ⟨c, cs, hcs, hc⟩ := renderItems_opens v items hv
      have hitems := items?_renderItems v items hv fuel
        (by simp only [List.length_cons, List.length_append] at hf; omega) rest
      rw [List.cons_append, List.append_assoc, List.singleton_append]
      rw [hcs, List.cons_append] at hitems ⊢
      exact value?_list fuel _ c _ _ rest (skipSpace_of_opens c _ hc) hc hitems
  | object fields =>
    rw [render] at hf ⊢
    cases fields with
    | nil => rfl
    | cons field fields =>
      obtain ⟨name, v⟩ := field
      have hfields := fields?_renderFields name v fields hv fuel
        (by simp only [List.length_cons, List.length_append] at hf; omega) rest
      obtain ⟨cs, hcs⟩ := renderFields_opens name v fields
      rw [List.cons_append, List.append_assoc, List.singleton_append]
      rw [hcs, List.cons_append] at hfields ⊢
      exact value?_object fuel _ '"' _ _ rest (skipSpace_of_opens '"' _ (by decide)) (by decide)
        hfields
  | unreadable => exact hv.elim
termination_by fuel

/-- The items of a plain list read back up to the closing bracket. -/
theorem items?_renderItems (v : Json) (items : List Json) (hv : ArePlain (v :: items))
    (fuel : Nat) (hf : 2 * (renderItems (v :: items)).length + 1 ≤ fuel) (rest : List Char) :
    items? fuel (renderItems (v :: items) ++ ']' :: rest) = some (v :: items, rest) := by
  cases fuel with
  | zero => omega
  | succ fuel =>
  cases items with
  | nil =>
    rw [renderItems] at hf ⊢
    exact items?_last fuel _ v _ rest
      (value?_render v hv.1 fuel (by omega) (']' :: rest) rfl) rfl
  | cons w items =>
    rw [renderItems_cons_cons] at hf ⊢
    simp only [List.length_append, List.length_cons] at hf
    rw [List.append_assoc, List.cons_append]
    refine items?_more fuel _ v _ (renderItems (w :: items) ++ ']' :: rest) _ rest
      (value?_render v hv.1 fuel (by omega) _ rfl) rfl ?_
    -- no blank stands between a comma and the next item
    have hskip : skipSpace (renderItems (w :: items) ++ ']' :: rest)
        = renderItems (w :: items) ++ ']' :: rest := by
      obtain ⟨c, cs, hcs, hc⟩ := renderItems_opens w items hv.2
      rw [hcs, List.cons_append]
      exact skipSpace_of_opens c _ hc
    rw [hskip]
    exact items?_renderItems w items hv.2 fuel (by omega) rest
termination_by fuel

/-- The fields of a plain object read back up to the closing brace. -/
theorem fields?_renderFields (name : String) (v : Json) (fields : List (String × Json))
    (hv : HasPlainFields ((name, v) :: fields)) (fuel : Nat)
    (hf : 2 * (renderFields ((name, v) :: fields)).length + 1 ≤ fuel) (rest : List Char) :
    fields? fuel (renderFields ((name, v) :: fields) ++ '\x7d' :: rest)
      = some (some ((name, v) :: fields), rest) := by
  cases fuel with
  | zero => omega
  | succ fuel =>
  cases fields with
  | nil =>
    rw [renderFields] at hf ⊢
    simp only [List.length_append, List.length_cons] at hf
    rw [List.append_assoc, List.cons_append]
    have hvalue := value?_render v hv.1 fuel (by omega) ('\x7d' :: rest) rfl
    rw [← skipSpace_render v hv.1] at hvalue
    exact fields?_last fuel name _ v _ rest hvalue rfl
  | cons field fields =>
    obtain ⟨name', w⟩ := field
    rw [renderFields_cons_cons] at hf ⊢
    simp only [List.length_append, List.length_cons] at hf
    rw [List.append_assoc, List.cons_append, List.append_assoc, List.cons_append]
    have hskip : skipSpace (renderFields ((name', w) :: fields) ++ '\x7d' :: rest)
        = renderFields ((name', w) :: fields) ++ '\x7d' :: rest := by
      obtain ⟨cs, hcs⟩ := renderFields_opens name' w fields
      rw [hcs, List.cons_append]
      exact skipSpace_of_opens '"' _ (by decide)
    have hvalue := value?_render v hv.1 fuel (by omega)
      (',' :: (renderFields ((name', w) :: fields) ++ '\x7d' :: rest)) rfl
    rw [← skipSpace_render v hv.1] at hvalue
    refine fields?_more fuel name _ v _ _ _ rest hvalue rfl ?_
    rw [hskip]
    exact fields?_renderFields name' w fields hv.2 fuel (by omega) rest
termination_by fuel

end

/-! ## §6. Whole texts. -/

/-- A text that is one value from its first character to its last denotes that value. -/
theorem parse?_ofList {cs : List Char} {v : Json} (hskip : skipSpace cs = cs)
    (hvalue : value? (2 * cs.length + 2) cs = some (v, [])) :
    parse? (String.ofList cs) = some v := by
  unfold parse?
  rw [String.toList_ofList]
  unfold parseChars?
  rw [hskip, hvalue]
  rfl

/-- **The compact text of a plain value denotes the value.** -/
theorem parse?_compact (v : Json) (hv : v.IsPlain) : parse? v.compact = some v := by
  have hskip := skipSpace_render v hv []
  have hvalue := value?_render v hv (2 * v.render.length + 2) (by omega) [] rfl
  rw [List.append_nil] at hskip hvalue
  exact parse?_ofList hskip hvalue

end DebugMerge.Json
