/-
  DebugMerge.Proofs.Json.Indented
  ───────────────────────────────
  **The indented form of a value reads back as the value.**

  The indented form holds the tokens of the compact one, with a line break and
  blanks in front of every item, field and closing bracket, and one blank behind
  every colon.  The reader skips all of them, so a plain value that stands at any
  depth reads back with any text behind it.  The induction is that of the compact
  form: down the value, with fuel for twice the length of the text.

  Main statements
    • `value?_indented`       — a plain value at any depth, with any text behind it
    • `parse?_pretty`         — the whole indented text of a plain value
-/
import DebugMerge.Proofs.Json.RoundTrip

namespace DebugMerge.Json

/-! ## §1. Blanks between tokens. -/

/-- The blanks of a new line are skipped. -/
theorem skipSpace_newLine (level : Nat) (cs : List Char) :
    skipSpace (newLine level ++ cs) = skipSpace cs := by
  have hblanks : ∀ n, skipSpace (List.replicate n ' ' ++ cs) = skipSpace cs := by
    intro n
    induction n with
    | zero => rfl
    | succ n ih => exact ih
  exact hblanks (2 * level)

/-- The indented text of a plain value begins with a character that opens a value. -/
theorem indented_opens (level : Nat) (v : Json) (hv : v.IsPlain) :
    ∃ c cs, indented level v = c :: cs ∧ opensValue c = true := by
  cases v with
  | list items =>
    cases items with
    | nil => exact ⟨'[', _, by rw [indented], by decide⟩
    | cons v items => exact ⟨'[', _, by rw [indented], by decide⟩
  | object fields =>
    cases fields with
    | nil => exact ⟨'\x7b', _, by rw [indented], by decide⟩
    | cons field fields => exact ⟨'\x7b', _, by rw [indented], by decide⟩
  -- a scalar is written as in the compact form
  | null => exact render_opens null hv
  | bool b => exact render_opens (bool b) hv
  | natural n => exact render_opens (natural n) hv
  | negative n => exact render_opens (negative n) hv
  | text s => exact render_opens (text s) hv
  | numeral cs => exact hv.elim
  | unreadable => exact hv.elim

/-- Nothing is skipped in front of a plain value. -/
theorem skipSpace_indented (level : Nat) (v : Json) (hv : v.IsPlain) (rest : List Char) :
    skipSpace (indented level v ++ rest) = indented level v ++ rest := by
  obtain ⟨c, cs, hcs, hc⟩ := indented_opens level v hv
  rw [hcs, List.cons_append]
  exact skipSpace_of_opens c _ hc

/-- One blank stands behind a colon. -/
theorem skipSpace_blank (cs : List Char) : skipSpace (' ' :: cs) = skipSpace cs := rfl

/-- What follows an item, the last one or not, does not extend a numeral. -/
theorem extendsNumeral_indentedItems (level inner : Nat) (items : List Json) (rest : List Char) :
    extendsNumeral (indentedItems inner items ++ (newLine level ++ rest)) = false := by
  cases items with
  | nil => rfl
  | cons v items => rw [indentedItems]; rfl

/-- What follows a field, the last one or not, does not extend a numeral. -/
theorem extendsNumeral_indentedFields (level inner : Nat) (fields : List (String × Json))
    (rest : List Char) :
    extendsNumeral (indentedFields inner fields ++ (newLine level ++ rest)) = false := by
  cases fields with
  | nil => rfl
  | cons field fields => rw [indentedFields]; rfl

/-! ## §2. Values at any depth. -/

mutual

/-- **A plain value at any depth reads back**, whatever stands behind it, as long as that
does not extend a numeral. -/
theorem value?_indented (level : Nat) (v : Json) (hv : v.IsPlain) (fuel : Nat)
    (hf : 2 * (indented level v).length ≤ fuel) (rest : List Char)
    (hr : extendsNumeral rest = false) :
    value? fuel (indented level v ++ rest) = some (v, rest) := by
  -- the text is not empty, so there is fuel for the value itself
  obtain ⟨c, cs, hcs, -⟩ := indented_opens level v hv
  cases fuel with
  | zero =>
    rw [hcs, List.length_cons] at hf
    omega
  | succ fuel =>
  cases v with
  | list items =>
    cases items with
    | nil => rw [indented]; rfl
    | cons v items =>
      rw [indented] at hf ⊢
      simp only [List.length_cons, List.length_append] at hf
      have hitems := items?_indented level (level + 1) v items hv fuel (by omega) rest
      simp only [List.cons_append, List.append_assoc, List.nil_append] at hitems ⊢
      -- the line break behind the bracket is skipped, and the first item follows
      obtain ⟨c, cs, hcs, hc⟩ := indented_opens (level + 1) v hv.1
      rw [hcs, List.cons_append] at hitems
      refine value?_list fuel _ c _ _ rest ?_ hc hitems
      rw [skipSpace_newLine, skipSpace_indented _ _ hv.1, hcs, List.cons_append]
  | object fields =>
    cases fields with
    | nil => rw [indented]; rfl
    | cons field fields =>
      obtain ⟨name, v⟩ := field
      rw [indented] at hf ⊢
      simp only [List.length_cons, List.length_append] at hf
      have hfields := fields?_indented level (level + 1) name v fields hv fuel (by omega) rest
      simp only [List.cons_append, List.append_assoc, List.nil_append] at hfields ⊢
      refine value?_object fuel _ '"' _ _ rest ?_ (by decide) hfields
      rw [skipSpace_newLine, quote, List.cons_append]
      exact skipSpace_of_opens '"' _ (by decide)
  | null => exact value?_render null hv (fuel + 1) hf rest hr
  | bool b => exact value?_render (bool b) hv (fuel + 1) hf rest hr
  | natural n => exact value?_render (natural n) hv (fuel + 1) hf rest hr
  | negative n => exact value?_render (negative n) hv (fuel + 1) hf rest hr
  | text s => exact value?_render (text s) hv (fuel + 1) hf rest hr
  | numeral cs => exact hv.elim
  | unreadable => exact hv.elim
termination_by fuel

/-- The items of a plain list read back up to the closing bracket, which stands on a line of
its own. -/
theorem items?_indented (level inner : Nat) (v : Json) (items : List Json)
    (hv : ArePlain (v :: items)) (fuel : Nat)
    (hf : 2 * ((indented inner v).length + (indentedItems inner items).length) + 1 ≤ fuel)
    (rest : List Char) :
    items? fuel (indented inner v ++ (indentedItems inner items ++ (newLine level ++ ']' :: rest)))
      = some (v :: items, rest) := by
  cases fuel with
  | zero => omega
  | succ fuel =>
  have hvalue := value?_indented inner v hv.1 fuel (by omega) _
    (extendsNumeral_indentedItems level inner items (']' :: rest))
  cases items with
  | nil =>
    refine items?_last fuel _ v _ rest hvalue ?_
    rw [indentedItems, List.nil_append, skipSpace_newLine]
    rfl
  | cons w items =>
    rw [indentedItems] at hf hvalue ⊢
    simp only [List.length_cons, List.length_append] at hf
    simp only [List.cons_append, List.append_assoc] at hvalue ⊢
    refine items?_more fuel _ v _ _ _ rest hvalue rfl ?_
    rw [skipSpace_newLine, skipSpace_indented _ _ hv.2.1]
    exact items?_indented level inner w items hv.2 fuel (by omega) rest
termination_by fuel

/-- The fields of a plain object read back up to the closing brace, which stands on a line
of its own. -/
theorem fields?_indented (level inner : Nat) (name : String) (v : Json)
    (fields : List (String × Json)) (hv : HasPlainFields ((name, v) :: fields)) (fuel : Nat)
    (hf : 2 * ((quote name).length + (indented inner v).length
      + (indentedFields inner fields).length) + 1 ≤ fuel) (rest : List Char) :
    fields? fuel (quote name ++ ':' :: ' ' :: (indented inner v
        ++ (indentedFields inner fields ++ (newLine level ++ '\x7d' :: rest))))
      = some (some ((name, v) :: fields), rest) := by
  cases fuel with
  | zero => omega
  | succ fuel =>
  have hvalue := value?_indented inner v hv.1 fuel (by omega) _
    (extendsNumeral_indentedFields level inner fields ('\x7d' :: rest))
  rw [← skipSpace_indented inner v hv.1, ← skipSpace_blank] at hvalue
  cases fields with
  | nil =>
    refine fields?_last fuel name _ v _ rest hvalue ?_
    rw [indentedFields, List.nil_append, skipSpace_newLine]
    rfl
  | cons field fields =>
    obtain ⟨name', w⟩ := field
    rw [indentedFields] at hf hvalue ⊢
    simp only [List.length_cons, List.length_append] at hf
    simp only [List.cons_append, List.append_assoc, List.nil_append] at hvalue ⊢
    refine fields?_more fuel name _ v _ _ _ rest hvalue rfl ?_
    have hname : ∀ cs, skipSpace (quote name' ++ cs) = quote name' ++ cs := fun cs =>
      skipSpace_of_opens '"' _ (by decide)
    rw [skipSpace_newLine, hname]
    exact fields?_indented level inner name' w fields hv.2 fuel (by omega) rest
termination_by fuel

end

/-! ## §3. Whole texts. -/

/-- **The indented text of a plain value denotes the value.** -/
theorem parse?_pretty (v : Json) (hv : v.IsPlain) : parse? v.pretty = some v := by
  have hskip := skipSpace_indented 0 v hv []
  have hvalue := value?_indented 0 v hv (2 * (indented 0 v).length + 2) (by omega) [] rfl
  rw [List.append_nil] at hskip hvalue
  exact parse?_ofList hskip hvalue

end DebugMerge.Json
