/-
  DebugMerge.Proofs.Folds
  ───────────────────────
  **Folds of steps that can fail.**

  Two properties of one step decide what a whole fold can be trusted with.  If
  steps can be *swapped* up to a relation of states, then the order of the
  list does not matter up to that relation.  If what was done once is
  *absorbed* from then on, then a fold that was broken off anywhere can be
  run again from the start and ends where it would have ended at once.

  Main statements
    • `Swappable`, `Swappable.foldlM_perm`   — the order does not matter
    • `Absorbing`, `Absorbing.foldlM_resume` — a broken fold can be run again
    • `onTable`                              — steps on a table that may be absent
-/
import DebugMerge.Load.Error

namespace DebugMerge

variable {σ α ε : Type}

/-! ## §1. Folds taken apart. -/

theorem bind_ok {β : Type} {r : Except ε α} {f : α → Except ε β} {y : β} :
    (r >>= f) = .ok y ↔ ∃ x, r = .ok x ∧ f x = .ok y := by
  cases r with
  | error e =>
    constructor
    · intro h
      cases h
    · intro h
      obtain ⟨x, h, -⟩ := h
      cases h
  | ok x =>
    constructor
    · exact fun h => ⟨x, rfl, h⟩
    · intro h
      obtain ⟨x', h, hf⟩ := h
      cases h
      exact hf

theorem bind_error {β : Type} {r : Except ε α} {f : α → Except ε β} {e : ε} :
    (r >>= f) = .error e ↔ r = .error e ∨ ∃ x, r = .ok x ∧ f x = .error e := by
  cases r with
  | error e' =>
    constructor
    · intro h
      cases h
      exact .inl rfl
    · intro h
      rcases h with h | ⟨x, h, -⟩
      · cases h
        rfl
      · cases h
  | ok x =>
    constructor
    · exact fun h => .inr ⟨x, rfl, h⟩
    · intro h
      rcases h with h | ⟨x', h, hf⟩
      · cases h
      · cases h
        exact hf

/-- However the first part goes, the rest succeeds behind it. -/
theorem exists_of_ite_bind_ok {β : Type} {p : Prop} [Decidable p] {r s : Except ε α}
    {f : α → Except ε β} {y : β} (h : (if p then r >>= f else s >>= f) = .ok y) :
    ∃ x, f x = .ok y := by
  split at h
  · obtain ⟨x, -, h⟩ := bind_ok.mp h
    exact ⟨x, h⟩
  · obtain ⟨x, -, h⟩ := bind_ok.mp h
    exact ⟨x, h⟩

theorem map_ok {β : Type} {r : Except ε α} {f : α → β} {y : β} :
    r.map f = .ok y ↔ ∃ x, r = .ok x ∧ f x = y := by
  cases r with
  | error e =>
    constructor
    · intro h
      cases h
    · intro h
      obtain ⟨x, h, -⟩ := h
      cases h
  | ok x =>
    constructor
    · intro h
      injection h with h
      exact ⟨x, rfl, h⟩
    · intro h
      obtain ⟨x', h, rfl⟩ := h
      cases h
      rfl

theorem map_error {β : Type} {r : Except ε α} {f : α → β} {e : ε} :
    r.map f = .error e ↔ r = .error e := by
  cases r with
  | error e' =>
    constructor
    · intro h
      cases h
      rfl
    · intro h
      cases h
      rfl
  | ok x =>
    constructor
    · intro h
      cases h
    · intro h
      cases h

theorem foldlM_cons_ok {f : σ → α → Except ε σ} {s t : σ} {x : α} {xs : List α} :
    (x :: xs).foldlM f s = .ok t ↔ ∃ m, f s x = .ok m ∧ xs.foldlM f m = .ok t := by
  rw [List.foldlM_cons]
  exact bind_ok

theorem foldlM_singleton (f : σ → α → Except ε σ) (s : σ) (x : α) : [x].foldlM f s = f s x := by
  rw [List.foldlM_cons]
  cases f s x <;> rfl

theorem foldlM_append_ok {f : σ → α → Except ε σ} {s t : σ} {xs ys : List α} :
    (xs ++ ys).foldlM f s = .ok t ↔ ∃ m, xs.foldlM f s = .ok m ∧ ys.foldlM f m = .ok t := by
  rw [List.foldlM_append]
  exact bind_ok

/-- A fold seen through a function that turns one step into the other. -/
theorem map_foldlM {τ : Type} {f : σ → α → Except ε σ} {g : τ → α → Except ε τ} {view : τ → σ}
    (h : ∀ t x, (g t x).map view = f (view t) x) (t : τ) (xs : List α) :
    (xs.foldlM g t).map view = xs.foldlM f (view t) := by
  induction xs generalizing t with
  | nil => rfl
  | cons x xs ih =>
    rw [List.foldlM_cons, List.foldlM_cons, ← h]
    cases hstep : g t x with
    | error e => rfl
    | ok m => exact ih m

theorem foldlM_cons_error {f : σ → α → Except ε σ} {s : σ} {e : ε} {x : α} {xs : List α} :
    (x :: xs).foldlM f s = .error e
      ↔ f s x = .error e ∨ ∃ m, f s x = .ok m ∧ xs.foldlM f m = .error e := by
  rw [List.foldlM_cons]
  exact bind_error

theorem foldlM_append_error {f : σ → α → Except ε σ} {s : σ} {e : ε} {xs ys : List α} :
    (xs ++ ys).foldlM f s = .error e
      ↔ xs.foldlM f s = .error e ∨ ∃ m, xs.foldlM f s = .ok m ∧ ys.foldlM f m = .error e := by
  rw [List.foldlM_append]
  exact bind_error

/-- A fold fails at one element, behind others that did not fail. -/
theorem foldlM_error_iff {f : σ → α → Except ε σ} {s : σ} {e : ε} {xs : List α} :
    xs.foldlM f s = .error e
      ↔ ∃ done x rest m, xs = done ++ x :: rest ∧ done.foldlM f s = .ok m ∧ f m x = .error e := by
  constructor
  · intro h
    induction xs generalizing s with
    | nil => cases h
    | cons x xs ih =>
      rcases foldlM_cons_error.mp h with hx | ⟨m, hx, hrest⟩
      · exact ⟨[], x, xs, s, rfl, rfl, hx⟩
      · obtain ⟨done, y, rest, m', rfl, hdone, hy⟩ := ih hrest
        exact ⟨x :: done, y, rest, m', rfl, foldlM_cons_ok.mpr ⟨m, hx, hdone⟩, hy⟩
  · rintro ⟨done, x, rest, m, rfl, hdone, hx⟩
    exact foldlM_append_error.mpr (.inr ⟨m, hdone, foldlM_cons_error.mpr (.inl hx)⟩)

/-- What every step preserves, the fold preserves. -/
theorem foldlM_invariant {f : σ → α → Except ε σ} {P : σ → Prop} {xs : List α}
    (hstep : ∀ s x t, P s → f s x = .ok t → P t) {s t : σ} (hs : P s)
    (h : xs.foldlM f s = .ok t) : P t := by
  induction xs generalizing s with
  | nil =>
    cases h
    exact hs
  | cons x xs ih =>
    obtain ⟨m, hx, hrest⟩ := foldlM_cons_ok.mp h
    exact ih (hstep s x m hs hx) hrest

/-! ## §2. Steps that can be swapped. -/

/-- Two steps that succeed in one order succeed in the other, and the results are related;
related states behave alike. -/
structure Swappable (f : σ → α → Except ε σ) (R : σ → σ → Prop) : Prop where
  refl : ∀ s, R s s
  trans : ∀ {s t u}, R s t → R t u → R s u
  congr : ∀ {s s' t x}, R s s' → f s x = .ok t → ∃ t', f s' x = .ok t' ∧ R t t'
  swap : ∀ {s m t x y}, f s x = .ok m → f m y = .ok t →
    ∃ m' t', f s y = .ok m' ∧ f m' x = .ok t' ∧ R t t'

namespace Swappable

variable {f : σ → α → Except ε σ} {R : σ → σ → Prop}

theorem foldlM_congr (hf : Swappable f R) {xs : List α} {s s' t : σ} (hs : R s s')
    (h : xs.foldlM f s = .ok t) : ∃ t', xs.foldlM f s' = .ok t' ∧ R t t' := by
  induction xs generalizing s s' with
  | nil =>
    cases h
    exact ⟨s', rfl, hs⟩
  | cons x xs ih =>
    obtain ⟨m, hx, hrest⟩ := foldlM_cons_ok.mp h
    obtain ⟨m', hx', hm⟩ := hf.congr hs hx
    obtain ⟨t', hrest', ht⟩ := ih hm hrest
    exact ⟨t', foldlM_cons_ok.mpr ⟨m', hx', hrest'⟩, ht⟩

/-- **The order of a list does not matter** to a fold of steps that can be swapped. -/
theorem foldlM_perm (hf : Swappable f R) {xs ys : List α} (hperm : xs.Perm ys) {s t : σ}
    (h : xs.foldlM f s = .ok t) : ∃ t', ys.foldlM f s = .ok t' ∧ R t t' := by
  induction hperm generalizing s t with
  | nil => exact ⟨t, h, hf.refl t⟩
  | cons x _ ih =>
    obtain ⟨m, hx, hrest⟩ := foldlM_cons_ok.mp h
    obtain ⟨t', hrest', ht⟩ := ih hrest
    exact ⟨t', foldlM_cons_ok.mpr ⟨m, hx, hrest'⟩, ht⟩
  | swap x y xs =>
    -- the two steps are swapped, and the rest follows from a related state
    obtain ⟨m, hy, hrest⟩ := foldlM_cons_ok.mp h
    obtain ⟨n, hx, hrest⟩ := foldlM_cons_ok.mp hrest
    obtain ⟨m', n', hx', hy', hn⟩ := hf.swap hy hx
    obtain ⟨t', hrest', ht⟩ := hf.foldlM_congr hn hrest
    exact ⟨t', foldlM_cons_ok.mpr ⟨m', hx', foldlM_cons_ok.mpr ⟨n', hy', hrest'⟩⟩, ht⟩
  | trans _ _ ih ih' =>
    obtain ⟨t', h', ht⟩ := ih h
    obtain ⟨t'', h'', ht'⟩ := ih' h'
    exact ⟨t'', h'', hf.trans ht ht'⟩

end Swappable

/-! ## §3. Steps that are absorbed. -/

/-- A step that was taken is absorbed: taken again it changes nothing, now and after every
other step. -/
structure Absorbing (f : σ → α → Except ε σ) : Prop where
  again : ∀ {s t x}, f s x = .ok t → f t x = .ok t
  stays : ∀ {s t x y}, f s x = .ok s → f s y = .ok t → f t x = .ok t

namespace Absorbing

variable {f : σ → α → Except ε σ}

theorem stays_foldlM (hf : Absorbing f) {xs : List α} {s t : σ} {x : α} (hx : f s x = .ok s)
    (h : xs.foldlM f s = .ok t) : f t x = .ok t :=
  foldlM_invariant (P := fun s => f s x = .ok s) (fun _ _ _ hs hy => hf.stays hs hy) hx h

/-- After a fold each of its steps is absorbed. -/
theorem absorbed (hf : Absorbing f) {xs : List α} {s t : σ} (h : xs.foldlM f s = .ok t) :
    ∀ x ∈ xs, f t x = .ok t := by
  induction xs generalizing s with
  | nil =>
    intro x hx
    cases hx
  | cons y xs ih =>
    obtain ⟨m, hy, hrest⟩ := foldlM_cons_ok.mp h
    intro x hx
    rcases List.mem_cons.mp hx with rfl | hx
    · exact hf.stays_foldlM (hf.again hy) hrest
    · exact ih hrest x hx

/-- A fold of absorbed steps changes nothing. -/
theorem foldlM_absorbed {xs : List α} {t : σ} (h : ∀ x ∈ xs, f t x = .ok t) :
    xs.foldlM f t = .ok t := by
  induction xs with
  | nil => rfl
  | cons x xs ih =>
    have hx := h x List.mem_cons_self
    have hxs := ih fun y hy => h y (List.mem_cons_of_mem x hy)
    exact foldlM_cons_ok.mpr ⟨t, hx, hxs⟩

/-- **A broken fold can be run again**: from where it was broken off, the whole fold ends
where it would have ended at once. -/
theorem foldlM_resume (hf : Absorbing f) {done rest : List α} {s m t : σ}
    (hdone : done.foldlM f s = .ok m) (h : (done ++ rest).foldlM f s = .ok t) :
    (done ++ rest).foldlM f m = .ok t := by
  obtain ⟨m', hdone', hrest⟩ := foldlM_append_ok.mp h
  rw [hdone] at hdone'
  cases hdone'
  exact foldlM_append_ok.mpr ⟨m, foldlM_absorbed (hf.absorbed hdone), hrest⟩

end Absorbing

/-! ## §4. Steps on a table. -/

/-- A step on a table, which fails if the table is absent. -/
def onTable (table : Table) (f : σ → α → Except LoadError σ) :
    Option σ → α → Except LoadError (Option σ)
  | none, _ => .error (.store (.missingTable table))
  | some rows, x => (f rows x).map some

variable {table : Table} {f : σ → α → Except LoadError σ}

theorem onTable_some (rows : σ) (x : α) : onTable table f (some rows) x = (f rows x).map some :=
  rfl

theorem onTable_ok {rows : Option σ} {x : α} {rows' : Option σ} :
    onTable table f rows x = .ok rows'
      ↔ ∃ s t, rows = some s ∧ f s x = .ok t ∧ rows' = some t := by
  cases rows with
  | none =>
    constructor
    · intro h
      cases h
    · intro h
      obtain ⟨s, t, h, -⟩ := h
      cases h
  | some s =>
    show (f s x).map some = .ok rows' ↔ _
    cases hx : f s x with
    | error e =>
      constructor
      · intro h
        cases h
      · intro h
        obtain ⟨s', t, h, hx', -⟩ := h
        cases h
        rw [hx] at hx'
        cases hx'
    | ok t =>
      constructor
      · intro h
        cases h
        exact ⟨s, t, rfl, hx, rfl⟩
      · intro h
        obtain ⟨s', t', h, hx', rfl⟩ := h
        cases h
        rw [hx] at hx'
        cases hx'
        rfl

/-- A fold of steps on a table that is there is the fold on its rows. -/
theorem foldlM_onTable_some (rows : σ) (xs : List α) :
    xs.foldlM (onTable table f) (some rows) = (xs.foldlM f rows).map some := by
  induction xs generalizing rows with
  | nil => rfl
  | cons x xs ih =>
    rw [List.foldlM_cons, List.foldlM_cons, onTable_some]
    cases f rows x with
    | error e => rfl
    | ok m => exact ih m

/-- Without the table only no steps can be taken. -/
theorem foldlM_onTable_none {xs : List α} {rows' : Option σ}
    (h : xs.foldlM (onTable table f) none = .ok rows') : xs = [] ∧ rows' = none := by
  cases xs with
  | nil =>
    cases h
    exact ⟨rfl, rfl⟩
  | cons x xs =>
    obtain ⟨m, hx, -⟩ := foldlM_cons_ok.mp h
    cases hx

theorem optionRel_refl {R : σ → σ → Prop} (hR : ∀ s, R s s) (x : Option σ) : Option.Rel R x x := by
  cases x with
  | none => exact .none
  | some s => exact .some (hR s)

/-- A relation that holds along two changes of a table holds along both. -/
theorem optionRel_trans {R : σ → σ → Prop} {x y z : Option σ}
    (hR : ∀ {s t u}, R s t → R t u → R s u) (h : Option.Rel R x y) (h' : Option.Rel R y z) :
    Option.Rel R x z := by
  cases h with
  | none => exact h'
  | some h =>
    cases h' with
    | some h' => exact .some (hR h h')

/-- Steps on a table can be swapped if they can be swapped on its rows. -/
theorem Swappable.onTable {R : σ → σ → Prop} (hf : Swappable f R) :
    Swappable (onTable table f) (Option.Rel R) where
  refl := optionRel_refl hf.refl
  trans := optionRel_trans hf.trans
  congr h hx := by
    obtain ⟨s, t, rfl, hstep, rfl⟩ := onTable_ok.mp hx
    cases h with
    | some h =>
      obtain ⟨t', hstep', ht⟩ := hf.congr h hstep
      exact ⟨some t', onTable_ok.mpr ⟨_, t', rfl, hstep', rfl⟩, .some ht⟩
  swap hx hy := by
    obtain ⟨s, m, rfl, hfirst, rfl⟩ := onTable_ok.mp hx
    obtain ⟨_, t, heq, hsecond, rfl⟩ := onTable_ok.mp hy
    cases heq
    obtain ⟨m', t', hsecond', hfirst', ht⟩ := hf.swap hfirst hsecond
    exact ⟨some m', some t', onTable_ok.mpr ⟨s, m', rfl, hsecond', rfl⟩,
      onTable_ok.mpr ⟨m', t', rfl, hfirst', rfl⟩, .some ht⟩

/-- Steps on a table are absorbed if they are absorbed by its rows. -/
theorem Absorbing.onTable (hf : Absorbing f) : Absorbing (onTable table f) where
  again hx := by
    obtain ⟨s, t, rfl, hstep, rfl⟩ := onTable_ok.mp hx
    exact onTable_ok.mpr ⟨t, t, rfl, hf.again hstep, rfl⟩
  stays hx hy := by
    obtain ⟨s, _, rfl, hstep, heq⟩ := onTable_ok.mp hx
    cases heq
    obtain ⟨_, t, heq, hother, rfl⟩ := onTable_ok.mp hy
    cases heq
    exact onTable_ok.mpr ⟨t, t, rfl, hf.stays hstep hother, rfl⟩

end DebugMerge
