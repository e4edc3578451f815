/-
  DebugMerge.Proofs.Pdb.TypeNames
  ───────────────────────────────
  **The name of a type behind its wrappers.**

  Pointers, modifiers and arrays wrap another type, and nothing keeps a type
  from wrapping itself.  Its name is still found, because no rendering goes
  deeper than the limit on wrappers.  A way through wrappers is followed step
  by step: what is rendered at its end comes first, and each wrapper that was
  passed puts its mark behind it, the innermost first.  So the name is told by
  the end of the way: the name that the type there has of its own, or its
  number if it has none or if the way goes on beyond the limit.

  Main definitions
    • `Wrapper`, `Lookup.wrapped?`, `Lookup.ownName?` — wrappers, and what they end in
    • `Way`, `marks`                 — ways through wrappers, and what they add
    • `Renders`                      — a rendering with the renderings inside it
  Main statements
    • `renders_typeNameWithin`, `Renders.spec` — a rendering ends, with one name
    • `Way.typeNameWithin_eq`        — a name along a way
    • `typeName_spells_wrappers`     — every name, by the way behind it
-/
import DebugMerge.Proofs.Pdb.Extraction

namespace DebugMerge.Pdb

variable {find : Lookup} {depth index target stop left calls n : Nat} {name : String}
  {w : Wrapper} {ws : List Wrapper}

/-! ## §1. Wrappers. -/

/-- How a type wraps another one. -/
inductive Wrapper where
  | pointer
  | modifier
  | array
  deriving DecidableEq, Repr

/-- What a wrapper puts behind the name of the type in it. -/
def Wrapper.mark : Wrapper → String
  | pointer => "*"
  | modifier => ""
  | array => "[]"

/-- How a type that was found wraps another one, and which. -/
def Found.wrapped? : Found → Option (Wrapper × Nat)
  | .record (.pointer target) => some (.pointer, target)
  | .record (.modifier target) => some (.modifier, target)
  | .record (.array item) => some (.array, item)
  | _ => none

/-- The name that a type has of its own: built-in types and definitions have one, and a
built-in pointer is marked. -/
def Found.ownName? : Found → Option String
  | .builtin b => some (if b.isPointer then b.name ++ "*" else b.name)
  | .record (.definition d) => some d.name
  | _ => none

/-- How the type with a number wraps another one, and which. -/
def Lookup.wrapped? (find : Lookup) (index : Nat) : Option (Wrapper × Nat) :=
  (find index).bind Found.wrapped?

/-- The name of its own of the type with a number. -/
def Lookup.ownName? (find : Lookup) (index : Nat) : Option String :=
  (find index).bind Found.ownName?

theorem typeNameWithin_of_wrapped (h : find.wrapped? index = some (w, target)) (left : Nat) :
    typeNameWithin find (left + 1) index = typeNameWithin find left target ++ w.mark := by
  obtain ⟨found, hfound, hwrap⟩ := Option.bind_eq_some_iff.mp h
  rw [typeNameWithin, hfound]
  unfold Found.wrapped? at hwrap
  split at hwrap
  · cases hwrap
    rfl
  · cases hwrap
    -- a modifier marks nothing
    simp [Wrapper.mark]
  · cases hwrap
    rfl
  · cases hwrap

theorem typeNameWithin_of_ownName (h : find.ownName? index = some name) (left : Nat) :
    typeNameWithin find (left + 1) index = name := by
  obtain ⟨found, hfound, hname⟩ := Option.bind_eq_some_iff.mp h
  rw [typeNameWithin, hfound]
  unfold Found.ownName? at hname
  split at hname
  · cases hname
    rfl
  · cases hname
    rfl
  · cases hname

/-- What wraps nothing and has no name of its own, or is not found, is named by its number. -/
theorem typeNameWithin_of_nameless (hwrap : find.wrapped? index = none)
    (hname : find.ownName? index = none) (left : Nat) :
    typeNameWithin find left index = opaqueName index := by
  cases left with
  | zero => rfl
  | succ left =>
    unfold Lookup.wrapped? at hwrap
    unfold Lookup.ownName? at hname
    rw [typeNameWithin]
    split
    · next hfound =>
      rw [hfound] at hname
      cases hname
    · next hfound =>
      rw [hfound] at hname
      cases hname
    · next hfound =>
      rw [hfound] at hwrap
      cases hwrap
    · next hfound =>
      rw [hfound] at hwrap
      cases hwrap
    · next hfound =>
      rw [hfound] at hwrap
      cases hwrap
    · rfl

/-! ## §2. Ways through wrappers. -/

/-- A way from one type to another one through these wrappers, the outermost first. -/
inductive Way (find : Lookup) : Nat → List Wrapper → Nat → Prop
  | here (index : Nat) : Way find index [] index
  | through {index target stop : Nat} {w : Wrapper} {ws : List Wrapper}
      (wraps : find.wrapped? index = some (w, target)) (behind : Way find target ws stop) :
      Way find index (w :: ws) stop

/-- The marks of wrappers, those of the innermost first. -/
def marks (ws : List Wrapper) : String :=
  String.join (ws.reverse.map Wrapper.mark)

@[simp] theorem marks_nil : marks [] = "" := rfl

@[simp] theorem marks_cons (w : Wrapper) (ws : List Wrapper) :
    marks (w :: ws) = marks ws ++ w.mark := by
  unfold marks
  simp

/-- A way can be left after any number of wrappers. -/
theorem Way.take (h : Way find index ws stop) (n : Nat) :
    ∃ passed, Way find index (ws.take n) passed := by
  induction h generalizing n with
  | here index => exact ⟨index, by simpa using Way.here index⟩
  | through wraps _ ih =>
    cases n with
    | zero => exact ⟨_, .here _⟩
    | succ n =>
      obtain ⟨passed, hpassed⟩ := ih n
      exact ⟨passed, .through wraps hpassed⟩

/-- Where a way ends is told by its wrappers. -/
theorem Way.stop_unique {stop' : Nat} (h : Way find index ws stop) (h' : Way find index ws stop') :
    stop = stop' := by
  induction h with
  | here index =>
    cases h'
    rfl
  | through wraps _ ih =>
    cases h' with
    | through wraps' behind' =>
      cases wraps.symm.trans wraps'
      exact ih behind'

/-- **From every type there is a way of any length, unless it ends before.** -/
theorem exists_way (find : Lookup) (n index : Nat) :
    ∃ ws stop, Way find index ws stop
      ∧ (ws.length < n ∧ find.wrapped? stop = none ∨ ws.length = n) := by
  induction n generalizing index with
  | zero => exact ⟨[], index, .here index, .inr rfl⟩
  | succ n ih =>
    cases hwrap : find.wrapped? index with
    | none => exact ⟨[], index, .here index, .inl ⟨Nat.succ_pos n, hwrap⟩⟩
    | some wrapped =>
      obtain ⟨w, target⟩ := wrapped
      obtain ⟨ws, stop, hway, hend⟩ := ih target
      refine ⟨w :: ws, stop, .through hwrap hway, ?_⟩
      rw [List.length_cons]
      rcases hend with ⟨hshort, hends⟩ | hlong
      · exact .inl ⟨by omega, hends⟩
      · exact .inr (by omega)

/-- **The name along a way**: what is rendered at its end, and behind it the marks of the wrappers
that were passed. -/
theorem Way.typeNameWithin_eq (h : Way find index ws stop) (left : Nat) :
    typeNameWithin find (ws.length + left) index = typeNameWithin find left stop ++ marks ws := by
  -- by induction on the way: each wrapper takes one level and puts its mark last
  induction h with
  | here index => simp
  | @through index target stop w ws wraps _ ih =>
    have hlevel : (w :: ws).length + left = (ws.length + left) + 1 := by
      simp only [List.length_cons]
      omega
    rw [hlevel, typeNameWithin_of_wrapped wraps, ih, marks_cons, String.append_assoc]

/-! ## §3. Renderings. -/

/-- The rendering of a type at a depth: its name, and how many renderings lie inside it.  Beyond the
limit nothing is looked up. -/
inductive Renders (find : Lookup) : Nat → Nat → String → Nat → Prop
  | tooDeep {depth : Nat} (index : Nat) (hdepth : maxWrappers < depth) :
      Renders find depth index (opaqueName index) 0
  | named {depth index : Nat} {name : String} (hdepth : depth ≤ maxWrappers)
      (hname : find.ownName? index = some name) : Renders find depth index name 0
  | wrapped {depth index target calls : Nat} {w : Wrapper} {name : String}
      (hdepth : depth ≤ maxWrappers) (hwrap : find.wrapped? index = some (w, target))
      (inner : Renders find (depth + 1) target name calls) :
      Renders find depth index (name ++ w.mark) (calls + 1)
  | nameless {depth index : Nat} (hdepth : depth ≤ maxWrappers)
      (hwrap : find.wrapped? index = none) (hname : find.ownName? index = none) :
      Renders find depth index (opaqueName index) 0

/-- **Every rendering ends**, with no more renderings inside it than the limit leaves. -/
theorem renders_typeNameWithin (hleft : depth + left = maxWrappers + 1) (index : Nat) :
    ∃ calls ≤ left, Renders find depth index (typeNameWithin find left index) calls := by
  -- by induction on the levels that are left, which no type on the way can add to
  induction left generalizing depth index with
  | zero => exact ⟨0, Nat.le_refl 0, .tooDeep index (by omega)⟩
  | succ left ih =>
    have hdepth : depth ≤ maxWrappers := by omega
    cases hwrap : find.wrapped? index with
    | some wrapped =>
      obtain ⟨w, target⟩ := wrapped
      have hdeeper : (depth + 1) + left = maxWrappers + 1 := by omega
      obtain ⟨calls, hcalls, hinner⟩ := ih hdeeper target
      refine ⟨calls + 1, by omega, ?_⟩
      rw [typeNameWithin_of_wrapped hwrap]
      exact .wrapped hdepth hwrap hinner
    | none =>
      refine ⟨0, Nat.zero_le _, ?_⟩
      cases hname : find.ownName? index with
      | some name =>
        rw [typeNameWithin_of_ownName hname]
        exact .named hdepth hname
      | none =>
        rw [typeNameWithin_of_nameless hwrap hname]
        exact .nameless hdepth hwrap hname

/-- A rendering has one name and one count. -/
theorem Renders.spec (h : Renders find depth index name calls)
    (hleft : depth + left = maxWrappers + 1) :
    name = typeNameWithin find left index ∧ calls ≤ left := by
  induction h generalizing left with
  | tooDeep index hdepth =>
    have hnone : left = 0 := by omega
    subst hnone
    exact ⟨rfl, Nat.le_refl 0⟩
  | named hdepth hname =>
    obtain ⟨left, rfl⟩ : ∃ n, left = n + 1 := ⟨left - 1, by omega⟩
    exact ⟨(typeNameWithin_of_ownName hname left).symm, Nat.zero_le _⟩
  | @wrapped depth _ _ _ _ _ hdepth hwrap _ ih =>
    obtain ⟨left, rfl⟩ : ∃ n, left = n + 1 := ⟨left - 1, by omega⟩
    have hdeeper : (depth + 1) + left = maxWrappers + 1 := by omega
    obtain ⟨hname, hcalls⟩ := ih hdeeper
    rw [typeNameWithin_of_wrapped hwrap, hname]
    exact ⟨rfl, by omega⟩
  | nameless hdepth hwrap hname =>
    exact ⟨(typeNameWithin_of_nameless hwrap hname left).symm, Nat.zero_le _⟩

/-! ## §4. The name of a type. -/

/-- A way of at most eight wrappers ends within the limit. -/
theorem Way.typeName_eq (h : Way find index ws stop) (hlength : ws.length ≤ maxWrappers) :
    ∃ left, typeName find index = typeNameWithin find (left + 1) stop ++ marks ws := by
  refine ⟨maxWrappers - ws.length, ?_⟩
  rw [← h.typeNameWithin_eq]
  unfold typeName
  congr 1
  omega

/-- **Every type has a name, told by the way behind it.**  Rendering a type ends, with at most nine
renderings nested in the first one, and gives one name.  Behind a way of at most eight wrappers the
name is the one that the type at its end has of its own, or `type#` and the number of that type if
it is not found or has no name, with the marks of the wrappers behind it, the innermost first.
Behind a longer way it is `type#` and the number that is reached through nine wrappers, with their
marks behind it.  There is no other type: from every number a way ends within eight wrappers, or
leads through nine. -/
theorem typeName_spells_wrappers (find : Lookup) (index : Nat) :
    (∃ calls ≤ 9, Renders find 0 index (typeName find index) calls)
    ∧ (∀ name calls, Renders find 0 index name calls → name = typeName find index ∧ calls ≤ 9)
    ∧ (∀ ws stop base, Way find index ws stop → ws.length ≤ 8 → find.ownName? stop = some base →
      typeName find index = base ++ marks ws)
    ∧ (∀ ws stop, Way find index ws stop → ws.length ≤ 8 → find.wrapped? stop = none →
      find.ownName? stop = none → typeName find index = opaqueName stop ++ marks ws)
    ∧ (∀ ws stop, Way find index ws stop → 8 < ws.length →
      ∃ passed, Way find index (ws.take 9) passed
        ∧ typeName find index = opaqueName passed ++ marks (ws.take 9))
    ∧ ∃ ws stop, Way find index ws stop
      ∧ (ws.length ≤ 8 ∧ find.wrapped? stop = none ∨ ws.length = 9) := by
  have hlimit : 0 + 9 = maxWrappers + 1 := rfl
  refine ⟨renders_typeNameWithin hlimit index, fun name calls h => h.spec hlimit, ?_, ?_, ?_, ?_⟩
  · intro ws stop base hway hlength hbase
    obtain ⟨left, hname⟩ := hway.typeName_eq hlength
    rw [hname, typeNameWithin_of_ownName hbase]
  · intro ws stop hway hlength hwrap hbase
    obtain ⟨left, hname⟩ := hway.typeName_eq hlength
    rw [hname, typeNameWithin_of_nameless hwrap hbase]
  · intro ws stop hway hlength
    obtain ⟨passed, hpassed⟩ := hway.take 9
    refine ⟨passed, hpassed, ?_⟩
    -- nine wrappers take every level that there is
    have hnine : (ws.take 9).length = maxWrappers + 1 := by
      rw [List.length_take]
      show min 9 ws.length = 9
      omega
    have hname := hpassed.typeNameWithin_eq 0
    rw [hnine] at hname
    exact hname
  · obtain ⟨ws, stop, hway, hend⟩ := exists_way find 9 index
    refine ⟨ws, stop, hway, ?_⟩
    rcases hend with ⟨hshort, hends⟩ | hnine
    · exact .inl ⟨by omega, hends⟩
    · exact .inr hnine

/-- A pointer to a type. -/
def pointerTo (target : Nat) : List UInt8 :=
  shorts [0x1002] ++ words [target, 0x1000C]

/-- A modified type. -/
def modifierOf (target : Nat) : List UInt8 :=
  shorts [0x1001] ++ words [target] ++ shorts [1]

/-- An array of eight bytes of a type. -/
def arrayOf (item : Nat) : List UInt8 :=
  shorts [0x1503] ++ words [item, 0x74] ++ shorts [8] ++ [0]

/-- The structure `S` without fields. -/
def structS : List UInt8 :=
  shorts [0x1505, 0, 0] ++ words [0, 0, 0] ++ shorts [4] ++ zeroEnded "S"

/-- A stream with a pointer to itself, an array of pointers to the modified `S`, a pointer to a
built-in pointer, and a pointer to a type that is not there. -/
def wrappedTypes : TypeTable :=
  ⟨0x1000, 0x1007, #[pointerTo 0x1000, structS, modifierOf 0x1001, pointerTo 0x1002, arrayOf 0x1003,
    pointerTo 0x0674, pointerTo 0x2000], none⟩

/-- Looking up in the stream once all of it was read. -/
def wrappedLookup : Lookup := wrappedTypes.find? 6

/-- Wrappers are passed on the way to `S`, to a built-in pointer and to nothing; a pointer to itself
is followed through nine of itself. -/
theorem typeName_spells_wrappers_of_wrapped :
    typeName wrappedLookup 0x1004 = "S*[]"
      ∧ typeName wrappedLookup 0x1005 = "i32**"
      ∧ typeName wrappedLookup 0x1006 = "type#0x2000*"
      ∧ (∀ n, Way wrappedLookup 0x1000 (List.replicate n .pointer) 0x1000)
      ∧ typeName wrappedLookup 0x1000 = "type#0x1000*********"
      ∧ ∃ calls ≤ 9, Renders wrappedLookup 0 0x1000 "type#0x1000*********" calls := by
  have hself : wrappedLookup.wrapped? 0x1000 = some (.pointer, 0x1000) := by decide +kernel
  have hround : ∀ n, Way wrappedLookup 0x1000 (List.replicate n .pointer) 0x1000 := by
    intro n
    induction n with
    | zero => exact .here _
    | succ n ih => exact .through hself ih
  have hstruct : Way wrappedLookup 0x1004 [.array, .pointer, .modifier] 0x1001 := by
    have hmodifier : wrappedLookup.wrapped? 0x1002 = some (.modifier, 0x1001) := by decide +kernel
    have hpointer : wrappedLookup.wrapped? 0x1003 = some (.pointer, 0x1002) := by decide +kernel
    have harray : wrappedLookup.wrapped? 0x1004 = some (.array, 0x1003) := by decide +kernel
    exact .through harray (.through hpointer (.through hmodifier (.here _)))
  have hbuiltin : Way wrappedLookup 0x1005 [.pointer] 0x0674 :=
    .through (by decide +kernel) (.here _)
  have hmissing : Way wrappedLookup 0x1006 [.pointer] 0x2000 :=
    .through (by decide +kernel) (.here _)
  have hS := (typeName_spells_wrappers wrappedLookup 0x1004).2.2.1 _ _ "S" hstruct
    (by decide) (by decide +kernel)
  have hi32 := (typeName_spells_wrappers wrappedLookup 0x1005).2.2.1 _ _ "i32*" hbuiltin
    (by decide) (by decide +kernel)
  have hnone := (typeName_spells_wrappers wrappedLookup 0x1006).2.2.2.1 _ _ hmissing
    (by decide) (by decide +kernel) (by decide +kernel)
  obtain ⟨hrenders, -, -, -, hlong, -⟩ := typeName_spells_wrappers wrappedLookup 0x1000
  obtain ⟨passed, hpassed, hcycle⟩ := hlong _ _ (hround 12) (by decide)
  -- after nine pointers the way is back at the first one
  have hname : typeName wrappedLookup 0x1000 = "type#0x1000*********" := by
    rw [hcycle, hpassed.stop_unique (hround 9)]
    decide +kernel
  rw [hname] at hrenders
  exact ⟨hS.trans (by decide +kernel), hi32.trans (by decide +kernel),
    hnone.trans (by decide +kernel), hround, hname, hrenders⟩

end DebugMerge.Pdb
