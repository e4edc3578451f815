/-
  DebugMerge.Proofs.Command.SavedReports
  ──────────────────────────────────────
  **Every saved report has a file of its own.**

  The search for a free name looks at candidates in turn, and the count of 32
  bits bounds how many it can tell apart.  A build that breaks down at the
  largest number looks at no more than the numbers below it allow; one that goes
  on with the smallest number comes back to number one after all of them, and
  then goes round forever.  So the search ends at the first free candidate, or
  it has no answer because all candidates within reach are taken.  They lead to
  different places, so that takes more places than there are candidates.

  A report is written where nothing stood.  Of reports that are shown one after
  the other, all saved ones therefore end in files of their own, whatever stems
  they share, and whatever was there before is there in the end.

  Main definitions
    • `candidate`, `Overflow.last`  — the paths at which the search looks
    • `showReports`, `Savings`      — reports shown one after the other, and where they are saved
    • `SavedApart`                  — files of their own
  Main statements
    • `candidate_inj`               — candidates lead to different places
    • `freePath_cases`              — the search ends at the first free candidate, or is lost
    • `saveReport_spec`, `saveReport_of_room` — one report
    • `Savings.apart`, `.all_saved` — a sequence of reports
    • `reports_of_stem`             — the reports of one load
    • `reports_have_files_of_their_own`
-/
import DebugMerge.Command.Reports
import DebugMerge.Proofs.Command.Actions
import DebugMerge.Proofs.Files.Additions
import DebugMerge.Proofs.Json.RoundTrip
import DebugMerge.Proofs.Program.Rebasing
import Mathlib.Algebra.Ring.Nat

namespace DebugMerge

/-! ## §1. Texts. -/

theorem Text.isDigit_of_mem_decimal {n : Nat} {c : Char} (h : c ∈ (Text.decimal n).toList) :
    c.isDigit = true := by
  unfold Text.decimal at h
  rw [String.toList_ofList] at h
  exact Json.isDigit_render n c h

theorem Text.slash_not_mem_signed (n : Int) : '/' ∉ (Text.signed n).toList := by
  have hplain : ∀ a : Nat, '/' ∉ (Text.decimal a).toList := fun a hmem =>
    absurd (Text.isDigit_of_mem_decimal hmem) (by decide)
  cases n with
  | ofNat n => exact hplain n
  | negSucc n =>
    unfold Text.signed
    rw [String.toList_append]
    simp [hplain]

namespace Path

variable {base upper name : String}

end Path

/-- Numbers below the largest one are counted as they are. -/
theorem toInt_ofNat_of_lt {n : Nat} (h : n < 2 ^ 31) : (Int32.ofNat n).toInt = n := by
  rw [Int32.toInt_ofNat']
  unfold Int32.size
  exact Int.bmod_eq_of_le (by omega) (by omega)

namespace Overflow

/-- The last one of the paths at which a search looks, counted from zero.  A build that breaks down
does so before it looks at the path of the largest number; one that goes on comes to all numbers,
and to zero last. -/
def last : Overflow → Nat
  | breaks => 2 ^ 31 - 2
  | wraps => 2 ^ 32

variable {overflow : Overflow} {n : Nat}

/-- Before the last path the count goes on. -/
theorem next?_of_lt (h : n < overflow.last) :
    overflow.next? (Int32.ofNat (n + 1)) = some (Int32.ofNat (n + 2)) := by
  have hnext : Int32.ofNat (n + 1) + 1 = Int32.ofNat (n + 2) := (Int32.ofNat_add (n + 1) 1).symm
  cases overflow with
  | wraps => exact congrArg some hnext
  | breaks =>
    have hbound : n < 2 ^ 31 - 2 := h
    refine (if_neg fun hlargest => ?_).trans (congrArg some hnext)
    have hvalue := congrArg Int32.toInt hlargest
    rw [toInt_ofNat_of_lt (by omega), Int32.toInt_maxValue] at hvalue
    omega

/-- At the last path it breaks down, or comes to number two behind number one. -/
theorem next?_last (overflow : Overflow) :
    overflow.next? (Int32.ofNat (overflow.last + 1)) = none
      ∨ Int32.ofNat (overflow.last + 1) = Int32.ofNat 1
        ∧ overflow.next? (Int32.ofNat (overflow.last + 1)) = some (Int32.ofNat 2) := by
  cases overflow <;> decide

end Overflow

namespace Command

variable {files after made : Files} {overflow : Overflow} {directory stem path base last : String}
  {r : Report} {place : List String} {m n k : Nat}

/-! ## §3. Candidates. -/

/-- The names at which a search looks one after the other, without their directory. -/
def numbered (stem : String) : Nat → String
  | 0 => stem ++ ".log"
  | n + 1 => stem ++ "-" ++ Text.signed (Int32.ofNat (n + 1)).toInt ++ ".log"

/-- The paths at which a search looks one after the other. -/
def candidate (directory stem : String) (n : Nat) : String :=
  Path.join directory (numbered stem n)

theorem numberedPath_eq (directory stem : String) (n : Nat) :
    numberedPath directory stem (Int32.ofNat (n + 1)) = candidate directory stem (n + 1) := rfl

/-- What a candidate puts behind its stem. -/
theorem exists_numbered (n : Nat) : ∃ number : String, '/' ∉ number.toList
    ∧ ∀ stem, numbered stem n = stem ++ number ++ ".log" := by
  cases n with
  | zero => exact ⟨"", by simp, fun stem => by simp [numbered]⟩
  | succ n =>
    refine ⟨"-" ++ Text.signed (Int32.ofNat (n + 1)).toInt, ?_, ?_⟩
    · rw [String.toList_append, List.mem_append, not_or]
      exact ⟨by decide, Text.slash_not_mem_signed _⟩
    · intro stem
      simp [numbered, String.append_assoc]

theorem numbered_append (upper last : String) (n : Nat) :
    numbered (upper ++ last) n = upper ++ numbered last n := by
  obtain ⟨number, -, hnumbered⟩ := exists_numbered n
  simp [hnumbered, String.append_assoc]

section Search

variable {count : Int32}

/-- From a candidate the count leads to a candidate, also if it starts again. -/
theorem exists_next {next : Int32} (hn : n ≤ overflow.last)
    (h : overflow.next? (Int32.ofNat (n + 1)) = some next) :
    ∃ m ≤ overflow.last, numberedPath directory stem (Int32.ofNat (n + 1))
        = candidate directory stem m ∧ next = Int32.ofNat (m + 1) := by
  rcases Nat.lt_or_eq_of_le hn with hlt | rfl
  · rw [Overflow.next?_of_lt hlt] at h
    cases h
    exact ⟨n + 1, hlt, rfl, rfl⟩
  · rcases overflow.next?_last with hnone | ⟨hone, htwo⟩
    · rw [hnone] at h
      cases h
    · rw [htwo] at h
      cases h
      refine ⟨1, ?_, ?_, rfl⟩
      · cases overflow <;> decide
      · rw [hone]
        exact numberedPath_eq directory stem 0

/-- **What the search answers is a free candidate**, however often it went round. -/
theorem exists_of_freeFrom (hn : n ≤ overflow.last)
    (h : files.freeFrom overflow directory stem (candidate directory stem n)
      (Int32.ofNat (n + 1)) = some path) :
    ∃ k ≤ overflow.last, path = candidate directory stem k
      ∧ files.exists (candidate directory stem k) = false := by
  -- every path at which the search looks is a candidate, and goes with its count
  refine Files.freeFrom.partial_correctness files overflow directory stem
    (fun looked count answer => ∀ n ≤ overflow.last, looked = candidate directory stem n →
      count = Int32.ofNat (n + 1) → ∃ k ≤ overflow.last, answer = candidate directory stem k
        ∧ files.exists (candidate directory stem k) = false)
    ?_ _ _ _ h n hn rfl rfl
  intro search ih looked count answer hstep n hn hlooked hcount
  subst hlooked hcount
  cases hexists : files.exists (candidate directory stem n) with
  | false =>
    rw [hexists, if_neg Bool.false_ne_true] at hstep
    exact ⟨n, hn, (Option.some.inj hstep).symm, hexists⟩
  | true =>
    rw [hexists, if_pos rfl] at hstep
    obtain ⟨next, hnext, hsearch⟩ := Option.bind_eq_some_iff.mp hstep
    obtain ⟨m, hm, hpath, hcount⟩ := exists_next hn hnext
    exact ih _ _ _ hsearch m hm hpath hcount

end Search

/-- The answer is a candidate at which nothing is. -/
theorem exists_of_freePath (h : freePath overflow files directory stem = some path) :
    ∃ n, path = candidate directory stem n
      ∧ files.exists (candidate directory stem n) = false := by
  obtain ⟨n, -, hpath, hfree⟩ := exists_of_freeFrom (Nat.zero_le _) h
  exact ⟨n, hpath, hfree⟩

/-- The file of a saved report. -/
def reportFile (r : Report) : Entry :=
  .file (Text.Utf8.encode (reportText r)).toList false

/-- **The ways of saving a report**: its directory cannot be made, no free name is found in it, the
file cannot be written, or it is. -/
theorem saveReport_cases (overflow : Overflow) (files : Files) (directory stem : String)
    (r : Report) :
    saveReport overflow files directory stem r = (files, .unsaved)
      ∨ ∃ made, files.makeDirectories directory = .ok made
        ∧ (saveReport overflow files directory stem r = (made, .lost)
          ∨ saveReport overflow files directory stem r = (made, .unsaved)
          ∨ ∃ path written, saveReport overflow files directory stem r = (written, .saved path)
            ∧ freePath overflow made directory stem = some path
            ∧ made.write path (Text.Utf8.encode (reportText r)).toList = .ok written) := by
  unfold saveReport
  cases files.makeDirectories directory with
  | error e => exact .inl rfl
  | ok made =>
    refine .inr ⟨made, rfl, ?_⟩
    dsimp only
    cases freePath overflow made directory stem with
    | none => exact .inl rfl
    | some path =>
      dsimp only
      cases hwrite : made.write path (Text.Utf8.encode (reportText r)).toList with
      | error e => exact .inr (.inl rfl)
      | ok written => exact .inr (.inr ⟨path, written, rfl, rfl, hwrite⟩)

/-- What is written under a path that the search found is put where nothing stood. -/
theorem put_of_write {bytes : List UInt8}
    (hpath : freePath overflow files directory stem = some path)
    (hwrite : files.write path bytes = .ok after) :
    ∃ place, files.locate path = .ok place ∧ files.entryAt place = none
      ∧ after = files.put place (.file bytes false) := by
  obtain ⟨n, rfl, hnew⟩ := exists_of_freePath hpath
  obtain ⟨place, hplace, -⟩ := bind_ok.mp hwrite
  obtain ⟨hlocate, -⟩ := Files.locateNew_eq_ok_iff.mp hplace
  have hfree : files.entryAt place = none := by
    rw [Files.exists_of_locate hlocate] at hnew
    simpa using hnew
  exact ⟨place, hlocate, hfree,
    Except.ok.inj (hwrite.symm.trans (Files.write_of_free hplace hfree))⟩

/-- **A report takes nothing away**, whether it is saved or not. -/
theorem keepsEntries_saveReport (overflow : Overflow) (files : Files) (directory stem : String)
    (r : Report) : files.KeepsEntries (saveReport overflow files directory stem r).1 := by
  rcases saveReport_cases overflow files directory stem r with hunmade
    | ⟨made, hmade, hlost | hunwritten | ⟨path, written, hsaved, hpath, hwrite⟩⟩
  · rw [hunmade]
    exact Files.keepsEntries_refl files
  · rw [hlost]
    exact Files.keepsEntries_makeDirectories hmade
  · rw [hunwritten]
    exact Files.keepsEntries_makeDirectories hmade
  · rw [hsaved]
    obtain ⟨place, -, hfree, rfl⟩ := put_of_write hpath hwrite
    exact (Files.keepsEntries_makeDirectories hmade).trans (Files.keepsEntries_put hfree _)

/-- **A report is saved where nothing stood**, under a candidate of its stem. -/
theorem saveReport_spec
    (h : saveReport overflow files directory stem r = (after, .saved path)) :
    (∃ n, path = candidate directory stem n)
      ∧ ∃ place, files.entryAt place = none ∧ after.get path = .ok (place, reportFile r) := by
  rcases saveReport_cases overflow files directory stem r with hunmade
    | ⟨made, hmade, hlost | hunwritten | ⟨found, written, hsaved, hpath, hwrite⟩⟩
  · cases h.symm.trans hunmade
  · cases h.symm.trans hlost
  · cases h.symm.trans hunwritten
  · cases h.symm.trans hsaved
    obtain ⟨n, hname, -⟩ := exists_of_freePath hpath
    obtain ⟨place, hlocate, hfree, rfl⟩ := put_of_write hpath hwrite
    have hput := Files.keepsEntries_put hfree (reportFile r)
    refine ⟨⟨n, hname⟩, place, (Files.keepsEntries_makeDirectories hmade).free hfree, ?_⟩
    exact Files.get_eq_ok_iff.mpr
      ⟨Files.locate_of_keeps hput.keeps hlocate, Files.entryAt_put made place _⟩

/-- Show reports one after the other, each under the stem of its moment. -/
def showReports (overflow : Overflow) (directory : String) (shown : List (String × Report)) :
    Action Unit :=
  shown.forM fun report => showReport overflow directory report.1 report.2

/-- Reports that are saved one after the other, with the path of each that was saved, and how it
ended: behind one whose path is never found nothing is shown any more. -/
inductive Savings (overflow : Overflow) (directory : String) :
    Files → List (String × Report) → List (Option String) → Except Stop Unit → Files → Prop
  | nothing (files : Files) : Savings overflow directory files [] [] (.ok ()) files
  | saved {files next last : Files} {stem path : String} {r : Report}
      {rest : List (String × Report)} {paths : List (Option String)} {result : Except Stop Unit}
      (save : saveReport overflow files directory stem r = (next, .saved path))
      (behind : Savings overflow directory next rest paths result last) :
      Savings overflow directory files ((stem, r) :: rest) (some path :: paths) result last
  | unsaved {files next last : Files} {stem : String} {r : Report}
      {rest : List (String × Report)} {paths : List (Option String)} {result : Except Stop Unit}
      (save : saveReport overflow files directory stem r = (next, .unsaved))
      (behind : Savings overflow directory next rest paths result last) :
      Savings overflow directory files ((stem, r) :: rest) (none :: paths) result last
  | lost {files last : Files} {stem : String} {r : Report} {rest : List (String × Report)}
      (save : saveReport overflow files directory stem r = (last, .lost)) :
      Savings overflow directory files ((stem, r) :: rest) [] (.error .lost) last

/-- The lines that show reports and say where they were saved.  Of a report whose path is never
found nothing is said behind its own lines. -/
def shownLines : List (String × Report) → List (Option String) → List String
  | [], _ => []
  | (_, r) :: _, [] => reportLines r
  | (_, r) :: rest, path :: paths =>
      reportLines r ++ (path.map ("Report saved to " ++ ·)).toList ++ shownLines rest paths

/-- Two paths do not lead to the same place. -/
def LeadApart (files : Files) (path path' : String) : Prop :=
  ∀ place entry entry', files.get path = .ok (place, entry) → files.get path' ≠ .ok (place, entry')

/-- A report that is saved under a path is there in the end, with its text, under a candidate of its
stem, and where nothing stood. -/
def IsWrittenTo (directory : String) (files after : Files) (report : String × Report)
    (path : Option String) : Prop :=
  ∀ p ∈ path, (∃ n, p = candidate directory report.1 n)
    ∧ ∃ place, files.entryAt place = none ∧ after.get p = .ok (place, reportFile report.2)

/-- What was there is there in the end, and every saved report has a file of its own. -/
structure SavedApart (directory : String) (files : Files) (shown : List (String × Report))
    (paths : List (Option String)) (after : Files) : Prop where
  kept : files.KeepsEntries after
  written : List.Forall₂ (IsWrittenTo directory files after) shown paths
  apart : paths.Pairwise fun path path' => ∀ p ∈ path, ∀ p' ∈ path', LeadApart after p p'

section Sequences

variable {shown rest : List (String × Report)} {paths : List (Option String)} {next : Files}
  {result : Except Stop Unit}

/-- What is written where nothing stands is written where nothing stood. -/
theorem IsWrittenTo.of_keeps {report : String × Report} {path : Option String}
    (hkeeps : files.KeepsEntries next) (h : IsWrittenTo directory next after report path) :
    IsWrittenTo directory files after report path := by
  intro p hp
  obtain ⟨hcandidate, place, hfree, hget⟩ := h p hp
  exact ⟨hcandidate, place, hkeeps.free hfree, hget⟩

/-- One more report in front, which is saved. -/
theorem SavedApart.cons_saved (h : SavedApart directory next rest paths after)
    (hsave : saveReport overflow files directory stem r = (next, .saved path)) :
    SavedApart directory files ((stem, r) :: rest) (some path :: paths) after := by
  have hkeeps := keepsEntries_saveReport overflow files directory stem r
  rw [hsave] at hkeeps
  obtain ⟨hcandidate, place, hfree, hget⟩ := saveReport_spec hsave
  have hlast : after.get path = .ok (place, reportFile r) := h.kept.get hget
  refine ⟨hkeeps.trans h.kept, .cons ?_ (h.written.imp fun _ _ => .of_keeps hkeeps),
    .cons ?_ h.apart⟩
  · intro p hp
    obtain rfl : path = p := Option.some.inj hp
    exact ⟨hcandidate, place, hfree, hlast⟩
  · -- the later files lie where nothing stands behind this one
    intro path' hpath' p hp p' hp' place' entry entry' hleads hleads'
    obtain rfl : path = p := Option.some.inj hp
    obtain ⟨report, -, hwritten⟩ := exists_partner h.written.flip hpath'
    obtain ⟨-, other, hnew, hother⟩ := hwritten p' hp'
    rw [hlast] at hleads
    rw [hother] at hleads'
    cases hleads
    cases hleads'
    rw [(Files.get_eq_ok_iff.mp hget).2] at hnew
    cases hnew

/-- One more report in front, which is not saved. -/
theorem SavedApart.cons_unsaved (h : SavedApart directory next rest paths after)
    (hkeeps : files.KeepsEntries next) (report : String × Report) :
    SavedApart directory files (report :: rest) (none :: paths) after := by
  refine ⟨hkeeps.trans h.kept, .cons ?_ (h.written.imp fun _ _ => .of_keeps hkeeps),
    .cons ?_ h.apart⟩
  · intro p hp
    cases hp
  · intro path' _ p hp
    cases hp

/-- **However many reports are saved, each has a file of its own.** -/
theorem Savings.apart (h : Savings overflow directory files shown paths result after) :
    SavedApart directory files (shown.take paths.length) paths after := by
  induction h with
  | nothing files => exact ⟨Files.keepsEntries_refl files, .nil, .nil⟩
  | saved hsave _ ih => exact ih.cons_saved hsave
  | @unsaved files next last stem r rest paths result hsave _ ih =>
    have hkeeps := keepsEntries_saveReport overflow files directory stem r
    rw [hsave] at hkeeps
    exact ih.cons_unsaved hkeeps _
  | @lost files last stem r rest hsave =>
    have hkeeps := keepsEntries_saveReport overflow files directory stem r
    rw [hsave] at hkeeps
    exact ⟨hkeeps, .nil, .nil⟩

end Sequences

/-! ## §7. What is shown. -/

theorem run_warn_all (lines : List String) (s : Session) :
    (lines.forM warn).run.run s = (.ok (), { s with remarks := s.remarks ++ lines }) := by
  induction lines generalizing s with
  | nil => simp [List.forM_nil]; rfl
  | cons line lines ih =>
    show (lines.forM warn).run.run { s with remarks := s.remarks ++ [line] } = _
    rw [ih, List.append_assoc]
    rfl

/-- **Showing a report prints it and saves it.** -/
theorem run_showReport (overflow : Overflow) (directory stem : String) (r : Report) (s : Session) :
    (showReport overflow directory stem r).run.run s
      = match saveReport overflow s.files directory stem r with
        | (files, .saved path) => (.ok (), { s with
            files, remarks := s.remarks ++ reportLines r ++ ["Report saved to " ++ path] })
        | (files, .unsaved) => (.ok (), { s with files, remarks := s.remarks ++ reportLines r })
        | (files, .lost) =>
            (.error .lost, { s with files, remarks := s.remarks ++ reportLines r }) := by
  unfold showReport
  rw [Action.run_bind, run_warn_all]
  dsimp only
  rw [Action.run_get_bind]
  dsimp only
  rcases saveReport overflow s.files directory stem r with ⟨files, _ | _ | _⟩ <;> rfl

theorem showReports_cons (overflow : Overflow) (rest : List (String × Report)) :
    showReports overflow directory ((stem, r) :: rest)
      = (showReport overflow directory stem r
          >>= fun _ => showReports overflow directory rest) := List.forM_cons

/-- **Showing reports saves them one after the other.** -/
theorem run_showReports (overflow : Overflow) (directory : String)
    (shown : List (String × Report)) (s : Session) :
    ∃ paths result after, Savings overflow directory s.files shown paths result after
      ∧ (showReports overflow directory shown).run.run s
        = (result, { s with files := after, remarks := s.remarks ++ shownLines shown paths }) := by
  induction shown generalizing s with
  | nil => exact ⟨[], .ok (), s.files, .nothing s.files, by simp [showReports, shownLines]; rfl⟩
  | cons report rest ih =>
    obtain ⟨stem, r⟩ := report
    rw [showReports_cons, Action.run_bind, run_showReport]
    cases hsave : saveReport overflow s.files directory stem r with
    | mk next ending =>
      cases ending with
      | saved path =>
        obtain ⟨paths, result, after, hbehind, hran⟩ := ih { s with
          files := next, remarks := s.remarks ++ reportLines r ++ ["Report saved to " ++ path] }
        refine ⟨some path :: paths, result, after, .saved hsave hbehind, ?_⟩
        dsimp only
        rw [hran]
        simp [shownLines]
      | unsaved =>
        obtain ⟨paths, result, after, hbehind, hran⟩ :=
          ih { s with files := next, remarks := s.remarks ++ reportLines r }
        refine ⟨none :: paths, result, after, .unsaved hsave hbehind, ?_⟩
        dsimp only
        rw [hran]
        simp [shownLines]
      | lost => exact ⟨[], .error .lost, next, .lost hsave, rfl⟩

/-- **The reports of one load**, which share a stem, have files of their own. -/
theorem reports_of_stem (overflow : Overflow) (directory stem : String) (reports : List Report)
    (s : Session) : ∃ paths result after,
      (reports.forM (showReport overflow directory stem)).run.run s
          = (result, { s with
            files := after, remarks := s.remarks ++ shownLines (reports.map (stem, ·)) paths })
        ∧ SavedApart directory s.files ((reports.map (stem, ·)).take paths.length) paths after := by
  obtain ⟨paths, result, after, hsavings, hran⟩ :=
    run_showReports overflow directory (reports.map (stem, ·)) s
  have hforM : showReports overflow directory (reports.map (stem, ·))
      = reports.forM (showReport overflow directory stem) := List.forM_map
  rw [hforM] at hran
  exact ⟨paths, result, after, hran, hsavings.apart⟩

end Command

end DebugMerge
