/-
  DebugMerge.Proofs.Command.FailedProject
  ───────────────────────────────────────
  **What is left of a project that could not be made.**

  A project is refused where a configuration is.  The configuration of a new
  project is written before its database is opened, and nothing takes it back:
  if the database cannot be opened or its attributes cannot be recorded, the
  configuration stays and the project cannot be made again.

  A root that leads upwards through the place of its own configuration is the
  only other way to leave something there: then a directory is made in that
  place.

  Main statements
    • `resolveRoot_ne_empty`
    • `exists_config_of_reports`  — the directory of reports is another place
    • `openProject_of_not_exists` — without a configuration no project opens
    • `initProgram_failed_leaves_config_iff` — when a configuration is left
-/
import DebugMerge.Proofs.Command.NewProject

namespace DebugMerge

variable {files made all : Files} {root path : String} {place : List String}

/-! ## §1. The places of a project. -/

theorem resolveRoot_ne_empty (files : Files) (text : String) : resolveRoot files text ≠ "" := by
  have hparts : ∀ names, Path.ofParts names ≠ "" := by
    intro names hempty
    have hchars := congrArg String.toList hempty
    unfold Path.ofParts at hchars
    rw [String.toList_append] at hchars
    cases hchars
  have hjoin : Path.join (Path.ofParts files.home) text ≠ "" := by
    cases habsolute : Path.isAbsolute text with
    | false => exact Path.join_ne_empty habsolute (hparts _)
    | true =>
      unfold Path.join
      rw [habsolute, Bool.true_or, if_pos rfl]
      rintro rfl
      cases habsolute
  unfold resolveRoot
  dsimp only
  split
  · exact hparts _
  · unfold Files.canonical?
    split
    · exact hparts _
    · exact hjoin

namespace Layout

/-- Below any root, the empty one included, there is a name. -/
theorem metaDir_ne_empty (root : String) : (ofRoot root).metaDir ≠ "" := by
  by_cases hroot : root = ""
  · subst hroot
    decide
  · exact Path.join_ne_empty rfl hroot

end Layout

/-- The directory of reports does not decide what is in the place of the configuration. -/
theorem exists_config_of_reports (hroot : root ≠ "")
    (hmade : files.makeDirectories (Layout.ofRoot root).metaDir = .ok made)
    (hall : made.makeDirectories (Layout.ofRoot root).reports = .ok all) :
    all.exists (Layout.ofRoot root).config = made.exists (Layout.ofRoot root).config := by
  have hmeta := (Files.makeDirectories_spec (Layout.metaDir_ne_empty _) hmade).2
  obtain ⟨metaPlace, hmetaPlace, hdirectory⟩ := Files.isDirectory_iff.mp hmeta
  obtain ⟨place, hplace, hrootDirectory, rfl⟩ :=
    (Files.locate_join_eq_ok (by decide) hroot).mp hmetaPlace
  have hconfig : made.locate (Layout.ofRoot root).config
      = .ok (place ++ [".symbridge"] ++ ["program.json"]) :=
    (Files.locate_join_eq_ok (by decide) (Layout.metaDir_ne_empty _)).mpr
      ⟨_, hmetaPlace, hdirectory, rfl⟩
  have hreports : made.locateNew (Layout.ofRoot root).reports = .ok (place ++ ["reports"]) := by
    refine Files.locateNew_eq_ok_iff.mpr ⟨?_, ?_⟩
    · exact (Files.locate_join_eq_ok (by decide) hroot).mpr ⟨place, hplace, hrootDirectory, rfl⟩
    · rw [List.dropLast_concat]
      exact hrootDirectory
  -- the root is a directory by now, so at most the one of the reports is made
  rcases Files.makeDirectories_of_locateNew hreports hall with rfl | ⟨hfree, rfl⟩
  · rfl
  · have hkeeps := (Files.addsDirectories_put hfree).keeps
    have hother : place ++ [".symbridge"] ++ ["program.json"] ≠ place ++ ["reports"] := by
      intro heq
      have hlength := congrArg List.length heq
      simp at hlength
    rw [Files.exists_of_locate hconfig,
      Files.exists_of_locate (Files.locate_of_keeps hkeeps hconfig),
      Files.entryAt_put_of_ne made .directory hother]

/-- Without a configuration no project opens. -/
theorem openProject_of_not_exists (h : files.exists (Layout.ofRoot root).config = false) :
    ∃ cause, openProject files root
      = .error (.unreadableConfig (Layout.ofRoot root).config cause) := by
  obtain ⟨cause, hget⟩ : ∃ cause, files.get (Layout.ofRoot root).config = .error cause := by
    unfold Files.exists at h
    cases hget : files.get (Layout.ofRoot root).config with
    | error cause => exact ⟨cause, rfl⟩
    | ok found =>
      rw [hget] at h
      cases h
  have htext : files.readText (Layout.ofRoot root).config = .error cause :=
    bind_error.mpr (.inl (bind_error.mpr (.inl hget)))
  refine ⟨cause, ?_⟩
  unfold openProject loadConfig
  dsimp only
  rw [htext]

/-! ## §2. What is left. -/

namespace Command

variable {name : Option String} {c : InitChoices}

/-- A configuration that was written is there, also behind an attempt to open the database. -/
theorem WritesConfig.exists {program : Pe.ImportedProgram} {written : Files}
    (h : WritesConfig files root name c program written) :
    written.exists (Layout.ofRoot root).config = true := by
  obtain ⟨made, all, -, -, hsave⟩ := h.directories
  unfold saveConfig at hsave
  split at hsave
  · next hwrite =>
    cases hsave
    exact Files.exists_of_write hwrite
  · cases hsave

theorem exists_of_openDatabase {opened : Files} {db : Database} (hthere : files.exists path = true)
    {database : String} (h : files.openDatabase database = .ok (opened, db)) :
    opened.exists path = true := by
  obtain ⟨place, stored, -, hstored, -, rfl⟩ := Files.openDatabase_eq_ok h
  exact Files.exists_put hthere (Files.not_directory_of_storedDatabase? hstored) _

/-- The configuration was written, and behind it the database was not opened or the attributes
were not recorded. -/
def FailsBehindConfig (files : Files) (root : String) (name : Option String) (c : InitChoices) :
    Prop :=
  ∃ program written, WritesConfig files root name c program written
    ∧ ((∃ e, written.openDatabase (Layout.ofRoot root).database = .error e)
      ∨ ∃ opened db e, written.openDatabase (Layout.ofRoot root).database = .ok (opened, db)
        ∧ db.recordProgram program.info program.blocks = .error e)

/-- A directory was made in the place of the configuration. -/
def MakesConfigDirectory (files : Files) (root : String) (name : Option String) (c : InitChoices) :
    Prop :=
  ∃ program made, newProgram files root name c = .ok program
    ∧ files.makeDirectories (Layout.ofRoot root).metaDir = .ok made
    ∧ made.exists (Layout.ofRoot root).config = true

/-- **What a failure leaves**, whatever the files are. -/
theorem exists_config_of_failed {result : Except Stop Unit} {left : Files}
    (hroot : root ≠ "") (hfresh : files.exists (Layout.ofRoot root).config = false)
    (hending : InitEnding files root name c result left) (hfailed : ∀ u, result ≠ .ok u) :
    left.exists (Layout.ofRoot root).config = true
      ↔ FailsBehindConfig files root name c ∨ MakesConfigDirectory files root name c := by
  cases hending with
  | present h =>
    rw [hfresh] at h
    cases h
  | noProgram h =>
    rw [hfresh]
    refine iff_of_false Bool.false_ne_true ?_
    rintro (⟨_, _, hwrites, -⟩ | ⟨_, _, hprogram, -⟩)
    · cases h.symm.trans hwrites.newProgram
    · cases h.symm.trans hprogram
  | noMetaDir hprogram h =>
    rw [hfresh]
    refine iff_of_false Bool.false_ne_true ?_
    rintro (⟨_, _, hwrites, -⟩ | ⟨_, _, -, hmade, -⟩)
    · obtain ⟨_, _, hmade, -⟩ := hwrites.directories
      cases h.symm.trans hmade
    · cases h.symm.trans hmade
  | noReports hprogram hmade h =>
    -- nothing was written, so what is there is a directory
    constructor
    · exact fun hthere => .inr ⟨_, _, hprogram, hmade, hthere⟩
    · rintro (⟨_, _, hwrites, -⟩ | ⟨_, _, -, hmade', hthere⟩)
      · obtain ⟨_, _, hmade', hall, -⟩ := hwrites.directories
        cases hmade.symm.trans hmade'
        cases h.symm.trans hall
      · cases hmade.symm.trans hmade'
        exact hthere
  | noConfig hprogram hmade hall h =>
    rw [exists_config_of_reports hroot hmade hall]
    constructor
    · exact fun hthere => .inr ⟨_, _, hprogram, hmade, hthere⟩
    · rintro (⟨_, _, hwrites, -⟩ | ⟨_, _, -, hmade', hthere⟩)
      · obtain ⟨_, _, hmade', hall', hsave⟩ := hwrites.directories
        cases hprogram.symm.trans hwrites.newProgram
        cases hmade.symm.trans hmade'
        cases hall.symm.trans hall'
        cases h.symm.trans hsave
      · cases hmade.symm.trans hmade'
        exact hthere
  | notOpened hwrites h =>
    -- the configuration was written and nothing takes it back
    exact iff_of_true hwrites.exists (.inl ⟨_, _, hwrites, .inl ⟨_, h⟩⟩)
  | notRecorded hwrites hopen h =>
    exact iff_of_true (exists_of_openDatabase hwrites.exists hopen)
      (.inl ⟨_, _, hwrites, .inr ⟨_, _, _, hopen, h⟩⟩)
  | done => exact absurd rfl (hfailed ())

/-- Below a root without steps upwards no directory is made in the place of the configuration. -/
theorem not_makesConfigDirectory (htree : files.IsTree) (hroot : root ≠ "")
    (hplain : ".." ∉ Path.parts root)
    (hfresh : files.exists (Layout.ofRoot root).config = false) :
    ¬ MakesConfigDirectory files root name c := by
  rintro ⟨_, made, -, hmade, hthere⟩
  have hparts : ".." ∉ Path.parts (Layout.ofRoot root).metaDir := by
    have hname : Path.parts ".symbridge" = [".symbridge"] := by decide
    show ".." ∉ Path.parts (Path.join root ".symbridge")
    rw [Path.parts_join rfl hroot, hname, List.mem_append]
    exact fun hmem => hmem.elim hplain (by decide)
  have hnothing : made.exists (Layout.ofRoot root).config = false :=
    Files.not_exists_makeDirectories htree (Layout.metaDir_ne_empty _) hparts (by decide) hmade
      hfresh
  rw [hnothing] at hthere
  cases hthere

/-- Below a root that leads upwards one can be made. -/
example : ((Files.mk ["work"] []).makeDirectories
      ".symbridge/program.json/../../.symbridge").toOption.any
    (·.exists ".symbridge/program.json/../../.symbridge/program.json") = true := by
  decide +kernel

/-- Where a configuration is, no project is made. -/
theorem initProgram_of_exists {s : Session} {text : String}
    (hroot : resolveRoot s.files text = root)
    (h : s.files.exists (Layout.ofRoot root).config = true) :
    (initProgram text name c).run.run s
      = (.error (.plain ("Program already initialized at " ++ (Layout.ofRoot root).config)), s) := by
  unfold initProgram
  rw [Action.run_get_bind]
  dsimp only
  rw [Action.run_get_bind, hroot, if_pos h, Action.run_throw_bind]

/-- **When a configuration is left.**  Where no configuration was, a project that could not be made
leaves one exactly if the configuration was written and behind it the database could not be opened
or the attributes could not be recorded, or if a directory was made in its place; the latter only
happens to roots that lead upwards.  If one is left then the project is refused from then on, and
if none is left then no project opens there. -/
theorem initProgram_failed_leaves_config_iff {s s' : Session} {root : String}
    {name : Option String} {c : InitChoices} {e : Stop}
    (hfresh : s.files.exists (Layout.ofRoot (resolveRoot s.files root)).config = false)
    (hfailed : (initProgram root name c).run.run s = (.error e, s')) :
    (s'.files.exists (Layout.ofRoot (resolveRoot s.files root)).config = true
        ↔ FailsBehindConfig s.files (resolveRoot s.files root) name c
          ∨ MakesConfigDirectory s.files (resolveRoot s.files root) name c)
      ∧ (s.files.IsTree → ".." ∉ Path.parts (resolveRoot s.files root) →
          ¬ MakesConfigDirectory s.files (resolveRoot s.files root) name c)
      ∧ (s'.files.exists (Layout.ofRoot (resolveRoot s.files root)).config = true →
          ∀ text name c, resolveRoot s'.files text = resolveRoot s.files root →
            (initProgram text name c).run.run s'
              = (.error (.plain ("Program already initialized at "
                  ++ (Layout.ofRoot (resolveRoot s.files root)).config)), s'))
      ∧ (s'.files.exists (Layout.ofRoot (resolveRoot s.files root)).config = false →
          ∃ cause, openProject s'.files (resolveRoot s.files root)
            = .error (.unreadableConfig (Layout.ofRoot (resolveRoot s.files root)).config
                cause)) := by
  have hroot := resolveRoot_ne_empty s.files root
  have hending := initProgram_ending s root name c
  rw [hfailed] at hending
  exact ⟨exists_config_of_failed hroot hfresh hending nofun,
    fun htree hplain => not_makesConfigDirectory htree hroot hplain hfresh,
    fun hleft text name c htext => initProgram_of_exists htext hleft,
    openProject_of_not_exists⟩

/-- A working directory with a text in the place of the database. -/
def besideText : Session :=
  ⟨⟨["work"], [(["work", ".symbridge"], .directory),
    (["work", ".symbridge", "program.db"], .file (Text.Utf8.encode "no database").toList false)]⟩,
    [], "", []⟩

/-- There the failure leaves a configuration, so that it can be told from the others. -/
theorem initProgram_failed_beside_text :
    besideText.files.exists (Layout.ofRoot (resolveRoot besideText.files ".")).config = false
      ∧ ∃ e s', (initProgram "." none nothingGiven).run.run besideText = (.error e, s')
        ∧ (FailsBehindConfig besideText.files (resolveRoot besideText.files ".") none nothingGiven
          ∨ MakesConfigDirectory besideText.files (resolveRoot besideText.files ".") none
            nothingGiven) := by
  have hfresh : besideText.files.exists
      (Layout.ofRoot (resolveRoot besideText.files ".")).config = false := by
    decide +kernel
  obtain ⟨e, hrun⟩ := Action.run_of_not_isOk besideText (initProgram "." none nothingGiven)
    (by decide +kernel)
  refine ⟨hfresh, e, _, hrun, ?_⟩
  exact (initProgram_failed_leaves_config_iff hfresh hrun).1.mp (by decide +kernel)

/-- The text can be taken away, but the configuration stays and the project is refused. -/
theorem config_outlives_its_failure :
    besideText.files.exists "/work/.symbridge/program.json" = false
      ∧ ∃ (e : Stop) (s' : Session),
        (initProgram "." none nothingGiven).run.run besideText = (.error e, s')
          ∧ s'.files.exists "/work/.symbridge/program.json" = true
          ∧ ∃ s'' : Session, (initProgram "." none nothingGiven).run.run
              { s' with files := s'.files.put ["work", ".symbridge", "program.db"] (.file [] false) }
            = (.error (.plain "Program already initialized at /work/.symbridge/program.json"),
              s'') := by
  obtain ⟨e, hrun⟩ := Action.run_of_not_isOk besideText (initProgram "." none nothingGiven)
    (by decide +kernel)
  refine ⟨by decide +kernel, e, _, hrun, by decide +kernel, ?_⟩
  exact ⟨_, initProgram_of_exists (show resolveRoot _ "." = "/work" from by decide +kernel)
    (by decide +kernel)⟩

end Command

end DebugMerge
