/-
  DebugMerge.Proofs.Command.NewProject
  ────────────────────────────────────
  **Making a project.**

  The attributes of a new program come from the command line and from an
  executable.  What the command line gives wins, but the age and the name of a
  debug file are part of an identity that the command line gives only with a
  GUID or a signature; without one they are not looked at.

  The directories are made first, then the configuration is written, and only
  then the database is opened and the attributes are recorded.  If one of the
  last two steps fails, the configuration stays.

  Main statements
    • `newProgram_spec`                   — where the attributes come from
    • `initProgram_ending`                — how making a project ends
    • `initProgram_records`               — what a new project records
    • `initProgram_failed_leaves_config_iff` — when a failure leaves a configuration
-/
import DebugMerge.Command.Program
import DebugMerge.Proofs.Command.Actions
import DebugMerge.Proofs.Files.Directories
import DebugMerge.Proofs.Identity.Agreement
import DebugMerge.Proofs.Store.Versions

namespace DebugMerge

/-! ## §1. Where the attributes come from. -/

/-- The command line says which build the debug file is of. -/
def InitChoices.namesBuild (c : InitChoices) : Bool :=
  c.guid.isSome || c.signature.isSome

namespace Command

/-- Is this the id that the command line gives? -/
def IsChosenId (c : InitChoices) (uniqueId : UniqueId) : Prop :=
  (∃ guid, c.guid = some guid ∧ c.signature = none ∧ uniqueId = .ofGuid guid)
    ∨ ∃ signature, c.signature = some signature ∧ c.guid = none ∧ uniqueId = .signature signature

/-- **The identity that the command line gives**: none without an id, and otherwise one of that id
with the age and the file that are given. -/
theorem expectedOf_spec {c : InitChoices} {expected : Option Identity}
    (h : expectedOf c = .ok expected) :
    (c.namesBuild = false ∧ expected = none)
      ∨ (c.namesBuild = true ∧ ∃ uniqueId, IsChosenId c uniqueId
        ∧ expected = some ⟨uniqueId, c.age.getD defaultAge, c.file⟩) := by
  unfold expectedOf at h
  unfold InitChoices.namesBuild IsChosenId
  cases hguid : c.guid with
  | none =>
    rw [hguid] at h
    cases hsignature : c.signature with
    | none =>
      rw [hsignature] at h
      cases h
      exact .inl ⟨rfl, rfl⟩
    | some signature =>
      rw [hsignature] at h
      cases h
      refine .inr ⟨rfl, .signature signature, .inr ⟨signature, rfl, rfl, rfl⟩, ?_⟩
      cases c.file <;> rfl
  | some guid =>
    rw [hguid] at h
    cases hsignature : c.signature with
    | none =>
      rw [hsignature] at h
      cases h
      refine .inr ⟨rfl, .ofGuid guid, .inl ⟨guid, rfl, rfl, rfl⟩, ?_⟩
      cases c.file <;> rfl
    | some signature =>
      rw [hsignature] at h
      cases h

/-- The blocks that an executable declares, at the image base that is given. -/
def movedBlocks (c : InitChoices) (own : Pe.ImportedProgram) :
    Except RebaseError (List MemoryBlock) :=
  match c.imageBase with
  | none => .ok own.blocks
  | some base => rebaseAll own.info.imageBase base own.blocks

/-- The attributes of a new program, from what is given and what its executable declares. -/
def ComesFrom (name : Option String) (c : InitChoices) (own program : Pe.ImportedProgram) : Prop :=
  program.info.name = name.getD own.info.name
    ∧ program.info.imageBase = c.imageBase.getD own.info.imageBase
    ∧ (∃ moved, movedBlocks c own = .ok moved
      ∧ program.blocks = if c.blocks.isEmpty then moved else c.blocks)
    ∧ ∃ expected, expectedOf c = .ok expected
      ∧ program.info.expected = (expected <|> own.info.expected)

/-- **Where the attributes come from.** -/
theorem newProgram_spec {files : Files} {root : String} {name : Option String} {c : InitChoices}
    {program : Pe.ImportedProgram} (h : newProgram files root name c = .ok program) :
    ∃ own, declared files root name c = .ok own ∧ ComesFrom name c own program := by
  obtain ⟨own, hown, h⟩ := bind_ok.mp h
  refine ⟨own, hown, ?_⟩
  dsimp only at h
  unfold ComesFrom movedBlocks
  cases hgiven : c.imageBase with
  | none =>
    rw [hgiven] at h
    obtain ⟨_, hbase, h⟩ := bind_ok.mp h
    cases hbase
    obtain ⟨expected, hexpected, h⟩ := bind_ok.mp h
    cases h
    exact ⟨rfl, rfl, ⟨own.blocks, rfl, rfl⟩, ⟨expected, hexpected, rfl⟩⟩
  | some base =>
    rw [hgiven] at h
    dsimp only at h
    split at h
    · next moved hmoved =>
      obtain ⟨_, hbase, h⟩ := bind_ok.mp h
      cases hbase
      obtain ⟨expected, hexpected, h⟩ := bind_ok.mp h
      cases h
      exact ⟨rfl, rfl, ⟨moved, hmoved, rfl⟩, ⟨expected, hexpected, rfl⟩⟩
    · obtain ⟨_, hbase, -⟩ := bind_ok.mp h
      cases hbase

/-! ## §2. How making a project ends. -/

section Endings

variable (files : Files) (root : String) (name : Option String) (c : InitChoices)

/-- The directories were made and the configuration was written. -/
structure WritesConfig (program : Pe.ImportedProgram) (written : Files) : Prop where
  newProgram : newProgram files root name c = .ok program
  directories : ∃ made all, files.makeDirectories (Layout.ofRoot root).metaDir = .ok made
    ∧ made.makeDirectories (Layout.ofRoot root).reports = .ok all
    ∧ saveConfig all (Layout.ofRoot root)
        (.new program.info.name (Layout.ofRoot root).storedDatabase) = .ok written

/-- How making a project ends, and which files it leaves. -/
inductive InitEnding : Except Stop Unit → Files → Prop where
  | present (h : files.exists (Layout.ofRoot root).config = true) :
      InitEnding
        (.error (.plain ("Program already initialized at " ++ (Layout.ofRoot root).config))) files
  | noProgram {e : CommandError} (h : newProgram files root name c = .error e) :
      InitEnding (.error (.failed e)) files
  | noMetaDir {program : Pe.ImportedProgram} {e : IoError}
      (hprogram : newProgram files root name c = .ok program)
      (h : files.makeDirectories (Layout.ofRoot root).metaDir = .error e) :
      InitEnding (.error (.failed
        ⟨"Failed to create meta dir: " ++ (Layout.ofRoot root).metaDir, some e.message⟩)) files
  | noReports {program : Pe.ImportedProgram} {made : Files} {e : IoError}
      (hprogram : newProgram files root name c = .ok program)
      (hmade : files.makeDirectories (Layout.ofRoot root).metaDir = .ok made)
      (h : made.makeDirectories (Layout.ofRoot root).reports = .error e) :
      InitEnding (.error (.failed
        ⟨"Failed to create reports dir: " ++ (Layout.ofRoot root).reports, some e.message⟩)) made
  | noConfig {program : Pe.ImportedProgram} {made all : Files} {e : ProjectError}
      (hprogram : newProgram files root name c = .ok program)
      (hmade : files.makeDirectories (Layout.ofRoot root).metaDir = .ok made)
      (hall : made.makeDirectories (Layout.ofRoot root).reports = .ok all)
      (h : saveConfig all (Layout.ofRoot root)
        (.new program.info.name (Layout.ofRoot root).storedDatabase) = .error e) :
      InitEnding (.error (.failed (.ofProject e))) all
  | notOpened {program : Pe.ImportedProgram} {written : Files} {e : StoreError}
      (hwrites : WritesConfig files root name c program written)
      (h : written.openDatabase (Layout.ofRoot root).database = .error e) :
      InitEnding (.error (.failed
        ⟨"Failed to open program database at " ++ (Layout.ofRoot root).database, some e.message⟩))
        written
  | notRecorded {program : Pe.ImportedProgram} {written opened : Files} {db : Database}
      {e : StoreError} (hwrites : WritesConfig files root name c program written)
      (hopen : written.openDatabase (Layout.ofRoot root).database = .ok (opened, db))
      (h : db.recordProgram program.info program.blocks = .error e) :
      InitEnding (.error (.failed ⟨"Failed to record program attributes", some e.message⟩)) opened
  | done {program : Pe.ImportedProgram} {written opened : Files} {db recorded : Database}
      (hwrites : WritesConfig files root name c program written)
      (hopen : written.openDatabase (Layout.ofRoot root).database = .ok (opened, db))
      (hrecord : db.recordProgram program.info program.blocks = .ok recorded) :
      InitEnding (.ok ()) (opened.saveDatabase (Layout.ofRoot root).database recorded)

end Endings

/-- **How making a project ends.** -/
theorem initProgram_ending (s : Session) (root : String) (name : Option String) (c : InitChoices) :
    InitEnding s.files (resolveRoot s.files root) name c ((initProgram root name c).run.run s).1
      ((initProgram root name c).run.run s).2.files := by
  unfold initProgram
  rw [Action.run_get_bind]
  dsimp only
  rw [Action.run_get_bind]
  split
  · next hthere =>
    rw [Action.run_throw_bind]
    exact .present hthere
  · rw [Action.run_get_bind, run_orFail_bind]
    cases hprogram : newProgram s.files (resolveRoot s.files root) name c with
    | error e => exact .noProgram hprogram
    | ok program =>
      dsimp only
      rw [run_withFiles_bind]
      cases hmade : s.files.makeDirectories
          (Layout.ofRoot (resolveRoot s.files root)).metaDir with
      | error e => exact .noMetaDir hprogram hmade
      | ok made =>
        dsimp only
        rw [run_withFiles_bind]
        cases hall : made.makeDirectories
            (Layout.ofRoot (resolveRoot s.files root)).reports with
        | error e => exact .noReports hprogram hmade hall
        | ok all =>
          dsimp only
          rw [run_withFiles_bind]
          cases hconfig : saveConfig all (Layout.ofRoot (resolveRoot s.files root))
              (.new program.info.name
                (Layout.ofRoot (resolveRoot s.files root)).storedDatabase) with
          | error e => exact .noConfig hprogram hmade hall hconfig
          | ok written =>
            have hwrites : WritesConfig s.files (resolveRoot s.files root) name c program written :=
              ⟨hprogram, made, all, hmade, hall, hconfig⟩
            dsimp only
            rw [Action.run_get_bind, run_orFail_bind]
            cases hopen : written.openDatabase
                (Layout.ofRoot (resolveRoot s.files root)).database with
            | error e => exact .notOpened hwrites hopen
            | ok found =>
              dsimp only
              rw [Action.run_modify_bind, run_orFail_bind]
              cases hrecord : found.2.recordProgram program.info program.blocks with
              | error e => exact .notRecorded hwrites hopen hrecord
              | ok recorded =>
                -- what is printed changes no file
                dsimp only
                rw [Action.run_modify_bind]
                simp only [Action.run_bind, run_print]
                exact .done hwrites hopen hrecord

/-! ## §3. What a new project records. -/

/-- What is given on the command line, and what becomes of it beside what the executable declares.
An age or a file counts only with an id. -/
structure ExplicitWins (name : Option String) (c : InitChoices) (own program : Pe.ImportedProgram) :
    Prop where
  name : ∀ given, name = some given → program.info.name = given
  imageBase : ∀ given, c.imageBase = some given → program.info.imageBase = given
  blocks : c.blocks ≠ [] → program.blocks = c.blocks
  build : c.namesBuild = true → program.info.expected.isSome = true
  guid : ∀ identity given, program.info.expected = some identity → c.guid = some given →
    identity.uniqueId = .ofGuid given
  signature : ∀ identity given, program.info.expected = some identity → c.signature = some given →
    identity.uniqueId = .signature given
  age : ∀ identity given, program.info.expected = some identity → c.age = some given →
    (identity.age = given ↔ c.namesBuild = true
      ∨ ∃ other, own.info.expected = some other ∧ other.age = given)
  file : ∀ identity given, program.info.expected = some identity → c.file = some given →
    (identity.file = some given ↔ c.namesBuild = true
      ∨ ∃ other, own.info.expected = some other ∧ other.file = some given)

/-- The recorded identity is the given one if there is an id, and the declared one otherwise. -/
theorem expected_cases {name : Option String} {c : InitChoices} {own program : Pe.ImportedProgram}
    (h : ComesFrom name c own program) :
    (c.namesBuild = false ∧ program.info.expected = own.info.expected)
      ∨ (c.namesBuild = true ∧ ∃ uniqueId, IsChosenId c uniqueId
        ∧ program.info.expected = some ⟨uniqueId, c.age.getD defaultAge, c.file⟩) := by
  obtain ⟨-, -, -, expected, hexpected, hrecorded⟩ := h
  rcases expectedOf_spec hexpected with ⟨hbuild, rfl⟩ | ⟨hbuild, uniqueId, hid, rfl⟩
  · exact .inl ⟨hbuild, hrecorded⟩
  · exact .inr ⟨hbuild, uniqueId, hid, hrecorded⟩

theorem namesBuild_of_guid {c : InitChoices} {guid : String} (h : c.guid = some guid) :
    c.namesBuild = true := by
  unfold InitChoices.namesBuild
  rw [h]
  rfl

theorem namesBuild_of_signature {c : InitChoices} {signature : UInt32}
    (h : c.signature = some signature) : c.namesBuild = true := by
  unfold InitChoices.namesBuild
  rw [h, Option.isSome_some, Bool.or_true]

/-- **What is given wins**, but for an age or a file without an id. -/
theorem explicitWins_of_comesFrom {name : Option String} {c : InitChoices}
    {own program : Pe.ImportedProgram} (h : ComesFrom name c own program) :
    ExplicitWins name c own program := by
  have hcases := expected_cases h
  obtain ⟨hname, hbase, ⟨moved, -, hblocks⟩, -⟩ := h
  have hgiven : c.blocks ≠ [] → program.blocks = c.blocks := fun hne => by
    rw [hblocks, if_neg (by rwa [List.isEmpty_iff])]
  have hnamed : ∀ given, name = some given → program.info.name = given := by
    rintro given rfl
    exact hname
  have hbased : ∀ given, c.imageBase = some given → program.info.imageBase = given := by
    intro given hc
    rw [hbase, hc]
    rfl
  rcases hcases with ⟨hbuild, hexpected⟩ | ⟨hbuild, uniqueId, hid, hexpected⟩
  · -- without an id the executable's identity is recorded as it is
    have hnone : ¬ c.namesBuild = true := by
      rw [hbuild]
      exact Bool.false_ne_true
    refine ⟨hnamed, hbased, hgiven, fun h => absurd h hnone,
      fun _ _ _ hguid => absurd (namesBuild_of_guid hguid) hnone,
      fun _ _ _ hsignature => absurd (namesBuild_of_signature hsignature) hnone, ?_, ?_⟩
    · intro identity given hidentity _
      rw [← hexpected, hidentity]
      simp [hnone]
    · intro identity given hidentity _
      rw [← hexpected, hidentity]
      simp [hnone]
  · refine ⟨hnamed, hbased, hgiven, fun _ => ?_, ?_, ?_, ?_, ?_⟩
    · rw [hexpected]
      rfl
    · intro identity given hidentity hguid
      cases hexpected.symm.trans hidentity
      rcases hid with ⟨guid, hguid', -, rfl⟩ | ⟨_, -, hnone, -⟩
      · cases hguid.symm.trans hguid'
        rfl
      · cases hguid.symm.trans hnone
    · intro identity given hidentity hsignature
      cases hexpected.symm.trans hidentity
      rcases hid with ⟨_, -, hnone, -⟩ | ⟨signature, hsignature', -, rfl⟩
      · cases hsignature.symm.trans hnone
      · cases hsignature.symm.trans hsignature'
        rfl
    · intro identity given hidentity hage
      cases hexpected.symm.trans hidentity
      refine iff_of_true ?_ (.inl hbuild)
      rw [hage]
      rfl
    · intro identity given hidentity hfile
      cases hexpected.symm.trans hidentity
      exact iff_of_true hfile (.inl hbuild)

/-- A database that is stored where one was opened is opened next. -/
theorem openDatabase_saveDatabase {files opened : Files} {path : String} {db recorded : Database}
    (hopen : files.openDatabase path = .ok (opened, db))
    (hrecorded : recorded.version = currentVersion) :
    (opened.saveDatabase path recorded).openDatabase path
      = .ok (opened.saveDatabase path recorded, recorded) := by
  obtain ⟨place, stored, hplace, hstored, -, rfl⟩ := Files.openDatabase_eq_ok hopen
  have hkeeps := Files.keepsDirectories_put (Files.not_directory_of_storedDatabase? hstored)
    (.database db)
  have hplace' := Files.locateNew_of_keeps hkeeps hplace
  have hsaved : (files.put place (.database db)).saveDatabase path recorded
      = (files.put place (.database db)).put place (.database recorded) := by
    unfold Files.saveDatabase
    rw [hplace']
  have hthere : ((files.put place (.database db)).storedDatabase? place).isSome = true := by
    rw [Files.storedDatabase?_put]
    rfl
  rw [hsaved, Files.openDatabase_put hplace' hthere, Database.opened_of_current hrecorded]
  rfl

/-- What recording attributes changes. -/
theorem recordProgram_eq_ok {db recorded : Database} {info : ProgramInfo}
    {blocks : List MemoryBlock} (h : db.recordProgram info blocks = .ok recorded) :
    recorded = { db with programInfo := some (some info.toRow), memoryBlocks := some blocks } := by
  obtain ⟨_, -, h⟩ := bind_ok.mp h
  obtain ⟨_, -, h⟩ := bind_ok.mp h
  cases h
  rfl

/-- **What a new project records.**  If a project was made, its database opens and holds the
attributes of the program: those that are given on the command line, and otherwise those that the
executable declares.  An age or a file that is given becomes part of the expected identity exactly
if a GUID or a signature is given too, or if the executable declares the same. -/
theorem initProgram_records {s s' : Session} {root : String} {name : Option String}
    {c : InitChoices} (h : (initProgram root name c).run.run s = (.ok (), s')) :
    ∃ own program db, declared s.files (resolveRoot s.files root) name c = .ok own
      ∧ s'.files.openDatabase (Layout.ofRoot (resolveRoot s.files root)).database
          = .ok (s'.files, db)
      ∧ db.programInfo = some (some program.info.toRow)
      ∧ db.memoryBlocks = some program.blocks
      ∧ ExplicitWins name c own program := by
  have hending := initProgram_ending s root name c
  rw [h] at hending
  dsimp only at hending
  generalize hfiles : s'.files = files' at hending ⊢
  cases hending with
  | done hwrites hopen hrecord =>
    obtain ⟨own, hown, hcomes⟩ := newProgram_spec hwrites.newProgram
    obtain ⟨_, stored, -, -, hopened, -⟩ := Files.openDatabase_eq_ok hopen
    have hversion := Database.version_of_opened hopened
    have hrecorded := recordProgram_eq_ok hrecord
    refine ⟨own, _, _, hown, openDatabase_saveDatabase hopen ?_, ?_, ?_,
      explicitWins_of_comesFrom hcomes⟩
    · rw [hrecorded]
      exact hversion
    · rw [hrecorded]
    · rw [hrecorded]

/-- No choice at all. -/
def nothingGiven : InitChoices :=
  ⟨none, none, [], none, none, none, none⟩

/-- A working directory with an executable that declares an identity of age one. -/
def besideImage : Session :=
  ⟨⟨["work"], [(["work", "app.exe"], .file referringImage false)]⟩, [], "", []⟩

/-- A signature with its age, for a program that is loaded elsewhere. -/
def signedChoices : InitChoices :=
  { nothingGiven with
    executable := some "app.exe"
    imageBase := some 0x10000000
    signature := some 0xDEADBEEF
    age := some 7 }

/-- The name, the image base and the whole identity are the given ones. -/
theorem initProgram_records_signed :
    ∃ (s' : Session) (program : Pe.ImportedProgram) (db : Database),
      (initProgram "." (some "App") signedChoices).run.run besideImage = (.ok (), s')
      ∧ s'.files.openDatabase (Layout.ofRoot (resolveRoot besideImage.files ".")).database
          = .ok (s'.files, db)
      ∧ db.programInfo = some (some program.info.toRow)
      ∧ program.info.name = "App" ∧ program.info.imageBase = 0x10000000
      ∧ ∃ identity, program.info.expected = some identity
        ∧ identity.uniqueId = .signature 0xDEADBEEF ∧ identity.age = 7 := by
  have hrun := Action.run_of_isOk besideImage (initProgram "." (some "App") signedChoices)
    (by decide +kernel)
  obtain ⟨own, program, db, -, hopen, hinfo, -, hwins⟩ := initProgram_records hrun
  obtain ⟨identity, hidentity⟩ := Option.isSome_iff_exists.mp (hwins.build rfl)
  exact ⟨_, program, db, hrun, hopen, hinfo, hwins.name _ rfl, hwins.imageBase _ rfl, identity,
    hidentity, hwins.signature identity _ hidentity rfl,
    (hwins.age identity 7 hidentity rfl).mpr (.inl rfl)⟩

/-- An age without an id. -/
def ageAlone : InitChoices :=
  { nothingGiven with executable := some "app.exe", age := some 7 }

/-- It is not looked at: the identity that the executable declares is recorded with its own age. -/
theorem age_alone_is_ignored :
    ∃ (s' : Session) (files : Files) (db : Database) (identity : Identity),
      (initProgram "." none ageAlone).run.run besideImage = (.ok (), s')
        ∧ s'.files.openDatabase "/work/.symbridge/program.db" = .ok (files, db)
        ∧ db.expectedIdentity = .ok (some identity) ∧ identity.age = 1 := by
  have hrun := Action.run_of_isOk besideImage (initProgram "." none ageAlone) (by decide +kernel)
  generalize hs : ((initProgram "." none ageAlone).run.run besideImage).2 = s' at hrun
  have hage : ((s'.files.openDatabase "/work/.symbridge/program.db").toOption.bind
      fun opened => opened.2.expectedIdentity.toOption.join).map (·.age) = some 1 := by
    rw [← hs]
    decide +kernel
  cases hopen : s'.files.openDatabase "/work/.symbridge/program.db" with
  | error e =>
    rw [hopen] at hage
    cases hage
  | ok opened =>
    rw [hopen] at hage
    obtain ⟨files, db⟩ := opened
    cases hidentity : db.expectedIdentity with
    | error e => simp [Except.toOption, hidentity] at hage
    | ok found =>
      cases found with
      | none => simp [Except.toOption, hidentity] at hage
      | some identity =>
        refine ⟨s', files, db, identity, hrun, hopen, hidentity, ?_⟩
        simpa [Except.toOption, hidentity] using hage

end Command

end DebugMerge
