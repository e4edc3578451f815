/-
  DebugMerge.Proofs.Command.Reopening
  ───────────────────────────────────
  **What a new project records is what later commands see.**

  A new project leaves two files beside each other: a configuration, and a
  database under the name that the configuration gives it.  The configuration is
  read back as it was written, and its name for the database leads to the
  database from every root.  The attributes come back from their row, whose
  columns hold a GUID or a signature; a GUID in normal form is not changed by
  reading it.  Tables other than those of the attributes and the memory blocks
  are kept if a database was there before, and created empty if they were not.

  Main definitions
    • `Database.KeptIn`             — the tables that a new project leaves alone
    • `Files.SameProject`           — two texts for the root of one project
    • `ShowsProgram`                — an open project that shows what was recorded
  Main statements
    • `toInfo_toRow`                — attributes come back from their row
    • `newProject_files`            — the files that a new project leaves
    • `HoldsConfig.openProject`     — a project whose files are there opens
    • `initProgram_reopens`         — a new project opens as it was recorded
-/
import DebugMerge.Proofs.Command.FailedProject
import DebugMerge.Proofs.Dump.RoundTrip
import DebugMerge.Proofs.Project.Persistence
import DebugMerge.Proofs.Project.Roots
import DebugMerge.Proofs.Store.Migration

namespace DebugMerge

/-! ## §1. Attributes and their row. -/

/-- An identity in normal form comes back from a database as it is. -/
theorem reread_of_isNormal {identity : Identity} (h : identity.uniqueId.IsNormal) :
    identity.reread = identity := by
  obtain ⟨uniqueId, age, file⟩ := identity
  cases uniqueId with
  | signature s => rfl
  | guid g =>
    have hguid : normalGuid g = g := h
    show (⟨.guid (normalGuid g), age, file⟩ : Identity) = _
    rw [hguid]

/-- **Attributes come back from their row**, whatever the numbers and names in it. -/
theorem toInfo_toRow {info : ProgramInfo}
    (h : ∀ identity, info.expected = some identity → identity.uniqueId.IsNormal) :
    info.toRow.toInfo = info := by
  rw [info.toInfo_toRow]
  obtain ⟨name, imageBase, expected⟩ := info
  cases expected with
  | none => rfl
  | some identity =>
    show (⟨name, imageBase, some identity.reread⟩ : ProgramInfo) = _
    rw [reread_of_isNormal (h identity rfl)]

namespace Command

/-- What an executable asks for is in normal form. -/
theorem isNormal_of_declared {files : Files} {root : String} {name : Option String}
    {c : InitChoices} {own : Pe.ImportedProgram} (h : declared files root name c = .ok own) :
    ∀ identity, own.info.expected = some identity → identity.uniqueId.IsNormal := by
  intro identity hidentity
  unfold declared at h
  split at h
  · cases h
    cases hidentity
  · next path _ =>
    split at h
    · next program himport =>
      cases h
      unfold Pe.importFile at himport
      split at himport
      · unfold Pe.importBytes at himport
        split at himport
        · next image himage =>
          cases himport
          obtain ⟨r, hr, rfl⟩ := Option.map_eq_some_iff.mp hidentity
          have hid : r.identity.uniqueId = .guid (normalGuid (guidText r.guid)) := by
            unfold Pe.DebugReference.identity
            dsimp only
            split <;> rfl
          have hlength := Pe.reference_yields himage hr
          rw [hid]
          show normalGuid (normalGuid (guidText r.guid)) = _
          rw [reread_guidText hlength, normalGuid_guidText hlength]
        · cases himport
      · cases himport
    · cases h

/-- The recorded identity is in normal form if the given one is. -/
theorem isNormal_of_newProgram {files : Files} {root : String} {name : Option String}
    {c : InitChoices} {program : Pe.ImportedProgram}
    (h : newProgram files root name c = .ok program)
    (hgiven : ∀ identity, expectedOf c = .ok (some identity) → identity.uniqueId.IsNormal) :
    ∀ identity, program.info.expected = some identity → identity.uniqueId.IsNormal := by
  intro identity hidentity
  obtain ⟨own, hown, -, -, -, expected, hexpected, hrecorded⟩ := newProgram_spec h
  rw [hrecorded] at hidentity
  cases expected with
  | none => exact isNormal_of_declared hown identity hidentity
  | some given =>
    cases hidentity
    exact hgiven identity hexpected

end Command

/-! ## §2. The tables of a new project. -/

namespace Database

variable {stored db recorded : Database}

/-- The tables that a new project leaves alone: kept with their rows, or created empty. -/
structure KeptIn (stored new : Database) : Prop where
  options : KeptOrCreated [] stored.options new.options
  dataTypes : KeptOrCreated [] stored.dataTypes new.dataTypes
  symbols : KeptOrCreated [] stored.symbols new.symbols
  comments : KeptOrCreated [] stored.comments new.comments
  lineNumbers : KeptOrCreated [] stored.lineNumbers new.lineNumbers
  loadRuns : KeptOrCreated [] stored.loadRuns new.loadRuns

/-- Opening a database only creates tables. -/
theorem gainsTables_of_opened (h : stored.opened = .ok db) : stored.GainsTables db := by
  unfold opened at h
  split at h
  · cases h
  · cases h
    exact gainsTables_foldl migrations stored

/-- **What recording leaves alone.** -/
theorem keptIn_of_recordProgram {info : ProgramInfo} {blocks : List MemoryBlock}
    (hopened : stored.opened = .ok db) (hrecord : db.recordProgram info blocks = .ok recorded) :
    stored.KeptIn recorded := by
  have hgains := gainsTables_of_opened hopened
  rw [Command.recordProgram_eq_ok hrecord]
  exact ⟨hgains.options, hgains.dataTypes, hgains.symbols, hgains.comments, hgains.lineNumbers,
    hgains.loadRuns⟩

/-- The attributes of a program are read back. -/
theorem info_of_recordProgram {info : ProgramInfo} {blocks : List MemoryBlock}
    (hnormal : ∀ identity, info.expected = some identity → identity.uniqueId.IsNormal)
    (hrecord : db.recordProgram info blocks = .ok recorded) :
    recorded.info = .ok (some info) := by
  rw [Command.recordProgram_eq_ok hrecord]
  show Except.ok (some info.toRow.toInfo) = _
  rw [toInfo_toRow hnormal]

/-- The memory blocks are read back, in another order. -/
theorem blocks_of_recordProgram {info : ProgramInfo} {blocks : List MemoryBlock}
    (hrecord : db.recordProgram info blocks = .ok recorded) :
    ∃ listed, recorded.blocks = .ok listed ∧ listed.Perm blocks := by
  rw [Command.recordProgram_eq_ok hrecord]
  exact ⟨_, rfl, List.mergeSort_perm blocks MemoryBlock.listLe⟩

end Database

/-! ## §3. The files of a new project. -/

namespace Command

variable {files written opened left : Files} {root : String} {name : Option String}
  {c : InitChoices} {program : Pe.ImportedProgram} {db recorded stored : Database}
  {below : List String} {config : ProgramConfig}

/-- The configuration of a root stands in the directory `below`. -/
structure HoldsConfig (left : Files) (root : String) (below : List String)
    (config : ProgramConfig) : Prop where
  located : left.locate (Layout.ofRoot root).metaDir = .ok below
  directory : left.entryAt below = some .directory
  config : ∃ executable, left.entryAt (below ++ ["program.json"])
    = some (.file (Text.Utf8.encode config.fileText).toList executable)

theorem config_ne_database (below : List String) :
    below ++ ["program.json"] ≠ below ++ ["program.db"] := by
  simp

/-- The configuration is written into the directory, and nothing else changes but that
directories are made. -/
theorem WritesConfig.holdsConfig (hroot : root ≠ "")
    (h : WritesConfig files root name c program written) :
    ∃ below, HoldsConfig written root below
        (.new program.info.name (Layout.ofRoot root).storedDatabase)
      ∧ files.KeepsDirectories written
      ∧ ∀ place, place ≠ below ++ ["program.json"] →
          written.entryAt place = files.entryAt place
            ∨ written.entryAt place = some .directory := by
  obtain ⟨made, all, hmade, hall, hsave⟩ := h.directories
  have hmetaDir := Layout.metaDir_ne_empty root
  have hadds := (Files.makeDirectories_spec hmetaDir hmade).1.trans
    (Files.makeDirectories_spec (Path.join_ne_empty (by decide) hroot) hall).1
  obtain ⟨place, executable, hplace, hfree, hwritten⟩ := saveConfig_eq_ok hsave
  obtain ⟨below, hbelow, hdirectory, rfl⟩ := (Files.locate_join_eq_ok (by decide) hmetaDir).mp
    (Files.locateNew_eq_ok_iff.mp hplace).1
  have hkeeps := Files.keepsDirectories_put hfree (.file (Text.Utf8.encode
    (ProgramConfig.fileText (.new program.info.name (Layout.ofRoot root).storedDatabase))).toList
      executable)
  rw [← hwritten] at hkeeps
  refine ⟨below, ⟨Files.locate_of_keeps hkeeps hbelow, hkeeps.directories _ hdirectory, executable,
    ?_⟩, hadds.keeps.trans hkeeps, fun other hother => ?_⟩
  · rw [hwritten, Files.entryAt_put]
  · rw [hwritten, Files.entryAt_put_of_ne _ _ hother]
    exact (hadds.entries other).imp_right And.right

/-- A database that is stored beside the configuration leaves the configuration there. -/
theorem HoldsConfig.put (h : HoldsConfig written root below config)
    (hfree : written.entryAt (below ++ ["program.db"]) ≠ some .directory) (db : Database) :
    HoldsConfig (written.put (below ++ ["program.db"]) (.database db)) root below config := by
  have hkeeps := Files.keepsDirectories_put hfree (.database db)
  obtain ⟨executable, hentry⟩ := h.config
  refine ⟨Files.locate_of_keeps hkeeps h.located, hkeeps.directories _ h.directory, executable, ?_⟩
  rw [Files.entryAt_put_of_ne _ _ (config_ne_database below), hentry]

/-- Below the directory of a configuration, a name is located. -/
theorem HoldsConfig.locateNew (h : HoldsConfig left root below config) {name : String}
    (hname : Path.IsName name) :
    left.locateNew (Path.join (Layout.ofRoot root).metaDir name) = .ok (below ++ [name]) := by
  refine Files.locateNew_eq_ok_iff.mpr ⟨?_, ?_⟩
  · exact (Files.locate_join_eq_ok hname (Layout.metaDir_ne_empty root)).mpr
      ⟨below, h.located, h.directory, rfl⟩
  · rw [List.dropLast_concat]
    exact h.directory

theorem HoldsConfig.locateNew_config (h : HoldsConfig left root below config) :
    left.locateNew (Layout.ofRoot root).config = .ok (below ++ ["program.json"]) :=
  h.locateNew (by decide)

theorem HoldsConfig.locateNew_database (h : HoldsConfig left root below config) :
    left.locateNew (Layout.ofRoot root).database = .ok (below ++ ["program.db"]) :=
  h.locateNew (by decide)

/-- **The files that a new project leaves**: its configuration, and beside it the database,
which was brought up to date before it was recorded. -/
theorem newProject_files (hroot : root ≠ "")
    (hwrites : WritesConfig files root name c program written)
    (hopen : written.openDatabase (Layout.ofRoot root).database = .ok (opened, db)) :
    ∃ below stored, files.storedDatabase? (below ++ ["program.db"]) = some stored
      ∧ stored.opened = .ok db
      ∧ ∀ recorded, opened.saveDatabase (Layout.ofRoot root).database recorded
            = written.put (below ++ ["program.db"]) (.database recorded)
          ∧ files.KeepsDirectories (written.put (below ++ ["program.db"]) (.database recorded))
          ∧ HoldsConfig (written.put (below ++ ["program.db"]) (.database recorded)) root below
              (.new program.info.name (Layout.ofRoot root).storedDatabase) := by
  obtain ⟨below, hholds, hkeeps, hothers⟩ := hwrites.holdsConfig hroot
  obtain ⟨place, stored, hplace, hstored, hopened, rfl⟩ := Files.openDatabase_eq_ok hopen
  cases hplace.symm.trans hholds.locateNew_database
  have hfree := Files.not_directory_of_storedDatabase? hstored
  refine ⟨below, stored, ?_, hopened, fun recorded => ⟨?_, ?_, hholds.put hfree recorded⟩⟩
  · -- what is no directory by now was there before
    have hentry := (hothers _ (config_ne_database below).symm).resolve_right hfree
    rw [← hstored]
    unfold Files.storedDatabase?
    rw [hentry]
  · unfold Files.saveDatabase
    rw [(hholds.put hfree db).locateNew_database]
    exact Files.put_put written _ _ _
  · exact hkeeps.trans (Files.keepsDirectories_put hfree _)

/-! ## §4. Opening a project. -/

/-- A project whose files are there opens: with the configuration that stands there, and the
database beside it. -/
theorem HoldsConfig.openProject (h : HoldsConfig left root below config)
    (hdatabase : left.entryAt (below ++ ["program.db"]) = some (.database recorded))
    (hversion : recorded.version = currentVersion)
    (hnamed : config.database = ".symbridge/program.db") :
    openProject left root = .ok (left.put (below ++ ["program.db"]) (.database recorded),
      ⟨.ofRoot root, config, (Layout.ofRoot root).database,
        .ofDatabase config.name recorded⟩) := by
  have hconfig : loadConfig left (.ofRoot root) = .ok config := by
    obtain ⟨executable, hentry⟩ := h.config
    exact loadConfig_of_entryAt (Files.locateNew_eq_ok_iff.mp h.locateNew_config).1 hentry
  have hstored : left.storedDatabase? (below ++ ["program.db"]) = some recorded := by
    unfold Files.storedDatabase?
    rw [hdatabase]
  have hopen : left.openDatabase (Layout.ofRoot root).database
      = .ok (left.put (below ++ ["program.db"]) (.database recorded), recorded) := by
    rw [Files.openDatabase_eq_stored h.locateNew_database, hstored]
    dsimp only
    rw [Database.opened_of_current hversion]
    rfl
  have hpath : (Layout.ofRoot root).resolveDatabase config.database
      = (Layout.ofRoot root).database := by
    rw [hnamed, ← Layout.storedDatabase_ofRoot root, Layout.resolveDatabase_storedDatabase]
  unfold DebugMerge.openProject
  dsimp only
  rw [hconfig]
  dsimp only
  rw [hpath, hopen]

/-- An open project shows what was recorded about its program, and beside it the tables that
were there before. -/
structure ShowsProgram (project : Project) (program : Pe.ImportedProgram) (stored : Database) :
    Prop where
  config : project.config.name = program.info.name
  name : project.program.name = program.info.name
  info : project.program.db.info = .ok (some program.info)
  blocks : ∃ listed, project.program.db.blocks = .ok listed ∧ listed.Perm program.blocks
  kept : stored.KeptIn project.program.db

end Command

/-- Two texts for the root of one project: the directories of its files are the same. -/
def Files.SameProject (files : Files) (root other : String) : Prop :=
  files.locate (Layout.ofRoot root).metaDir = files.locate (Layout.ofRoot other).metaDir

namespace Command

/-- **A new project opens as it was recorded.**  Whatever text names its root, opening it reads
the database that was recorded, under the name that the configuration gives it, and shows the
name, the attributes and the memory blocks of the program; the tables of a database that was
there before are untouched.  The text that was typed names the root before and after. -/
theorem initProgram_reopens {s s' : Session} {text : String} {name : Option String}
    {c : InitChoices} (h : (initProgram text name c).run.run s = (.ok (), s'))
    (hnormal : ∀ identity, expectedOf c = .ok (some identity) → identity.uniqueId.IsNormal) :
    ∃ program place stored,
      newProgram s.files (resolveRoot s.files text) name c = .ok program
        ∧ s'.files.locate (Layout.ofRoot (resolveRoot s.files text)).database = .ok place
        ∧ s.files.storedDatabase? place = some stored
        ∧ (∀ root, s'.files.SameProject root (resolveRoot s.files text) →
            ∃ project, openProject s'.files root = .ok (s'.files, project)
              ∧ project.database
                = (Layout.ofRoot root).resolveDatabase (Layout.ofRoot root).storedDatabase
              ∧ project.database = (Layout.ofRoot root).database
              ∧ s'.files.locate project.database = .ok place
              ∧ ShowsProgram project program stored)
        ∧ (s.files.HasHome →
            s'.files.SameProject text (resolveRoot s.files text)
              ∧ s'.files.SameProject (resolveRoot s'.files text) (resolveRoot s.files text)) := by
  have hending := initProgram_ending s text name c
  rw [h] at hending
  dsimp only at hending
  generalize hleft : s'.files = left at hending ⊢
  cases hending with
  | @done program written opened db recorded hwrites hopen hrecord =>
    have hroot := resolveRoot_ne_empty s.files text
    obtain ⟨below, stored, hstored, hopened, hsaved⟩ := newProject_files hroot hwrites hopen
    obtain ⟨hput, hkeeps, hholds⟩ := hsaved recorded
    rw [hput]
    have hprogram := hwrites.newProgram
    have hversion : recorded.version = currentVersion := by
      rw [recordProgram_eq_ok hrecord]
      show db.version = currentVersion
      exact Database.version_of_opened hopened
    refine ⟨program, below ++ ["program.db"], stored, hprogram,
      (Files.locateNew_eq_ok_iff.mp hholds.locateNew_database).1,
      hstored, fun root hsame => ?_, fun hhome => ?_⟩
    · -- whatever names the root leads to the same files
      have hother : HoldsConfig (written.put (below ++ ["program.db"]) (.database recorded)) root
          below _ := ⟨hsame.trans hholds.located, hholds.directory, hholds.config⟩
      have hproject := hother.openProject (Files.entryAt_put written _ _) hversion
        (Layout.storedDatabase_ofRoot _)
      rw [Files.put_put] at hproject
      refine ⟨_, hproject, (Layout.resolveDatabase_storedDatabase root).symm, rfl,
        (Files.locateNew_eq_ok_iff.mp hother.locateNew_database).1, ⟨rfl, rfl, ?_, ?_, ?_⟩⟩
      · exact Database.info_of_recordProgram (isNormal_of_newProgram hprogram hnormal) hrecord
      · exact Database.blocks_of_recordProgram hrecord
      · exact Database.keptIn_of_recordProgram hopened hrecord
    · have hbefore := locate_metaDir_resolveRoot hhome hkeeps text
      have hafter := locate_metaDir_resolveRoot (hhome.of_keeps hkeeps)
        ⟨rfl, fun _ hplace => hplace⟩ text
      exact ⟨hbefore.symm, hafter.trans hbefore.symm⟩

/-- A GUID in normal form, the highest image base, and blocks that are not in order. -/
def guidChoices : InitChoices :=
  { nothingGiven with
    imageBase := some 0xFFFFFFFFFFFFFFFF
    blocks := [⟨".high", 0xFFFFFFFFFFFF0000, 0xFFFFFFFFFFFFFFFF⟩, ⟨".low", 0x1000, 0x2000⟩]
    guid := some "0A1B2C3D-0000-1111-2222-333344445555"
    age := some 0xFFFFFFFF
    file := some "app.pdb" }

/-- A root that is not there yet is resolved to another text before than after, and opens. -/
theorem initProgram_reopens_missing_root :
    ∃ (s' : Session) (project : Project) (info : ProgramInfo),
      (initProgram "new/" (some "App") guidChoices).run.run besideImage = (.ok (), s')
        ∧ (∀ identity, expectedOf guidChoices = .ok (some identity) → identity.uniqueId.IsNormal)
        ∧ besideImage.files.HasHome
        ∧ openProject s'.files (resolveRoot s'.files "new/") = .ok (s'.files, project)
        ∧ project.config.name = "App"
        ∧ project.program.db.info = .ok (some info) ∧ info.imageBase = 0xFFFFFFFFFFFFFFFF
        ∧ ∃ listed, project.program.db.blocks = .ok listed ∧ listed.Perm guidChoices.blocks := by
  have hrun := Action.run_of_isOk besideImage (initProgram "new/" (some "App") guidChoices)
    (by decide +kernel)
  have hnormal : ∀ identity, expectedOf guidChoices = .ok (some identity) →
      identity.uniqueId.IsNormal := by
    intro identity hidentity
    cases hidentity
    show normalGuid (normalGuid _) = normalGuid _
    decide +kernel
  have hhome : besideImage.files.HasHome := by
    refine ⟨⟨by decide, fun above hstart hne => ?_⟩, by decide⟩
    rcases List.prefix_cons_iff.mp hstart with rfl | ⟨rest, rfl, hrest⟩
    · decide
    · cases List.prefix_nil.mp hrest
      exact absurd rfl hne
  obtain ⟨program, place, stored, hprogram, -, -, hopens, hnames⟩ :=
    initProgram_reopens hrun hnormal
  obtain ⟨project, hproject, -, -, -, hshows⟩ := hopens _ (hnames hhome).2
  obtain ⟨own, -, hname, hbase, ⟨moved, -, hblocks⟩, -⟩ := newProgram_spec hprogram
  obtain ⟨listed, hlisted, hperm⟩ := hshows.blocks
  exact ⟨_, project, program.info, hrun, hnormal, hhome, hproject, hshows.config.trans hname,
    hshows.info, hbase, listed, hlisted, hperm.trans (List.Perm.of_eq hblocks)⟩

end Command

end DebugMerge
