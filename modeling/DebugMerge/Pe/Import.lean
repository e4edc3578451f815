/-
  DebugMerge.Pe.Import
  ────────────────────
  **What an executable says about its program.**

  The sections become memory blocks at the preferred load address; sections
  that are empty or leave the address space are left out.  The debug file that
  the executable names becomes the identity that the program expects.

  Main definitions
    • `Section.block?`            — from sections to blocks
    • `DebugReference.identity`   — from references to identities
    • `ImportedProgram`, `importBytes`, `importFile`
-/
import DebugMerge.Files.Tree
import DebugMerge.Pe.Image

namespace DebugMerge.Pe

/-- The name of a section whose name is no text. -/
def unnamedSection : String := "section"

/-- The memory block of a section, if it stays in the address space. -/
def Section.block? (imageBase : UInt64) (s : Section) : Option MemoryBlock := do
  let start ← addChecked imageBase s.virtualAddress.toUInt64
  let stop ← addChecked start s.effectiveSize.toUInt64
  return ⟨s.name.getD unnamedSection, start, stop⟩

/-- The identity that a reference asks for; an empty name is no name. -/
def DebugReference.identity (r : DebugReference) : Identity :=
  let identity := Identity.ofGuid (guidText r.guid) r.age
  let file := Text.Utf8.lossy (r.file.takeWhile (· ≠ 0))
  if file.isEmpty then identity else identity.withFile file

/-- The attributes and blocks of a program. -/
structure ImportedProgram where
  info : ProgramInfo
  blocks : List MemoryBlock
  deriving DecidableEq, Repr

/-- The program that an image describes. -/
def Image.toProgram (name : String) (image : Image) : ImportedProgram where
  info := ⟨name, image.imageBase, image.reference.map DebugReference.identity⟩
  blocks := (image.sections.filterMap (Section.block? image.imageBase)).filter (!·.isEmpty)

/-- Why an executable cannot be imported. -/
inductive ImportError where
  | io (path : String) (cause : IoError)
  | noImage (cause : ImageError)
  deriving DecidableEq, Repr

/-- The explanation of an error. -/
def ImportError.message : ImportError → String
  | io path cause => "Failed to read " ++ path ++ ": " ++ cause.message
  | noImage cause => "Not a PE image: " ++ cause.message

/-- Import the bytes of an executable. -/
def importBytes (name : String) (bytes : List UInt8) : Except ImportError ImportedProgram :=
  match Image.parse bytes with
  | .ok image => .ok (image.toProgram name)
  | .error e => .error (.noImage e)

/-- Import an executable file, named by its last component. -/
def importFile (files : Files) (path : String) : Except ImportError ImportedProgram :=
  match files.readBytes path with
  | .ok bytes => importBytes ((Path.fileName? path).getD path) bytes
  | .error e => .error (.io path e)

end DebugMerge.Pe
