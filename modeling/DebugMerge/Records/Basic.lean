/-
  DebugMerge.Records.Basic
  ────────────────────────
  **What a debug file says about a program, whatever its format.**

  A debug file yields data types, symbols, line numbers and comments.  Symbols,
  lines and comments are located relative to the image base; data types are
  keyed by name.  A type without size and members is a *placeholder*: it comes
  from a forward declaration and promises a definition elsewhere.

  Main definitions
    • `RecordKind`, `TypeKind`, `SymbolKind`, `SymbolScope`  — the vocabularies
    • `TypeRecord`, `SymbolRecord`, `LineRecord`, `CommentRecord`
    • `DebugInfo`, `Record`, `DebugInfo.records`             — one file's content
-/

namespace DebugMerge

/-! ## §1. Vocabularies. -/

/-- The categories of records that a load can be restricted to. -/
inductive RecordKind where
  | dataType
  | publicSymbol
  | globalSymbol
  | lineNumber
  | comment
  deriving DecidableEq, Repr

namespace RecordKind

/-- Every category, in its order. -/
def all : List RecordKind :=
  [dataType, publicSymbol, globalSymbol, lineNumber, comment]

/-- The word for a category. -/
def word : RecordKind → String
  | dataType => "data_type"
  | publicSymbol => "public_symbol"
  | globalSymbol => "global_symbol"
  | lineNumber => "line_number"
  | comment => "comment"

/-- The category that a word names. -/
def ofWord? (s : String) : Option RecordKind :=
  all.find? fun kind => kind.word = s

theorem ofWord?_word (kind : RecordKind) : ofWord? kind.word = some kind := by
  cases kind <;> decide

end RecordKind

/-- The kinds of data types. -/
inductive TypeKind where
  | struct
  | «class»
  | union
  | enum
  | typedef
  deriving DecidableEq, Repr

namespace TypeKind

/-- Every kind of data type. -/
def all : List TypeKind :=
  [struct, «class», union, enum, typedef]

/-- The word for a kind. -/
def word : TypeKind → String
  | struct => "struct"
  | «class» => "class"
  | union => "union"
  | enum => "enum"
  | typedef => "typedef"

/-- The kind that a word names. -/
def ofWord? (s : String) : Option TypeKind :=
  all.find? fun kind => kind.word = s

theorem ofWord?_word (kind : TypeKind) : ofWord? kind.word = some kind := by
  cases kind <;> decide

end TypeKind

/-- The kinds of symbols. -/
inductive SymbolKind where
  | function
  | data
  | label
  deriving DecidableEq, Repr

namespace SymbolKind

/-- Every kind of symbol. -/
def all : List SymbolKind :=
  [function, data, label]

/-- The word for a kind. -/
def word : SymbolKind → String
  | function => "function"
  | data => "data"
  | label => "label"

/-- The kind that a word names. -/
def ofWord? (s : String) : Option SymbolKind :=
  all.find? fun kind => kind.word = s

/-- The kind that a stored word stands for; an unknown word is a label. -/
def ofStored (s : String) : SymbolKind :=
  (ofWord? s).getD label

theorem ofWord?_word (kind : SymbolKind) : ofWord? kind.word = some kind := by
  cases kind <;> decide

theorem ofStored_word (kind : SymbolKind) : ofStored kind.word = kind := by
  cases kind <;> decide

end SymbolKind

/-- The symbol table that a symbol comes from. -/
inductive SymbolScope where
  | publicTable
  | globalTable
  deriving DecidableEq, Repr

namespace SymbolScope

/-- The word for a scope. -/
def word : SymbolScope → String
  | publicTable => "public"
  | globalTable => "global"

/-- The scope that a word names. -/
def ofWord? (s : String) : Option SymbolScope :=
  [publicTable, globalTable].find? fun scope => scope.word = s

/-- The scope that a stored word stands for; an unknown word is public. -/
def ofStored (s : String) : SymbolScope :=
  (ofWord? s).getD publicTable

/-- The category of the symbols of a scope. -/
def recordKind : SymbolScope → RecordKind
  | publicTable => .publicSymbol
  | globalTable => .globalSymbol

theorem ofWord?_word (scope : SymbolScope) : ofWord? scope.word = some scope := by
  cases scope <;> decide

theorem ofStored_word (scope : SymbolScope) : ofStored scope.word = scope := by
  cases scope <;> decide

end SymbolScope

/-! ## §2. Records. -/

/-- A field or an enumerator of a data type. -/
structure Member where
  name : String
  offset : UInt64
  typeName : String
  deriving DecidableEq, Repr

/-- A data type, keyed by its name. -/
structure TypeRecord where
  name : String
  kind : TypeKind
  size : UInt64
  members : List Member
  deriving DecidableEq, Repr

/-- A forward declaration: a name and a kind without any layout. -/
def TypeRecord.isPlaceholder (record : TypeRecord) : Bool :=
  record.size == 0 && record.members.isEmpty

/-- A symbol, located relative to the image base. -/
structure SymbolRecord where
  name : String
  rva : UInt64
  size : Option UInt64
  kind : SymbolKind
  scope : SymbolScope
  deriving DecidableEq, Repr

/-- A source line, located relative to the image base. -/
structure LineRecord where
  rva : UInt64
  file : String
  line : UInt32
  deriving DecidableEq, Repr

/-- A comment, located relative to the image base. -/
structure CommentRecord where
  rva : UInt64
  text : String
  deriving DecidableEq, Repr

/-! ## §3. The content of a debug file. -/

/-- Everything that one debug file says. -/
structure DebugInfo where
  types : List TypeRecord
  symbols : List SymbolRecord
  lines : List LineRecord
  comments : List CommentRecord
  deriving DecidableEq, Repr

namespace DebugInfo

/-- A debug file that says nothing. -/
def empty : DebugInfo :=
  ⟨[], [], [], []⟩

/-- How many records a file holds. -/
def recordCount (info : DebugInfo) : Nat :=
  info.types.length + info.symbols.length + info.lines.length + info.comments.length

/-- Does the file say nothing? -/
def isEmpty (info : DebugInfo) : Bool :=
  info.recordCount == 0

/-- The same content with every member list emptied. -/
def layoutOnly (info : DebugInfo) : DebugInfo :=
  { info with types := info.types.map fun record => { record with members := [] } }

end DebugInfo

/-- A record of any category. -/
inductive Record where
  | dataType (record : TypeRecord)
  | symbol (record : SymbolRecord)
  | line (record : LineRecord)
  | comment (record : CommentRecord)
  deriving DecidableEq, Repr

/-- The category of a record. -/
def Record.kind : Record → RecordKind
  | dataType _ => .dataType
  | symbol record => record.scope.recordKind
  | line _ => .lineNumber
  | comment _ => .comment

/-- The records of a file in the order in which they are merged: types, symbols,
lines, comments. -/
def DebugInfo.records (info : DebugInfo) : List Record :=
  info.types.map .dataType ++ info.symbols.map .symbol ++ info.lines.map .line
    ++ info.comments.map .comment

theorem DebugInfo.length_records (info : DebugInfo) : info.records.length = info.recordCount := by
  simp [records, recordCount, Nat.add_assoc]

end DebugMerge
