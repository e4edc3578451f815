/-
  DebugMerge.Store.Statement
  ──────────────────────────
  **Maintenance statements.**

  A database can be edited by hand with a few statements: inserting one row
  into the types, symbols or runs, changing or deleting the attributes, and
  dropping a table.  Values are words, numbers or nothing; a text column takes
  a number as its decimal text.

  Main definitions
    • `Cell`, `Statement`       — statements
    • `Statement.parse?`        — from their text and arguments
    • `Statement.run`           — their effect and how many rows they changed
-/
import DebugMerge.Store.Transaction

namespace DebugMerge

/-! ## §1. Statements. -/

/-- A value in a statement. -/
inductive Cell where
  | null
  | number (value : Int)
  | text (value : String)
  deriving DecidableEq, Repr

namespace Cell

/-- The cell as a text; nothing has no text. -/
def asText? : Cell → Option String
  | null => none
  | number n => some (toString n)
  | text s => some s

/-- The cell as a stored number. -/
def asWord? : Cell → Option UInt64
  | number n => some (UInt64.ofInt n)
  | text s => s.toInt?.map UInt64.ofInt
  | null => none

end Cell

/-- A maintenance statement. -/
inductive Statement where
  | insert (table : String) (columns : List (String × Cell))
  | update (table : String) (columns : List (String × Cell))
  | delete (table : String)
  | drop (table : String)
  deriving DecidableEq, Repr

/-! ## §2. The text of statements. -/

/-- A word, a mark, or a quoted text. -/
inductive Token where
  | word (s : String)
  | mark (c : Char)
  | quoted (s : String)
  deriving DecidableEq, Repr

/-- The mark around a text. -/
def quoteMark : Char := Char.ofNat 39

/-- Can the character stand in a word? -/
def isWordChar (c : Char) : Bool :=
  c.isAlphanum || c == '_' || c == '?' || c == '-'

/-- The tokens of a statement, with the characters of an unfinished word in
reverse and, inside quotes, those of the quoted text. -/
def tokens (pending : List Char) (inside : Option (List Char)) : List Char → List Token
  | [] => flush pending
  | c :: rest =>
      match inside with
      | some taken =>
          if c = quoteMark then .quoted (String.ofList taken.reverse) :: tokens [] none rest
          else tokens [] (some (c :: taken)) rest
      | none =>
          if isWordChar c then tokens (c :: pending) none rest
          else if c = quoteMark then flush pending ++ tokens [] (some []) rest
          else if c = ' ' then flush pending ++ tokens [] none rest
          else flush pending ++ .mark c :: tokens [] none rest
where
  /-- The unfinished word as a token, if there is one. -/
  flush (pending : List Char) : List Token :=
    if pending.isEmpty then [] else [.word (String.ofList pending.reverse)]

/-- The value of a token; `?n` is the n-th argument. -/
def cellOf? (args : List Cell) : Token → Option Cell
  | .quoted s => some (.text s)
  | .mark _ => none
  | .word s =>
      if s = "NULL" then some .null
      else match s.toList with
        | '?' :: digits => do
            let n ← (String.ofList digits).toNat?
            if n = 0 then none else args[n - 1]?
        | _ => s.toInt?.map .number

/-- Items separated by commas up to a closing parenthesis. -/
def listTokens? : List Token → Option (List Token × List Token)
  | .mark ')' :: rest => some ([], rest)
  | .mark ',' :: rest => listTokens? rest
  | t :: rest => (listTokens? rest).map fun (items, rest) => (t :: items, rest)
  | [] => none

/-- Assignments separated by commas. -/
def assignments? (args : List Cell) : List Token → Option (List (String × Cell))
  | [.word column, .mark '=', value] => do return [(column, ← cellOf? args value)]
  | .word column :: .mark '=' :: value :: .mark ',' :: rest => do
      let cell ← cellOf? args value
      let more ← assignments? args rest
      return (column, cell) :: more
  | _ => none

/-- The name that a token spells. -/
def Token.name? : Token → Option String
  | word s => some s
  | _ => none

/-- Read a statement. -/
def Statement.parse? (text : String) (args : List Cell) : Option Statement :=
  match tokens [] none text.toList with
  | [.word "DROP", .word "TABLE", .word table] => some (.drop table)
  | [.word "DELETE", .word "FROM", .word table] => some (.delete table)
  | .word "UPDATE" :: .word table :: .word "SET" :: rest =>
      (assignments? args rest).map (.update table)
  | .word "INSERT" :: .word "INTO" :: .word table :: .mark '(' :: rest => do
      let (columns, rest) ← listTokens? rest
      match rest with
      | .word "VALUES" :: .mark '(' :: rest => do
          let (values, rest) ← listTokens? rest
          let columns ← columns.mapM Token.name?
          let cells ← values.mapM (cellOf? args)
          if rest.isEmpty ∧ columns.length = cells.length then
            return .insert table (columns.zip cells)
          else none
      | _ => none
  | _ => none

/-! ## §3. Their effect. -/

/-- The cell of a column; a column that is not named holds nothing. -/
def cellAt (columns : List (String × Cell)) (name : String) : Cell :=
  ((columns.find? fun column => column.1 = name).map (·.2)).getD .null

/-- A required text. -/
def textAt (columns : List (String × Cell)) (name : String) : Except StoreError String :=
  match (cellAt columns name).asText? with
  | some s => .ok s
  | none => .error .badStatement

/-- A required number. -/
def wordAt (columns : List (String × Cell)) (name : String) : Except StoreError UInt64 :=
  match (cellAt columns name).asWord? with
  | some n => .ok n
  | none => .error .badStatement

/-- Change the named parts of the attributes. -/
def ProgramRow.assign (row : ProgramRow) : List (String × Cell) → ProgramRow
  | [] => row
  | (column, cell) :: rest =>
      let row :=
        if column = "name" then { row with name := cell.asText?.getD row.name }
        else if column = "image_base" then { row with imageBase := cell.asWord?.getD row.imageBase }
        else if column = "pdb_guid" then { row with guid := cell.asText? }
        else if column = "pdb_signature" then { row with signature := cell.asWord? }
        else if column = "pdb_age" then { row with age := cell.asWord? }
        else if column = "pdb_file" then { row with file := cell.asText? }
        else row
      row.assign rest

/-- The table stored under a name. -/
def Table.ofStoredName? (name : String) : Option Table :=
  Table.all.find? fun table => table.storedName = name

namespace Statement

/-- Insert one row. -/
def insertRow (db : Database) (table : Table) (columns : List (String × Cell)) :
    Except StoreError Database := do
  match table with
  | .dataTypes =>
      let rows ← rowsOf .dataTypes db.dataTypes
      let row : TypeRow :=
        { name := ← textAt columns "name"
          kind := ← textAt columns "kind"
          size := ← wordAt columns "size"
          members := ((cellAt columns "members").asText?).getD "[]" }
      if rows.any (·.name == row.name) then throw .badStatement
      return { db with dataTypes := some (rows ++ [row]) }
  | .symbols =>
      let rows ← rowsOf .symbols db.symbols
      let row : SymbolRow :=
        { address := ← wordAt columns "address"
          name := ← textAt columns "name"
          kind := ← textAt columns "kind"
          scope := ((cellAt columns "scope").asText?).getD "public"
          size := (cellAt columns "size").asWord?
          demangled := (cellAt columns "demangled").asText? }
      if rows.any fun r => r.address == row.address && r.name == row.name then throw .badStatement
      return { db with symbols := some (rows ++ [row]) }
  | .loadRuns =>
      let rows ← rowsOf .loadRuns db.loadRuns
      let row : RunRow :=
        { debugFile := ← textAt columns "debug_file"
          debugFileHash := (cellAt columns "debug_file_hash").asText?
          backend := ← textAt columns "backend"
          backendVersion := (cellAt columns "backend_version").asText?
          status := ← textAt columns "status"
          messageCount := ((cellAt columns "message_count").asWord?).getD 0
          startedAt := ← textAt columns "started_at"
          finishedAt := ← textAt columns "finished_at" }
      return { db with loadRuns := some (rows ++ [row]) }
  | _ => throw .badStatement

/-- The effect of a statement, and how many rows it changed. -/
def run (statement : Statement) (db : Database) : Except StoreError (Database × Nat) := do
  match statement with
  | insert name columns =>
      let some table := Table.ofStoredName? name | throw .badStatement
      return (← insertRow db table columns, 1)
  | update "program_info" columns =>
      match ← rowsOf .programInfo db.programInfo with
      | some row => return ({ db with programInfo := some (some (row.assign columns)) }, 1)
      | none => return (db, 0)
  | delete "program_info" =>
      match ← rowsOf .programInfo db.programInfo with
      | some _ => return ({ db with programInfo := some none }, 1)
      | none => return (db, 0)
  | drop name =>
      let some table := Table.ofStoredName? name | throw .badStatement
      if db.hasTable table then return (db.dropTable table, 0) else throw (.missingTable table)
  | _ => throw .badStatement

end Statement

end DebugMerge
