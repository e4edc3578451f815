/-
  DebugMerge.Mangling.Decorated
  ─────────────────────────────
  **Names of the form `?…`: decorated declarations.**

  A decorated name spells a whole declaration: its name, innermost scope first,
  what kind of thing it is, and its type.  Names and parameter types that
  occurred before are written as one digit, which counts the first ten
  of them; the inside of a template name counts anew.

  Declarations are shown the way they are declared: the type stands around the
  name, so a type is kept as a text before and a text after the name.

  Main definitions
    • `Declared`                 — a type as text around a name
    • `Reading`, `Parser`        — a name being read
    • `Grammar`, `grammar`       — the productions
    • `Decorated.demangle?`      — the declaration of a decorated name
-/
import DebugMerge.Text.Blank
import DebugMerge.Text.Numeral

namespace DebugMerge.Decorated

/-! ## §1. Types as text. -/

/-- What a type's text must look like inside a pointer. -/
inductive Form where
  | object
  /-- A function with its calling convention. -/
  | function (convention : String)
  | array
  /-- No type at all: a constructor returns none. -/
  | absent
  /-- A pack of template arguments that holds none. -/
  | emptyPack
  deriving DecidableEq

/-- A type as the text before and after the declared name. -/
structure Declared where
  left : String
  right : String
  form : Form
  /-- The qualifiers of the outermost type, which stand at the end of `left`. -/
  words : List String
  deriving DecidableEq

/-- The text with a blank, unless it already ends in a separator. -/
def spaced (s : String) : String :=
  match s.toList.getLast? with
  | none => s
  | some c => if c = ' ' ∨ c = '(' ∨ c = '*' ∨ c = '&' then s else s ++ " "

/-- The text with a blank, unless there is none or it ends in an opening parenthesis. -/
def separated (s : String) : String :=
  match s.toList.getLast? with
  | none => s
  | some c => if c = ' ' ∨ c = '(' then s else s ++ " "

namespace Declared

/-- A type that is one text. -/
def plain (s : String) : Declared := ⟨s, "", .object, []⟩

/-- The type without a name. -/
def alone (t : Declared) : String :=
  match t.form with
  | .function convention => separated t.left ++ convention ++ " " ++ t.right
  | _ => t.left ++ t.right

/-- The declaration of a name. -/
def around (t : Declared) (name : String) : String :=
  match t.form with
  | .function convention => separated t.left ++ convention ++ " " ++ name ++ t.right
  | _ => spaced t.left ++ name ++ t.right

/-- The qualifiers in the order in which they are shown. -/
def allQualifiers : List String := ["const", "volatile", "__restrict"]

/-- The type with qualifiers behind it, each once, except those that it has already. -/
def qualified (words : List String) (t : Declared) : Declared :=
  let added := allQualifiers.filter fun word => word ∈ words ∧ word ∉ t.words
  added.foldl (fun t word => { t with left := spaced t.left ++ word, words := t.words ++ [word] }) t

/-- A pointer, reference or member pointer to the type.  A function or an array is
put in parentheses. -/
def pointed (mark : String) (t : Declared) : Declared :=
  match t.form with
  | .function convention =>
      ⟨separated t.left ++ "(" ++ convention ++ " " ++ mark, ")" ++ t.right, .object, []⟩
  | .array => ⟨separated t.left ++ "(" ++ mark, ")" ++ t.right, .object, []⟩
  | _ => ⟨spaced t.left ++ mark, t.right, .object, []⟩

end Declared

/-! ## §2. A name being read. -/

/-- What is left of a name, and what a digit may refer to. -/
structure Reading where
  rest : List Char
  names : List String
  types : List Declared

/-- A parser of a part of a name. -/
abbrev Parser := StateT Reading Option

/-- Refuse the name. -/
def refuse {α : Type} : Parser α := fun _ => none

/-- The next character, which stays. -/
def peek : Parser (Option Char) := do
  return (← get).rest.head?

/-- The next character. -/
def next : Parser Char := do
  match (← get).rest with
  | [] => refuse
  | c :: rest =>
      modify fun s => { s with rest }
      return c

/-- Take the text if it comes next. -/
def took (text : String) : Parser Bool := do
  match Text.dropPrefix? text.toList (← get).rest with
  | some rest =>
      modify fun s => { s with rest }
      return true
  | none => return false

/-- The text must come next. -/
def expect (text : String) : Parser Unit := do
  if !(← took text) then refuse

/-- A digit, if one comes next. -/
def digit? : Parser (Option Nat) := do
  match (← get).rest with
  | c :: rest =>
      if c.isDigit then
        modify fun s => { s with rest }
        return some (c.toNat - 48)
      else return none
  | [] => return none

/-- The text up to an at sign, which is dropped. -/
def word : Parser String := do
  match Text.splitOnce? '@' (← get).rest with
  | some (text, rest) =>
      modify fun s => { s with rest }
      return String.ofList text
  | none => refuse

/-- The value of base-sixteen digits `A` to `P`. -/
def lettersValue? (cs : List Char) : Option Nat :=
  cs.foldlM (fun n c => if 'A' ≤ c ∧ c ≤ 'P' then some (n * 16 + (c.toNat - 65)) else none) 0

/-- A number: one digit stands for one more than itself, anything else is spelled
in letters. -/
def number : Parser Int := do
  let isNegative ← took "?"
  let signed (size : Nat) : Int := if isNegative then -size else size
  match ← digit? with
  | some d => return signed (d + 1)
  | none =>
      match lettersValue? (← word).toList with
      | some n => return signed n
      | none => refuse

/-- How many names and types a digit may refer to. -/
def memoryLimit : Nat := 10

/-- Add something to a memory, unless it is full or holds it already. -/
def remembered {α : Type} [DecidableEq α] (a : α) (memory : List α) : List α :=
  if memory.length < memoryLimit ∧ a ∉ memory then memory ++ [a] else memory

/-- Remember a name. -/
def rememberName (name : String) : Parser Unit :=
  modify fun s => { s with names := remembered name s.names }

/-- Remember a type. -/
def rememberType (type : Declared) : Parser Unit :=
  modify fun s => { s with types := remembered type s.types }

/-- The name that a digit refers to. -/
def nameNumber (i : Nat) : Parser String := do
  match (← get).names[i]? with
  | some name => return name
  | none => refuse

/-- The type that a digit refers to. -/
def typeNumber (i : Nat) : Parser Declared := do
  match (← get).types[i]? with
  | some type => return type
  | none => refuse

/-- Read with empty memories, which are forgotten afterwards. -/
def apart {α : Type} (inner : Parser α) : Parser α := do
  let s ← get
  set { s with names := [], types := [] }
  let a ← inner
  modify fun t => { t with names := s.names, types := s.types }
  return a

/-! ## §3. Vocabularies. -/

/-- The words of a qualifier letter. -/
def qualifiers? : Char → Option (List String)
  | 'A' => some []
  | 'B' => some ["const"]
  | 'C' => some ["volatile"]
  | 'D' => some ["const", "volatile"]
  | _ => none

/-- The words of a qualifier letter of what a member pointer points to. -/
def memberQualifiers? : Char → Option (List String)
  | 'Q' => some []
  | 'R' => some ["const"]
  | 'S' => some ["volatile"]
  | 'T' => some ["const", "volatile"]
  | _ => none

/-- A calling convention. -/
def convention? : Char → Option String
  | 'A' | 'B' => some "__cdecl"
  | 'C' | 'D' => some "__pascal"
  | 'E' | 'F' => some "__thiscall"
  | 'G' | 'H' => some "__stdcall"
  | 'I' | 'J' => some "__fastcall"
  | 'M' | 'N' => some "__clrcall"
  | 'O' | 'P' => some "__eabi"
  | 'Q' => some "__vectorcall"
  | _ => none

/-- A type that is one letter. -/
def letterType? : Char → Option String
  | 'X' => some "void"
  | 'D' => some "char"
  | 'C' => some "signed char"
  | 'E' => some "unsigned char"
  | 'F' => some "short"
  | 'G' => some "unsigned short"
  | 'H' => some "int"
  | 'I' => some "unsigned int"
  | 'J' => some "long"
  | 'K' => some "unsigned long"
  | 'M' => some "float"
  | 'N' => some "double"
  | 'O' => some "long double"
  | _ => none

/-- A type that is an underscore and a letter. -/
def underscoreType? : Char → Option String
  | 'N' => some "bool"
  | 'D' => some "__int8"
  | 'E' => some "unsigned __int8"
  | 'F' => some "__int16"
  | 'G' => some "unsigned __int16"
  | 'H' => some "__int32"
  | 'I' => some "unsigned __int32"
  | 'J' => some "__int64"
  | 'K' => some "unsigned __int64"
  | 'L' => some "__int128"
  | 'M' => some "unsigned __int128"
  | 'W' => some "wchar_t"
  | 'Q' => some "char8_t"
  | 'S' => some "char16_t"
  | 'U' => some "char32_t"
  | 'P' => some "auto"
  | 'T' => some "decltype(auto)"
  | _ => none

/-- The operators of one letter or digit. -/
def operator? : Char → Option String
  | '2' => some "operator new"
  | '3' => some "operator delete"
  | '4' => some "operator="
  | '5' => some "operator>>"
  | '6' => some "operator<<"
  | '7' => some "operator!"
  | '8' => some "operator=="
  | '9' => some "operator!="
  | 'A' => some "operator[]"
  | 'C' => some "operator->"
  | 'D' => some "operator*"
  | 'E' => some "operator++"
  | 'F' => some "operator--"
  | 'G' => some "operator-"
  | 'H' => some "operator+"
  | 'I' => some "operator&"
  | 'J' => some "operator->*"
  | 'K' => some "operator/"
  | 'L' => some "operator%"
  | 'M' => some "operator<"
  | 'N' => some "operator<="
  | 'O' => some "operator>"
  | 'P' => some "operator>="
  | 'Q' => some "operator,"
  | 'R' => some "operator()"
  | 'S' => some "operator~"
  | 'T' => some "operator^"
  | 'U' => some "operator|"
  | 'V' => some "operator&&"
  | 'W' => some "operator||"
  | 'X' => some "operator*="
  | 'Y' => some "operator+="
  | 'Z' => some "operator-="
  | _ => none

/-- The operators and tables of an underscore and a letter or digit. -/
def underscoreOperator? : Char → Option String
  | '0' => some "operator/="
  | '1' => some "operator%="
  | '2' => some "operator>>="
  | '3' => some "operator<<="
  | '4' => some "operator&="
  | '5' => some "operator|="
  | '6' => some "operator^="
  | '7' => some "`vftable'"
  | '8' => some "`vbtable'"
  | '9' => some "`vcall'"
  | 'A' => some "`typeof'"
  | 'B' => some "`local static guard'"
  | 'C' => some "`string'"
  | 'D' => some "`vbase destructor'"
  | 'E' => some "`vector deleting destructor'"
  | 'F' => some "`default constructor closure'"
  | 'G' => some "`scalar deleting destructor'"
  | 'H' => some "`vector constructor iterator'"
  | 'I' => some "`vector destructor iterator'"
  | 'J' => some "`vector vbase constructor iterator'"
  | 'K' => some "`virtual displacement map'"
  | 'L' => some "`eh vector constructor iterator'"
  | 'M' => some "`eh vector destructor iterator'"
  | 'N' => some "`eh vector vbase constructor iterator'"
  | 'O' => some "`copy constructor closure'"
  | 'S' => some "`local vftable'"
  | 'T' => some "`local vftable constructor closure'"
  | 'U' => some "operator new[]"
  | 'V' => some "operator delete[]"
  | 'X' => some "`placement delete closure'"
  | 'Y' => some "`placement delete[] closure'"
  | _ => none

/-- The helpers of two underscores and a letter. -/
def helper? : Char → Option String
  | 'A' => some "`managed vector constructor iterator'"
  | 'B' => some "`managed vector destructor iterator'"
  | 'C' => some "`eh vector copy constructor iterator'"
  | 'D' => some "`eh vector vbase copy constructor iterator'"
  | 'E' => some "`dynamic initializer'"
  | 'F' => some "`dynamic atexit destructor'"
  | 'G' => some "`vector copy constructor iterator'"
  | 'H' => some "`vector vbase copy constructor iterator'"
  | 'I' => some "`managed vector vbase copy constructor iterator'"
  | 'J' => some "`local static thread guard'"
  | 'L' => some "operator co_await"
  | 'M' => some "operator<=>"
  | _ => none

/-- The kind of a member function. -/
structure FunctionClass where
  access : String
  isStatic : Bool
  isVirtual : Bool
  isThunk : Bool

/-- The kind of a member function by its letter: eight letters for each access, two
for each of plain, static, virtual and thunk. -/
def functionClass? (c : Char) : Option FunctionClass :=
  if 'A' ≤ c ∧ c ≤ 'X' then
    let n := c.toNat - 65
    let kind := n % 8 / 2
    let access := if n < 8 then "private" else if n < 16 then "protected" else "public"
    some ⟨access, kind == 1, kind ≥ 2, kind == 3⟩
  else none

/-! ## §4. Small parts. -/

/-- What the next character stands for. -/
def coded {α : Type} (table : Char → Option α) : Parser α := do
  match table (← next) with
  | some a => return a
  | none => refuse

/-- The qualifiers of a returned or described class. -/
def returnQualifiers : Parser (List String) := do
  if ← took "?" then coded qualifiers? else return []

/-- The size marks before a pointer's qualifiers: any of 64 bits, unaligned and
restricted.  Answers the words for the pointer. -/
def sizeMarks : Nat → Parser (List String)
  | 0 => return []
  | steps + 1 => do
      if ← took "E" then sizeMarks steps
      else if ← took "F" then sizeMarks steps
      else if ← took "I" then return "__restrict" :: (← sizeMarks steps)
      else return []

/-- The qualifiers of the object that a member function is called on: what stands
before the reference mark, and that mark. -/
def objectMarks : Nat → Parser (List String × List String)
  | 0 => return ([], [])
  | steps + 1 => do
      if ← took "E" then objectMarks steps
      else if ← took "F" then objectMarks steps
      else
        let isRestrict ← took "I"
        let isRef ← if isRestrict then pure false else took "G"
        let isMove ← if isRestrict || isRef then pure false else took "H"
        if isRestrict || isRef || isMove then
          let (words, marks) ← objectMarks steps
          if isRestrict then return ("__restrict" :: words, marks)
          else return (words, (if isRef then "&" else "&&") :: marks)
        else return ([], [])

/-- The text behind a member function's parameters. -/
def objectQualifiers : Parser String := do
  let (words, marks) ← objectMarks 8
  let letter ← coded qualifiers?
  return String.join ((letter ++ words ++ marks).map (" " ++ ·))

/-- Is there an exception specification?  Without one a `Z` stands there. -/
def exceptions : Parser String := do
  if ← took "_E" then return " noexcept"
  else
    expect "Z"
    return ""

/-- A list of arguments; empty packs leave no trace. -/
def argumentText (types : List Declared) : String :=
  String.intercalate ", " ((types.filter (·.form ≠ .emptyPack)).map Declared.alone)

/-- Template arguments in their brackets, with a blank between closing ones. -/
def bracketed (types : List Declared) : String :=
  let inner := argumentText types
  "<" ++ inner ++ (if inner.toList.getLast? = some '>' then " >" else ">")

/-- A path, given innermost name first. -/
def pathText (scope : List String) : String :=
  String.join (scope.reverse.map (· ++ "::"))

/-- The name that a declaration declares. -/
inductive Head where
  | named (text : String)
  | constructor
  | destructor
  /-- A conversion to the type that the function returns. -/
  | conversion

/-- A declared name with its template arguments. -/
structure Title where
  head : Head
  arguments : String

/-- The text of a title in its scope; `returned` is the returned type. -/
def Title.text? (title : Title) (scope : List String) (returned : String) : Option String :=
  let path := pathText scope
  match title.head with
  | .named s => some (path ++ s ++ title.arguments)
  | .constructor => scope.head?.map fun s => path ++ s ++ title.arguments
  | .destructor => scope.head?.map fun s => path ++ "~" ++ s ++ title.arguments
  | .conversion => some (path ++ "operator " ++ returned ++ title.arguments)

/-! ## §5. Productions. -/

/-- Parsers of the parts that contain one another. -/
structure Grammar where
  /-- A whole decorated name. -/
  symbol : Parser String
  /-- A type with qualifiers. -/
  type : List String → Parser Declared
  /-- Names up to an at sign, innermost first. -/
  scope : Parser (List String)
  /-- Arguments up to an at sign or the mark of a variable number, and whether their
  number is variable. -/
  arguments : Parser (List Declared)

section Productions

variable (g : Grammar)

/-- What a special name starts with, after its mark. -/
def specialHead : Parser Head := do
  match ← next with
  | '0' => return .constructor
  | '1' => return .destructor
  | 'B' => return .conversion
  | '_' =>
      match ← next with
      | '_' =>
          match ← next with
          | 'K' => return .named ("operator \"\"" ++ (← word))
          | c => match helper? c with
            | some s => return .named s
            | none => refuse
      | 'R' =>
          match ← next with
          | '0' =>
              let words ← returnQualifiers
              let type ← g.type words
              return .named (type.alone ++ "::`RTTI Type Descriptor'")
          | '1' =>
              let a ← number
              let b ← number
              let c ← number
              let d ← number
              let inner := String.intercalate ", " ([a, b, c, d].map toString)
              return .named ("`RTTI Base Class Descriptor at (" ++ inner ++ ")'")
          | '2' => return .named "`RTTI Base Class Array'"
          | '3' => return .named "`RTTI Class Hierarchy Descriptor'"
          | '4' => return .named "`RTTI Complete Object Locator'"
          | _ => refuse
      | c => match underscoreOperator? c with
        | some s => return .named s
        | none => refuse
  | c => match operator? c with
    | some s => return .named s
    | none => refuse

/-- A name that is not a template: a digit, a special name, or a word. -/
def simpleHead : Parser Head := do
  match ← digit? with
  | some i => return .named (← nameNumber i)
  | none =>
      if ← took "?" then specialHead g
      else
        let name ← word
        rememberName name
        return .named name

/-- A template name with its arguments, after its mark. -/
def templateTitle : Parser Title := apart do
  let head ← simpleHead g
  let types ← g.arguments
  return ⟨head, bracketed types⟩

/-- The text of a template name inside a scope. -/
def templateText : Parser String := do
  match (← templateTitle g) with
  | ⟨.named s, arguments⟩ => return s ++ arguments
  | _ => refuse

/-- The name that a declaration declares. -/
def title : Parser Title := do
  if ← took "?$" then templateTitle g
  else return ⟨← simpleHead g, ""⟩

/-- One name of a scope. -/
def scopeName : Parser String := do
  match ← digit? with
  | some i => nameNumber i
  | none =>
      if ← took "?$" then
        let name ← templateText g
        rememberName name
        return name
      else if ← took "?A" then
        let _ ← word
        let name := "`anonymous namespace'"
        rememberName name
        return name
      else if ← took "?" then
        if (← peek) = some '?' then
          let inner ← g.symbol
          return "`" ++ inner ++ "'"
        else
          let n ← number
          return "`" ++ toString n ++ "'"
      else
        let name ← word
        rememberName name
        return name

/-- Names up to an at sign. -/
def scopeNames : Parser (List String) := do
  if ← took "@" then return []
  else
    let name ← scopeName g
    let names ← g.scope
    return name :: names

/-- A name used as a type: its path, outermost name first. -/
def typeName : Parser String := do
  let names ← g.scope
  return String.intercalate "::" names.reverse

/-- Arguments up to their end. -/
def argumentList : Parser (List Declared) := do
  if ← took "@" then return []
  else if ← took "Z" then return [.plain "..."]
  else
    match ← digit? with
    | some i =>
        let type ← typeNumber i
        return type :: (← g.arguments)
    | none =>
        let before := (← get).rest.length
        let type ← g.type []
        let after := (← get).rest.length
        if before - after > 1 then rememberType type
        return type :: (← g.arguments)

/-- The parameters of a function in parentheses, with its exception specification. -/
def parameters : Parser String := do
  let isVoid ← took "X"
  let inner ← if isVoid then pure "void" else argumentText <$> g.arguments
  let suffix ← exceptions
  return "(" ++ inner ++ ")" ++ suffix

/-- A returned type; constructors and destructors have none. -/
def returned : Parser Declared := do
  let words ← returnQualifiers
  if ← took "@" then return ⟨"", "", .absent, []⟩ else g.type words

/-- A function type, with the text behind its parameters. -/
def functionType (behind : String) : Parser Declared := do
  let convention ← coded convention?
  let result ← returned g
  let inner ← parameters g
  return ⟨result.left, inner ++ behind ++ result.right, .function convention, []⟩

/-- What a pointer or reference with the given mark points to. -/
def pointee (mark : String) (words : List String) : Parser Declared := do
  let restricted ← sizeMarks 8
  let finish (t : Declared) (mark : String) := (t.pointed mark).qualified (words ++ restricted)
  if ← took "6" then return finish (← functionType g "") mark
  else if ← took "8" then
    let owner ← typeName g
    let behind ← objectQualifiers
    return finish (← functionType g behind) (owner ++ "::" ++ mark)
  else
    let c ← next
    match qualifiers? c with
    | some inner => return finish (← g.type inner) mark
    | none =>
        match memberQualifiers? c with
        | some inner =>
            let owner ← typeName g
            return finish (← g.type inner) (owner ++ "::" ++ mark)
        | none => refuse

/-- The lengths of an array's dimensions. -/
def dimensions : Nat → Parser String
  | 0 => return ""
  | count + 1 => do
      let size ← number
      let more ← dimensions count
      return "[" ++ toString size ++ "]" ++ more

/-- An array type. -/
def arrayType (words : List String) : Parser Declared := do
  let count ← number
  if count < 1 ∨ count > 64 then refuse
  let sizes ← dimensions count.toNat
  let item ← g.type []
  let item := item.qualified words
  return ⟨item.left, sizes ++ item.right, .array, item.words⟩

/-- A constant among template arguments, after its mark. -/
def constant : Parser Declared := do
  match ← next with
  | '0' => return .plain (toString (← number))
  | '1' => return .plain ("&" ++ (← g.symbol))
  | 'E' => return .plain (← g.symbol)
  | 'D' => return .plain ("`template-parameter" ++ toString (← number) ++ "'")
  | 'S' => return ⟨"", "", .emptyPack, []⟩
  | 'F' =>
      let a ← number
      let b ← number
      return .plain ("\x7b" ++ toString a ++ ", " ++ toString b ++ "\x7d")
  | 'G' =>
      let a ← number
      let b ← number
      let c ← number
      return .plain ("\x7b" ++ toString a ++ ", " ++ toString b ++ ", " ++ toString c ++ "\x7d")
  | 'H' =>
      let name ← g.symbol
      let n ← number
      return .plain ("\x7b" ++ name ++ ", " ++ toString n ++ "\x7d")
  | _ => refuse

/-- A type behind two dollar signs. -/
def extendedType (words : List String) : Parser Declared := do
  match ← next with
  | 'A' =>
      if ← took "6" then functionType g ""
      else
        expect "8@@"
        let behind ← objectQualifiers
        functionType g behind
  | 'B' => g.type words
  | 'C' =>
      let inner ← coded qualifiers?
      g.type (words ++ inner)
  | 'Q' => pointee g "&&" words
  | 'R' => pointee g "&&" (words ++ ["volatile"])
  | 'T' => return (Declared.plain "std::nullptr_t").qualified words
  | 'V' | 'Z' => return ⟨"", "", .emptyPack, []⟩
  | _ => refuse

/-- A named type with its key word. -/
def keyed (key : String) (words : List String) : Parser Declared := do
  let name ← typeName g
  return (Declared.plain (key ++ " " ++ name)).qualified words

/-- A type with qualifiers. -/
def typeWith (words : List String) : Parser Declared := do
  match ← next with
  | '$' => if ← took "$" then extendedType g words else constant g
  | '?' => return .plain ("`template-parameter" ++ toString (← number) ++ "'")
  | 'T' => keyed g "union" words
  | 'U' => keyed g "struct" words
  | 'V' => keyed g "class" words
  | 'W' =>
      expect "4"
      keyed g "enum" words
  | 'A' => pointee g "&" words
  | 'B' => pointee g "&" (words ++ ["volatile"])
  | 'P' => pointee g "*" words
  | 'Q' => pointee g "*" (words ++ ["const"])
  | 'R' => pointee g "*" (words ++ ["volatile"])
  | 'S' => pointee g "*" (words ++ ["const", "volatile"])
  | 'Y' => arrayType g words
  | '_' =>
      let name ← coded underscoreType?
      return (Declared.plain name).qualified words
  | c =>
      match letterType? c with
      | some name => return (Declared.plain name).qualified words
      | none => refuse

/-! ## §6. Declarations. -/

/-- The text of a title whose scope is known. -/
def titled (title : Title) (scope : List String) (result : String) : Parser String :=
  match title.text? scope result with
  | some s => return s
  | none => refuse

/-- A variable: its type, and qualifiers of the outermost type. -/
def variableText (storage : String) (title : Title) (scope : List String) : Parser String := do
  let type ← g.type []
  let restricted ← sizeMarks 8
  let c ← next
  let finish (words : List String) : Parser String := do
    let name ← titled title scope ""
    return storage ++ (type.qualified (words ++ restricted)).around name
  match qualifiers? c with
  | some words => finish words
  | none =>
      match memberQualifiers? c with
      | some words =>
          let _ ← typeName g
          finish words
      | none => refuse

/-- A table of a class, possibly for one of its bases. -/
def table (title : Title) (scope : List String) : Parser String := do
  let _ ← sizeMarks 8
  let words ← coded qualifiers?
  let isOwn ← took "@"
  let base ← if isOwn then pure "" else (fun name => "\x7bfor `" ++ name ++ "'\x7d") <$> typeName g
  let name ← titled title scope ""
  return String.join (words.map (· ++ " ")) ++ name ++ base

/-- A function whose specifiers and trailing text are known. -/
def function (specifiers : String) (behind : String) (title : Title) (scope : List String) :
    Parser String := do
  let convention ← coded convention?
  let result ← returned g
  let inner ← parameters g
  let name ← titled title scope result.alone
  let result := match title.head with
    | .conversion => (⟨"", "", .absent, []⟩ : Declared)
    | _ => result
  return specifiers ++ separated result.left ++ convention ++ " " ++ name ++ inner ++ behind
    ++ result.right

/-- The specifiers of a member function. -/
def FunctionClass.specifiers (c : FunctionClass) : String :=
  (if c.isThunk then "[thunk]: " else "") ++ c.access ++ ": "
    ++ (if c.isStatic then "static " else if c.isVirtual then "virtual " else "")

/-- A member function. -/
def memberFunction (c : FunctionClass) (title : Title) (scope : List String) : Parser String := do
  if c.isThunk then
    let _ ← number
  let behind ← if c.isStatic then pure "" else objectQualifiers
  function g c.specifiers behind title scope

/-- A thunk of a virtual call, or of a function of a displaced base. -/
def specialThunk (title : Title) (scope : List String) : Parser String := do
  match ← next with
  | 'B' =>
      let offset ← number
      expect "A"
      let convention ← coded convention?
      let name ← titled title scope ""
      return "[thunk]: " ++ convention ++ " " ++ name ++ "\x7b" ++ toString offset
        ++ ", \x7bflat\x7d\x7d"
  | c =>
      let isExtended := c = 'R'
      let c ← if isExtended then next else pure c
      if c < '0' ∨ '5' < c then refuse
      let n := c.toNat - 48
      let access := if n < 2 then "private" else if n < 4 then "protected" else "public"
      if isExtended then
        let _ ← number
        let _ ← number
      let _ ← number
      let _ ← number
      let behind ← objectQualifiers
      function g (FunctionClass.specifiers ⟨access, false, true, true⟩) behind title scope

/-- What a declaration declares, by the letter after its name. -/
def declaration (title : Title) (scope : List String) : Parser String := do
  match (← get).rest with
  | [] => titled title scope ""
  | c :: rest =>
      modify fun s => { s with rest }
      match c with
      | '0' => variableText g "private: static " title scope
      | '1' => variableText g "protected: static " title scope
      | '2' => variableText g "public: static " title scope
      | '3' | '4' => variableText g "" title scope
      | '5' =>
          let n ← number
          let name ← titled title scope ""
          return name ++ "\x7b" ++ toString n ++ "\x7d"
      | '6' | '7' => table g title scope
      | '8' | '9' => titled title scope ""
      | 'Y' | 'Z' => function g "" "" title scope
      | '$' => specialThunk g title scope
      | c =>
          match functionClass? c with
          | some kind => memberFunction g kind title scope
          | none => refuse

/-- The number of a guard, whose digits end in an at sign. -/
def guardNumber : Parser String := do
  let digits ← word
  if !digits.isEmpty && digits.all Char.isDigit then return digits else refuse

/-- A whole decorated name. -/
def symbolText : Parser String := do
  expect "?"
  if ← took "$TSS" then
    let n ← guardNumber
    let scope ← g.scope
    expect "4HA"
    return pathText scope ++ "`thread safe static guard\x7b" ++ n ++ "\x7d'"
  else if ← took "$" then templateText g
  else if ← took "?@" then return "??@" ++ (← word) ++ "@"
  else if ← took "?_C@_" then
    modify fun s => { s with rest := [] }
    return "`string'"
  else
    let title ← title g
    let scope ← g.scope
    declaration g title scope

end Productions

/-! ## §7. Whole names. -/

/-- Nothing can be read. -/
def Grammar.none : Grammar :=
  ⟨refuse, fun _ => refuse, refuse, refuse⟩

/-- Parsers for parts that nest at most `levels` deep. -/
def grammar : Nat → Grammar
  | 0 => .none
  | levels + 1 =>
      let g := grammar levels
      { symbol := symbolText g
        type := typeWith g
        scope := scopeNames g
        arguments := argumentList g }

/-- The declaration of a decorated name.  Every part but the first takes a
character before it contains another, which bounds how deep parts nest. -/
def demangle? (name : String) : Option String :=
  let cs := name.toList
  ((grammar (2 * cs.length + 8)).symbol.run ⟨cs, [], []⟩).map (·.1)

end DebugMerge.Decorated
