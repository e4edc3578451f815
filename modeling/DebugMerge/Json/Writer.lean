/-
  DebugMerge.Json.Writer
  ──────────────────────
  **Writing JSON text, compact and indented.**

  Strings escape the quote, the backslash and the control characters below
  U+0020, five of which have a letter of their own; everything else stands as
  it is.  The compact form has no blanks.  The indented form puts every item
  and field on a line of its own, two blanks deeper than its container, and
  leaves empty containers on one line.

  Main definitions
    • `quote`       — a string with its quotes
    • `render`      — the compact form
    • `pretty`      — the indented form
-/
import DebugMerge.Json.Value
import DebugMerge.Text.Numeral

namespace DebugMerge.Json

/-! ## §1. Strings. -/

/-- One character inside a string. -/
def escapeChar (c : Char) : List Char :=
  if c = '"' then ['\\', '"']
  else if c = '\\' then ['\\', '\\']
  else if c = '\n' then ['\\', 'n']
  else if c = '\r' then ['\\', 'r']
  else if c = '\t' then ['\\', 't']
  else if c = Char.ofNat 8 then ['\\', 'b']
  else if c = Char.ofNat 12 then ['\\', 'f']
  else if c.toNat < 0x20 then
    ['\\', 'u', '0', '0', Text.digitChar (c.toNat / 16), Text.digitChar (c.toNat % 16)]
  else [c]

/-- A string between quotes. -/
def quote (s : String) : List Char :=
  '"' :: (s.toList.flatMap escapeChar ++ ['"'])

/-- A scalar; containers are left to the two forms. -/
def renderScalar : Json → List Char
  | null => ['n', 'u', 'l', 'l']
  | bool true => ['t', 'r', 'u', 'e']
  | bool false => ['f', 'a', 'l', 's', 'e']
  | natural n => Text.render 10 n
  | negative n => '-' :: Text.render 10 (n + 1)
  | numeral cs => cs
  | text s => quote s
  | unreadable => ['n', 'u', 'l', 'l']
  | list _ => []
  | object _ => []

/-! ## §2. The compact form. -/

mutual

/-- The compact form of a value. -/
def render : Json → List Char
  | list items => '[' :: (renderItems items ++ [']'])
  | object fields => '\x7b' :: (renderFields fields ++ ['\x7d'])
  | v => renderScalar v

/-- Items separated by commas. -/
def renderItems : List Json → List Char
  | [] => []
  | [v] => render v
  | v :: rest => render v ++ ',' :: renderItems rest

/-- Fields separated by commas. -/
def renderFields : List (String × Json) → List Char
  | [] => []
  | [(name, v)] => quote name ++ ':' :: render v
  | (name, v) :: rest => quote name ++ ':' :: (render v ++ ',' :: renderFields rest)

end

/-- The compact text of a value. -/
def compact (v : Json) : String :=
  String.ofList (render v)

/-! ## §3. The indented form. -/

/-- A new line that is `level` steps deep. -/
def newLine (level : Nat) : List Char :=
  '\n' :: List.replicate (2 * level) ' '

mutual

/-- The indented form of a value that stands `level` steps deep. -/
def indented (level : Nat) : Json → List Char
  | list [] => ['[', ']']
  | list (v :: rest) =>
      '[' :: (newLine (level + 1) ++ indented (level + 1) v ++ indentedItems (level + 1) rest
        ++ newLine level ++ [']'])
  | object [] => ['\x7b', '\x7d']
  | object ((name, v) :: rest) =>
      '\x7b' :: (newLine (level + 1) ++ quote name ++ [':', ' '] ++ indented (level + 1) v
        ++ indentedFields (level + 1) rest ++ newLine level ++ ['\x7d'])
  | v => renderScalar v

/-- The items after the first one, each on its own line. -/
def indentedItems (level : Nat) : List Json → List Char
  | [] => []
  | v :: rest => ',' :: (newLine level ++ indented level v ++ indentedItems level rest)

/-- The fields after the first one, each on its own line. -/
def indentedFields (level : Nat) : List (String × Json) → List Char
  | [] => []
  | (name, v) :: rest =>
      ',' :: (newLine level ++ quote name ++ [':', ' '] ++ indented level v
        ++ indentedFields level rest)

end

/-- The indented text of a value. -/
def pretty (v : Json) : String :=
  String.ofList (indented 0 v)

end DebugMerge.Json
