import RecordStore.Json.Basic

/-! Writing JSON, on one line or indented by two spaces a level. Both layouts write the same tokens;
they differ in the blanks between them alone. Empty containers stay on one line in either. -/
namespace RecordStore.Json

inductive Layout where
  | compact
  | indented
deriving DecidableEq

namespace Layout

/-- What separates the items of a container that stands at the given level. -/
def lineBreak : Layout → Nat → List Char
  | compact, _ => []
  | indented, level => '\n' :: List.replicate (2 * level) ' '

def colon : Layout → List Char
  | compact => [':']
  | indented => [':', ' ']

end Layout

def hexDigit (n : Nat) : Char := Nat.digitChar n

def escaped (c : Char) : List Char :=
  if c = '"' then ['\\', '"']
  else if c = '\\' then ['\\', '\\']
  else if c = '\x08' then ['\\', 'b']
  else if c = '\x0c' then ['\\', 'f']
  else if c = '\n' then ['\\', 'n']
  else if c = '\r' then ['\\', 'r']
  else if c = '\t' then ['\\', 't']
  else if c.toNat < 0x20 then
    ['\\', 'u', '0', '0', hexDigit (c.toNat / 16), hexDigit (c.toNat % 16)]
  else [c]

def quoted (text : String) : List Char :=
  '"' :: text.toList.flatMap escaped ++ ['"']

mutual

/-- The text of a value whose first line stands at the given level. -/
def write (layout : Layout) (level : Nat) : Json → List Char
  | null => ['n', 'u', 'l', 'l']
  | bool true => ['t', 'r', 'u', 'e']
  | bool false => ['f', 'a', 'l', 's', 'e']
  | number n => n.text
  | string s => quoted s
  | array [] => ['[', ']']
  | array (item :: rest) =>
    '[' :: layout.lineBreak (level + 1) ++ write layout (level + 1) item ++
      writeItems layout (level + 1) rest ++ layout.lineBreak level ++ [']']
  | object [] => ['{', '}']
  | object ((key, value) :: rest) =>
    '{' :: layout.lineBreak (level + 1) ++ quoted key ++ layout.colon ++
      write layout (level + 1) value ++ writeMembers layout (level + 1) rest ++
      layout.lineBreak level ++ ['}']

def writeItems (layout : Layout) (level : Nat) : List Json → List Char
  | [] => []
  | item :: rest =>
    ',' :: layout.lineBreak level ++ write layout level item ++ writeItems layout level rest

def writeMembers (layout : Layout) (level : Nat) : List (String × Json) → List Char
  | [] => []
  | (key, value) :: rest =>
    ',' :: layout.lineBreak level ++ quoted key ++ layout.colon ++ write layout level value ++
      writeMembers layout level rest

end

def compactText (value : Json) : String := String.ofList (value.write .compact 0)

def indentedText (value : Json) : String := String.ofList (value.write .indented 0)

end RecordStore.Json
