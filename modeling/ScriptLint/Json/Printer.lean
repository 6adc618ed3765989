/-
JSON text. A value is written on one line without blanks, or over several lines
with a fixed indent per level; an empty list or object stays on one line either
way.
-/
import ScriptLint.Json.Value
import ScriptLint.Number.Shortest
import ScriptLint.Text.Hex

namespace ScriptLint

namespace Json

/-- Quotes, backslashes and controls are escaped, all other characters written as they are. -/
def escapeChar (c : Char) : List Char :=
  if c = '"' then ['\\', '"']
  else if c = '\\' then ['\\', '\\']
  else if c = '\n' then ['\\', 'n']
  else if c = '\r' then ['\\', 'r']
  else if c = '\t' then ['\\', 't']
  else if c.toNat = 8 then ['\\', 'b']
  else if c.toNat = 12 then ['\\', 'f']
  else if c.toNat < 32 then '\\' :: 'u' :: hexDigits 4 c.toNat
  else [c]

def stringChars (s : String) : List Char :=
  '"' :: s.toList.flatMap escapeChar ++ ['"']

/-- The line break before an item or a closing bracket at a depth. -/
def lineBreak (indent : Option Nat) (depth : Nat) : List Char :=
  match indent with
  | none => []
  | some width => '\n' :: List.replicate (width * depth) ' '

def colon (indent : Option Nat) : List Char :=
  if indent.isSome then [':', ' '] else [':']

mutual

def chars (indent : Option Nat) (depth : Nat) : Json → List Char
  | .null => ['n', 'u', 'l', 'l']
  | .bool true => ['t', 'r', 'u', 'e']
  | .bool false => ['f', 'a', 'l', 's', 'e']
  | .int value => (toString value).toList
  | .float value => value.text.toList
  | .string value => stringChars value
  | .array [] => ['[', ']']
  | .array (item :: items) =>
    '[' :: lineBreak indent (depth + 1) ++ chars indent (depth + 1) item ++
      itemsChars indent depth items
  | .object [] => ['\x7b', '\x7d']
  | .object ((key, value) :: fields) =>
    '\x7b' :: lineBreak indent (depth + 1) ++ stringChars key ++ colon indent ++
      chars indent (depth + 1) value ++ fieldsChars indent depth fields

/-- The items after the first, and the closing bracket. -/
def itemsChars (indent : Option Nat) (depth : Nat) : List Json → List Char
  | [] => lineBreak indent depth ++ [']']
  | item :: items =>
    ',' :: lineBreak indent (depth + 1) ++ chars indent (depth + 1) item ++
      itemsChars indent depth items

/-- The fields after the first, and the closing bracket. -/
def fieldsChars (indent : Option Nat) (depth : Nat) : List (String × Json) → List Char
  | [] => lineBreak indent depth ++ ['\x7d']
  | (key, value) :: fields =>
    ',' :: lineBreak indent (depth + 1) ++ stringChars key ++ colon indent ++
      chars indent (depth + 1) value ++ fieldsChars indent depth fields

end

def render (indent : Option Nat) (value : Json) : String :=
  String.ofList (chars indent 0 value)

end Json

end ScriptLint
