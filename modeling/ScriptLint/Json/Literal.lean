/-
The text of a JSON value inside a message. A whole number with too many digits
has none, and neither has a value that holds one (`hasLiteral`).
-/
import ScriptLint.Json.Value
import ScriptLint.Number.Shortest
import ScriptLint.Text.Digits
import ScriptLint.Text.Quoted

namespace ScriptLint

namespace Json

mutual

def literal : Json → String
  | .null => "None"
  | .bool true => "True"
  | .bool false => "False"
  | .int value => toString value
  | .float value => value.text
  | .string value => quoted value
  | .array items => "[" ++ String.intercalate ", " (literals items) ++ "]"
  | .object fields => "\x7b" ++ String.intercalate ", " (fieldLiterals fields) ++ "\x7d"

def literals : List Json → List String
  | [] => []
  | item :: items => literal item :: literals items

def fieldLiterals : List (String × Json) → List String
  | [] => []
  | (key, value) :: fields => (quoted key ++ ": " ++ literal value) :: fieldLiterals fields

end

mutual

/-- Whether all whole numbers in a value have few enough digits to be written. -/
def hasLiteral : Json → Bool
  | .int value => value.natAbs < Nat.pow 10 digitLimit
  | .array items => haveLiterals items
  | .object fields => fieldsHaveLiterals fields
  | _ => true

def haveLiterals : List Json → Bool
  | [] => true
  | item :: items => hasLiteral item && haveLiterals items

def fieldsHaveLiterals : List (String × Json) → Bool
  | [] => true
  | (_, value) :: fields => hasLiteral value && fieldsHaveLiterals fields

end

end Json

end ScriptLint
