/-
JSON values. Whole numbers written without a point or an exponent are kept
apart from binary64 numbers, and objects keep the order of their keys.
-/
import ScriptLint.Keyed
import ScriptLint.Number.Binary64

namespace ScriptLint

inductive Json where
  | null
  | bool (value : Bool)
  | int (value : Int)
  | float (value : Binary64)
  | string (value : String)
  | array (items : List Json)
  | object (fields : List (String × Json))
  deriving Repr, BEq, Inhabited

namespace Json

/-- The value of a key, for objects. -/
def get? (key : String) : Json → Option Json
  | .object fields => Keyed.get? key fields
  | _ => none

def ofOption {α : Type} (encode : α → Json) : Option α → Json
  | none => .null
  | some x => encode x

def ofNat (n : Nat) : Json := .int n

end Json

end ScriptLint
