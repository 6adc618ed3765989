/-
Rules about comparisons: loose equality, and a value compared with itself.
-/
import ScriptLint.Rule.Basic

namespace ScriptLint

namespace Rules

/-! ## Loose equality -/

def literalKinds : List String :=
  ["string", "number", "true", "false", "null", "template_string", "regex"]

/-- What sort of literal a node is; both truth values are of one sort. -/
def literalSort? (node : Node) : Option String :=
  if node.kind = "true" ∨ node.kind = "false" then some "boolean"
  else if literalKinds.contains node.kind then some node.kind
  else none

def isTypeof (node : Node) : Bool :=
  node.kind = "unary_expression" &&
    (node.childByField? "operator").any (·.kind = "typeof")

def sameLiteralSort (left right : Node) : Bool :=
  (literalSort? left).isSome && literalSort? left == literalSort? right

def equalityMode : RuleOptions → EqualityMode
  | .equality mode => mode
  | _ => .always

/-- Strictness changes nothing between two literals of one sort or beside a `typeof`. -/
def safeToTighten (left right : Node) : Bool :=
  isTypeof left || isTypeof right || sameLiteralSort left right

/-- Whether a mode lets a loose comparison of two operands stand. -/
def looseAllowed (mode : EqualityMode) (left right : Node) : Bool :=
  let beside_null := left.kind = "null" || right.kind = "null"
  match mode with
  | .always => false
  | .allowNull => beside_null
  | .smart => beside_null || safeToTighten left right

def checkEquality : Handler := fun node ctx =>
  match node.childByField? "operator", node.childByField? "left", node.childByField? "right" with
  | some operator, some left, some right =>
    if operator.kind ≠ "==" ∧ operator.kind ≠ "!=" then []
    else if looseAllowed (equalityMode ctx.options) left right then []
    else
      let expected := operator.kind ++ "="
      let fixes := if safeToTighten left right then [ctx.replace operator expected] else []
      [ctx.report node s!"Expected '{expected}' and instead saw '{operator.kind}'." fixes]
  | _, _, _ => []

def eqeqeq : Rule where
  id := "eqeqeq"
  name := "Require === and !=="
  description := "Use === and !== to avoid type coercion surprises."
  fixable := true
  readOptions := some Reading.readEquality
  visitors := [(.entering "binary_expression", checkEquality)]

/-! ## Self comparison -/

def comparisonOperators : List String := ["==", "===", "!=", "!==", "<", ">", "<=", ">="]

/-- The texts of the leaves of a node, comments left out. -/
def tokenTexts (ctx : Context) (node : Node) : List String :=
  (node.walk.filter fun leaf => leaf.isLeaf && leaf.kind ≠ "comment").map ctx.text

def checkSelfCompare : Handler := fun node ctx =>
  match node.childByField? "operator", node.childByField? "left", node.childByField? "right" with
  | some operator, some left, some right =>
    if comparisonOperators.contains operator.kind && tokenTexts ctx left == tokenTexts ctx right then
      [ctx.report node "Comparing to itself is potentially pointless."]
    else []
  | _, _, _ => []

def noSelfCompare : Rule where
  id := "no-self-compare"
  name := "No self comparison"
  description :=
    "x === x is either a mistake or an obscure NaN test; use Number.isNaN() instead."
  visitors := [(.entering "binary_expression", checkSelfCompare)]

end Rules

end ScriptLint
