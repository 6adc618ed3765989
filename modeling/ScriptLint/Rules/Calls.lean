/-
Rules about calls: `eval`, constructors without parentheses, and the two
deprecated properties of `arguments`.
-/
import ScriptLint.Rule.Basic

namespace ScriptLint

namespace Rules

def globalObjects : List String := ["window", "globalThis", "global", "self"]

/-- Whether a callee is `eval`, by itself or as a property of the global object. -/
def isEval (ctx : Context) (callee : Node) : Bool :=
  if callee.kind = "identifier" then ctx.text callee = "eval"
  else if callee.kind = "member_expression" then
    match callee.childByField? "object", callee.childByField? "property" with
    | some object, some property =>
      object.kind = "identifier" && globalObjects.contains (ctx.text object) &&
        ctx.text property = "eval"
    | _, _ => false
  else false

def checkEval : Handler := fun node ctx =>
  match node.childByField? "function" with
  | some callee => if isEval ctx callee then [ctx.report callee "eval can be harmful."] else []
  | none => []

def noEval : Rule where
  id := "no-eval"
  name := "No eval"
  description := "eval() runs arbitrary strings as code; it is slow and a common injection vector."
  visitors := [(.entering "call_expression", checkEval)]

def checkParens : Handler := fun node ctx =>
  match node.childByField? "arguments" with
  | some _ => []
  | none =>
    [ctx.report node "Missing '()' invoking a constructor." [ctx.insertAfter node "()"]]

def newParens : Rule where
  id := "new-parens"
  name := "Require parentheses for new"
  description :=
    "Without parentheses, `new Thing` followed by a line without a semicolon can parse " ++
      "unexpectedly."
  fixable := true
  visitors := [(.entering "new_expression", checkParens)]

def checkCaller : Handler := fun node ctx =>
  match node.childByField? "object", node.childByField? "property" with
  | some object, some property =>
    let name := ctx.text property
    if object.kind = "identifier" ∧ ctx.text object = "arguments" ∧
        (name = "callee" ∨ name = "caller") then
      [ctx.report node s!"Avoid arguments.{name}."]
    else []
  | _, _ => []

def noCaller : Rule where
  id := "no-caller"
  name := "No arguments.caller/callee"
  description :=
    "arguments.caller and arguments.callee are deprecated and forbidden in strict mode."
  visitors := [(.entering "member_expression", checkCaller)]

end Rules

end ScriptLint
