/-
Rules about the flow of control: switches without a default, and statements
that can never run.
-/
import ScriptLint.Rule.Basic

namespace ScriptLint

namespace Rules

/-! ## Switches without a default -/

/-- The text of a comment without its marks and the blanks around it. -/
def commentBody (text : String) : List Char :=
  match text.toList with
  | '/' :: '/' :: rest => Chars.strip rest
  | '/' :: '*' :: rest =>
    match rest.reverse, text.toList.reverse with
    | '/' :: '*' :: inner, _ => Chars.strip inner.reverse
    | _, '/' :: '*' :: _ => []
    | _, _ => Chars.strip text.toList
  | cs => Chars.strip cs

def commentPattern : RuleOptions → String
  | .commentPattern pattern => pattern
  | _ => Reading.defaultCommentPattern

/-- Whether a comment says that a default is left out on purpose. -/
def excusesDefault (pattern : String) (comment : String) : Bool :=
  (Pattern.parse? pattern).any (·.occursIn (commentBody comment))

def isCase (node : Node) : Bool := node.kind = "switch_case" || node.kind = "switch_default"

def checkDefault : Handler := fun node ctx =>
  match node.childByField? "body" with
  | none => []
  | some body =>
    let cases := body.namedChildren.filter isCase
    match cases.getLast? with
    | none => []
    | some last =>
      if cases.any (·.kind = "switch_default") then []
      else
        let comments := body.walk.filter fun leaf =>
          leaf.kind = "comment" && last.start ≤ leaf.start
        let excused := match comments.getLast? with
          | some comment => excusesDefault (commentPattern ctx.options) (ctx.text comment)
          | none => false
        if excused then [] else [ctx.report node "Expected a default case."]

def defaultCase : Rule where
  id := "default-case"
  name := "Require default case"
  description := "A switch without default silently ignores unexpected values."
  readOptions := some Reading.readCommentPattern
  visitors := [(.entering "switch_statement", checkDefault)]

/-! ## Unreachable statements -/

/-- Statements that end a list of statements, and the word for each. -/
def terminators : List (String × String) :=
  [("return_statement", "return"), ("throw_statement", "throw"), ("break_statement", "break"),
   ("continue_statement", "continue")]

def statementLists : List String := ["program", "statement_block", "switch_case", "switch_default"]

/-- Hoisted declarations and variables without a value take effect wherever they stand. -/
def standsAnywhere (node : Node) : Bool :=
  node.kind = "function_declaration" || node.kind = "generator_function_declaration" ||
    (node.kind = "variable_declaration" &&
      (node.namedChildren.filter (·.kind = "variable_declarator")).all fun declarator =>
        (declarator.childByField? "value").isNone)

/-- The first statement that cannot run, and the word for what ended the list before it. -/
def firstUnreachable? : Option String → List Node → Option (Node × String)
  | _, [] => none
  | ended, statement :: rest =>
    if statement.field = some "value" then firstUnreachable? ended rest
    else
      match ended with
      | some word =>
        if standsAnywhere statement then firstUnreachable? ended rest else some (statement, word)
      | none => firstUnreachable? (Keyed.get? statement.kind terminators) rest

def checkReachable : Handler := fun node ctx =>
  match firstUnreachable? none node.namedChildren with
  | some (statement, word) => [ctx.report statement s!"Unreachable code after '{word}'."]
  | none => []

def noUnreachable : Rule where
  id := "no-unreachable"
  name := "No unreachable code"
  description :=
    "Code after return, throw, break or continue never runs and usually hides a logic bug."
  visitors := statementLists.map fun kind => (.entering kind, checkReachable)

end Rules

end ScriptLint
