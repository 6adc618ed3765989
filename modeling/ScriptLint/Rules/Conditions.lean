/-
Assignments where a condition is expected.

One pair of parentheses belongs to an `if`, `while` or `do` statement; a second
pair marks an assignment as intended, unless every assignment is refused. That
mode looks through the whole test, but not into functions and classes within it.
-/
import ScriptLint.Rule.Basic

namespace ScriptLint

namespace Rules

def isAssignment (kind : String) : Bool :=
  kind = "assignment_expression" || kind = "augmented_assignment_expression"

/-- Kinds of nodes inside a test whose own code is not part of the test. -/
def testBoundaries : List String :=
  ["function_expression", "function", "arrow_function", "function_declaration", "class",
   "class_declaration"]

/-- Conditional nodes and how a message calls them. -/
def conditionals : List (String × String) :=
  [("if_statement", "an 'if' statement"),
   ("while_statement", "a 'while' statement"),
   ("do_statement", "a 'do...while' statement"),
   ("for_statement", "a 'for' statement"),
   ("ternary_expression", "a conditional expression")]

def isOwnAssignment (node : Node) : Bool := isAssignment node.kind

mutual

/-- The assignments in a tree, down to functions and classes; their own nodes count, what is
inside them does not. -/
def assignmentsUnder (above : List Tree) : Tree → List Node
  | tree@(.node _ label children) =>
    (if isAssignment label.kind then [⟨tree, above⟩] else []) ++
      if testBoundaries.contains label.kind then []
      else assignmentsUnderAll (tree :: above) children

def assignmentsUnderAll (above : List Tree) : List Tree → List Node
  | [] => []
  | child :: rest => assignmentsUnder above child ++ assignmentsUnderAll above rest

end

/-- The assignments in a test in document order. The test itself is looked into, whatever its
kind. -/
def assignmentsIn (test : Node) : List Node :=
  (if isAssignment test.kind then [test] else []) ++
    assignmentsUnderAll (test.tree :: test.above) test.tree.children

/-- A node without the one pair of parentheses around it. -/
def unwrap (node : Node) : Node :=
  if node.kind = "parenthesized_expression" then
    match node.namedChildren with
    | [inner] => inner
    | _ => node
  else node

/-- The test of a conditional; one that is wrapped as a statement is taken out of it. -/
def testOf? (node : Node) : Option Node :=
  match node.childByField? "condition" with
  | none => none
  | some test =>
    let test := if test.kind = "expression_statement" then test.namedChildren.head? else some test
    test.filter fun test => test.kind ≠ "empty_statement" && test.named

def assignmentMode : RuleOptions → AssignmentMode
  | .assignment mode => mode
  | _ => .exceptParens

def checkCondition (place : String) : Handler := fun node ctx =>
  match testOf? node with
  | none => []
  | some test =>
    match assignmentMode ctx.options with
    | .always =>
      (assignmentsIn test).map fun assignment =>
        ctx.report assignment s!"Unexpected assignment within {place}."
    | .exceptParens =>
      let bare := node.kind = "for_statement" ∨ node.kind = "ternary_expression"
      let test := if bare then test else unwrap test
      if isAssignment test.kind then
        [ctx.report test
          s!"Expected a conditional expression and instead saw an assignment in {place}."]
      else []

def noCondAssign : Rule where
  id := "no-cond-assign"
  name := "No assignment in conditions"
  description := "An assignment in a test (if (x = 1)) is almost always a typo for a comparison."
  readOptions := some Reading.readAssignment
  visitors := conditionals.map fun (kind, place) => (.entering kind, checkCondition place)

end Rules

end ScriptLint
