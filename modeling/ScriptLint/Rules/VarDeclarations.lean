/-
Declarations with `var`, and when `let` can take its place.

The fix is offered only where `let` keeps the meaning of the program: every
name is used inside the declaring block, never before its declaration, not from
a function made inside a loop, and is not declared twice.
-/
import ScriptLint.Rule.Basic

namespace ScriptLint

namespace Rules

open Scope (functionScope declarationKeyword?)

def statementListKinds : List String := ["program", "statement_block", "export_statement"]

def lexicalBlockKinds : List String := ["statement_block", "switch_body", "class_static_block"]

/-- The names of declarators, if every declarator binds a plain identifier. -/
def plainNames? : List Node → Option (List Node)
  | [] => some []
  | declarator :: rest =>
    match declarator.childByField? "name" with
    | none => none
    | some name =>
      if name.kind = "identifier" then (plainNames? rest).map (name :: ·) else none

/-- The plain identifiers that a declaration or loop head binds; none for destructuring. -/
def plainBindings? (node : Node) : Option (List Node) :=
  if node.kind = "for_in_statement" then
    ((node.childByField? "left").filter (·.kind = "identifier")).map ([·])
  else
    (plainNames? (node.namedChildren.filter (·.kind = "variable_declarator"))).filter
      (!·.isEmpty)

def isForInitializer (node : Node) : Bool :=
  node.parent?.any (·.kind = "for_statement") && node.field = some "initializer"

/-- The region in which a `let` in this place is visible. -/
def letRegion (node : Node) : Node :=
  if node.kind = "for_in_statement" then node
  else
    match node.parent? with
    | some parent => if isForInitializer node then parent else node.enclosing lexicalBlockKinds
    | none => node.enclosing lexicalBlockKinds

/-- The innermost loop around a node, up to a boundary. -/
def loopWithin? (boundary : Nat) : List Node → Option Node
  | [] => none
  | ancestor :: rest =>
    if ancestor.id = boundary then none
    else if Scope.loopKinds.contains ancestor.kind then some ancestor
    else loopWithin? boundary rest

/-- The loop that runs a declaration anew in every round. -/
def loopAround? (node : Node) : Option Node :=
  if node.kind = "for_in_statement" then some node
  else loopWithin? (functionScope node).id node.ancestors

/-- Uses that start before this offset would run before the binding exists. -/
def bindingStart (node identifier : Node) : Nat :=
  if node.kind = "for_in_statement" then
    ((node.childByField? "right").map Node.stop).getD identifier.stop
  else (identifier.parent?.map Node.stop).getD identifier.stop

/-- Whether a use of a name means the same with `let`. -/
def useAllows (node identifier use : Node) : Bool :=
  (letRegion node).covers use && bindingStart node identifier ≤ use.start &&
    ((loopAround? node).isNone || (functionScope use).id == (functionScope node).id)

/-- In a loop, a declarator without a value would be reset in every round. -/
def valueAllows (node identifier : Node) : Bool :=
  !((loopAround? node).isSome && node.kind = "variable_declaration" &&
    (identifier.parent?.bind (·.childByField? "value")).isNone)

/-- Whether `let` can bind one of the names of a declaration. -/
def identifierAllows (ctx : Context) (node identifier : Node) : Except Failure Bool :=
  if ctx.text identifier = "let" then .ok false
  else
    match ctx.scopes with
    | .error failure => .error failure
    | .ok table =>
      match table.variableOf? ctx.source identifier with
      | none => .ok false
      | some v =>
        .ok (!v.redeclared &&
          v.references.all (fun reference => useAllows node identifier reference.identifier) &&
          valueAllows node identifier)

/-- Asks for one name after another until one refuses. -/
def allAllow (ctx : Context) (node : Node) : List Node → Except Failure Bool
  | [] => .ok true
  | identifier :: rest =>
    match identifierAllows ctx node identifier with
    | .ok true => allAllow ctx node rest
    | other => other

/-- Whether the statement of a declaration may be a lexical one. -/
def placeAllows (node : Node) : Bool :=
  match node.parent? with
  | none => false
  | some parent =>
    parent.kind ≠ "switch_case" && parent.kind ≠ "switch_default" &&
      (node.kind ≠ "variable_declaration" || statementListKinds.contains parent.kind ||
        isForInitializer node)

def canUseLet (ctx : Context) (node : Node) : Except Failure Bool :=
  if placeAllows node then
    match plainBindings? node with
    | none => .ok false
    | some identifiers => allAllow ctx node identifiers
  else .ok false

def reportVar (ctx : Context) (node : Node) (keyword : Option Node) : Emission :=
  let message := "Unexpected var, use let or const instead."
  match keyword with
  | none => ctx.report node message
  | some keyword =>
    match canUseLet ctx node with
    | .error failure => .failed failure
    | .ok false => ctx.report node message
    | .ok true => ctx.report node message [ctx.replace keyword "let"]

def checkVar : Handler := fun node ctx => [reportVar ctx node (node.childOfKind? "var")]

def checkLoopVar : Handler := fun node ctx =>
  match declarationKeyword? node with
  | some keyword => if keyword.kind = "var" then [reportVar ctx node (some keyword)] else []
  | none => []

def noVar : Rule where
  id := "no-var"
  name := "Unexpected var"
  description := "Use let or const instead of var; var is function-scoped and hoisted."
  fixable := true
  visitors :=
    [(.entering "variable_declaration", checkVar), (.entering "for_in_statement", checkLoopVar)]

end Rules

end ScriptLint
