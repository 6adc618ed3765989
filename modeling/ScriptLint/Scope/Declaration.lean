/-
Which names a node declares, and in which scope.

`var`, parameters and the names of function expressions belong to the enclosing
function or the program; `let`, `const`, classes and function declarations to
the nearest block, loop head or switch body; imports to the program.
-/
import ScriptLint.Failure
import ScriptLint.Scope.Kinds
import ScriptLint.Source.Basic

namespace ScriptLint

namespace Scope

mutual

/-- The binding names inside a declaration target, in source order. -/
def bindingsOf (above : List Tree) : Tree → List Node
  | tree@(.node _ label children) =>
    if label.kind = "identifier" ∨ label.kind = "shorthand_property_identifier_pattern" then
      [⟨tree, above⟩]
    else if label.kind = "pair_pattern" then
      bindingsInField "value" (tree :: above) children
    else if label.kind = "assignment_pattern" ∨ label.kind = "object_assignment_pattern" then
      bindingsInField "left" (tree :: above) children
    else if label.kind = "object_pattern" ∨ label.kind = "array_pattern" ∨
        label.kind = "rest_pattern" then
      bindingsInAll (tree :: above) children
    else []

/-- The binding names of the first child that fills a field. -/
def bindingsInField (field : String) (above : List Tree) : List Tree → List Node
  | [] => []
  | child :: rest =>
    if child.label.field = some field then bindingsOf above child
    else bindingsInField field above rest

/-- The binding names of the named children that are not comments. -/
def bindingsInAll (above : List Tree) : List Tree → List Node
  | [] => []
  | child :: rest =>
    if child.label.named ∧ child.label.kind ≠ "comment" then
      bindingsOf above child ++ bindingsInAll above rest
    else bindingsInAll above rest

end

def bindings (target : Node) : List Node := bindingsOf target.above target.tree

/-- The `var`, `let` or `const` token of a declaration or loop head. -/
def declarationKeyword? (node : Node) : Option Node :=
  node.childByField? "kind" <|>
    node.children.find? fun child => ["var", "let", "const"].contains child.kind

def functionScope (node : Node) : Node := node.enclosing functionKinds

def blockScope (node : Node) : Node := node.enclosing (blockKinds ++ functionKinds)

/-- A name bound in a scope; `kind` says by what. -/
structure Declaration where
  identifier : Node
  kind : String
  scope : Node

def declareAll (identifiers : List Node) (kind : String) (scope : Node) : List Declaration :=
  identifiers.map fun identifier => ⟨identifier, kind, scope⟩

def targetsOf (target : Option Node) : List Node :=
  match target with
  | none => []
  | some node => bindings node

/-- The names bound by the declarators of a declaration. -/
def declaratorTargets (node : Node) : List Node :=
  (node.namedChildren.filter (·.kind = "variable_declarator")).flatMap fun declarator =>
    targetsOf (declarator.childByField? "name")

def parameters (function : Node) : List Node :=
  match function.childByField? "parameter" with
  | some single => [single]
  | none => ((function.childByField? "parameters").map Node.namedChildren).getD []

/-- The name that a function binds: a declaration in the block around it, an expression inside
itself. Methods bind no name. -/
def functionName (node : Node) : List Declaration :=
  match node.childByField? "name" with
  | none => []
  | some name =>
    if node.kind = "method_definition" then []
    else if node.kind.endsWith "_declaration" then [⟨name, "function", blockScope node⟩]
    else [⟨name, "function", node⟩]

def className (node : Node) : List Declaration :=
  match node.childByField? "name" with
  | none => []
  | some name =>
    [⟨name, "class", if node.kind = "class_declaration" then blockScope node else node⟩]

/-- The names that a loop over a collection declares in its head. -/
def loopHead (node : Node) : List Declaration :=
  match declarationKeyword? node with
  | none => []
  | some keyword =>
    declareAll (targetsOf (node.childByField? "left")) keyword.kind
      (if keyword.kind = "var" then functionScope node else node)

/-- The names that a node declares by itself, in source order. -/
def declarationsAt (node : Node) : Except Failure (List Declaration) :=
  if node.kind = "variable_declaration" then
    .ok (declareAll (declaratorTargets node) "var" (functionScope node))
  else if node.kind = "lexical_declaration" then
    .ok (declareAll (declaratorTargets node)
      (((declarationKeyword? node).map Node.kind).getD "let") (blockScope node))
  else if node.kind = "for_in_statement" then .ok (loopHead node)
  else if functionKinds.contains node.kind then
    .ok (functionName node ++ declareAll ((parameters node).flatMap bindings) "param" node)
  else if node.kind = "class_declaration" ∨ node.kind = "class" then .ok (className node)
  else if node.kind = "catch_clause" then
    .ok (declareAll (targetsOf (node.childByField? "parameter")) "catch" node)
  else if node.kind = "import_specifier" then
    match node.childByField? "alias" <|> node.childByField? "name" with
    | none => .error .unnamedImport
    | some name => .ok [⟨name, "import", node.rootOf⟩]
  else if node.kind = "import_clause" ∨ node.kind = "namespace_import" then
    .ok (declareAll (node.namedChildren.filter (·.kind = "identifier")) "import" node.rootOf)
  else .ok []

end Scope

end ScriptLint
