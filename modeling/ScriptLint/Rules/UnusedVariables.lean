/-
Variables, functions and parameters that are never read.

Parameters are judged by function: unless all count, only those after the last
used one do. Names declared by an exported statement, names of function and
class expressions and caught exceptions are never reported.
-/
import ScriptLint.Rule.Basic

namespace ScriptLint

namespace Rules

open Scope (Variable)

def declarationKinds : List String :=
  ["variable_declaration", "lexical_declaration", "function_declaration",
   "generator_function_declaration", "class_declaration"]

/-- Whether the declaring statement itself is exported. -/
def isExported (identifier : Node) : Bool :=
  let decides := fun (ancestor : Node) =>
    declarationKinds.contains ancestor.kind || Scope.functionKinds.contains ancestor.kind
  match identifier.ancestors.find? decides with
  | some ancestor =>
    declarationKinds.contains ancestor.kind &&
      ancestor.parent?.any (·.kind = "export_statement")
  | none => false

/-- Whether a name is taken out of an object beside a rest element. -/
def hasRestSibling (identifier : Node) : Bool :=
  let property := match identifier.parent? with
    | some parent => if parent.kind = "pair_pattern" then parent else identifier
    | none => identifier
  property.parent?.any fun pattern =>
    pattern.kind = "object_pattern" && pattern.namedChildren.any (·.kind = "rest_pattern")

/-- The declarator or loop head that a name belongs to, outside all patterns. -/
def bindingHolder? (identifier : Node) : Option Node :=
  identifier.ancestors.find? fun ancestor => !Scope.patternKinds.contains ancestor.kind

def firstIdentifier? (v : Variable) : Option Node := v.identifiers.head?

/-- Whether a use stands inside the function that it names. -/
def isRecursive (v : Variable) (use : Node) : Bool :=
  v.kind = "function" &&
    ((firstIdentifier? v).bind Node.parent?).any fun declaration => declaration.covers use

/-- A function that only calls itself is not used. -/
def isUsed (v : Variable) : Bool :=
  v.reads.any fun reference => !isRecursive v reference.identifier

def firstStart (v : Variable) : Nat := ((firstIdentifier? v).map Node.start).getD 0

/-- The unused parameters after the last used one. -/
def paramsAfterUsed (params : List Variable) : List Variable :=
  let sorted := params.mergeSort fun a b => firstStart a ≤ firstStart b
  (sorted.reverse.takeWhile fun v => !isUsed v).reverse

/-- Whether a parameter counts in a mode, among all variables of the file. -/
def paramCounts (mode : ArgumentMode) (vars : List Variable) (param : Variable) : Bool :=
  match mode with
  | .none => false
  | .all => true
  | .afterUsed =>
    let params := vars.filter fun v => v.kind = "param" && v.scope.id = param.scope.id
    (paramsAfterUsed params).any (·.isAt param.scope.id param.name)

/-- The name of a function or class expression is visible only inside it. -/
def namesItself (v : Variable) : Bool :=
  (v.kind = "function" || v.kind = "class") &&
    ((firstIdentifier? v).bind Node.parent?).any (·.id = v.scope.id)

def unusedOptions : RuleOptions → UnusedOptions
  | .unused options => options
  | _ => {}

/-- Whether a variable is reported at the end of a program. Element syntax uses React. -/
def isReported (options : UnusedOptions) (vars : List Variable) (program : Node)
    (usesElements : Bool) (v : Variable) : Bool :=
  v.kind ≠ "catch" && !namesItself v && !isUsed v &&
    (v.kind ≠ "param" || paramCounts options.args vars v) &&
    !(v.name = "React" && usesElements) &&
    !(options.vars = .local && v.scope.id = program.id) &&
    !(firstIdentifier? v).any isExported &&
    !(options.ignoreRestSiblings && (firstIdentifier? v).any hasRestSibling)

/-- Whether a variable gets a value that nothing reads. -/
def isAssigned (v : Variable) : Bool :=
  v.references.any (·.write) ||
    ((firstIdentifier? v).bind bindingHolder?).any fun holder =>
      (holder.kind = "variable_declarator" && (holder.childByField? "value").isSome) ||
        holder.kind = "for_in_statement"

def unusedMessage (v : Variable) : String :=
  if isAssigned v then s!"'{v.name}' is assigned a value but never used."
  else s!"'{v.name}' is defined but never used."

def checkUnused : Handler := fun node ctx =>
  match ctx.scopes with
  | .error failure => [.failed failure]
  | .ok table =>
    let usesElements := node.walk.any (·.kind.startsWith "jsx_")
    let reported := table.vars.filter
      (isReported (unusedOptions ctx.options) table.vars node usesElements)
    reported.filterMap fun v =>
      (firstIdentifier? v).map fun identifier => ctx.report identifier (unusedMessage v)

def noUnusedVars : Rule where
  id := "no-unused-vars"
  name := "No unused variables"
  description :=
    "A variable that is declared but never read is dead code or a typo for another name."
  readOptions := some Reading.readUnused
  visitors := [(.leaving "program", checkUnused)]

end Rules

end ScriptLint
