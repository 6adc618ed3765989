/-
Scope analysis: the variables of a file and every use of them.

First all declarations are collected in document order, then every reference is
resolved to the innermost enclosing scope that declares its name anywhere in
the file. References that resolve nowhere are uses of globals. `with` and
direct `eval` are not modelled.
-/
import ScriptLint.Scope.Reference

namespace ScriptLint

namespace Scope

structure Variable where
  name : String
  /-- What the first declaration binds it as: var, let, const, function, class, param, catch or
  import. -/
  kind : String
  scope : Node
  identifiers : List Node
  references : List Reference

namespace Variable

def redeclared (v : Variable) : Bool := 1 < v.identifiers.length

def reads (v : Variable) : List Reference := v.references.filter (·.read)

/-- Whether a variable stands for a name in the scope with a number. -/
def isAt (v : Variable) (scope : Nat) (name : String) : Bool :=
  v.scope.id == scope && v.name == name

end Variable

structure Table where
  vars : List Variable
  unresolved : List Reference
  /-- All declarations in document order. -/
  declarations : List Declaration

/-- Adds a declaration to the variable of its scope and name, which it creates if need be. -/
def addDeclaration (name : String) (declaration : Declaration) : List Variable → List Variable
  | [] => [⟨name, declaration.kind, declaration.scope, [declaration.identifier], []⟩]
  | v :: rest =>
    if v.isAt declaration.scope.id name then
      { v with identifiers := v.identifiers ++ [declaration.identifier] } :: rest
    else v :: addDeclaration name declaration rest

/-- The number of the innermost scope around a node that declares a name. -/
def resolve? (vars : List Variable) (identifier : Node) (name : String) : Option Nat :=
  (identifier.ancestors.find? fun scope => vars.any (·.isAt scope.id name)).map Node.id

/-- Enters a use of a name with the variable it resolves to, or as a use of a global. -/
def addReference (table : Table) (reference : Reference) : Table :=
  match resolve? table.vars reference.identifier reference.name with
  | none => { table with unresolved := table.unresolved ++ [reference] }
  | some scope =>
    { table with
      vars := table.vars.map fun v =>
        if v.isAt scope reference.name then
          { v with references := v.references ++ [reference] }
        else v }

def declarationsIn : List Node → Except Failure (List Declaration)
  | [] => .ok []
  | node :: rest =>
    match declarationsAt node with
    | .error failure => .error failure
    | .ok here =>
      match declarationsIn rest with
      | .error failure => .error failure
      | .ok later => .ok (here ++ later)

/-- The identifiers among some nodes that use a name without declaring it. -/
def referencesIn (source : Source) (declared : List Nat) (nodes : List Node) : List Reference :=
  nodes.filterMap fun node =>
    if referenceKinds.contains node.kind && !declared.contains node.id then
      let name := source.textOf node
      if isReference node name then some (referenceOf node name) else none
    else none

def analyze (source : Source) : Except Failure Table :=
  let nodes := source.root.walk
  match declarationsIn nodes with
  | .error failure => .error failure
  | .ok declarations =>
    let vars := declarations.foldl
      (fun vars declaration =>
        addDeclaration (source.textOf declaration.identifier) declaration vars) []
    let references :=
      referencesIn source (declarations.map fun declaration => declaration.identifier.id) nodes
    .ok (references.foldl addReference ⟨vars, [], declarations⟩)

namespace Table

/-- The place in the variable list of the variable that an identifier declares last or, if it
declares none, refers to. -/
def indexOf? (table : Table) (source : Source) (identifier : Node) : Option Nat :=
  match table.declarations.reverse.find? (·.identifier.id = identifier.id) with
  | some declaration =>
    let name := source.textOf identifier
    table.vars.findIdx? (·.isAt declaration.scope.id name)
  | none =>
    table.vars.findIdx? fun v =>
      v.references.any (·.identifier.id = identifier.id)

def variableOf? (table : Table) (source : Source) (identifier : Node) : Option Variable :=
  (table.indexOf? source identifier).bind (table.vars[·]?)

/-- The variables of a scope in order of declaration. -/
def variablesIn (table : Table) (scope : Node) : List Variable :=
  table.vars.filter (·.scope.id = scope.id)

end Table

end Scope

end ScriptLint
