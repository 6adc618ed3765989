/-
Which identifiers are uses of a name, and whether a use reads or writes it.
-/
import ScriptLint.Scope.Declaration
import ScriptLint.Text.Case

namespace ScriptLint

namespace Scope

/-- One use of a name. A plain assignment target is a write and not a read. -/
structure Reference where
  identifier : Node
  name : String
  read : Bool
  write : Bool

structure Access where
  read : Bool
  write : Bool
  deriving Repr, DecidableEq

def Access.reads : Access := ⟨true, false⟩
def Access.writes : Access := ⟨false, true⟩
def Access.updates : Access := ⟨true, true⟩

/-- How the parts of an assignment, loop or update use a target that fills a field. -/
def accessIn (parent : Label) (field : Option String) : Access :=
  if parent.kind = "assignment_expression" ∧ field = some "left" then .writes
  else if parent.kind = "for_in_statement" ∧ field = some "left" then .writes
  else if parent.kind = "augmented_assignment_expression" ∧ field = some "left" then .updates
  else if parent.kind = "update_expression" then .updates
  else .reads

/-- Climbs out of destructuring patterns; a default value is only read. -/
def accessUnder (field : Option String) : List Tree → Access
  | [] => .reads
  | parent :: above =>
    let label := parent.label
    if patternKinds.contains label.kind then
      if (label.kind = "assignment_pattern" ∨ label.kind = "object_assignment_pattern") ∧
          field ≠ some "left" then .reads
      else accessUnder label.field above
    else accessIn label field

def access (identifier : Node) : Access := accessUnder identifier.field identifier.above

/-- Whether an export names its module, so that the names in it are not of this file. -/
def reexported (specifier : Node) : Bool :=
  match specifier.above with
  | _ :: statement :: above => ((⟨statement, above⟩ : Node).childByField? "source").isSome
  | _ => false

/-- `<div>` is an element of its own; `<Widget>` reads a variable. -/
def startsUpperCase (name : String) : Bool :=
  match name.toList with
  | [] => false
  | c :: _ => isUpperCase c

/-- Whether an identifier in this place uses the name it shows. -/
def isReference (node : Node) (name : String) : Bool :=
  match node.parent? with
  | none => false
  | some parent =>
    if parent.kind = "import_specifier" ∨ parent.kind = "namespace_export" then false
    else if parent.kind = "export_specifier" ∧ (node.field = some "alias" ∨ reexported parent) then
      false
    else if elementNameParents.contains parent.kind then
      parent.kind ≠ "jsx_closing_element" && startsUpperCase name
    else !labelParents.contains parent.kind

def referenceOf (identifier : Node) (name : String) : Reference :=
  let how := access identifier
  ⟨identifier, name, how.read, how.write⟩

end Scope

end ScriptLint
