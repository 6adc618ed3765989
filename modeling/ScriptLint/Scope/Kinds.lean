/-
The node kinds that matter for scoping.
-/
namespace ScriptLint

namespace Scope

def functionKinds : List String :=
  ["function_declaration", "function_expression", "function", "arrow_function",
   "method_definition", "generator_function_declaration", "generator_function"]

def blockKinds : List String :=
  ["statement_block", "for_statement", "for_in_statement", "switch_body", "catch_clause",
   "class_static_block"]

def loopKinds : List String :=
  ["for_statement", "for_in_statement", "while_statement", "do_statement"]

/-- Destructuring patterns and their parts. -/
def patternKinds : List String :=
  ["object_pattern", "array_pattern", "pair_pattern", "rest_pattern", "assignment_pattern",
   "object_assignment_pattern"]

/-- Kinds of the leaves that may refer to a variable. -/
def referenceKinds : List String :=
  ["identifier", "shorthand_property_identifier", "shorthand_property_identifier_pattern"]

def elementNameParents : List String :=
  ["jsx_opening_element", "jsx_closing_element", "jsx_self_closing_element"]

/-- Labels are names of their own. -/
def labelParents : List String := ["labeled_statement", "break_statement", "continue_statement"]

end Scope

end ScriptLint
