/-
Semicolons that end nothing.
-/
import ScriptLint.Rule.Basic

namespace ScriptLint

namespace Rules

/-- Where an empty statement is a proper body. -/
def emptyBodyParents : List String :=
  ["for_statement", "for_in_statement", "while_statement", "do_statement", "if_statement",
   "else_clause", "labeled_statement", "with_statement"]

def extraSemicolon (ctx : Context) (node : Node) : Emission :=
  ctx.report node "Unnecessary semicolon." [ctx.remove node]

def checkEmptyStatement : Handler := fun node ctx =>
  if node.parent?.any fun parent => emptyBodyParents.contains parent.kind then []
  else [extraSemicolon ctx node]

/-- The semicolons of a class body that do not end a field, comments passed over. -/
def looseSemicolons : Option String → List Node → List Node
  | _, [] => []
  | previous, child :: rest =>
    if child.kind = "comment" then looseSemicolons previous rest
    else
      let later := looseSemicolons (some child.kind) rest
      if child.kind = ";" ∧ previous ≠ some "field_definition" then child :: later else later

def checkClassBody : Handler := fun node ctx =>
  (looseSemicolons none node.children).map (extraSemicolon ctx)

def noExtraSemi : Rule where
  id := "no-extra-semi"
  name := "No extra semicolons"
  description := "Stray semicolons are harmless but noisy; they are removed by --fix."
  fixable := true
  visitors :=
    [(.entering "empty_statement", checkEmptyStatement), (.entering "class_body", checkClassBody)]

end Rules

end ScriptLint
