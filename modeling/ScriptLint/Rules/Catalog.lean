/-
All built-in rules, by name.
-/
import ScriptLint.Rules.Calls
import ScriptLint.Rules.Comparisons
import ScriptLint.Rules.Conditions
import ScriptLint.Rules.ControlFlow
import ScriptLint.Rules.Globals
import ScriptLint.Rules.Members
import ScriptLint.Rules.Semicolons
import ScriptLint.Rules.UnusedVariables
import ScriptLint.Rules.VarDeclarations

namespace ScriptLint

namespace Rules

def builtin : List Rule :=
  [defaultCase, eqeqeq, newParens, noCaller, noCondAssign, noEmptyPattern, noEval, noExtraSemi,
   noRestrictedGlobals, noSelfCompare, noUnreachable, noUnusedVars, noUselessComputedKey, noVar,
   noWhitespaceBeforeProperty]

end Rules

/-- The rules that a configuration can name. -/
abbrev Catalog := Keyed Rule

namespace Catalog

/-- A rule with the name of one before it takes its place. -/
def ofRules (rules : List Rule) : Catalog := Keyed.ofPairs (rules.map fun rule => (rule.id, rule))

def builtin : Catalog := ofRules Rules.builtin

end Catalog

end ScriptLint
