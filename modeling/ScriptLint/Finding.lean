/-
What a run reports: findings with their candidate fixes, and the fixes that
were left out because an earlier one had taken their range.
-/
import ScriptLint.Path
import ScriptLint.Severity
import ScriptLint.Span

namespace ScriptLint

/-- Replace the bytes of a span by a text. -/
structure Fix where
  span : Span
  text : String
  deriving Repr, DecidableEq

structure Finding where
  rule : String
  severity : Severity
  message : String
  path : Path
  span : Span
  fixes : List Fix := []
  nodeKind : Option String := none
  fatal : Bool := false
  deriving Repr, DecidableEq

namespace Finding

def fixable (finding : Finding) : Bool := !finding.fixes.isEmpty

/-- The rule name of findings about text that could not be read or parsed. -/
def parseErrorRule : String := "parse-error"

end Finding

/-- A finding whose candidate fixes were all blocked. -/
structure Conflict where
  rule : String
  path : Path
  span : Span
  blockedBy : String
  blockedSpan : Span
  message : String
  deriving Repr, DecidableEq

end ScriptLint
