/-
Linting and fixing one text.

A text that does not parse has one fatal finding. Fixing lints, applies fixes
and lints again, for as many passes as are allowed: it stops once a pass applies
nothing, and discards a pass whose output no longer parses.
-/
import ScriptLint.Engine
import ScriptLint.Fixing.Apply

namespace ScriptLint

/-- Everything that linting a text depends on. -/
structure Linter where
  parser : Parser
  rules : List ActiveRule
  fixPasses : Nat := 1

/-- Why a run stops: the parser has no tree for a text, or an edited text is not UTF-8. -/
inductive RunFailure where
  | noTree (text : String)
  | notUtf8
  deriving Repr, DecidableEq

def parseErrorFinding (path : Path) (error : ParseError) : Finding :=
  { rule := Finding.parseErrorRule
    severity := .error
    message := error.message
    path
    span :=
      { start := error.offset, stop := error.offset
        line := error.position.line, column := error.position.column }
    fatal := true }

namespace Linter

/-- The findings of a text in report order. -/
def lint (linter : Linter) (text : String) (path : Path) : Except RunFailure (List Finding) :=
  match Source.ofBytes linter.parser path (Utf8.encode text) with
  | .ok source => .ok (canonicalOrder (runRules source linter.rules))
  | .error (.parse error) => .ok [parseErrorFinding path error]
  | .error (.noTree text) => .error (.noTree text)

/-- How far fixing a text has come. -/
structure FixState where
  output : String
  findings : List Finding
  conflicts : List Conflict
  applied : Nat
  deriving Repr, DecidableEq

/-- What one more pass does: nothing to apply, an output that no longer parses, or a new state. -/
inductive Pass where
  | stable (conflicts : List Conflict)
  | discarded
  | accepted (state : FixState)
  deriving Repr, DecidableEq

def pass (linter : Linter) (path : Path) (state : FixState) : Except RunFailure Pass :=
  match applyFixes state.output state.findings with
  | .error _ => .error .notUtf8
  | .ok fixed =>
    if fixed.applied.isEmpty then .ok (.stable fixed.skipped)
    else
      match linter.lint fixed.output path with
      | .error failure => .error failure
      | .ok refreshed =>
        if refreshed.any (·.fatal) then .ok .discarded
        else
          .ok (.accepted
            ⟨fixed.output, refreshed, fixed.skipped, state.applied + fixed.applied.length⟩)

def passes (linter : Linter) (path : Path) : Nat → FixState → Except RunFailure FixState
  | 0, state => .ok state
  | n + 1, state =>
    match linter.pass path state with
    | .error failure => .error failure
    | .ok (.stable conflicts) => .ok { state with conflicts }
    | .ok .discarded => .ok state
    | .ok (.accepted next) => passes linter path n next

/-- Lints a text and applies fixes in at most `fixPasses` passes. -/
def fix (linter : Linter) (text : String) (path : Path) : Except RunFailure FixState :=
  match linter.lint text path with
  | .error failure => .error failure
  | .ok findings => linter.passes path linter.fixPasses ⟨text, findings, [], 0⟩

end Linter

end ScriptLint
