/-
Choosing fixes that can be applied together.

Findings are walked in report order. For each the first candidate that overlaps
no fix chosen before wins; a finding whose candidates all overlap becomes a
conflict, which names the owner of a fix that overlaps its last candidate.
-/
import ScriptLint.Report

namespace ScriptLint

/-- A chosen fix and the finding it was chosen for. -/
structure Choice where
  fix : Fix
  owner : Finding
  deriving Repr, DecidableEq

/-- What becomes of the candidates of one finding. -/
inductive Verdict where
  | chosen (fix : Fix)
  | blocked (owner : Finding)
  | unfixable
  deriving Repr, DecidableEq

/-- The owner of the first chosen fix that overlaps a candidate. -/
def blocker? (choices : List Choice) (candidate : Fix) : Option Finding :=
  (choices.find? (·.fix.span.overlaps candidate.span)).map Choice.owner

def judge (choices : List Choice) : List Fix → Verdict
  | [] => .unfixable
  | candidate :: rest =>
    match blocker? choices candidate with
    | none => .chosen candidate
    | some owner =>
      match rest with
      | [] => .blocked owner
      | _ => judge choices rest

def conflictOf (finding owner : Finding) : Conflict :=
  { rule := finding.rule
    path := finding.path
    span := finding.span
    blockedBy := owner.rule
    blockedSpan := owner.span
    message := s!"Fix for '{finding.rule}' skipped: overlaps fix for '{owner.rule}' at " ++
      s!"{owner.span.line}:{owner.span.column}" }

structure Selection where
  choices : List Choice
  conflicts : List Conflict

def selectStep (selection : Selection) (finding : Finding) : Selection :=
  match judge selection.choices finding.fixes with
  | .chosen fix => { selection with choices := selection.choices ++ [⟨fix, finding⟩] }
  | .blocked owner =>
    { selection with conflicts := selection.conflicts ++ [conflictOf finding owner] }
  | .unfixable => selection

def selectFixes (findings : List Finding) : Selection :=
  (canonicalOrder findings).foldl selectStep ⟨[], []⟩

/-- The fixes of a selection in the order in which they were chosen. -/
def Selection.fixes (selection : Selection) : List Fix := selection.choices.map Choice.fix

end ScriptLint
