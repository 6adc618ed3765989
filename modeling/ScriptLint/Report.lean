/-
Reports: the findings of a run in canonical order, with counts.

`aggregate` never merges or drops findings: two rules that flag one span are two
findings, and both count (`findings_aggregate_perm`).
-/
import ScriptLint.Finding
import ScriptLint.SortKey

namespace ScriptLint

def Finding.key (finding : Finding) : SortKey :=
  ⟨finding.path.toString, finding.span.start, finding.rule⟩

def Conflict.key (conflict : Conflict) : SortKey :=
  ⟨conflict.path.toString, conflict.span.start, conflict.rule⟩

/-- Report order: path, then source offset, then rule; ties keep their order. -/
def canonicalOrder (findings : List Finding) : List Finding :=
  sortByKey Finding.key findings

structure Summary where
  errors : Nat
  warnings : Nat
  fixable : Nat
  deriving Repr, DecidableEq

def summarize (findings : List Finding) : Summary where
  errors := findings.countP (·.severity = .error)
  warnings := findings.countP (·.severity = .warn)
  fixable := findings.countP (·.fixable)

structure Report where
  findings : List Finding
  summary : Summary
  files : List Path
  conflicts : List Conflict
  fixedCount : Nat
  cancelled : Bool
  deriving Repr, DecidableEq

namespace Report

/-- One when some finding is an error. -/
def exitCode (report : Report) : Nat := if report.summary.errors = 0 then 0 else 1

end Report

/-- What a run hands over for its report, before sorting. -/
structure Harvest where
  streams : List (List Finding)
  files : List Path
  conflicts : List Conflict
  fixedCount : Nat
  cancelled : Bool

def aggregate (harvest : Harvest) : Report :=
  let findings := canonicalOrder harvest.streams.flatten
  { findings
    summary := summarize findings
    files := harvest.files.mergeSort fun a b => a.toString ≤ b.toString
    conflicts := sortByKey Conflict.key harvest.conflicts
    fixedCount := harvest.fixedCount
    cancelled := harvest.cancelled }

theorem canonicalOrder_perm (findings : List Finding) :
    (canonicalOrder findings).Perm findings :=
  sortByKey_perm _ findings

theorem findings_aggregate_perm (harvest : Harvest) :
    (aggregate harvest).findings.Perm harvest.streams.flatten :=
  canonicalOrder_perm _

end ScriptLint
