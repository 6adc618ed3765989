/-
Reports as JSON: flat records of findings and conflicts, and the counts. What a
record leaves out of a finding are its fixes, its node kind and where it ends.
-/
import ScriptLint.Json.Printer
import ScriptLint.Report

namespace ScriptLint

def Finding.record (finding : Finding) : Json :=
  .object
    [("file", .string finding.path.toString),
     ("line", .ofNat finding.span.line),
     ("column", .ofNat finding.span.column),
     ("ruleId", .string finding.rule),
     ("severity", .string finding.severity.name),
     ("message", .string finding.message),
     ("fixable", .bool finding.fixable),
     ("fatal", .bool finding.fatal)]

def Summary.record (summary : Summary) : Json :=
  .object
    [("errorCount", .ofNat summary.errors),
     ("warnCount", .ofNat summary.warnings),
     ("fixableCount", .ofNat summary.fixable)]

def Conflict.record (conflict : Conflict) : Json :=
  .object
    [("file", .string conflict.path.toString),
     ("line", .ofNat conflict.span.line),
     ("column", .ofNat conflict.span.column),
     ("ruleId", .string conflict.rule),
     ("blockedBy", .string conflict.blockedBy),
     ("message", .string conflict.message)]

def Report.record (report : Report) : Json :=
  .object
    [("results", .array (report.findings.map Finding.record)),
     ("summary", report.summary.record),
     ("conflicts", .array (report.conflicts.map Conflict.record)),
     ("fixedCount", .ofNat report.fixedCount),
     ("cancelled", .bool report.cancelled)]

/-- The JSON text of a report, on one line or with an indent. -/
def Report.renderJson (report : Report) (indent : Option Nat := some 2) : String :=
  report.record.render indent

end ScriptLint
