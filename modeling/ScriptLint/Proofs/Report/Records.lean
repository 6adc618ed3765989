/-
The JSON text of a report.

The text stands for one value, the record of the report, at every indent; what
can be read off it key by key is said by `Report.ReadsAs`. So two reports have one text just
if they have one record (`text_renderJson`), and that is if they agree in what a record keeps
of them (`Report.record_eq_iff`): fixes, ends of spans and files without findings do not show.
-/
import Mathlib.Data.List.Forall2
import ScriptLint.Proofs.Json.Printing
import ScriptLint.Proofs.Report

namespace ScriptLint

/-! ## Printing -/

theorem Finding.printable_record (finding : Finding) : finding.record.Printable :=
  ⟨by simp [Keyed.keys], by simp [Json.FieldsPrintable, Json.Printable, Json.ofNat]⟩

theorem Conflict.printable_record (conflict : Conflict) : conflict.record.Printable :=
  ⟨by simp [Keyed.keys], by simp [Json.FieldsPrintable, Json.Printable, Json.ofNat]⟩

theorem Summary.printable_record (summary : Summary) : summary.record.Printable :=
  ⟨by simp [Keyed.keys], by simp [Json.FieldsPrintable, Json.Printable, Json.ofNat]⟩

theorem Report.printable_record (report : Report) : report.record.Printable := by
  refine ⟨by simp [Keyed.keys], ?_, report.summary.printable_record, ?_, trivial, trivial, trivial⟩
  · exact Json.allPrintable_map fun finding _ => finding.printable_record
  · exact Json.allPrintable_map fun conflict _ => conflict.printable_record

/-! ## Reading -/

/-- The keys of an object, in their order. -/
def Json.keys : Json → List String
  | .object fields => Keyed.keys fields
  | _ => []

/-- A record of a conflict. -/
structure Conflict.ReadsAs (conflict : Conflict) (record : Json) : Prop where
  file : record.get? "file" = some (.string conflict.path.toString)
  line : record.get? "line" = some (.ofNat conflict.span.line)
  column : record.get? "column" = some (.ofNat conflict.span.column)
  rule : record.get? "ruleId" = some (.string conflict.rule)
  blockedBy : record.get? "blockedBy" = some (.string conflict.blockedBy)
  message : record.get? "message" = some (.string conflict.message)

/-- A record of the counts. -/
structure Summary.ReadsAs (summary : Summary) (record : Json) : Prop where
  errors : record.get? "errorCount" = some (.ofNat summary.errors)
  warnings : record.get? "warnCount" = some (.ofNat summary.warnings)
  fixable : record.get? "fixableCount" = some (.ofNat summary.fixable)

/-- A record of a report: findings and conflicts one by one in their order, and no key but those named. -/
structure Report.ReadsAs (report : Report) (value : Json) : Prop where
  keys : value.keys = ["results", "summary", "conflicts", "fixedCount", "cancelled"]
  results : ∃ records, value.get? "results" = some (.array records) ∧
    List.Forall₂ (fun finding record => finding.ReadsAs record ∧
      record.keys = ["file", "line", "column", "ruleId", "severity", "message", "fixable", "fatal"])
      report.findings records
  summary : ∃ record, value.get? "summary" = some record ∧ report.summary.ReadsAs record ∧
    record.keys = ["errorCount", "warnCount", "fixableCount"]
  conflicts : ∃ records, value.get? "conflicts" = some (.array records) ∧
    List.Forall₂ (fun conflict record => conflict.ReadsAs record ∧
      record.keys = ["file", "line", "column", "ruleId", "blockedBy", "message"]) report.conflicts records
  fixedCount : value.get? "fixedCount" = some (.ofNat report.fixedCount)
  cancelled : value.get? "cancelled" = some (.bool report.cancelled)

theorem Conflict.readsAs_record (conflict : Conflict) : conflict.ReadsAs conflict.record where
  file := rfl
  line := rfl
  column := rfl
  rule := rfl
  blockedBy := rfl
  message := rfl

theorem forall₂_map_record {α : Type} {reads : α → Json → Prop} {record : α → Json}
    (h : ∀ item, reads item (record item)) (items : List α) : List.Forall₂ reads items (items.map record) :=
  List.forall₂_map_right_iff.2 (List.forall₂_same.2 fun item _ => h item)

theorem Report.readsAs_record (report : Report) : report.ReadsAs report.record where
  keys := rfl
  results := ⟨_, rfl, forall₂_map_record (fun finding => ⟨finding.readsAs_record, rfl⟩) _⟩
  summary := ⟨_, rfl, ⟨rfl, rfl, rfl⟩, rfl⟩
  conflicts := ⟨_, rfl, forall₂_map_record (fun conflict => ⟨conflict.readsAs_record, rfl⟩) _⟩
  fixedCount := rfl
  cancelled := rfl

/-! ## Comparing -/

/-- What a record keeps of a finding. -/
def Finding.kept (finding : Finding) : String × Nat × Nat × String × Severity × String × Bool × Bool :=
  (finding.path.toString, finding.span.line, finding.span.column, finding.rule, finding.severity, finding.message,
    finding.fixable, finding.fatal)

/-- What a record keeps of a conflict. -/
def Conflict.kept (conflict : Conflict) : String × Nat × Nat × String × String × String :=
  (conflict.path.toString, conflict.span.line, conflict.span.column, conflict.rule, conflict.blockedBy,
    conflict.message)

/-- Reports that agree in what a record keeps of them. -/
structure Report.Alike (report other : Report) : Prop where
  findings : report.findings.map Finding.kept = other.findings.map Finding.kept
  summary : report.summary = other.summary
  conflicts : report.conflicts.map Conflict.kept = other.conflicts.map Conflict.kept
  fixedCount : report.fixedCount = other.fixedCount
  cancelled : report.cancelled = other.cancelled

theorem Json.ofNat_inj {n m : Nat} : Json.ofNat n = Json.ofNat m ↔ n = m := by
  rw [Json.ofNat, Json.ofNat, Json.int.injEq, Int.natCast_inj]

theorem Severity.name_inj {severity other : Severity} : severity.name = other.name ↔ severity = other :=
  ⟨fun h => Option.some.inj (by rw [← Severity.ofName?_name, h, Severity.ofName?_name]), congrArg Severity.name⟩

theorem Finding.record_eq_iff {finding other : Finding} :
    finding.record = other.record ↔ finding.kept = other.kept := by
  simp [Finding.record, Finding.kept, Json.ofNat_inj, Severity.name_inj]

theorem Conflict.record_eq_iff {conflict other : Conflict} :
    conflict.record = other.record ↔ conflict.kept = other.kept := by
  simp [Conflict.record, Conflict.kept, Json.ofNat_inj]

theorem Summary.record_eq_iff {summary other : Summary} : summary.record = other.record ↔ summary = other := by
  cases summary
  cases other
  simp [Summary.record, Json.ofNat_inj]

/-- Lists whose items are told apart by two functions alike have the same images under both or under none. -/
theorem map_eq_map_iff_of {α β γ : Type} {f : α → β} {g : α → γ} (h : ∀ {a b}, f a = f b ↔ g a = g b)
    {items others : List α} : items.map f = others.map f ↔ items.map g = others.map g := by
  induction items generalizing others with
  | nil => cases others <;> simp
  | cons item items ih =>
    cases others with
    | nil => simp
    | cons other others => simp [h, ih]

theorem Report.record_eq_iff {report other : Report} : report.record = other.record ↔ report.Alike other := by
  have hparts : report.record = other.record ↔
      report.findings.map Finding.record = other.findings.map Finding.record ∧
      report.summary.record = other.summary.record ∧
      report.conflicts.map Conflict.record = other.conflicts.map Conflict.record ∧
      report.fixedCount = other.fixedCount ∧ report.cancelled = other.cancelled := by
    simp [Report.record, Json.ofNat_inj]
  rw [hparts, map_eq_map_iff_of Finding.record_eq_iff, Summary.record_eq_iff,
    map_eq_map_iff_of Conflict.record_eq_iff]
  exact ⟨fun ⟨hfindings, hsummary, hconflicts, hfixed, hcancelled⟩ =>
      ⟨hfindings, hsummary, hconflicts, hfixed, hcancelled⟩,
    fun h => ⟨h.findings, h.summary, h.conflicts, h.fixedCount, h.cancelled⟩⟩

/-! ## Texts -/

/-- **The JSON text of a report is its record, no more and no less.** The text stands for the record and for
nothing else, and reading it gives the record back: an object in which the findings, the counts and the
conflicts are found under their keys. Two reports have one text at an indent just if they have one
record, which is if they agree in all that a record keeps; and the indent does not change what is read. -/
theorem Report.text_renderJson (report other : Report) (indent indent' : Option Nat) :
    Json.Text report.record (report.renderJson indent) ∧
    (∀ value, Json.Text value (report.renderJson indent) → value = report.record) ∧
    Json.parse? (report.renderJson indent) = some report.record ∧
    report.ReadsAs report.record ∧
    (report.renderJson indent = other.renderJson indent ↔ report.record = other.record) ∧
    (report.record = other.record ↔ report.Alike other) ∧
    Json.parse? (report.renderJson indent') = Json.parse? (report.renderJson indent) := by
  have htext := Json.text_render report.printable_record indent
  have hread := Json.parse?_render report.printable_record
  refine ⟨htext, fun value hvalue => hvalue.unique htext, hread indent, report.readsAs_record, ?_,
    Report.record_eq_iff, ?_⟩
  · exact Json.render_inj report.printable_record other.printable_record indent
  · exact (hread indent').trans (hread indent).symm

end ScriptLint
