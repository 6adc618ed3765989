/-
A report holds what a run hands over, in order and with the right counts.

Findings, files and conflicts are sorted stably, each by its key, and the
counts, the exit code and the JSON records all come from the one list of
findings (`aggregate_gathers`). The order of the streams can only show in ties,
and these come from one file: streams about different files may come in any
order (`filter_flatten_perm`).
-/
import Mathlib.Data.List.Forall2
import ScriptLint.Proofs.Path
import ScriptLint.Proofs.Sorting
import ScriptLint.Report.Record

namespace ScriptLint

/-! ## Order -/

theorem arrangedBy_text (paths : List Path) :
    ArrangedBy Path.toString (fun a b => a ≤ b) paths (paths.mergeSort fun a b => a.toString ≤ b.toString) := by
  refine arrangedBy_mergeSort (fun a b c hab hbc => ?_) (fun a b => ?_) paths
  · exact decide_eq_true (String.le_trans (of_decide_eq_true hab) (of_decide_eq_true hbc))
  · rw [Bool.or_eq_true, decide_eq_true_eq, decide_eq_true_eq]
    exact String.le_total a b

/-- What a report takes over from a run. -/
structure Report.Gathers (report : Report) (harvest : Harvest) : Prop where
  findings : ArrangedBy Finding.key SortKey.le harvest.streams.flatten report.findings
  files : ArrangedBy Path.toString (fun a b => a ≤ b) harvest.files report.files
  conflicts : ArrangedBy Conflict.key SortKey.le harvest.conflicts report.conflicts
  fixedCount : report.fixedCount = harvest.fixedCount
  cancelled : report.cancelled = harvest.cancelled

theorem gathers_aggregate (harvest : Harvest) : (aggregate harvest).Gathers harvest where
  findings := arrangedBy_sortByKey _
  files := arrangedBy_text _
  conflicts := arrangedBy_sortByKey _
  fixedCount := rfl
  cancelled := rfl

/-- What a report has put in order stays in order. -/
theorem aggregate_of_gathers {report : Report} {harvest : Harvest} (h : report.Gathers harvest)
    (hsummary : report.summary = summarize report.findings) {streams : List (List Finding)}
    (hstreams : streams.flatten = report.findings) (fixedCount : Nat) (cancelled : Bool) :
    aggregate { streams, files := report.files, conflicts := report.conflicts, fixedCount, cancelled } =
      { report with fixedCount, cancelled } := by
  have hfindings : canonicalOrder report.findings = report.findings := sortByKey_of_sortedBy h.findings.ordered
  have hfiles : report.files.mergeSort (fun a b => a.toString ≤ b.toString) = report.files :=
    List.mergeSort_of_pairwise h.files.ordered
  have hconflicts : sortByKey Conflict.key report.conflicts = report.conflicts :=
    sortByKey_of_sortedBy h.conflicts.ordered
  simp only [aggregate, hstreams, hfindings, hfiles, hconflicts, hsummary]

/-! ## Records -/

/-- The text that an object has under a key. -/
def Json.textAt? (key : String) (value : Json) : Option String :=
  match value.get? key with
  | some (.string text) => some text
  | _ => none

/-- The truth value that an object has under a key. -/
def Json.flagAt? (key : String) (value : Json) : Option Bool :=
  match value.get? key with
  | some (.bool flag) => some flag
  | _ => none

/-- A record of a finding. -/
structure Finding.ReadsAs (finding : Finding) (record : Json) : Prop where
  file : record.get? "file" = some (.string finding.path.toString)
  line : record.get? "line" = some (.ofNat finding.span.line)
  column : record.get? "column" = some (.ofNat finding.span.column)
  rule : record.get? "ruleId" = some (.string finding.rule)
  severity : record.get? "severity" = some (.string finding.severity.name)
  message : record.get? "message" = some (.string finding.message)
  fixable : record.get? "fixable" = some (.bool finding.fixable)
  fatal : record.get? "fatal" = some (.bool finding.fatal)

theorem Finding.readsAs_record (finding : Finding) : finding.ReadsAs finding.record where
  file := rfl
  line := rfl
  column := rfl
  rule := rfl
  severity := rfl
  message := rfl
  fixable := rfl
  fatal := rfl

/-- Records of the findings of a report, one for each in their order, by which its counts can be told. -/
structure Report.Tallies (report : Report) (records : List Json) : Prop where
  results : report.record.get? "results" = some (.array records)
  oneByOne : List.Forall₂ Finding.ReadsAs report.findings records
  errors : report.summary.errors = records.countP fun record => record.textAt? "severity" = some "error"
  warnings : report.summary.warnings = records.countP fun record => record.textAt? "severity" = some "warn"
  fixable : report.summary.fixable = records.countP fun record => record.flagAt? "fixable" = some true

/-- Records that read as findings count as these do. -/
theorem countP_of_readsAs {p : Finding → Bool} {q : Json → Bool} {findings : List Finding} {records : List Json}
    (h : List.Forall₂ Finding.ReadsAs findings records)
    (same : ∀ finding record, finding.ReadsAs record → p finding = q record) :
    findings.countP p = records.countP q := by
  induction h with
  | nil => rfl
  | cons hfirst _ ih => rw [List.countP_cons, List.countP_cons, ih, same _ _ hfirst]

theorem countP_severity {findings : List Finding} {records : List Json}
    (h : List.Forall₂ Finding.ReadsAs findings records) (severity : Severity) :
    findings.countP (·.severity = severity) =
      records.countP fun record => record.textAt? "severity" = some severity.name := by
  refine countP_of_readsAs h fun finding record hreads => decide_eq_decide.2 ?_
  rw [Json.textAt?, hreads.severity, Option.some.injEq]
  constructor
  · rintro rfl
    rfl
  · exact fun hname => Option.some.inj (by rw [← Severity.ofName?_name, hname, Severity.ofName?_name])

theorem tallies_record {report : Report} (hsummary : report.summary = summarize report.findings) :
    report.Tallies (report.findings.map Finding.record) := by
  have hrecords : List.Forall₂ Finding.ReadsAs report.findings (report.findings.map Finding.record) :=
    List.forall₂_map_right_iff.2 (List.forall₂_same.2 fun finding _ => finding.readsAs_record)
  refine ⟨rfl, hrecords, ?_, ?_, ?_⟩
  · rw [hsummary]
    exact countP_severity hrecords .error
  · rw [hsummary]
    exact countP_severity hrecords .warn
  · rw [hsummary]
    refine countP_of_readsAs hrecords fun finding record hreads => ?_
    simp [Json.flagAt?, hreads.fixable]

theorem exitCode_eq_one_iff {report : Report} (hsummary : report.summary = summarize report.findings) :
    report.exitCode = 1 ↔ ∃ finding ∈ report.findings, finding.severity = .error := by
  have hcount : report.summary.errors = 0 ↔ ∀ finding ∈ report.findings, finding.severity ≠ .error := by
    rw [hsummary, summarize, List.countP_eq_zero]
    simp only [decide_eq_true_eq, ne_eq]
  rw [Report.exitCode]
  split
  · next hnone => simpa using hcount.1 hnone
  · next hsome => simpa using mt hcount.2 hsome

/-! ## Streams -/

/-- Streams of which at most one has items of a kind: the items come in one order. -/
theorem filter_flatten_perm {α : Type} {p : α → Bool} {streams others : List (List α)} (perm : streams.Perm others)
    (alone : streams.Pairwise fun a b => a.filter p = [] ∨ b.filter p = []) :
    streams.flatten.filter p = others.flatten.filter p := by
  induction perm with
  | nil => rfl
  | cons stream _ ih =>
    simp only [List.flatten_cons, List.filter_append, ih (List.pairwise_cons.1 alone).2]
  | swap first second rest =>
    have hnone := (List.pairwise_cons.1 alone).1 first List.mem_cons_self
    simp only [List.flatten_cons, List.filter_append]
    rcases hnone with hnone | hnone
    · simp [hnone]
    · simp [hnone]
  | trans perm _ ih ih' =>
    exact (ih alone).trans (ih' (alone.perm perm Or.symm))

/-- Findings of files that are in one stream each sort to the same list, however the streams come. -/
theorem canonicalOrder_flatten_perm {streams others : List (List Finding)} (perm : streams.Perm others)
    (normal : ∀ stream ∈ streams, ∀ finding ∈ stream, finding.path.Normal)
    (alone : streams.Pairwise fun a b => ∀ first ∈ a, ∀ second ∈ b, first.path ≠ second.path) :
    canonicalOrder streams.flatten = canonicalOrder others.flatten := by
  refine sortByKey_congr fun key => filter_flatten_perm perm (alone.imp_of_mem fun ha hb hne => ?_)
  by_contra hboth
  obtain ⟨hfirst, hsecond⟩ := not_or.1 hboth
  obtain ⟨first, hfirst⟩ := List.exists_mem_of_ne_nil _ hfirst
  obtain ⟨second, hsecond⟩ := List.exists_mem_of_ne_nil _ hsecond
  rw [List.mem_filter, decide_eq_true_eq] at hfirst hsecond
  -- One key has one text, and one text is that of one path.
  have htext : first.path.toString = second.path.toString :=
    congrArg SortKey.path (hfirst.2.trans hsecond.2.symm)
  exact hne first hfirst.1 second hsecond.1
    ((Path.toString_inj (normal _ ha _ hfirst.1) (normal _ hb _ hsecond.1)).1 htext)

/-! ## Reports -/

/-- **A report holds what a run hands over.** Nothing is dropped, merged or repeated: findings, files and
conflicts are there in the order of their keys, ties as they came. The JSON records are those
of the findings one by one, and the counts are counts of these records; the exit code is one just if some finding
of some stream is an error. What is in a report already makes the same report again, and if no file has
findings in two streams, the order of the streams does not show. -/
theorem aggregate_gathers (harvest : Harvest) :
    (aggregate harvest).Gathers harvest ∧
    (∃ records, (aggregate harvest).Tallies records) ∧
    ((aggregate harvest).exitCode = 1 ↔ ∃ stream ∈ harvest.streams, ∃ finding ∈ stream, finding.severity = .error) ∧
    (∀ streams fixedCount cancelled, streams.flatten = (aggregate harvest).findings →
      aggregate { streams, files := (aggregate harvest).files, conflicts := (aggregate harvest).conflicts
                  fixedCount, cancelled } = { aggregate harvest with fixedCount, cancelled }) ∧
    ((∀ stream ∈ harvest.streams, ∀ finding ∈ stream, finding.path.Normal) →
      harvest.streams.Pairwise (fun a b => ∀ first ∈ a, ∀ second ∈ b, first.path ≠ second.path) →
        ∀ others, harvest.streams.Perm others → aggregate { harvest with streams := others } = aggregate harvest) := by
  have gathers := gathers_aggregate harvest
  refine ⟨gathers, ⟨_, tallies_record rfl⟩, ?_, ?_, ?_⟩
  · rw [exitCode_eq_one_iff rfl]
    constructor
    · rintro ⟨finding, hfinding, herror⟩
      obtain ⟨stream, hstream, hmem⟩ := List.mem_flatten.1 (gathers.findings.perm.mem_iff.1 hfinding)
      exact ⟨stream, hstream, finding, hmem, herror⟩
    · rintro ⟨stream, hstream, finding, hmem, herror⟩
      exact ⟨finding, gathers.findings.perm.mem_iff.2 (List.mem_flatten_of_mem hstream hmem), herror⟩
  · intro streams fixedCount cancelled hstreams
    exact aggregate_of_gathers gathers rfl hstreams fixedCount cancelled
  · intro normal alone others perm
    simp only [aggregate, canonicalOrder_flatten_perm perm normal alone]

/-- Findings of two files: of one an error and a fixable warning at one place, of the other a warning. -/
def twoStreams : Harvest where
  streams :=
    [[{ rule := "eqeqeq", severity := .error, message := "", path := .ofString "b.js", span := ⟨4, 6, 1, 5, none, none⟩ },
      { rule := "eqeqeq", severity := .warn, message := "", path := .ofString "b.js", span := ⟨4, 6, 1, 5, none, none⟩
        fixes := [⟨⟨4, 6, 1, 5, none, none⟩, "==="⟩] }],
     [{ rule := "no-var", severity := .warn, message := "", path := .ofString "a.js", span := ⟨0, 3, 1, 1, none, none⟩ }]]
  files := ["b.js", "a.js"].map .ofString
  conflicts := []
  fixedCount := 0
  cancelled := false

theorem aggregate_gathers_twoStreams :
    aggregate { twoStreams with streams := twoStreams.streams.reverse } = aggregate twoStreams ∧
      (aggregate twoStreams).exitCode = 1 := by
  obtain ⟨-, -, hexit, -, hstreams⟩ := aggregate_gathers twoStreams
  have normal : ∀ stream ∈ twoStreams.streams, ∀ finding ∈ stream, finding.path.Normal := by
    intro stream hstream finding hfinding
    have hname : finding.path = .ofString "a.js" ∨ finding.path = .ofString "b.js" := by
      revert finding stream
      decide +kernel
    rcases hname with hname | hname
    · rw [hname]
      exact Path.normal_ofString _
    · rw [hname]
      exact Path.normal_ofString _
  exact ⟨hstreams normal (by decide +kernel) _ (List.reverse_perm _).symm, hexit.2 (by decide +kernel)⟩

end ScriptLint
