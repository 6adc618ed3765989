/-
Drafts: spans and findings handed in from outside, with numbers that may be out
of range. Checking a draft gives the span or the finding, or all complaints
about the first part that does not hold (`check_draft`: what has passed once
passes again, unchanged).
-/
import ScriptLint.Finding
import ScriptLint.Rule.Options

namespace ScriptLint

namespace Reading

/-- A number with a lower bound. -/
def atLeast (bound : Nat) (place : List Step) (n : Int) : Reading Nat :=
  if n < bound then fail place .atLeast else .ok n.toNat

def maybe {α β : Type} (read : α → Reading β) : Option α → Reading (Option β)
  | none => .ok none
  | some x => (read x).map some

theorem atLeast_ofNat {bound n : Nat} (place : List Step) (h : bound ≤ n) :
    atLeast bound place n = .ok n := by
  have : ¬ ((n : Int) < bound) := by omega
  simp [atLeast, this]

end Reading

namespace Span

structure Draft where
  start : Int
  stop : Int
  line : Int := 1
  column : Int := 1
  endLine : Option Int := none
  endColumn : Option Int := none
  deriving Repr, DecidableEq

def draft (span : Span) : Draft :=
  ⟨span.start, span.stop, span.line, span.column, span.endLine.map Int.ofNat,
   span.endColumn.map Int.ofNat⟩

/-- Offsets are not negative; lines and columns are at least one. -/
def Draft.check (draft : Draft) : Reading Span :=
  let place (name : String) := [Step.field name]
  let ends :=
    Reading.both (Reading.maybe (Reading.atLeast 1 (place "end_line")) draft.endLine)
      (Reading.maybe (Reading.atLeast 1 (place "end_column")) draft.endColumn)
  let position :=
    Reading.both (Reading.atLeast 1 (place "line") draft.line)
      (Reading.both (Reading.atLeast 1 (place "column") draft.column) ends)
  (Reading.both (Reading.atLeast 0 (place "start") draft.start)
    (Reading.both (Reading.atLeast 0 (place "end") draft.stop) position)).map
      fun (start, stop, line, column, endLine, endColumn) =>
        ⟨start, stop, line, column, endLine, endColumn⟩

/-- Lines and columns count from one. -/
def Counted (span : Span) : Prop :=
  1 ≤ span.line ∧ 1 ≤ span.column ∧ (∀ n ∈ span.endLine, 1 ≤ n) ∧ ∀ n ∈ span.endColumn, 1 ≤ n

theorem check_draft {span : Span} (h : span.Counted) : span.draft.check = .ok span := by
  obtain ⟨start, stop, line, column, endLine, endColumn⟩ := span
  obtain ⟨hl, hc, hel, hec⟩ := h
  simp only at hl hc hel hec
  have ends (bound : Option Nat) (place : List Step) (hb : ∀ n ∈ bound, 1 ≤ n) :
      Reading.maybe (Reading.atLeast 1 place) (bound.map Int.ofNat) = .ok bound := by
    cases bound with
    | none => rfl
    | some n =>
      have := Reading.atLeast_ofNat place (hb n rfl)
      simp [Reading.maybe, this, Except.map]
  simp [draft, Draft.check, ends _ _ hel, ends _ _ hec, Reading.atLeast_ofNat _ hl,
    Reading.atLeast_ofNat _ hc, Reading.atLeast_ofNat _ (Nat.zero_le _), Reading.both, Except.map]

end Span

namespace Finding

/-- A finding as handed in. -/
structure Draft where
  rule : String
  severity : Json
  message : String
  path : Path
  span : Span.Draft
  fixes : List (Span.Draft × String) := []
  nodeKind : Option String := none
  fatal : Bool := false

namespace Draft

def checkSeverity (value : Json) : Reading Severity :=
  let fault := Reading.fail [.field "severity"] .enumWord
  match value with
  | .string text =>
    match Severity.ofName? text with
    | some severity => .ok severity
    | none => fault
  | _ => fault

def checkFixes : List (Span.Draft × String) → Reading (List Fix)
  | [] => .ok []
  | (span, text) :: rest => do
    let span ← span.check
    let rest ← checkFixes rest
    return ⟨span, text⟩ :: rest

/-- The span is checked first, then the spans of the fixes, then the rest. -/
def check (draft : Draft) : Reading Finding := do
  let span ← draft.span.check
  let fixes ← checkFixes draft.fixes
  let severity ← checkSeverity draft.severity
  return { rule := draft.rule, severity, message := draft.message, path := draft.path, span, fixes
           nodeKind := draft.nodeKind, fatal := draft.fatal }

end Draft

end Finding

namespace Conflict

/-- A conflict as handed in. -/
structure Draft where
  rule : String
  path : Path
  span : Span.Draft
  blockedBy : String
  blockedSpan : Span.Draft
  message : String

def Draft.check (draft : Draft) : Reading Conflict := do
  let span ← draft.span.check
  let blockedSpan ← draft.blockedSpan.check
  return ⟨draft.rule, draft.path, span, draft.blockedBy, blockedSpan, draft.message⟩

end Conflict

end ScriptLint
