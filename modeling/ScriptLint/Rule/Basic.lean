/-
Rules: what they look at, what they may read, and what they report.

A handler sees one node in its place and a context, and emits findings one
after another; it may also fail on the way. Findings built with `report` carry
only fixes that the span of their node contains (`fixes_of_report`), and the
rule and the file of the context (`labels_of_report`).
-/
import ScriptLint.Finding
import ScriptLint.Rule.Options
import ScriptLint.Scope.Table

namespace ScriptLint

/-- Whether a node is met before or after its children. -/
inductive Phase where
  | enter
  | exit
  deriving Repr, DecidableEq

/-- When a handler runs: at nodes of one kind or at all nodes, in one phase. -/
structure Trigger where
  kind : Option String
  phase : Phase
  deriving Repr, DecidableEq

namespace Trigger

def entering (kind : String) : Trigger := ⟨some kind, .enter⟩
def leaving (kind : String) : Trigger := ⟨some kind, .exit⟩

def exitMark : List Char := [':', 'e', 'x', 'i', 't']

/-- Reads `kind`, `kind:exit`, `*` and `*:exit`. -/
def ofKey (key : String) : Trigger :=
  let cs := key.toList
  let isExit := exitMark.isSuffixOf cs
  let kind := if isExit then String.ofList (cs.take (cs.length - exitMark.length)) else key
  ⟨if kind = "*" then none else some kind, if isExit then .exit else .enter⟩

end Trigger

/-- What a handler may read besides the node. -/
structure Context where
  source : Source
  scopes : Except Failure Scope.Table
  rule : String
  severity : Severity
  options : RuleOptions

/-- One item that a handler produces. -/
inductive Emission where
  | finding (finding : Finding)
  | failed (failure : Failure)
  deriving Repr

abbrev Handler := Node → Context → List Emission

structure Rule where
  id : String
  name : String
  description : String := ""
  fixable : Bool := false
  /-- Reads raw options; `none` for a rule that takes none. -/
  readOptions : Option (Json → Reading RuleOptions) := none
  visitors : List (Trigger × Handler)

namespace Context

def text (ctx : Context) (node : Node) : String := ctx.source.textOf node

/-- A finding for a node, or a failure when one of the fixes starts before it or ends behind it. -/
def report (ctx : Context) (node : Node) (message : String) (fixes : List Fix := []) : Emission :=
  let span := ctx.source.spanOf node
  match fixes.find? fun fix => !span.contains fix.span with
  | some fix =>
    .failed (.fixOutside fix.span.start fix.span.stop node.kind node.start node.stop)
  | none =>
    .finding
      { rule := ctx.rule, severity := ctx.severity, message, path := ctx.source.path, span, fixes
        nodeKind := some node.kind }

def replace (ctx : Context) (target : Node) (text : String) : Fix :=
  ⟨ctx.source.spanOf target, text⟩

def replaceRange (ctx : Context) (start stop : Nat) (text : String) : Fix :=
  ⟨ctx.source.spanBetween start stop, text⟩

def insertAfter (ctx : Context) (node : Node) (text : String) : Fix :=
  ctx.replaceRange node.stop node.stop text

def remove (ctx : Context) (target : Node) : Fix := ctx.replace target ""

theorem fixes_of_report {ctx : Context} {node : Node} {message : String} {fixes : List Fix}
    {finding : Finding} (h : ctx.report node message fixes = .finding finding) :
    finding.span = ctx.source.spanOf node ∧ finding.fixes = fixes ∧
      ∀ fix ∈ finding.fixes, finding.span.contains fix.span = true := by
  simp only [report] at h
  split at h
  · cases h
  · rename_i none_outside
    cases h
    refine ⟨rfl, rfl, ?_⟩
    intro fix member
    simpa using List.find?_eq_none.1 none_outside fix member

/-- A finding that carries the rule and the file of a context and is not fatal. -/
structure Labels (ctx : Context) (finding : Finding) : Prop where
  rule : finding.rule = ctx.rule
  path : finding.path = ctx.source.path
  fatal : finding.fatal = false

theorem labels_of_report {ctx : Context} {node : Node} {message : String} {fixes : List Fix}
    {finding : Finding} (h : ctx.report node message fixes = .finding finding) : ctx.Labels finding := by
  simp only [report] at h
  split at h
  · cases h
  · cases h
    exact ⟨rfl, rfl, rfl⟩

end Context

/-- A rule as it is configured. -/
structure ActiveRule where
  rule : Rule
  severity : Severity
  options : RuleOptions

def ActiveRule.id (active : ActiveRule) : String := active.rule.id

/-- Reads the raw options of a rule. A rule without options accepts no value, an empty object or
an empty list. Reading breaks off at a count that is out of range, whatever else is wrong. -/
def Rule.checkOptions (rule : Rule) (raw : Json) : Except SetupError RuleOptions :=
  match rule.readOptions with
  | some read =>
    match read raw with
    | .ok options => .ok options
    | .error complaints =>
      if complaints.any (·.requirement = .countInRange) then .error .countTooLarge
      else .error (.config (.invalidOptions rule.id complaints))
  | none =>
    match raw with
    | .null => .ok .none
    | .object [] => .ok .none
    | .array [] => .ok .none
    | other => .error (.about other (.optionsNotAccepted rule.id other))

end ScriptLint
