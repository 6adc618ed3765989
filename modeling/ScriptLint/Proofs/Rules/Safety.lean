/-
Built-in rules do not fail.

A call of a built-in rule can fail in two ways: the scopes of the file cannot be
analysed, which takes an import specifier that imports nothing, or one of its
fixes reaches outside the node that it is reported for. In a tree of nested
nodes every edit that a built-in rule offers stays inside (`Edit.inside`), so
with names for all import specifiers every call goes through
(`runRules_builtin`). Where rules take something for granted, it is there
(`Granted`).
-/
import ScriptLint.Proofs.Isolation
import ScriptLint.Proofs.Rules.LetFix
import ScriptLint.Proofs.Rules.Options
import ScriptLint.Proofs.Rules.Reports
import ScriptLint.Proofs.Tree.Nesting

namespace ScriptLint

/-- A report goes through when its fixes stay inside the node. -/
theorem Context.report_of_inside (ctx : Context) (node : Node) (message : String) {fixes : List Fix}
    (h : ∀ fix ∈ fixes, (ctx.source.spanOf node).contains fix.span = true) :
    ∃ finding, ctx.report node message fixes = .finding finding ∧ finding.message = message := by
  have hnone : fixes.find? (fun fix => !(ctx.source.spanOf node).contains fix.span) = none :=
    List.find?_eq_none.2 fun fix hfix => by simp [h fix hfix]
  simp only [report, hnone]
  exact ⟨_, rfl, rfl⟩

/-- A call goes through when it emits findings only. -/
theorem exists_collect {severity : Severity} {emissions : List Emission}
    (h : ∀ emission ∈ emissions, ∃ finding, emission = .finding finding) :
    ∃ findings, collect severity emissions = .ok findings := by
  cases hcollect : collect severity emissions with
  | ok findings => exact ⟨findings, rfl⟩
  | error failure =>
    obtain ⟨emitted, rest, rfl⟩ := collect_eq_error_iff.1 hcollect
    obtain ⟨finding, hfinding⟩ := h (.failed failure) (by simp)
    cases hfinding

/-! ## Scopes -/

namespace Scope

/-- An import specifier has a name or an alias. -/
def Named (node : Node) : Prop :=
  node.kind = "import_specifier" →
    (node.childByField? "name").isSome = true ∨ (node.childByField? "alias").isSome = true

instance (node : Node) : Decidable (Named node) :=
  inferInstanceAs (Decidable (node.kind = "import_specifier" →
    (node.childByField? "name").isSome = true ∨ (node.childByField? "alias").isSome = true))

theorem exists_declarationsAt {node : Node} (h : Named node) : ∃ here, declarationsAt node = .ok here := by
  cases hdeclares : declarationsAt node with
  | ok here => exact ⟨here, rfl⟩
  | error failure =>
    obtain ⟨kind, halias, hname⟩ := unnamed_of_declarationsAt hdeclares
    have hnamed := h kind
    simp [halias, hname] at hnamed

/-- The scopes of a file can be analysed when all import specifiers in it have names. -/
theorem exists_analyze {source : Source} (named : ∀ node ∈ source.root.walk, Named node) :
    ∃ table, analyze source = .ok table := by
  obtain ⟨declarations, hdeclarations⟩ := exists_declarationsIn fun node hnode => exists_declarationsAt (named node hnode)
  exact exists_analyze_of_collected hdeclarations

end Scope

namespace Rules

/-! ## Edits -/

section Edits

variable {ctx : Context} {trigger : Trigger} {node : Node}

/-- The edits that are offered for a node of a nested tree stay inside it. -/
theorem Edit.inside {target : Node} {fix : Fix} (h : Edit ctx trigger node target fix) (nested : ctx.source.Nested)
    (htarget : target ∈ ctx.source.root.walk) : (ctx.source.spanOf target).contains fix.span = true := by
  have here := nested target htarget
  have below : ∀ child ∈ target.children, child.Nested := fun child hchild =>
    nested child (Node.children_subset_walk htarget child hchild)
  cases h with
  | whole => exact Span.contains_refl _
  | child hchild => exact here.inside _ hchild
  | behind => exact Span.contains_iff.2 ⟨here.ordered, Nat.le_refl _⟩
  | between _ hobject hproperty =>
    have hobject := Node.mem_children_of_childByField? hobject
    have hproperty := Node.mem_children_of_childByField? hproperty
    have hstart := (Node.covers_iff.1 (here.inside _ hobject)).1
    have hstop := (Node.covers_iff.1 (here.inside _ hproperty)).2
    exact Span.contains_iff.2
      ⟨Nat.le_trans hstart (below _ hobject).ordered, Nat.le_trans (below _ hproperty).ordered hstop⟩

/-- What a built-in rule emits in a nested tree with known scopes is a finding, in words of its own. -/
theorem Issued.exists_finding {emission : Emission} (h : Issued ctx trigger node emission)
    (nested : ctx.source.Nested) (hnode : node ∈ ctx.source.root.walk) (analysed : ∃ table, ctx.scopes = .ok table) :
    ∃ finding, emission = .finding finding ∧ worded finding.message = true := by
  cases h with
  | @about target message hworded =>
    obtain ⟨finding, hfinding, hmessage⟩ := ctx.report_of_inside target message (List.forall_mem_nil _)
    exact ⟨finding, hfinding, hmessage ▸ hworded⟩
  | @fixable target htarget message hworded fixes edits =>
    have htarget := Node.cons_children_subset_walk hnode target htarget
    obtain ⟨finding, hfinding, hmessage⟩ := ctx.report_of_inside target message fun fix hfix =>
      (edits fix hfix).inside nested htarget
    exact ⟨finding, hfinding, hmessage ▸ hworded⟩
  | failed hfailed =>
    obtain ⟨table, htable⟩ := analysed
    rw [htable] at hfailed
    cases hfailed

end Edits

/-! ## What is taken for granted -/

/-- What built-in rules look up without a case for it to be missing. -/
structure Granted (source : Source) (table : Scope.Table) : Prop where
  /-- The place where a variable is declared first. -/
  declared : ∀ v ∈ table.vars, ∃ identifier, firstIdentifier? v = some identifier
  /-- The declarator or loop head of a plain name. -/
  bound : ∀ node identifiers, plainBindings? node = some identifiers →
    ∀ identifier ∈ identifiers, ∃ parent, identifier.parent? = some parent

theorem exists_parent_of_plainBindings? {node : Node} {identifiers : List Node}
    (h : plainBindings? node = some identifiers) :
    ∀ identifier ∈ identifiers, ∃ parent, identifier.parent? = some parent := by
  unfold plainBindings? at h
  split at h
  · obtain ⟨target, hfilter, rfl⟩ := Option.map_eq_some_iff.1 h
    intro identifier hidentifier
    obtain rfl := List.mem_singleton.1 hidentifier
    exact ⟨node, Node.parent?_of_childByField? (Option.filter_eq_some_iff.1 hfilter).1⟩
  · intro identifier hidentifier
    obtain ⟨declarator, -, hparent⟩ :=
      (plainNames?_eq_some (Option.filter_eq_some_iff.1 h).1).2 identifier hidentifier
    exact ⟨declarator, hparent⟩

theorem granted_of_analyze {source : Source} {table : Scope.Table} (h : Scope.analyze source = .ok table) :
    Granted source table where
  declared v hv := by
    cases hfirst : firstIdentifier? v with
    | none => exact absurd (List.head?_eq_none_iff.1 hfirst) ((Scope.describes_of_analyze h).declared v hv)
    | some identifier => exact ⟨identifier, rfl⟩
  bound _ _ := exists_parent_of_plainBindings?

end Rules

/-! ## Runs -/

section Runs

variable {source : Source} {rules : List ActiveRule} {active : ActiveRule} {call : Call}

/-- What a built-in rule emits at a call is findings, in words of the rule. -/
theorem exists_finding_of_mem_call (hbuiltin : active.rule ∈ Rules.builtin) (nested : source.Nested)
    (named : ∀ node ∈ source.root.walk, Scope.Named node) (hcall : call ∈ active.calls source.root) :
    ∀ emission ∈ call.handler call.node (Dispatch.contextFor source (Scope.analyze source) active),
      ∃ finding, emission = .finding finding ∧ Rules.worded finding.message = true := by
  obtain ⟨hnode, visitor, hvisitor, hhandler, -⟩ := ActiveRule.mem_calls hcall
  rw [hhandler]
  intro emission hemission
  exact (Rules.issued_builtin active.rule hbuiltin visitor hvisitor call.node _ emission hemission).exists_finding
    nested hnode (Scope.exists_analyze named)

/-- Calls of built-in rules go through. -/
theorem exists_result (hbuiltin : active.rule ∈ Rules.builtin) (nested : source.Nested)
    (named : ∀ node ∈ source.root.walk, Scope.Named node) (hcall : call ∈ active.calls source.root) :
    ∃ findings, call.result (Dispatch.contextFor source (Scope.analyze source) active) = .ok findings :=
  exists_collect fun emission hemission =>
    have ⟨finding, hfinding, _⟩ := exists_finding_of_mem_call hbuiltin nested named hcall emission hemission
    ⟨finding, hfinding⟩

/-- Findings of built-in rules are in words of these rules, not of the engine. -/
theorem worded_of_mem_runRules (hbuiltin : ∀ active ∈ rules, active.rule ∈ Rules.builtin) (nested : source.Nested)
    (named : ∀ node ∈ source.root.walk, Scope.Named node) :
    ∀ finding ∈ runRules source rules, Rules.worded finding.message = true := by
  intro finding hfinding
  obtain ⟨active, hactive, call, hcall, ⟨emitted, hemitted, rfl⟩ | ⟨failure, hfailure, -⟩⟩ :=
    exists_call_of_mem_runRules hfinding
  · obtain ⟨_, hsame, hworded⟩ :=
      exists_finding_of_mem_call (hbuiltin active hactive) nested named hcall _ hemitted
    obtain rfl := Emission.finding.inj hsame
    exact hworded
  · obtain ⟨findings, hfindings⟩ := exists_result (hbuiltin active hactive) nested named hcall
    rw [hfindings] at hfailure
    cases hfailure

/-- **Built-in rules do not fail.** In a tree of nested nodes in which all import specifiers have
names, every call of a built-in rule goes through, no finding tells of a failed rule, and every fix
stays inside the node that it is reported for. What the rules take for granted of the scopes and of
the options that they have accepted is there. -/
theorem runRules_builtin (source : Source) (rules : List ActiveRule)
    (builtin : ∀ active ∈ rules, active.rule ∈ Rules.builtin)
    (accepted : ∀ active ∈ rules, ∃ raw, active.rule.checkOptions raw = .ok active.options)
    (nested : source.Nested) (named : ∀ node ∈ source.root.walk, Scope.Named node) :
    (∀ active ∈ rules, ∀ call ∈ active.calls source.root, ∃ findings,
      call.result (Dispatch.contextFor source (Scope.analyze source) active) = .ok findings) ∧
    (∀ finding ∈ runRules source rules, ∀ ctx node failure, finding ≠ failureFinding ctx node failure) ∧
    (∀ finding ∈ runRules source rules, ∀ fix ∈ finding.fixes, ∃ node ∈ source.root.walk,
      finding.span = source.spanOf node ∧ finding.span.contains fix.span = true) ∧
    (∃ table, Scope.analyze source = .ok table ∧ Rules.Granted source table) ∧
    ∀ active ∈ rules, Rules.ReadsOwn active.rule active.options := by
  refine ⟨fun active hactive call hcall => exists_result (builtin active hactive) nested named hcall, ?_, ?_, ?_, ?_⟩
  · rintro finding hfinding ctx node failure rfl
    have hworded := worded_of_mem_runRules builtin nested named _ hfinding
    rw [Rules.not_worded_failureFinding] at hworded
    cases hworded
  · intro finding hfinding fix hfix
    obtain ⟨ctx, trigger, node, target, rfl, -, -, htarget, hspan, hedit⟩ :=
      Rules.exists_edit_of_mem_runRules builtin hfinding hfix
    exact ⟨target, htarget, hspan, hspan ▸ hedit.inside nested htarget⟩
  · obtain ⟨table, htable⟩ := Scope.exists_analyze named
    exact ⟨table, htable, Rules.granted_of_analyze htable⟩
  · intro active hactive
    obtain ⟨raw, hraw⟩ := accepted active hactive
    exact Rules.readsOwn_of_checkOptions (builtin active hactive) hraw

/-- An import of one name, and a semicolon too many. -/
def importSource : Source :=
  .ofParsed (.ofString "x.js") (Utf8.encode "import {a};;")
    (.node { kind := "program", start := 0, stop := 12 }
      [.node { kind := "import_statement", start := 0, stop := 11 }
        [.node { kind := "import_specifier", start := 8, stop := 9 }
          [.node { kind := "identifier", start := 8, stop := 9, field := some "name" } []]],
       .node { kind := "empty_statement", start := 11, stop := 12 } []])

def importRules : List ActiveRule :=
  [⟨Rules.noExtraSemi, .warn, .none⟩, ⟨Rules.noUnusedVars, .error, .unused {}⟩]

theorem runRules_builtin_import :
    (∀ finding ∈ runRules importSource importRules, ∀ ctx node failure, finding ≠ failureFinding ctx node failure) ∧
      (runRules importSource importRules).map Finding.message =
        ["Unnecessary semicolon.", "'a' is defined but never used."] := by
  have builtin : ∀ active ∈ importRules, active.rule ∈ Rules.builtin := by simp [importRules, Rules.builtin]
  have accepted : ∀ active ∈ importRules, ∃ raw, active.rule.checkOptions raw = .ok active.options := by
    simp only [importRules, List.forall_mem_cons]
    exact ⟨⟨.null, rfl⟩, ⟨.null, rfl⟩, fun _ h => absurd h List.not_mem_nil⟩
  have nested : importSource.Nested := by decide +kernel
  have named : ∀ node ∈ importSource.root.walk, Scope.Named node := by decide +kernel
  refine ⟨(runRules_builtin importSource importRules builtin accepted nested named).2.1, ?_⟩
  decide +kernel

end Runs

end ScriptLint
