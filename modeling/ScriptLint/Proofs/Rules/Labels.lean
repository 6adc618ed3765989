/-
What handlers write on their findings.

All built-in rules and all declared ones label their findings with the rule and
the file of the context that they are given, and never as fatal. So whatever a
configuration switches on (`Registry.emits_of_build`) speaks for itself only, about
the file at hand, and is not taken for a parse error.
-/
import ScriptLint.Proofs.RegistrationOrder
import ScriptLint.Proofs.Rules.Reports
import ScriptLint.Proofs.Run.Results
import ScriptLint.Rule.Declared

namespace ScriptLint

/-- A list of emissions of which all findings are labelled. -/
def Context.LabelsAll (ctx : Context) (emissions : List Emission) : Prop :=
  ∀ finding, Emission.finding finding ∈ emissions → ctx.Labels finding

/-- A rule that labels all that it emits. -/
def Rule.Labels (rule : Rule) : Prop :=
  ∀ visitor ∈ rule.visitors, ∀ node ctx, Context.LabelsAll ctx (visitor.2 node ctx)

namespace Rule

variable {rule : Rule}

theorem Labels.emitsOwn (h : rule.Labels) : rule.EmitsOwn :=
  fun visitor hvisitor node ctx hctx finding hfinding => (h visitor hvisitor node ctx finding hfinding).rule.trans hctx

theorem Labels.emitsInPlace (h : rule.Labels) : rule.EmitsInPlace :=
  fun visitor hvisitor node ctx finding hfinding => (h visitor hvisitor node ctx finding hfinding).path

theorem Labels.neverFatal (h : rule.Labels) : rule.NeverFatal :=
  fun visitor hvisitor node ctx finding hfinding => (h visitor hvisitor node ctx finding hfinding).fatal

end Rule

/-! ## Ways of emitting -/

namespace Context

variable {ctx : Context}

@[simp] theorem labelsAll_nil : ctx.LabelsAll [] := fun _ h => absurd h List.not_mem_nil

@[simp] theorem labelsAll_failed (failure : Failure) : ctx.LabelsAll [.failed failure] := by
  intro finding h
  cases List.mem_singleton.1 h

@[simp] theorem labelsAll_report (node : Node) (message : String) (fixes : List Fix) :
    ctx.LabelsAll [ctx.report node message fixes] :=
  fun _ h => labels_of_report (List.mem_singleton.1 h).symm

@[simp] theorem labelsAll_map {α : Type} (items : List α) (emit : α → Emission) :
    ctx.LabelsAll (items.map emit) ↔ ∀ item ∈ items, ctx.LabelsAll [emit item] := by
  simp only [LabelsAll, List.mem_map, List.mem_singleton]
  constructor
  · intro h item hitem finding heq
    exact h finding ⟨item, hitem, heq.symm⟩
  · rintro h finding ⟨item, hitem, heq⟩
    exact h item hitem finding heq.symm

end Context

/-! ## Built-in rules -/

namespace Rules

theorem Issued.labels {ctx : Context} {trigger : Trigger} {node : Node} {emission : Emission} {finding : Finding}
    (h : Issued ctx trigger node emission) (hfinding : emission = .finding finding) : ctx.Labels finding := by
  cases h with
  | about => exact Context.labels_of_report hfinding
  | fixable => exact Context.labels_of_report hfinding
  | failed => cases hfinding

/-- All built-in rules label their findings. -/
theorem labels_builtin : ∀ rule ∈ builtin, rule.Labels :=
  fun rule hrule visitor hvisitor node ctx _ hfinding =>
    (issued_builtin rule hrule visitor hvisitor node ctx _ hfinding).labels rfl

end Rules

/-! ## Declared rules -/

namespace Declared

theorem labels_emission (ctx : Context) (node : Node) (item : Item) : ctx.LabelsAll [item.emission ctx node] := by
  cases item with
  | report message edits =>
    simp only [Item.emission]
    split <;> simp
  | direct message severity =>
    intro finding h
    obtain rfl := Emission.finding.inj (List.mem_singleton.1 h)
    exact ⟨rfl, rfl, rfl⟩
  | giveUp message => exact Context.labelsAll_failed _
  | junk value => exact Context.labelsAll_failed _

theorem labels_handler (action : Action) (node : Node) (ctx : Context) : ctx.LabelsAll (action.handler node ctx) := by
  simp only [Action.handler]
  split
  · exact (Context.labelsAll_map _ _).2 fun item _ => labels_emission ctx node item
  · exact Context.labelsAll_nil

end Declared

/-- All declared rules do so as well. -/
theorem DeclaredRule.labels_toRule (rule : DeclaredRule) : rule.toRule.Labels := by
  intro visitor hvisitor node ctx
  obtain ⟨⟨key, action⟩, -, rfl⟩ := List.mem_map.1 hvisitor
  exact Declared.labels_handler action node ctx

/-! ## Configured rules -/

/-- **The rules that a configuration switches on report under their own names, about the file that
they look at, and nothing fatal.** -/
theorem Registry.emits_of_build {declared : List DeclaredRule} {config : Config} {registry : Registry}
    (h : Registry.build (Catalog.extended declared) config = .ok registry) :
    ∀ active ∈ registry.activeRules,
      active.rule.EmitsOwn ∧ active.rule.EmitsInPlace ∧ active.rule.NeverFatal := by
  intro active hactive
  have labels : active.rule.Labels := by
    rcases Registry.origin_of_build h active hactive with hbuiltin | ⟨source, -, hsource⟩
    · exact Rules.labels_builtin active.rule hbuiltin
    · exact hsource ▸ source.labels_toRule
  exact ⟨labels.emitsOwn, labels.emitsInPlace, labels.neverFatal⟩

end ScriptLint
