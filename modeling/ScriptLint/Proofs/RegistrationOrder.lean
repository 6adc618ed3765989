/-
The order in which rules are registered does not show.

In a run the findings of one sort key all come from one rule, the one with the
name in the key (`rule_of_mem_attributedRun`), and that rule is isolated from
the others. So the findings of a key depend on the set of rules alone
(`filter_key_runRules`), and sorting puts every order of the rules into one and
the same list. Fixing only ever looks at lint results.
-/
import ScriptLint.Proofs.Isolation
import ScriptLint.Proofs.Passes
import ScriptLint.Proofs.Registry

namespace ScriptLint

/-- A rule whose handlers emit findings under its own name only. -/
def Rule.EmitsOwn (rule : Rule) : Prop :=
  ∀ visitor ∈ rule.visitors, ∀ (node : Node) (ctx : Context), ctx.rule = rule.id →
    ∀ finding, Emission.finding finding ∈ visitor.2 node ctx → finding.rule = rule.id

/-! ## The findings of one key -/

theorem rule_of_mem_contribution {source : Source} {active : ActiveRule} (own : active.rule.EmitsOwn)
    {finding : Finding}
    (h : finding ∈ contribution (Dispatch.contextFor source (Scope.analyze source) active)
      (active.calls source.root)) : finding.rule = active.id := by
  obtain ⟨call, hcall, ⟨emitted, hemitted, rfl⟩ | ⟨failure, -, rfl⟩⟩ := mem_contribution h
  · obtain ⟨-, visitor, hvisitor, hhandler, -⟩ := ActiveRule.mem_calls hcall
    exact own visitor hvisitor _ _ rfl emitted (hhandler ▸ hemitted)
  · rfl

/-- Each finding of a run carries the name of the rule that it comes from. -/
theorem rule_of_mem_attributedRun {source : Source} {rules : List ActiveRule} {entry : Attributed}
    {active : ActiveRule} (hentry : entry ∈ attributedRun source rules)
    (hactive : rules[entry.order]? = some active) (own : active.rule.EmitsOwn) :
    entry.finding.rule = active.id := by
  have member : entry.finding ∈ entriesOf entry.order (attributedRun source rules) :=
    List.mem_map_of_mem (List.mem_filter.2 ⟨hentry, by simp⟩)
  rw [entriesOf_attributedRun hactive] at member
  exact rule_of_mem_contribution own member

section Key

variable {source : Source} {rules : List ActiveRule}

/-- Among rules with distinct names, the findings of a key are those that the rule named in the
key reports when it is run alone. -/
theorem filter_key_runRules (distinct : (rules.map ActiveRule.id).Nodup)
    (own : ∀ active ∈ rules, active.rule.EmitsOwn) {active : ActiveRule} (h : active ∈ rules)
    {key : SortKey} (hkey : active.id = key.rule) :
    (runRules source rules).filter (·.key = key) = (runRules source [active]).filter (·.key = key) := by
  obtain ⟨place, hplace⟩ := List.getElem?_of_mem h
  have from_place : ∀ entry ∈ attributedRun source rules,
      (decide (entry.finding.key = key) = (decide (entry.finding.key = key) && decide (entry.order = place))) := by
    intro entry hentry
    by_cases hentry_key : entry.finding.key = key
    · obtain ⟨other, hother⟩ := exists_of_mem_attributedRun hentry
      have hrule := rule_of_mem_attributedRun hentry hother (own other (List.mem_of_getElem? hother))
      -- The rule that emitted the finding has the name in the key, and names are distinct.
      have same_id : (rules.map ActiveRule.id)[entry.order]? = (rules.map ActiveRule.id)[place]? := by
        simp only [List.getElem?_map, hother, hplace, Option.map_some, Option.some.injEq]
        rw [hkey, ← hrule, ← hentry_key]
        rfl
      have hlength : entry.order < (rules.map ActiveRule.id).length := by
        simpa using (List.getElem?_eq_some_iff.1 hother).1
      have hplaces : entry.order = place := (List.getElem?_inj hlength distinct).1 same_id
      simp [hplaces]
    · simp [hentry_key]
  rw [runRules_singleton, ← entriesOf_attributedRun hplace, ← map_finding_attributedRun, entriesOf,
    List.filter_map, List.filter_map, List.filter_filter]
  exact congrArg _ (List.filter_congr from_place)

/-- No finding has a key that names none of the rules. -/
theorem filter_key_runRules_eq_nil (own : ∀ active ∈ rules, active.rule.EmitsOwn) {key : SortKey}
    (h : ∀ active ∈ rules, active.id ≠ key.rule) : (runRules source rules).filter (·.key = key) = [] := by
  refine List.filter_eq_nil_iff.2 fun finding hfinding => ?_
  rw [← map_finding_attributedRun] at hfinding
  obtain ⟨entry, hentry, rfl⟩ := List.mem_map.1 hfinding
  obtain ⟨active, hactive⟩ := exists_of_mem_attributedRun hentry
  have member := List.mem_of_getElem? hactive
  have hrule := rule_of_mem_attributedRun hentry hactive (own active member)
  have hname := h active member
  simp only [decide_eq_true_eq]
  rintro rfl
  exact hname hrule.symm

/-- Rules in another order report the same findings, in the same report order. -/
theorem canonicalOrder_runRules_perm {others : List ActiveRule} (perm : rules.Perm others)
    (distinct : (rules.map ActiveRule.id).Nodup) (own : ∀ active ∈ rules, active.rule.EmitsOwn) :
    canonicalOrder (runRules source rules) = canonicalOrder (runRules source others) := by
  have distinct' : (others.map ActiveRule.id).Nodup := (perm.map ActiveRule.id).nodup_iff.1 distinct
  have own' : ∀ active ∈ others, active.rule.EmitsOwn := fun active h => own active (perm.mem_iff.2 h)
  refine sortByKey_congr fun key => ?_
  by_cases hnamed : ∃ active ∈ rules, active.id = key.rule
  · obtain ⟨active, hactive, hkey⟩ := hnamed
    rw [filter_key_runRules distinct own hactive hkey,
      filter_key_runRules distinct' own' (perm.mem_iff.1 hactive) hkey]
  · have hnone : ∀ active ∈ rules, active.id ≠ key.rule := fun active h heq => hnamed ⟨active, h, heq⟩
    rw [filter_key_runRules_eq_nil own hnone,
      filter_key_runRules_eq_nil own' fun active h => hnone active (perm.mem_iff.2 h)]

end Key

/-! ## Linting and fixing -/

namespace Linter

/-- Linting depends on the set of rules. -/
theorem lint_perm {first second : Linter} (hparser : first.parser = second.parser)
    (perm : first.rules.Perm second.rules) (distinct : (first.rules.map ActiveRule.id).Nodup)
    (own : ∀ active ∈ first.rules, active.rule.EmitsOwn) (text : String) (path : Path) :
    first.lint text path = second.lint text path := by
  simp only [lint, hparser]
  split
  · rw [canonicalOrder_runRules_perm perm distinct own]
  · rfl
  · rfl

end Linter

/-! ## Registration histories -/

namespace Registry

/-- The linter of a registry, which is frozen for it. -/
def linter (registry : Registry) (parser : Parser) (fixPasses : Nat) : Linter :=
  ⟨parser, registry.freeze.activeRules, fixPasses⟩

theorem Coherent.emitsOwn {catalog : Catalog} {registry : Registry} (h : Coherent catalog registry)
    (own : ∀ id rule, Keyed.get? id catalog = some rule → rule.EmitsOwn) :
    ∀ active ∈ registry.activeRules, active.rule.EmitsOwn := by
  intro active hactive
  obtain ⟨id, hrule, -⟩ := h.mem_activeRules_iff.1 hactive
  exact own id active.rule hrule

/-- **The order of registration is irrelevant.** Two histories over one catalog that end with the
same rules switched on, each at the same severity and with the same options, give linters that
report the same findings in the same order and fix every text alike. -/
theorem lint_fix_of_agree {catalog : Catalog}
    (named : ∀ id rule, Keyed.get? id catalog = some rule → rule.id = id)
    (own : ∀ id rule, Keyed.get? id catalog = some rule → rule.EmitsOwn)
    (first second : List Request)
    (agree : ∀ id, (replay catalog first).configured? id = (replay catalog second).configured? id)
    (parser : Parser) (fixPasses : Nat) (text : String) (path : Path) :
    ((replay catalog first).linter parser fixPasses).lint text path =
      ((replay catalog second).linter parser fixPasses).lint text path ∧
    ((replay catalog first).linter parser fixPasses).fix text path =
      ((replay catalog second).linter parser fixPasses).fix text path := by
  have hfirst := coherent_replay catalog first
  have alike : ∀ text, ((replay catalog first).linter parser fixPasses).lint text path =
      ((replay catalog second).linter parser fixPasses).lint text path := by
    intro text
    refine Linter.lint_perm ?_ ?_ ?_ ?_ text path
    · rfl
    · exact activeRules_perm (named _ _) agree
    · exact hfirst.nodup_ids (named _ _)
    · exact hfirst.emitsOwn own
  exact ⟨alike text, Linter.fix_congr alike rfl text⟩

/-- A rule that reports every program. -/
def noting (id : String) : Rule :=
  { id, name := id, visitors := [(.entering "program", fun node ctx => [ctx.report node "seen"])] }

/-- Two rules that report at one node. -/
def notingPair : Catalog := [("a", noting "a"), ("b", noting "b")]

theorem noting_emitsOwn (id : String) : (noting id).EmitsOwn := by
  intro visitor hvisitor node ctx hctx finding hfinding
  obtain rfl := List.mem_singleton.1 hvisitor
  obtain rfl := Emission.finding.inj (List.mem_singleton.1 hfinding)
  exact hctx

/-- Both rules, one after the other. -/
def straightHistory : List Request := [.register "a" (.int 1) .null, .register "b" (.int 2) .null]

/-- Both rules in the other order, one of them first switched off and then on again, with an unknown
rule between and a call after freezing, which are refused. -/
def windingHistory : List Request :=
  [.register "b" (.int 0) .null, .register "c" (.int 2) .null, .register "a" (.int 1) .null,
   .register "b" (.int 2) .null, .freeze, .register "a" (.int 0) .null]

/-- A parser that sees one program in every text. -/
def oneProgram : Parser := fun _ => some (.node { kind := "program", start := 0, stop := 1 } [])

theorem lint_fix_windingHistory :
    ((replay notingPair straightHistory).linter oneProgram 3).lint ";" (.ofString "x.js") =
      ((replay notingPair windingHistory).linter oneProgram 3).lint ";" (.ofString "x.js") ∧
    ((replay notingPair straightHistory).linter oneProgram 3).fix ";" (.ofString "x.js") =
      ((replay notingPair windingHistory).linter oneProgram 3).fix ";" (.ofString "x.js") := by
  have known : ∀ id rule, Keyed.get? id notingPair = some rule → rule = noting id := by
    intro id rule h
    have member := Keyed.mem_of_get?_eq_some h
    simp only [notingPair, List.mem_cons, Prod.mk.injEq, List.not_mem_nil, or_false] at member
    rcases member with ⟨rfl, rfl⟩ | ⟨rfl, rfl⟩ <;> rfl
  have hstraight : (replay notingPair straightHistory).entries =
      [("a", ⟨noting "a", .warn, .none⟩), ("b", ⟨noting "b", .error, .none⟩)] := rfl
  have hwinding : (replay notingPair windingHistory).entries =
      [("b", ⟨noting "b", .error, .none⟩), ("a", ⟨noting "a", .warn, .none⟩)] := rfl
  refine lint_fix_of_agree (fun id rule h => known id rule h ▸ rfl)
    (fun id rule h => known id rule h ▸ noting_emitsOwn id) _ _ ?_ _ _ _ _
  intro id
  simp only [configured?, hstraight, hwinding, Keyed.get?]
  by_cases ha : "a" = id <;> by_cases hb : "b" = id <;> simp [ha, hb]
  exact absurd (ha.trans hb.symm) (by decide)

end Registry

end ScriptLint
