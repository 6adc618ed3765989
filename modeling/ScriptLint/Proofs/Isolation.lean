/-
Rules do not disturb each other.

All rules of a run share one walk, one list of findings and one list of failed
rules. `attributedRun` is that run with each finding marked by the place of the
rule whose call added it; without the marks it is the run itself
(`map_finding_attributedRun`). What it holds for one place is the contribution
of the rule there and nothing else (`entriesOf_attributedRun`), so it is what
the rule reports when it is run alone. `UpToFailure` says what that is by the
tour of the tree and by what the handlers produce.
-/
import ScriptLint.Proofs.Calls
import ScriptLint.Proofs.Distinct
import ScriptLint.Proofs.Sorting
import ScriptLint.Rule.Declared

namespace ScriptLint

/-! ## A run that marks its findings -/

/-- A finding with the place of the rule that it comes from. -/
structure Attributed where
  order : Nat
  finding : Finding

/-- The state of a run whose findings are marked. -/
structure Ledger where
  entries : List Attributed
  failed : List Nat

def Ledger.progress (ledger : Ledger) : Progress :=
  ⟨ledger.entries.map Attributed.finding, ledger.failed⟩

/-- Calls a handler and marks what the call adds. -/
def recordCall (node : Node) (ledger : Ledger) (slot : Slot) : Ledger :=
  let next := callSlot node ⟨[], ledger.failed⟩ slot
  ⟨ledger.entries ++ next.findings.map (⟨slot.order, ·⟩), next.failed⟩

def recordVisit (dispatch : Dispatch) (ledger : Ledger) (visit : Visit) : Ledger :=
  (dispatch.handlersFor visit).foldl (recordCall visit.node) ledger

/-- The findings of a run, each with the place of its rule. -/
def attributedRun (source : Source) (rules : List ActiveRule) : List Attributed :=
  ((visits source.root).foldl (recordVisit (Dispatch.build source rules)) ⟨[], []⟩).entries

/-- What the rule at one place has added. -/
def entriesOf (order : Nat) (entries : List Attributed) : List Finding :=
  (entries.filter (·.order = order)).map Attributed.finding

theorem entriesOf_append (order : Nat) (first second : List Attributed) :
    entriesOf order (first ++ second) = entriesOf order first ++ entriesOf order second := by
  simp [entriesOf]

theorem entriesOf_marked_self (order : Nat) (findings : List Finding) :
    entriesOf order (findings.map (⟨order, ·⟩)) = findings := by
  simp [entriesOf, List.filter_map, Function.comp_def]

theorem entriesOf_marked_other {order other : Nat} (h : other ≠ order) (findings : List Finding) :
    entriesOf order (findings.map (⟨other, ·⟩)) = [] := by
  simp [entriesOf, List.filter_map, Function.comp_def, h]

/-! ## The marks change nothing -/

/-- A call only adds to the findings, and what it adds does not depend on them. -/
theorem callSlot_append (node : Node) (findings : List Finding) (failed : List Nat) (slot : Slot) :
    callSlot node ⟨findings, failed⟩ slot =
      ⟨findings ++ (callSlot node ⟨[], failed⟩ slot).findings,
        (callSlot node ⟨[], failed⟩ slot).failed⟩ := by
  simp only [callSlot]
  split
  · simp
  · split <;> simp

theorem progress_recordCall (node : Node) (ledger : Ledger) (slot : Slot) :
    (recordCall node ledger slot).progress = callSlot node ledger.progress slot := by
  rw [Ledger.progress, callSlot_append]
  simp [recordCall, Ledger.progress, Function.comp_def]

theorem progress_recordCalls (node : Node) : ∀ (slots : List Slot) (ledger : Ledger),
    (slots.foldl (recordCall node) ledger).progress = slots.foldl (callSlot node) ledger.progress
  | [], _ => rfl
  | slot :: slots, ledger => by
    rw [List.foldl_cons, List.foldl_cons, progress_recordCalls node slots, progress_recordCall]

theorem progress_recordVisits (dispatch : Dispatch) : ∀ (visits : List Visit) (ledger : Ledger),
    (visits.foldl (recordVisit dispatch) ledger).progress =
      visits.foldl (serve dispatch) ledger.progress
  | [], _ => rfl
  | visit :: visits, ledger => by
    rw [List.foldl_cons, List.foldl_cons, progress_recordVisits dispatch visits, recordVisit,
      progress_recordCalls, serve]

theorem map_finding_attributedRun (source : Source) (rules : List ActiveRule) :
    (attributedRun source rules).map Attributed.finding = runRules source rules := by
  have h := progress_recordVisits (Dispatch.build source rules) (visits source.root) ⟨[], []⟩
  exact congrArg Progress.findings h

/-! ## The calls of one place -/

/-- All handlers that are called during a walk, with the nodes they are called at. -/
def Dispatch.agenda (dispatch : Dispatch) (root : Node) : List (Node × Slot) :=
  (visits root).flatMap fun visit => (dispatch.handlersFor visit).map fun slot => (visit.node, slot)

theorem attributedRun_eq_foldl_agenda (source : Source) (rules : List ActiveRule) :
    attributedRun source rules =
      (((Dispatch.build source rules).agenda source.root).foldl
        (fun ledger step => recordCall step.1 ledger step.2) ⟨[], []⟩).entries := by
  simp only [attributedRun, Dispatch.agenda, List.foldl_flatMap, List.foldl_map]
  rfl

/-- The calls on an agenda that belong to one place. -/
def callsOf (order : Nat) (agenda : List (Node × Slot)) : List Call :=
  (agenda.filter (·.2.order = order)).map fun step => ⟨step.1, step.2.handler⟩

theorem recordCall_failed {node : Node} {ledger : Ledger} {slot : Slot}
    (h : slot.order ∈ ledger.failed) : recordCall node ledger slot = ledger := by
  simp [recordCall, callSlot, h]

theorem recordCall_ok {node : Node} {ledger : Ledger} {slot : Slot} {findings : List Finding}
    (h : slot.order ∉ ledger.failed)
    (hok : (Call.mk node slot.handler).result slot.context = .ok findings) :
    recordCall node ledger slot =
      ⟨ledger.entries ++ findings.map (⟨slot.order, ·⟩), ledger.failed⟩ := by
  have hok : collect slot.context.severity (slot.handler node slot.context) = .ok findings := hok
  simp [recordCall, callSlot, h, hok]

theorem recordCall_error {node : Node} {ledger : Ledger} {slot : Slot} {failure : Failure}
    (h : slot.order ∉ ledger.failed)
    (herror : (Call.mk node slot.handler).result slot.context = .error failure) :
    recordCall node ledger slot =
      ⟨ledger.entries ++ [⟨slot.order, failureFinding slot.context node failure⟩],
        slot.order :: ledger.failed⟩ := by
  have herror : collect slot.context.severity (slot.handler node slot.context) = .error failure := herror
  simp [recordCall, callSlot, h, herror]

/-- A call of another rule changes neither what a rule has added nor whether it has failed. -/
theorem recordCall_other {order : Nat} {slot : Slot} (h : slot.order ≠ order) (node : Node)
    (ledger : Ledger) :
    entriesOf order (recordCall node ledger slot).entries = entriesOf order ledger.entries ∧
      (order ∈ (recordCall node ledger slot).failed ↔ order ∈ ledger.failed) := by
  by_cases hfailed : slot.order ∈ ledger.failed
  · rw [recordCall_failed hfailed]
    exact ⟨rfl, Iff.rfl⟩
  · cases hcall : (Call.mk node slot.handler).result slot.context with
    | ok findings =>
      rw [recordCall_ok hfailed hcall, entriesOf_append, entriesOf_marked_other h]
      simp
    | error failure =>
      rw [recordCall_error hfailed hcall, entriesOf_append]
      simp [entriesOf, h, Ne.symm h]

/-- From any state on, a rule that has not failed adds the contribution of its calls, whatever
calls of other rules stand between them; one that has failed adds nothing. -/
theorem entriesOf_foldl_agenda {order : Nat} {ctx : Context} :
    ∀ (agenda : List (Node × Slot)) (ledger : Ledger),
      (∀ step ∈ agenda, step.2.order = order → step.2.context = ctx) →
      entriesOf order (agenda.foldl (fun ledger step => recordCall step.1 ledger step.2) ledger).entries =
        entriesOf order ledger.entries ++
          if order ∈ ledger.failed then [] else contribution ctx (callsOf order agenda)
  | [], ledger, _ => by simp [callsOf, contribution]
  | (node, slot) :: agenda, ledger, same => by
    have rest := fun ledger => entriesOf_foldl_agenda agenda ledger
      fun step hstep => same step (List.mem_cons_of_mem _ hstep)
    rw [List.foldl_cons, rest]
    by_cases horder : slot.order = order
    · have hctx : slot.context = ctx := same (node, slot) (by simp) horder
      have hcalls : callsOf order ((node, slot) :: agenda) = ⟨node, slot.handler⟩ :: callsOf order agenda := by
        simp [callsOf, horder]
      subst horder hctx
      by_cases hfailed : slot.order ∈ ledger.failed
      · rw [recordCall_failed hfailed]
        simp [hfailed]
      · rw [hcalls, contribution, if_neg hfailed]
        cases hcall : (Call.mk node slot.handler).result slot.context with
        | ok findings =>
          rw [recordCall_ok hfailed hcall, entriesOf_append, entriesOf_marked_self, if_neg hfailed,
            List.append_assoc]
        | error failure =>
          rw [recordCall_error hfailed hcall, entriesOf_append]
          simp [entriesOf]
    · obtain ⟨hentries, hfailed⟩ := recordCall_other horder node ledger
      have hcalls : callsOf order ((node, slot) :: agenda) = callsOf order agenda := by
        simp [callsOf, horder]
      rw [hentries, hcalls]
      simp only [hfailed]

/-! ## The table of handlers -/

/-- The entries of one rule in the table of handlers. -/
def Dispatch.slotsOf (source : Source) (active : ActiveRule) (order : Nat) : List (Trigger × Slot) :=
  active.rule.visitors.map fun visitor =>
    (visitor.1, ⟨order, Dispatch.contextFor source (Scope.analyze source) active, visitor.2⟩)

theorem Dispatch.slots_build (source : Source) (rules : List ActiveRule) :
    (Dispatch.build source rules).slots =
      rules.zipIdx.flatMap fun active => Dispatch.slotsOf source active.1 active.2 := rfl

theorem Dispatch.order_of_mem_slotsOf {source : Source} {active : ActiveRule} {order : Nat}
    {entry : Trigger × Slot} (h : entry ∈ Dispatch.slotsOf source active order) :
    entry.2.order = order := by
  obtain ⟨_, -, rfl⟩ := List.mem_map.1 h
  rfl

/-- Of all entries, those with one place are the entries of the rule at that place. -/
theorem Dispatch.filter_slots (source : Source) (rules : List ActiveRule) (order : Nat) :
    (Dispatch.build source rules).slots.filter (fun entry => entry.2.order = order) =
      rules[order]?.toList.flatMap fun active => Dispatch.slotsOf source active order := by
  rw [Dispatch.slots_build]
  exact filter_flatMap_zipIdx (fun entry : Trigger × Slot => entry.2.order)
    (fun _ _ hentry => Dispatch.order_of_mem_slotsOf hentry) order

theorem Dispatch.filter_lookup {source : Source} {rules : List ActiveRule} {order : Nat}
    {active : ActiveRule} (h : rules[order]? = some active) (trigger : Trigger) :
    ((Dispatch.build source rules).lookup trigger).filter (·.order = order) =
      (active.rule.visitors.filter (·.1 = trigger)).map fun visitor =>
        ⟨order, Dispatch.contextFor source (Scope.analyze source) active, visitor.2⟩ := by
  have own := Dispatch.filter_slots source rules order
  rw [h, Option.toList_some, List.flatMap_singleton] at own
  have comm : ((Dispatch.build source rules).slots.filter (·.1 = trigger)).filter (·.2.order = order) =
      (Dispatch.slotsOf source active order).filter (·.1 = trigger) := by
    rw [List.filter_filter, ← own, List.filter_filter]
    simp only [Bool.and_comm]
  rw [Dispatch.lookup, List.filter_map]
  simp only [Function.comp_def]
  rw [comm]
  simp [Dispatch.slotsOf, List.filter_map, Function.comp_def]

/-- At one visit the handlers of a rule are called in the order of `ActiveRule.callsAt`: the sort
that merges the handlers of all rules does not reorder those of one. -/
theorem Dispatch.filter_handlersFor {source : Source} {rules : List ActiveRule} {order : Nat}
    {active : ActiveRule} (h : rules[order]? = some active) (visit : Visit) :
    ((Dispatch.build source rules).handlersFor visit).filter (·.order = order) =
      (active.callsAt visit).map fun call =>
        ⟨order, Dispatch.contextFor source (Scope.analyze source) active, call.handler⟩ := by
  have both : ((Dispatch.build source rules).handlersFor visit).filter (·.order = order) =
      ((Dispatch.build source rules).lookup ⟨some visit.node.kind, visit.phase⟩ ++
        (Dispatch.build source rules).lookup ⟨none, visit.phase⟩).filter (·.order = order) := by
    rw [Dispatch.handlersFor]
    split
    · next hempty => simp [List.isEmpty_iff.1 hempty]
    · refine filter_mergeSort ?_ ?_ ?_ _
      · intro a b c hab hbc
        simp only [decide_eq_true_eq] at *
        omega
      · intro a b
        simp only [Bool.or_eq_true, decide_eq_true_eq]
        omega
      · intro a b ha hb
        simp only [decide_eq_true_eq] at *
        omega
  rw [both, List.filter_append, Dispatch.filter_lookup h, Dispatch.filter_lookup h]
  simp [ActiveRule.callsAt, Function.comp_def]

/-- The calls of one place are the calls of the rule there. -/
theorem callsOf_agenda {source : Source} {rules : List ActiveRule} {order : Nat}
    {active : ActiveRule} (h : rules[order]? = some active) :
    callsOf order ((Dispatch.build source rules).agenda source.root) = active.calls source.root := by
  simp only [callsOf, Dispatch.agenda, ActiveRule.calls, List.filter_flatMap, List.map_flatMap]
  refine congrArg List.flatten (List.map_congr_left fun visit _ => ?_)
  rw [List.filter_map, List.map_map]
  simp only [Function.comp_def]
  rw [Dispatch.filter_handlersFor h visit, List.map_map]
  refine (List.map_congr_left fun call hcall => ?_).trans (List.map_id _)
  obtain ⟨_, -, rfl⟩ := List.mem_map.1 hcall
  rfl

/-! ## Places -/

theorem Dispatch.mem_handlersFor {dispatch : Dispatch} {visit : Visit} {slot : Slot}
    (h : slot ∈ dispatch.handlersFor visit) : ∃ entry ∈ dispatch.slots, entry.2 = slot := by
  have member : slot ∈ dispatch.lookup ⟨some visit.node.kind, visit.phase⟩ ∨
      slot ∈ dispatch.lookup ⟨none, visit.phase⟩ := by
    rw [Dispatch.handlersFor] at h
    split at h
    · exact .inl h
    · simpa using h
  rcases member with member | member <;>
  · obtain ⟨entry, hentry, rfl⟩ := List.mem_map.1 member
    exact ⟨entry, (List.mem_filter.1 hentry).1, rfl⟩

/-- A slot that is called at a visit stands for the rule at its place. -/
theorem Dispatch.exists_of_mem_handlersFor {source : Source} {rules : List ActiveRule} {visit : Visit} {slot : Slot}
    (h : slot ∈ (Dispatch.build source rules).handlersFor visit) :
    ∃ active, rules[slot.order]? = some active ∧
      slot.context = Dispatch.contextFor source (Scope.analyze source) active := by
  obtain ⟨entry, hentry, rfl⟩ := Dispatch.mem_handlersFor h
  rw [Dispatch.slots_build] at hentry
  obtain ⟨⟨active, place⟩, hactive, hentry⟩ := List.mem_flatMap.1 hentry
  obtain ⟨visitor, -, rfl⟩ := List.mem_map.1 hentry
  exact ⟨active, List.mem_zipIdx_iff_getElem?.1 hactive, rfl⟩

theorem Dispatch.mem_agenda {source : Source} {rules : List ActiveRule} {step : Node × Slot}
    (h : step ∈ (Dispatch.build source rules).agenda source.root) :
    ∃ active, rules[step.2.order]? = some active ∧
      step.2.context = Dispatch.contextFor source (Scope.analyze source) active := by
  obtain ⟨visit, -, h⟩ := List.mem_flatMap.1 h
  obtain ⟨slot, hslot, rfl⟩ := List.mem_map.1 h
  exact Dispatch.exists_of_mem_handlersFor hslot

/-- Entries are marked with places of slots that were called. -/
theorem order_of_mem_foldl_agenda : ∀ {agenda : List (Node × Slot)} {ledger : Ledger} {entry : Attributed},
    entry ∈ (agenda.foldl (fun ledger step => recordCall step.1 ledger step.2) ledger).entries →
      entry ∈ ledger.entries ∨ ∃ step ∈ agenda, step.2.order = entry.order
  | [], _, _, h => .inl h
  | (node, slot) :: agenda, ledger, entry, h => by
    rw [List.foldl_cons] at h
    rcases order_of_mem_foldl_agenda h with h | ⟨step, hstep, horder⟩
    · simp only [recordCall, List.mem_append, List.mem_map] at h
      rcases h with h | ⟨finding, -, rfl⟩
      · exact .inl h
      · exact .inr ⟨(node, slot), by simp, rfl⟩
    · exact .inr ⟨step, List.mem_cons_of_mem _ hstep, horder⟩

theorem exists_of_mem_attributedRun {source : Source} {rules : List ActiveRule} {entry : Attributed}
    (h : entry ∈ attributedRun source rules) : ∃ active, rules[entry.order]? = some active := by
  rw [attributedRun_eq_foldl_agenda] at h
  rcases order_of_mem_foldl_agenda h with h | ⟨step, hstep, horder⟩
  · cases h
  · obtain ⟨active, hactive, -⟩ := Dispatch.mem_agenda hstep
    exact ⟨active, horder ▸ hactive⟩

/-! ## Isolation -/

/-- The rule at a place adds the contribution of its own calls. -/
theorem entriesOf_attributedRun {source : Source} {rules : List ActiveRule} {order : Nat}
    {active : ActiveRule} (h : rules[order]? = some active) :
    entriesOf order (attributedRun source rules) =
      contribution (Dispatch.contextFor source (Scope.analyze source) active)
        (active.calls source.root) := by
  have same : ∀ step ∈ (Dispatch.build source rules).agenda source.root, step.2.order = order →
      step.2.context = Dispatch.contextFor source (Scope.analyze source) active := by
    intro step hstep horder
    obtain ⟨other, hother, hctx⟩ := Dispatch.mem_agenda hstep
    obtain rfl : active = other := Option.some.inj (by rw [← h, ← hother, horder])
    exact hctx
  rw [attributedRun_eq_foldl_agenda, entriesOf_foldl_agenda _ ⟨[], []⟩ same, callsOf_agenda h]
  simp [entriesOf]

/-- A rule that is run alone reports the contribution of its calls. -/
theorem runRules_singleton (source : Source) (active : ActiveRule) :
    runRules source [active] =
      contribution (Dispatch.contextFor source (Scope.analyze source) active)
        (active.calls source.root) := by
  have all_first : (attributedRun source [active]).filter (·.order = 0) = attributedRun source [active] := by
    refine List.filter_eq_self.2 fun entry hentry => ?_
    obtain ⟨_, hactive⟩ := exists_of_mem_attributedRun hentry
    have := (List.getElem?_eq_some_iff.1 hactive).1
    simp only [List.length_singleton] at this
    simp only [decide_eq_true_eq]
    omega
  have first : [active][0]? = some active := rfl
  rw [← entriesOf_attributedRun first, entriesOf, all_first, map_finding_attributedRun]

/-- Every finding of a run comes from a call of a rule: it was emitted there, and then has the severity
of the rule, or tells of the failure of the call. -/
theorem exists_call_of_mem_runRules {source : Source} {rules : List ActiveRule} {finding : Finding}
    (h : finding ∈ runRules source rules) :
    ∃ active ∈ rules, ∃ call ∈ active.calls source.root,
      (∃ emitted, .finding emitted ∈
            call.handler call.node (Dispatch.contextFor source (Scope.analyze source) active) ∧
          finding = { emitted with severity := active.severity }) ∨
        ∃ failure, call.result (Dispatch.contextFor source (Scope.analyze source) active) = .error failure ∧
          finding = failureFinding (Dispatch.contextFor source (Scope.analyze source) active) call.node failure := by
  rw [← map_finding_attributedRun] at h
  obtain ⟨entry, hentry, rfl⟩ := List.mem_map.1 h
  obtain ⟨active, hactive⟩ := exists_of_mem_attributedRun hentry
  have member : entry.finding ∈ entriesOf entry.order (attributedRun source rules) :=
    List.mem_map_of_mem (List.mem_filter.2 ⟨hentry, by simp⟩)
  rw [entriesOf_attributedRun hactive] at member
  obtain ⟨call, hcall, hfrom⟩ := mem_contribution member
  exact ⟨active, List.mem_of_getElem? hactive, call, hcall, hfrom⟩

/-- Every finding of a run was emitted by a handler of a rule, and then has the severity of the rule,
or tells of a failure of one. -/
theorem mem_runRules {source : Source} {rules : List ActiveRule} {finding : Finding}
    (h : finding ∈ runRules source rules) :
    ∃ active ∈ rules, ∃ visitor ∈ active.rule.visitors, ∃ node,
      (∃ emitted, .finding emitted ∈ visitor.2 node (Dispatch.contextFor source (Scope.analyze source) active) ∧
          finding = { emitted with severity := active.severity }) ∨
        ∃ failure, finding =
          failureFinding (Dispatch.contextFor source (Scope.analyze source) active) node failure := by
  obtain ⟨active, hactive, call, hcall, hfrom⟩ := exists_call_of_mem_runRules h
  obtain ⟨-, visitor, hvisitor, hhandler, -⟩ := ActiveRule.mem_calls hcall
  rw [hhandler] at hfrom
  exact ⟨active, hactive, visitor, hvisitor, call.node, hfrom.imp_right fun ⟨failure, _, heq⟩ => ⟨failure, heq⟩⟩

/-! ### The findings of one rule -/

/-- What a call produces, one item after another. -/
def Call.emissions (ctx : Context) (call : Call) : List Emission := call.handler call.node ctx

/-- The calls of a rule on a tour of the tree, as if none failed. -/
def ActiveRule.tourCalls (active : ActiveRule) (root : Node) : List Call := root.tour.flatMap active.callsAt

/-- The findings of one rule, told by what its handlers produce on a tour of the tree: the findings
of its calls, all with the severity of the rule. Where a call fails, nothing of what it has produced
is there, one error about its node is, and no more comes after. -/
def UpToFailure (source : Source) (active : ActiveRule) (findings : List Finding) : Prop :=
  let ctx := Dispatch.contextFor source (Scope.analyze source) active
  let calls := active.tourCalls source.root
  let reported (produced : List (List Finding)) : List Finding :=
    produced.flatten.map fun finding => { finding with severity := active.severity }
  ∃ produced : List (List Finding),
    (calls.map (Call.emissions ctx) = produced.map (·.map .finding) ∧ findings = reported produced) ∨
      ∃ (before : List Call) (failing : Call) (after : List Call) (halfway : List Finding) (failure : Failure)
          (rest : List Emission), calls = before ++ failing :: after ∧
        before.map (Call.emissions ctx) = produced.map (·.map .finding) ∧
        failing.emissions ctx = halfway.map .finding ++ .failed failure :: rest ∧
        findings = reported produced ++
          [{ rule := active.id
             severity := .error
             message := s!"Rule '{active.id}' failed on {failing.node.kind} node: {failure.text}"
             path := source.path
             span := source.spanOf failing.node
             nodeKind := some failing.node.kind }]

theorem ActiveRule.calls_eq_tourCalls (active : ActiveRule) (root : Node) :
    active.calls root = active.tourCalls root := by
  rw [calls, visits_eq_tour, tourCalls]

/-- Calls that go through have produced findings only, and their results are these with the severity set. -/
theorem exists_produced_of_results {ctx : Context} : ∀ {calls : List Call} {results : List (List Finding)},
    calls.map (Call.result ctx) = results.map .ok →
      ∃ produced : List (List Finding), calls.map (Call.emissions ctx) = produced.map (·.map .finding) ∧
        results.flatten = produced.flatten.map fun finding => { finding with severity := ctx.severity }
  | [], [], _ => ⟨[], rfl, rfl⟩
  | call :: calls, findings :: results, h => by
    obtain ⟨hcall, hrest⟩ := List.cons.inj h
    obtain ⟨emitted, hemitted, rfl⟩ := collect_eq_ok_iff.1 hcall
    obtain ⟨produced, hproduced, hresults⟩ := exists_produced_of_results hrest
    refine ⟨emitted :: produced, ?_, ?_⟩
    · rw [List.map_cons, List.map_cons, hproduced, Call.emissions, hemitted]
    · rw [List.flatten_cons, List.flatten_cons, List.map_append, hresults]

theorem upToFailure_contribution (source : Source) (active : ActiveRule) :
    UpToFailure source active
      (contribution (Dispatch.contextFor source (Scope.analyze source) active)
        (active.calls source.root)) := by
  rw [ActiveRule.calls_eq_tourCalls]
  obtain ⟨results, ⟨hall, hfindings⟩ | ⟨before, failing, after, failure, hcalls, hbefore, hfail, hfindings⟩⟩ :=
    contribution_shape (Dispatch.contextFor source (Scope.analyze source) active) (active.tourCalls source.root)
  · obtain ⟨produced, hproduced, hresults⟩ := exists_produced_of_results hall
    exact ⟨produced, .inl ⟨hproduced, hfindings.trans hresults⟩⟩
  · obtain ⟨produced, hproduced, hresults⟩ := exists_produced_of_results hbefore
    obtain ⟨halfway, rest, hemissions⟩ := collect_eq_error_iff.1 hfail
    refine ⟨produced, .inr ⟨before, failing, after, halfway, failure, rest, hcalls, hproduced, hemissions, ?_⟩⟩
    rw [hfindings, hresults]
    rfl

/-- **Rules are isolated.** In a run of any rules, each finding comes from the rule at one place;
what comes from a place is what its rule reports when it is run alone, and that is what the calls
of the rule give up to the first that fails. -/
theorem runRules_isolated (source : Source) (rules : List ActiveRule) (place : Fin rules.length) :
    (attributedRun source rules).map Attributed.finding = runRules source rules ∧
    (∀ entry ∈ attributedRun source rules, entry.order < rules.length) ∧
    entriesOf place (attributedRun source rules) = runRules source [rules[place]] ∧
    UpToFailure source rules[place] (runRules source [rules[place]]) := by
  have hplace : rules[(place : Nat)]? = some rules[place] := by simp
  refine ⟨map_finding_attributedRun source rules, fun entry hentry => ?_, ?_, ?_⟩
  · obtain ⟨_, hactive⟩ := exists_of_mem_attributedRun hentry
    exact (List.getElem?_eq_some_iff.1 hactive).1
  · rw [entriesOf_attributedRun hplace, runRules_singleton]
  · rw [runRules_singleton]
    exact upToFailure_contribution source rules[place]

/-- A rule that fails on names, after it has found something there. -/
def stumbling : ActiveRule :=
  let found (message : String) : Declared.Item := .direct message .error
  let rule : DeclaredRule :=
    { id := "stumbling"
      actions := [("program", { items := [found "begins"] }),
        ("identifier", { items := [found "half done", .giveUp "lost", found "done"] }),
        ("program:exit", { items := [found "ends"] })] }
  ⟨rule.toRule, .warn, .none⟩

/-- A rule that goes on to the end. -/
def steady : ActiveRule :=
  let found (message : String) : Declared.Item := .direct message .warn
  let rule : DeclaredRule :=
    { id := "steady"
      actions := [("identifier", { items := [found "meets"] }), ("program:exit", { items := [found "ends"] })] }
  ⟨rule.toRule, .error, .none⟩

theorem runRules_stumbling :
    let source := Source.ofParsed (.ofString "x.js") [120]
      (.node { kind := "program", start := 0, stop := 1 }
        [.node { kind := "identifier", start := 0, stop := 1 } []])
    let rules := [stumbling, steady]
    (runRules source rules).map (fun finding => (finding.rule, finding.severity, finding.message, finding.nodeKind)) =
        [("stumbling", .warn, "begins", none),
         ("stumbling", .error, "Rule 'stumbling' failed on identifier node: RuntimeError: lost", some "identifier"),
         ("steady", .error, "meets", none), ("steady", .error, "ends", none)] ∧
      entriesOf 0 (attributedRun source rules) = runRules source [stumbling] ∧
      UpToFailure source stumbling (runRules source [stumbling]) := by
  intro source rules
  have isolated := runRules_isolated source rules ⟨0, by decide⟩
  refine ⟨?_, isolated.2.2.1, isolated.2.2.2⟩
  rw [runRules, visits_eq_tour]
  decide +kernel

end ScriptLint
