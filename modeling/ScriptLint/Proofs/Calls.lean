/-
What one rule does during a walk.

At every visit a rule has its calls: the handlers for the kind, then those for
all kinds. Its calls in the order of the visits, up to the first that fails,
make up its `contribution`; `mem_contribution` says where each finding in it
comes from, and `contribution_shape` how the list is built.
-/
import ScriptLint.Proofs.Tree.Tour

namespace ScriptLint

/-! ## One call -/

/-- A handler that is called at a node. -/
structure Call where
  node : Node
  handler : Handler

/-- The findings of a call, or the failure that ends it. -/
def Call.result (ctx : Context) (call : Call) : Except Failure (List Finding) :=
  collect ctx.severity (call.handler call.node ctx)

/-- A call that goes through has emitted findings only; their severity is set. -/
theorem collect_eq_ok_iff {severity : Severity} {emissions : List Emission} {findings : List Finding} :
    collect severity emissions = .ok findings ↔
      ∃ emitted : List Finding, emissions = emitted.map .finding ∧
        findings = emitted.map fun finding => { finding with severity } := by
  induction emissions generalizing findings with
  | nil => simp [collect, eq_comm]
  | cons emission rest ih =>
    constructor
    · intro h
      cases emission with
      | failed failure => cases h
      | finding first =>
        simp only [collect] at h
        split at h
        · cases h
        · next later hlater =>
          cases h
          obtain ⟨emitted, rfl, rfl⟩ := ih.1 hlater
          exact ⟨first :: emitted, rfl, rfl⟩
    · rintro ⟨emitted, hemitted, rfl⟩
      cases emitted with
      | nil => cases hemitted
      | cons first emitted =>
        simp only [List.map_cons, List.cons.injEq] at hemitted
        obtain ⟨rfl, rfl⟩ := hemitted
        simp only [collect, ih.2 ⟨emitted, rfl, rfl⟩, List.map_cons]

/-- A call that fails has emitted findings up to its first failure. -/
theorem collect_eq_error_iff {severity : Severity} {emissions : List Emission} {failure : Failure} :
    collect severity emissions = .error failure ↔
      ∃ (emitted : List Finding) (rest : List Emission),
        emissions = emitted.map .finding ++ .failed failure :: rest := by
  induction emissions with
  | nil => simp [collect]
  | cons emission rest ih =>
    constructor
    · intro h
      cases emission with
      | failed first => cases h; exact ⟨[], rest, rfl⟩
      | finding first =>
        simp only [collect] at h
        split at h
        · next hlater =>
          cases h
          obtain ⟨emitted, after, rfl⟩ := ih.1 hlater
          exact ⟨first :: emitted, after, rfl⟩
        · cases h
    · rintro ⟨emitted, after, hemitted⟩
      cases emitted with
      | nil =>
        simp only [List.map_nil, List.nil_append, List.cons.injEq] at hemitted
        simp only [hemitted.1, collect]
      | cons first emitted =>
        simp only [List.map_cons, List.cons_append, List.cons.injEq] at hemitted
        obtain ⟨rfl, rfl⟩ := hemitted
        simp only [collect, ih.2 ⟨emitted, after, rfl⟩]

/-- A call that emits a failure has no other result. -/
theorem exists_collect_eq_error {severity : Severity} {emissions : List Emission} {failure : Failure}
    (h : .failed failure ∈ emissions) : ∃ first, collect severity emissions = .error first := by
  cases hcollect : collect severity emissions with
  | error first => exact ⟨first, rfl⟩
  | ok findings =>
    obtain ⟨emitted, rfl, -⟩ := collect_eq_ok_iff.1 hcollect
    obtain ⟨finding, -, hsame⟩ := List.mem_map.1 h
    cases hsame

/-! ## The calls of a rule -/

/-- The calls of a rule at one visit: the handlers for the kind, then those for all kinds. -/
def ActiveRule.callsAt (active : ActiveRule) (visit : Visit) : List Call :=
  (active.rule.visitors.filter (·.1 = ⟨some visit.node.kind, visit.phase⟩) ++
    active.rule.visitors.filter (·.1 = ⟨none, visit.phase⟩)).map fun visitor =>
      ⟨visit.node, visitor.2⟩

/-- The calls of a rule in the order of the visits, as if none failed. -/
def ActiveRule.calls (active : ActiveRule) (root : Node) : List Call :=
  (visits root).flatMap active.callsAt

/-- A handler is called at nodes of the tree, and only at those of its kind if it asks for one. -/
theorem ActiveRule.mem_calls {active : ActiveRule} {root : Node} {call : Call} (h : call ∈ active.calls root) :
    call.node ∈ root.walk ∧ ∃ visitor ∈ active.rule.visitors, call.handler = visitor.2 ∧
      ∀ kind, visitor.1.kind = some kind → call.node.kind = kind := by
  obtain ⟨visit, hvisit, h⟩ := List.mem_flatMap.1 h
  obtain ⟨visitor, hvisitor, rfl⟩ := List.mem_map.1 h
  refine ⟨mem_walk_of_mem_visits hvisit, visitor, ?_⟩
  rcases List.mem_append.1 hvisitor with hvisitor | hvisitor
  · obtain ⟨hmem, htrigger⟩ := List.mem_filter.1 hvisitor
    refine ⟨hmem, rfl, fun kind hkind => ?_⟩
    rw [of_decide_eq_true htrigger] at hkind
    exact Option.some.inj hkind
  · obtain ⟨hmem, htrigger⟩ := List.mem_filter.1 hvisitor
    refine ⟨hmem, rfl, fun kind hkind => ?_⟩
    rw [of_decide_eq_true htrigger] at hkind
    cases hkind

/-- The findings of calls made one after another: the results up to the first call that fails,
and one finding about the failure. -/
def contribution (ctx : Context) : List Call → List Finding
  | [] => []
  | call :: rest =>
    match call.result ctx with
    | .ok findings => findings ++ contribution ctx rest
    | .error failure => [failureFinding ctx call.node failure]

/-- Every finding was emitted by one of the calls, and then has the severity of the rule, or
tells of a failure of one of them. -/
theorem mem_contribution {ctx : Context} : ∀ {calls : List Call} {finding : Finding},
    finding ∈ contribution ctx calls →
      ∃ call ∈ calls, (∃ emitted, .finding emitted ∈ call.handler call.node ctx ∧
          finding = { emitted with severity := ctx.severity }) ∨
        ∃ failure, call.result ctx = .error failure ∧ finding = failureFinding ctx call.node failure
  | [], _, h => by simp [contribution] at h
  | call :: rest, finding, h => by
    simp only [contribution] at h
    split at h
    · next findings hok =>
      rcases List.mem_append.1 h with h | h
      · obtain ⟨emitted, hemitted, rfl⟩ := collect_eq_ok_iff.1 hok
        obtain ⟨one, hone, rfl⟩ := List.mem_map.1 h
        exact ⟨call, by simp, .inl ⟨one, by rw [hemitted]; exact List.mem_map_of_mem hone, rfl⟩⟩
      · obtain ⟨other, hother, hfrom⟩ := mem_contribution h
        exact ⟨other, List.mem_cons_of_mem _ hother, hfrom⟩
    · next failure hfailure =>
      exact ⟨call, by simp, .inr ⟨failure, hfailure, List.mem_singleton.1 h⟩⟩

/-- Calls that go through contribute all their findings; the first that does not is the end. -/
theorem contribution_append {ctx : Context} {call : Call} {after : List Call} {failure : Failure}
    (hcall : call.result ctx = .error failure) : ∀ {before : List Call},
    (∀ earlier ∈ before, ∃ findings, earlier.result ctx = .ok findings) →
      contribution ctx (before ++ call :: after) = contribution ctx before ++ [failureFinding ctx call.node failure]
  | [], _ => by simp [contribution, hcall]
  | earlier :: before, h => by
    obtain ⟨⟨findings, hok⟩, h⟩ := List.forall_mem_cons.1 h
    simp [contribution, hok, contribution_append hcall h]

/-- Either all calls go through, or those before one that fails do and the failure is the end. -/
theorem contribution_shape (ctx : Context) : ∀ calls : List Call,
    ∃ results : List (List Finding),
      (calls.map (Call.result ctx) = results.map .ok ∧ contribution ctx calls = results.flatten) ∨
      ∃ before failing after failure, calls = before ++ failing :: after ∧
        before.map (Call.result ctx) = results.map .ok ∧ failing.result ctx = .error failure ∧
        contribution ctx calls = results.flatten ++ [failureFinding ctx failing.node failure]
  | [] => ⟨[], .inl ⟨rfl, rfl⟩⟩
  | call :: rest => by
    cases hcall : call.result ctx with
    | error failure =>
      exact ⟨[], .inr ⟨[], call, rest, failure, rfl, rfl, hcall, by simp [contribution, hcall]⟩⟩
    | ok findings =>
      obtain ⟨results, ⟨hall, hfindings⟩ | ⟨before, failing, after, failure, rfl, hbefore, hfail, hfindings⟩⟩ :=
        contribution_shape ctx rest
      · exact ⟨findings :: results, .inl ⟨by simp [hcall, hall], by simp [contribution, hcall, hfindings]⟩⟩
      · exact ⟨findings :: results, .inr ⟨call :: before, failing, after, failure, rfl,
          by simp [hcall, hbefore], hfail, by simp [contribution, hcall, hfindings]⟩⟩

/-! ## Calls that all end alike -/

/-- Calls that all go through contribute what they found. -/
theorem contribution_of_ok {ctx : Context} {found : Call → List Finding} : ∀ {calls : List Call},
    (∀ call ∈ calls, call.result ctx = .ok (found call)) → contribution ctx calls = calls.flatMap found
  | [], _ => rfl
  | call :: rest, h => by
    rw [List.forall_mem_cons] at h
    simp only [contribution, h.1, contribution_of_ok h.2, List.flatMap_cons]

/-- Of calls that all fail the first is told of. -/
theorem contribution_of_error {ctx : Context} {failure : Failure} {calls : List Call}
    (h : ∀ call ∈ calls, call.result ctx = .error failure) :
    contribution ctx calls = (calls.head?.map fun call => failureFinding ctx call.node failure).toList := by
  cases calls with
  | nil => rfl
  | cons call rest =>
    simp only [contribution, h call List.mem_cons_self, List.head?_cons, Option.map_some, Option.toList_some]

/-- A rule with one handler, for one kind of nodes, has a call at each node of the kind. -/
theorem ActiveRule.calls_of_single {active : ActiveRule} {kind : String} {phase : Phase} {handler : Handler}
    (h : active.rule.visitors = [(⟨some kind, phase⟩, handler)]) (root : Node) :
    active.calls root =
      ((Node.visited phase (visits root)).filter (·.kind = kind)).map fun node => ⟨node, handler⟩ := by
  rw [ActiveRule.calls]
  induction visits root with
  | nil => rfl
  | cons visit rest ih =>
    have hgeneral : (⟨some kind, phase⟩ : Trigger) ≠ ⟨none, visit.phase⟩ := by simp
    have hspecial : (⟨some kind, phase⟩ : Trigger) = ⟨some visit.node.kind, visit.phase⟩ ↔
        visit.phase = phase ∧ visit.node.kind = kind := by
      rw [Trigger.mk.injEq, Option.some.injEq, and_comm, eq_comm (a := phase), eq_comm (a := kind)]
    rw [List.flatMap_cons, ih, ActiveRule.callsAt, h]
    simp only [Node.visited, List.filter_cons, List.filter_nil, hgeneral, hspecial]
    by_cases hphase : visit.phase = phase <;> by_cases hkind : visit.node.kind = kind <;> simp [hphase, hkind]

/-- The programs of a file, in the order in which they are left. -/
def programs (source : Source) : List Node :=
  (Node.visited .exit (visits source.root)).filter (·.kind = "program")

theorem mem_programs {source : Source} {program : Node} (h : program ∈ programs source) :
    program ∈ source.root.walk ∧ program.kind = "program" := by
  obtain ⟨hvisited, hkind⟩ := List.mem_filter.1 h
  rw [visits_eq_tour, Node.mem_visited_tour] at hvisited
  exact ⟨hvisited, of_decide_eq_true hkind⟩

/-- Where the root is the one program, it is left once. -/
theorem programs_eq_singleton {source : Source} (h : source.root.walk.filter (·.kind = "program") = [source.root]) :
    programs source = [source.root] := by
  have hperm : (programs source).Perm (source.root.walk.filter (·.kind = "program")) := by
    rw [programs, visits_eq_tour]
    exact (Node.left_tour_perm source.root).filter _
  rw [h] at hperm
  exact List.perm_singleton.1 hperm

end ScriptLint
