/-
The engine as a plain interpreter.

The plain interpreter makes the tour of the tree by recursion and at each visit
goes through the rules one by one: the handler of a rule for the kind of the
node, then its handler for all kinds, for as long as the rule has not failed.
The engine keeps its visits on a stack and merges the handlers of all rules from
a table; at each visit both have the same handlers in the same order
(`handlersFor_eq_plainSlots`), so both report the same findings
(`runRules_eq_interpret`). Rules give their handlers by a map, as all configured
ones do (`Registry.mapped_of_build`).
-/
import ScriptLint.Proofs.Isolation
import ScriptLint.Proofs.Registry
import ScriptLint.Proofs.Tree.Tour
import ScriptLint.Rule.Declared

namespace ScriptLint

/-! ## Keys -/

namespace Trigger

theorem ofKey_of_exit {kind : List Char} :
    ofKey (String.ofList (kind ++ exitMark)) =
      ⟨if String.ofList kind = "*" then none else some (String.ofList kind), .exit⟩ := by
  have hexit : exitMark.isSuffixOf (kind ++ exitMark) = true := by
    rw [List.isSuffixOf_iff_suffix]
    exact List.suffix_append kind exitMark
  simp [ofKey, hexit]

theorem ofKey_of_enter {key : String} (h : exitMark.isSuffixOf key.toList = false) :
    ofKey key = ⟨if key = "*" then none else some key, .enter⟩ := by
  simp [ofKey, h]

/-- Kinds are told apart by what keys say of them. -/
theorem kind_inj {first second : String}
    (h : (if first = "*" then none else some first) = if second = "*" then none else some second) :
    first = second := by
  by_cases hfirst : first = "*" <;> by_cases hsecond : second = "*" <;> simp_all

/-- The key for a trigger. -/
def key (trigger : Trigger) : String :=
  let kind := (trigger.kind.getD "*").toList
  match trigger.phase with
  | .enter => String.ofList kind
  | .exit => String.ofList (kind ++ exitMark)

/-- Every key is the mark of an exit after a kind, or has no such mark. -/
theorem exit_or_enter (key : String) :
    (∃ kind, key = String.ofList (kind ++ exitMark)) ∨ exitMark.isSuffixOf key.toList = false := by
  cases h : exitMark.isSuffixOf key.toList with
  | false => exact .inr rfl
  | true =>
    obtain ⟨kind, hkey⟩ := List.isSuffixOf_iff_suffix.1 h
    exact .inl ⟨kind, by rw [hkey, String.ofList_toList]⟩

/-- No two keys stand for one trigger. -/
theorem ofKey_injective {first second : String} (h : ofKey first = ofKey second) : first = second := by
  rcases exit_or_enter first with ⟨kind, rfl⟩ | hfirst <;> rcases exit_or_enter second with ⟨other, rfl⟩ | hsecond
  · rw [ofKey_of_exit, ofKey_of_exit] at h
    have hkind := String.ofList_inj.1 (kind_inj (congrArg Trigger.kind h))
    rw [hkind]
  · rw [ofKey_of_exit, ofKey_of_enter hsecond] at h
    exact absurd (congrArg Trigger.phase h) (by simp)
  · rw [ofKey_of_enter hfirst, ofKey_of_exit] at h
    exact absurd (congrArg Trigger.phase h) (by simp)
  · rw [ofKey_of_enter hfirst, ofKey_of_enter hsecond] at h
    exact kind_inj (congrArg Trigger.kind h)

end Trigger

namespace Rule

/-- The handlers of a rule are given by a map from the keys `kind`, `kind:exit`, `*` and `*:exit`. -/
def Mapped (rule : Rule) : Prop :=
  ∃ handlers : Keyed Handler, (Keyed.keys handlers).Nodup ∧
    rule.visitors = handlers.map fun (key, handler) => (Trigger.ofKey key, handler)

/-- The handler of a rule for a trigger. -/
def handler? (rule : Rule) (trigger : Trigger) : Option Handler :=
  (rule.visitors.find? (·.1 = trigger)).map Prod.snd

/-- What a rule does at a visit: its handler for the kind, then its handler for all kinds. -/
def handlersAt (rule : Rule) (visit : Visit) : List Handler :=
  (rule.handler? ⟨some visit.node.kind, visit.phase⟩).toList ++ (rule.handler? ⟨none, visit.phase⟩).toList

theorem Mapped.nodup_triggers {rule : Rule} (h : rule.Mapped) : (rule.visitors.map Prod.fst).Nodup := by
  obtain ⟨handlers, hkeys, hvisitors⟩ := h
  have htriggers : rule.visitors.map Prod.fst = (Keyed.keys handlers).map Trigger.ofKey := by
    rw [hvisitors, Keyed.keys, List.map_map, List.map_map]
    rfl
  rw [htriggers]
  exact List.Nodup.map (fun _ _ => Trigger.ofKey_injective) hkeys

/-- A map has one handler for a trigger at most. -/
theorem Mapped.filter_visitors {rule : Rule} (h : rule.Mapped) (trigger : Trigger) :
    (rule.visitors.filter (·.1 = trigger)).map Prod.snd = (rule.handler? trigger).toList := by
  cases hfind : rule.visitors.find? (·.1 = trigger) with
  | none =>
    have hnone : rule.visitors.filter (·.1 = trigger) = [] :=
      List.filter_eq_nil_iff.2 (List.find?_eq_none.1 hfind)
    rw [hnone, handler?, hfind]
    rfl
  | some visitor =>
    have htrigger : visitor.1 = trigger := by simpa using List.find?_some hfind
    have hone := filter_key_eq_singleton h.nodup_triggers (List.mem_of_find?_eq_some hfind)
    rw [htrigger] at hone
    rw [hone, handler?, hfind]
    rfl

end Rule

/-- A rule is a map when its triggers are distinct and each has a key. -/
theorem Rule.mapped_of_keys {rule : Rule} (distinct : (rule.visitors.map Prod.fst).Nodup)
    (keys : ∀ trigger ∈ rule.visitors.map Prod.fst, Trigger.ofKey trigger.key = trigger) : rule.Mapped := by
  refine ⟨rule.visitors.map fun visitor => (visitor.1.key, visitor.2), ?_, ?_⟩
  · have hkeys : (rule.visitors.map Prod.fst).map (fun trigger => Trigger.ofKey trigger.key) =
        rule.visitors.map Prod.fst := (List.map_congr_left keys).trans (List.map_id' _)
    have hdistinct : ((rule.visitors.map Prod.fst).map Trigger.key).Nodup := by
      refine List.Nodup.of_map Trigger.ofKey ?_
      rw [List.map_map, Function.comp_def, hkeys]
      exact distinct
    simpa [Keyed.keys, Function.comp_def] using hdistinct
  · rw [List.map_map]
    refine ((List.map_congr_left fun visitor hvisitor => ?_).trans (List.map_id' _)).symm
    exact Prod.ext (keys _ (List.mem_map_of_mem hvisitor)) rfl

/-- All built-in rules are maps. -/
theorem Rules.mapped_builtin : ∀ rule ∈ builtin, rule.Mapped := by
  have known : ∀ rule ∈ builtin, (rule.visitors.map Prod.fst).Nodup ∧
      ∀ trigger ∈ rule.visitors.map Prod.fst, Trigger.ofKey trigger.key = trigger := by decide +kernel
  exact fun rule hrule => Rule.mapped_of_keys (known rule hrule).1 (known rule hrule).2

/-- Declared rules are maps: of two actions with one key the later one counts. -/
theorem DeclaredRule.mapped_toRule (rule : DeclaredRule) : rule.toRule.Mapped := by
  refine ⟨(Keyed.ofPairs rule.actions).map fun entry => (entry.1, entry.2.handler), ?_, ?_⟩
  · have hkeys := Keyed.nodup_keys_ofPairs rule.actions
    simpa [Keyed.keys, Function.comp_def] using hkeys
  · simp [toRule, Function.comp_def]

/-- All rules that a configuration switches on are maps. -/
theorem Registry.mapped_of_build {declared : List DeclaredRule} {config : Config} {registry : Registry}
    (h : Registry.build (Catalog.extended declared) config = .ok registry) :
    ∀ active ∈ registry.activeRules, active.rule.Mapped := by
  intro active hactive
  rcases Registry.origin_of_build h active hactive with hbuiltin | ⟨source, -, hsource⟩
  · exact Rules.mapped_builtin active.rule hbuiltin
  · exact hsource ▸ source.mapped_toRule

/-! ## The plain interpreter -/

def Emission.finding? : Emission → Option Finding
  | .finding found => some found
  | .failed _ => none

def Emission.failure? : Emission → Option Failure
  | .finding _ => none
  | .failed reason => some reason

/-- Calls a handler of the rule at a place, unless the rule has failed. What it finds gets the severity of the
rule; if it fails, that alone is told, and the rule is marked. -/
def tryHandler (ctx : Context) (place : Nat) (node : Node) (progress : Progress) (handler : Handler) : Progress :=
  if place ∈ progress.failed then progress
  else
    let emissions := handler node ctx
    match emissions.findSome? Emission.failure? with
    | some failure =>
      { findings := progress.findings ++ [failureFinding ctx node failure]
        failed := place :: progress.failed }
    | none =>
      { progress with
        findings := progress.findings ++
          (emissions.filterMap Emission.finding?).map fun finding => { finding with severity := ctx.severity } }

/-- Tries one rule at a visit. -/
def interpretRule (source : Source) (visit : Visit) (progress : Progress) (rule : ActiveRule × Nat) : Progress :=
  (rule.1.rule.handlersAt visit).foldl
    (tryHandler (Dispatch.contextFor source (Scope.analyze source) rule.1) rule.2 visit.node) progress

/-- Tries all rules at a visit, in the order in which they were registered. -/
def interpretVisit (source : Source) (rules : List ActiveRule) (progress : Progress) (visit : Visit) : Progress :=
  rules.zipIdx.foldl (interpretRule source visit) progress

/-- The findings of rules over a file, by a tour of its tree. -/
def interpret (source : Source) (rules : List ActiveRule) : List Finding :=
  (source.root.tour.foldl (interpretVisit source rules) ⟨[], []⟩).findings

/-! ## Handlers at one visit -/

section Visit

variable {source : Source} {rules : List ActiveRule}

/-- The handlers that the plain interpreter tries at a visit, as slots of the rules in their places. -/
def plainSlots (source : Source) (rules : List ActiveRule) (visit : Visit) : List Slot :=
  rules.zipIdx.flatMap fun rule => (rule.1.rule.handlersAt visit).map fun handler =>
    ⟨rule.2, Dispatch.contextFor source (Scope.analyze source) rule.1, handler⟩

/-- Findings before it do not hide a failure. -/
theorem findSome?_failure_append (produced : List Finding) (rest : List Emission) :
    (produced.map Emission.finding ++ rest).findSome? Emission.failure? = rest.findSome? Emission.failure? := by
  induction produced with
  | nil => rfl
  | cons first produced ih => exact ih

/-- The engine ends a call at its first failure; the plain interpreter looks for a failure first. -/
theorem tryHandler_eq_callSlot (ctx : Context) (place : Nat) (node : Node) (progress : Progress) (handler : Handler) :
    tryHandler ctx place node progress handler = callSlot node progress ⟨place, ctx, handler⟩ := by
  by_cases hfailed : place ∈ progress.failed
  · simp [tryHandler, callSlot, hfailed]
  · cases hcall : collect ctx.severity (handler node ctx) with
    | ok findings =>
      obtain ⟨produced, hproduced, rfl⟩ := collect_eq_ok_iff.1 hcall
      have hfailure : (handler node ctx).findSome? Emission.failure? = none := by
        simpa [hproduced] using findSome?_failure_append produced []
      have hfindings : (handler node ctx).filterMap Emission.finding? = produced := by
        simp [hproduced, List.filterMap_map, Function.comp_def, Emission.finding?]
      simp [tryHandler, callSlot, hfailed, hcall, hfailure, hfindings]
    | error failure =>
      obtain ⟨produced, rest, hproduced⟩ := collect_eq_error_iff.1 hcall
      have hfailure : (handler node ctx).findSome? Emission.failure? = some failure := by
        rw [hproduced, findSome?_failure_append]
        rfl
      simp [tryHandler, callSlot, hfailed, hcall, hfailure]

theorem interpretVisit_eq_foldl (progress : Progress) (visit : Visit) :
    interpretVisit source rules progress visit =
      (plainSlots source rules visit).foldl (callSlot visit.node) progress := by
  simp only [plainSlots, List.foldl_flatMap, List.foldl_map, ← tryHandler_eq_callSlot]
  rfl

/-- What comes from places one after another is in the order of the places. -/
theorem pairwise_flatMap_zipIdx {α β : Type} {values : α × Nat → List β} (place : β → Nat) (items : List α)
    (known : ∀ item, ∀ value ∈ values item, place value = item.2) :
    (items.zipIdx.flatMap values).Pairwise fun a b => place a ≤ place b := by
  have places : items.zipIdx.Pairwise fun a b => a.2 ≤ b.2 := by
    refine List.pairwise_map.1 ?_
    rw [List.zipIdx_map_snd]
    exact List.Pairwise.imp Nat.le_of_lt List.pairwise_lt_range'
  refine List.pairwise_flatMap.2 ⟨fun item _ => ?_, places.imp fun hle a ha b hb => ?_⟩
  · refine List.pairwise_of_forall_mem_list fun a ha b hb => ?_
    exact Nat.le_of_eq ((known item a ha).trans (known item b hb).symm)
  · rwa [known _ a ha, known _ b hb]

theorem order_of_mem_plainSlots {visit : Visit} {rule : ActiveRule × Nat} {slot : Slot}
    (h : slot ∈ (rule.1.rule.handlersAt visit).map fun handler =>
      (⟨rule.2, Dispatch.contextFor source (Scope.analyze source) rule.1, handler⟩ : Slot)) :
    slot.order = rule.2 := by
  obtain ⟨_, -, rfl⟩ := List.mem_map.1 h
  rfl

/-- The table has the handlers for a trigger in the order of the rules. -/
theorem pairwise_lookup (trigger : Trigger) :
    ((Dispatch.build source rules).lookup trigger).Pairwise fun a b => a.order ≤ b.order := by
  refine List.pairwise_map.2 (List.Pairwise.filter _ ?_)
  rw [Dispatch.slots_build]
  exact pairwise_flatMap_zipIdx (fun entry : Trigger × Slot => entry.2.order) rules
    fun _ _ hentry => Dispatch.order_of_mem_slotsOf hentry

/-- So has the merge of the handlers for the kind and those for all kinds. -/
theorem pairwise_handlersFor (visit : Visit) :
    ((Dispatch.build source rules).handlersFor visit).Pairwise fun a b => a.order ≤ b.order := by
  rw [Dispatch.handlersFor]
  split
  · exact pairwise_lookup _
  · refine List.Pairwise.imp of_decide_eq_true (List.pairwise_mergeSort ?_ ?_ _)
    · intro a b c hab hbc
      simp only [decide_eq_true_eq] at *
      omega
    · intro a b
      simp only [Bool.or_eq_true, decide_eq_true_eq]
      omega

/-- The handlers of one rule are those that the plain interpreter tries for it. -/
theorem map_callsAt_of_mapped {active : ActiveRule} (h : active.rule.Mapped) (visit : Visit) :
    (active.callsAt visit).map Call.handler = active.rule.handlersAt visit := by
  rw [ActiveRule.callsAt, Rule.handlersAt, ← h.filter_visitors, ← h.filter_visitors, List.map_map,
    ← List.map_append]
  rfl

/-- At a visit the engine calls the handlers of the plain interpreter, in the same order. -/
theorem handlersFor_eq_plainSlots (mapped : ∀ active ∈ rules, active.rule.Mapped) (visit : Visit) :
    (Dispatch.build source rules).handlersFor visit = plainSlots source rules visit := by
  have inOrder : (plainSlots source rules visit).Pairwise fun a b => a.order ≤ b.order :=
    pairwise_flatMap_zipIdx Slot.order rules fun _ _ => order_of_mem_plainSlots
  refine eq_of_pairwise_of_filter_eq Slot.order (· ≤ ·) Nat.le_refl Nat.le_antisymm
    (pairwise_handlersFor visit) inOrder fun order => ?_
  have plain : (plainSlots source rules visit).filter (fun slot => slot.order = order) = _ :=
    filter_flatMap_zipIdx Slot.order (fun _ _ => order_of_mem_plainSlots) order
  rw [plain]
  cases hactive : rules[order]? with
  | none =>
    refine List.filter_eq_nil_iff.2 fun slot hslot horder => ?_
    obtain ⟨active, hsome, -⟩ := Dispatch.exists_of_mem_handlersFor hslot
    rw [of_decide_eq_true horder, hactive] at hsome
    cases hsome
  | some active =>
    have hmapped := mapped active (List.mem_of_getElem? hactive)
    rw [Dispatch.filter_handlersFor hactive, Option.toList_some, List.flatMap_singleton,
      ← map_callsAt_of_mapped hmapped, List.map_map]
    rfl

theorem serve_eq_interpretVisit (mapped : ∀ active ∈ rules, active.rule.Mapped) (progress : Progress)
    (visit : Visit) :
    serve (Dispatch.build source rules) progress visit = interpretVisit source rules progress visit := by
  rw [serve, handlersFor_eq_plainSlots mapped, interpretVisit_eq_foldl]

end Visit

/-! ## The walk of the engine -/

/-- The loop of the engine with a record of the visits that it makes. -/
def watch (dispatch : Dispatch) : List Visit → List Visit → Progress → List Visit × Progress
  | seen, [], progress => (seen, progress)
  | seen, visit :: stack, progress =>
    match _entered : visit.phase with
    | .exit => watch dispatch (seen ++ [visit]) stack (serve dispatch progress visit)
    | .enter =>
      watch dispatch (seen ++ [visit])
        (visit.node.children.map Visit.enter ++ ⟨visit.node, .exit⟩ :: stack) (serve dispatch progress visit)
termination_by _ stack => Visit.weights stack
decreasing_by
  · simp [Visit.weights_cons, Visit.weight, _entered]
  · have children := Visit.weights_children visit.node
    have whole := Visit.size_eq visit.node.tree
    simp only [Visit.weights_append, Visit.weights_cons, children]
    simp only [Visit.weight, _entered]
    omega

/-- Serving handlers has no influence on the visits. -/
theorem watch_eq (dispatch : Dispatch) (seen stack : List Visit) (progress : Progress) :
    watch dispatch seen stack progress =
      (seen ++ visitsFrom stack, (visitsFrom stack).foldl (serve dispatch) progress) := by
  induction seen, stack, progress using watch.induct dispatch with
  | case1 seen progress => simp [watch, visitsFrom]
  | case2 seen visit stack progress hexit ih =>
    obtain ⟨node, phase⟩ := visit
    obtain rfl : phase = .exit := hexit
    rw [watch, visitsFrom]
    simp only
    rw [ih, List.append_assoc]
    rfl
  | case3 seen visit stack progress henter ih =>
    obtain ⟨node, phase⟩ := visit
    obtain rfl : phase = .enter := henter
    rw [watch, visitsFrom]
    simp only
    rw [ih, List.append_assoc]
    rfl

/-- The visits of the walk over a file, and the findings of the rules that are served on it. -/
def watchRules (source : Source) (rules : List ActiveRule) : List Visit × List Finding :=
  let (seen, progress) := watch (Dispatch.build source rules) [] [Visit.enter source.root] ⟨[], []⟩
  (seen, progress.findings)

theorem watchRules_eq (source : Source) (rules : List ActiveRule) :
    watchRules source rules = (source.root.tour, runRules source rules) := by
  rw [watchRules, watch_eq, List.nil_append, ← visits_eq_tour]
  rfl

/-- Visits that go around a tree. -/
structure EulerTour (root : Node) (visits : List Visit) : Prop where
  /-- Nodes are entered in document order. -/
  entered : Node.visited .enter visits = root.walk
  /-- In each phase every node is visited, and none twice. -/
  complete : ∀ phase node, node ∈ Node.visited phase visits ↔ node ∈ root.walk
  once : ∀ phase, ((Node.visited phase visits).map Node.id).Nodup
  /-- Between entering a node and leaving it, its children are toured from left to right. -/
  nested : ∀ node ∈ root.walk, ∃ before after,
    visits = before ++ Visit.enter node :: (node.children.flatMap Node.tour ++ Visit.leave node :: after)

theorem eulerTour_tour {root : Node} (distinct : root.tree.ids.Nodup) : EulerTour root root.tour := by
  constructor
  case entered => exact root.entered_tour
  case complete => exact fun phase node => Node.mem_visited_tour
  case once =>
    intro phase
    rw [((Node.visited_tour_perm phase root).map Node.id).nodup_iff, Node.ids_walk]
    exact distinct
  case nested =>
    intro node hnode
    obtain ⟨before, after, hroot⟩ := root.tour_eq_append node hnode
    refine ⟨before, after, ?_⟩
    rw [hroot, Node.tour_eq node]
    simp

/-- **The engine is the plain interpreter.** The walk of the engine is the Euler tour of the tree,
whatever the rules are, and what it reports is what the plain interpreter reports. -/
theorem runRules_eq_interpret (path : Path) (bytes : Bytes) (parsed : ParseTree) (rules : List ActiveRule)
    (mapped : ∀ active ∈ rules, active.rule.Mapped) :
    let source := Source.ofParsed path bytes parsed
    watchRules source rules = (source.root.tour, runRules source rules) ∧
      EulerTour source.root source.root.tour ∧ runRules source rules = interpret source rules := by
  intro source
  refine ⟨watchRules_eq source rules, eulerTour_tour (Source.nodup_ids_ofParsed path bytes parsed), ?_⟩
  rw [runRules, visits_eq_tour, interpret]
  congr 1
  refine congrArg (List.foldl · _ _) ?_
  funext progress visit
  exact serve_eq_interpretVisit mapped progress visit

/-- A rule that says when it is called at identifiers and at all nodes. -/
def announcing (id : String) : DeclaredRule :=
  let action (message : String) : Declared.Action := { items := [.direct (id ++ message) .warn] }
  { id, actions := [("*:exit", action " leaves"), ("*", action " meets"), ("identifier:exit", action " leaves a name"),
      ("identifier", action " meets a name")] }

/-- A rule that fails on names, after it has found something there. -/
def faltering : DeclaredRule where
  id := "c"
  actions := [("*:exit", { items := [.direct "c leaves" .warn] }),
    ("identifier", { items := [.direct "c meets a name" .warn, .giveUp "lost"] }),
    ("*", { items := [.direct "c meets" .warn] })]

def announcements : List ActiveRule :=
  [⟨(announcing "a").toRule, .warn, .none⟩, ⟨faltering.toRule, .warn, .none⟩, ⟨(announcing "b").toRule, .error, .none⟩]

theorem runRules_announcements :
    let source := Source.ofParsed (.ofString "x.js") [120]
      (.node { kind := "program", start := 0, stop := 1 }
        [.node { kind := "identifier", start := 0, stop := 1 } []])
    runRules source announcements = interpret source announcements ∧
      (interpret source announcements).map Finding.message =
        ["a meets", "c meets", "b meets",
         "a meets a name", "a meets", "Rule 'c' failed on identifier node: RuntimeError: lost", "b meets a name",
         "b meets", "a leaves a name", "a leaves", "b leaves a name", "b leaves", "a leaves", "b leaves"] := by
  intro source
  have mapped : ∀ active ∈ announcements, active.rule.Mapped := by
    intro active hactive
    simp only [announcements, List.mem_cons, List.not_mem_nil, or_false] at hactive
    rcases hactive with rfl | rfl | rfl <;> exact DeclaredRule.mapped_toRule _
  have heq : runRules source announcements = interpret source announcements :=
    (runRules_eq_interpret _ _ _ announcements mapped).2.2
  refine ⟨heq, ?_⟩
  decide +kernel

end ScriptLint
