/-
What built-in rules report.

Every built-in rule, at whatever node it is called, reports in one of three
ways (`Issued`): it tells of a node and offers no fix; it offers fixes for the
node at hand or for a child of it, each one of four kinds of edits (`Edit`); or
it passes on that the scopes of the file could not be analysed. What is known of
all findings of built-in rules follows from these (`issued_builtin`).
-/
import ScriptLint.Proofs.Isolation
import ScriptLint.Proofs.Scope.Declaration
import ScriptLint.Rules.Catalog

namespace ScriptLint

namespace Rules

/-! ## Messages -/

/-- Whether a message opens with a letter other than that of messages about failed rules. -/
def worded (message : String) : Bool := message.toList.head?.any (· ≠ 'R')

theorem not_worded_failureFinding (ctx : Context) (node : Node) (failure : Failure) :
    worded (failureFinding ctx node failure).message = false := by
  simp [worded, failureFinding, toString]

/-! ## Ways of reporting -/

/-- The edits that built-in rules offer for a target, when they are called at a node for a trigger. -/
inductive Edit (ctx : Context) (trigger : Trigger) (node : Node) : Node → Fix → Prop where
  /-- The target itself is rewritten. -/
  | whole {target : Node} (text : String) : Edit ctx trigger node target (ctx.replace target text)
  | child {target child : Node} (h : child ∈ target.children) (text : String) :
      Edit ctx trigger node target (ctx.replace child text)
  /-- A text is put in where the target ends. -/
  | behind {target : Node} (text : String) : Edit ctx trigger node target (ctx.insertAfter target text)
  /-- What stands between object and property of a member expression is rewritten. -/
  | between {object property dot : Node} (kind : trigger.kind = some "member_expression")
      (hobject : node.childByField? "object" = some object)
      (hproperty : node.childByField? "property" = some property)
      (hdot : node.children.find? (fun child => dotKinds.contains child.kind) = some dot) (text : String) :
      Edit ctx trigger node node (ctx.replaceRange object.stop property.start text)

/-- What built-in rules emit, when they are called at a node for a trigger. -/
inductive Issued (ctx : Context) (trigger : Trigger) (node : Node) : Emission → Prop where
  | about (target : Node) {message : String} (hworded : worded message = true) :
      Issued ctx trigger node (ctx.report target message)
  | fixable {target : Node} (htarget : target ∈ node :: node.children) {message : String}
      (hworded : worded message = true) {fixes : List Fix} (edits : ∀ fix ∈ fixes, Edit ctx trigger node target fix) :
      Issued ctx trigger node (ctx.report target message fixes)
  | failed {failure : Failure} (h : ctx.scopes = .error failure) : Issued ctx trigger node (.failed failure)

def IssuedAll (ctx : Context) (trigger : Trigger) (node : Node) (emissions : List Emission) : Prop :=
  ∀ emission ∈ emissions, Issued ctx trigger node emission

section Handlers

variable {ctx : Context} {trigger : Trigger} {node : Node}

@[simp] theorem issuedAll_nil : IssuedAll ctx trigger node [] := List.forall_mem_nil _

@[simp] theorem issuedAll_singleton {emission : Emission} :
    IssuedAll ctx trigger node [emission] ↔ Issued ctx trigger node emission :=
  List.forall_mem_singleton

@[simp] theorem issuedAll_ite {condition : Prop} [Decidable condition] {first second : List Emission} :
    IssuedAll ctx trigger node (if condition then first else second) ↔
      (condition → IssuedAll ctx trigger node first) ∧ (¬condition → IssuedAll ctx trigger node second) := by
  split <;> simp [*]

@[simp] theorem issuedAll_map {α : Type} {items : List α} {emit : α → Emission} :
    IssuedAll ctx trigger node (items.map emit) ↔ ∀ item ∈ items, Issued ctx trigger node (emit item) :=
  List.forall_mem_map

@[simp] theorem issuedAll_filterMap {α β : Type} {items : List α} {select : α → Option β} {emit : α → β → Emission} :
    IssuedAll ctx trigger node (items.filterMap fun item => (select item).map (emit item)) ↔
      ∀ item ∈ items, ∀ chosen, select item = some chosen → Issued ctx trigger node (emit item chosen) := by
  simp only [IssuedAll, List.mem_filterMap, Option.map_eq_some_iff]
  grind

@[simp] theorem issued_report {target : Node} {message : String} (h : worded message = true) :
    Issued ctx trigger node (ctx.report target message) :=
  .about target h

/-! ## The handlers -/

variable (ctx trigger node)

theorem issued_checkEval : IssuedAll ctx trigger node (checkEval node ctx) := by
  unfold checkEval
  split <;> simp [worded]

theorem issued_checkParens : IssuedAll ctx trigger node (checkParens node ctx) := by
  unfold checkParens
  split
  · simp
  · refine issuedAll_singleton.2 (.fixable List.mem_cons_self (by decide) fun fix hfix => ?_)
    obtain rfl := List.mem_singleton.1 hfix
    exact .behind "()"

theorem issued_checkCaller : IssuedAll ctx trigger node (checkCaller node ctx) := by
  unfold checkCaller
  split <;> simp [worded, toString]

theorem issued_checkEquality : IssuedAll ctx trigger node (checkEquality node ctx) := by
  unfold checkEquality
  split
  · next operator left right hoperator _ _ =>
    split
    · simp
    split
    · simp
    refine issuedAll_singleton.2 (.fixable List.mem_cons_self (by simp [worded, toString]) fun fix hfix => ?_)
    split at hfix
    · obtain rfl := List.mem_singleton.1 hfix
      exact .child (Node.mem_children_of_childByField? hoperator) _
    · cases hfix
  · simp

theorem issued_checkSelfCompare : IssuedAll ctx trigger node (checkSelfCompare node ctx) := by
  unfold checkSelfCompare
  split <;> simp [worded]

theorem issued_checkCondition (place : String) : IssuedAll ctx trigger node (checkCondition place node ctx) := by
  unfold checkCondition
  split
  · simp
  · split <;> simp [worded, toString]

theorem issued_checkDefault : IssuedAll ctx trigger node (checkDefault node ctx) := by
  unfold checkDefault
  split
  · simp
  · dsimp only
    split <;> simp [worded]

theorem issued_checkReachable : IssuedAll ctx trigger node (checkReachable node ctx) := by
  unfold checkReachable
  split <;> simp [worded, toString]

theorem worded_restrictionMessage (entry : RestrictedGlobal) : worded (restrictionMessage entry) = true := by
  unfold restrictionMessage
  split <;> simp [worded, toString]

theorem issued_checkGlobals : IssuedAll ctx trigger node (checkGlobals node ctx) := by
  unfold checkGlobals
  split
  · simp
  · split
    · next failure hfailure => exact issuedAll_singleton.2 (.failed hfailure)
    · simp [worded_restrictionMessage]

theorem issued_checkComputedKey : IssuedAll ctx trigger node (checkComputedKey node ctx) := by
  unfold checkComputedKey
  split
  · simp
  · next key hkey =>
    split
    · simp
    dsimp only
    split
    · simp
    refine issuedAll_singleton.2 (.fixable List.mem_cons_self (by simp [worded, toString]) fun fix hfix => ?_)
    split at hfix
    · cases hfix
    · obtain rfl := List.mem_singleton.1 hfix
      exact .child (Node.mem_children_of_childByField? hkey) _

theorem issued_checkEmptyPattern (word : String) : IssuedAll ctx trigger node (checkEmptyPattern word node ctx) := by
  simp [checkEmptyPattern, worded, toString]

theorem issued_checkDot (kind : trigger.kind = some "member_expression") :
    IssuedAll ctx trigger node (checkDot node ctx) := by
  unfold checkDot
  split
  · next object property dot hobject hproperty hdot =>
    dsimp only
    split
    · refine issuedAll_singleton.2 (.fixable List.mem_cons_self (by simp [worded, toString]) fun fix hfix => ?_)
      split at hfix
      · cases hfix
      · obtain rfl := List.mem_singleton.1 hfix
        exact .between kind hobject hproperty hdot _
    · simp
  · simp

theorem issued_extraSemicolon {target : Node} (h : target ∈ node :: node.children) :
    Issued ctx trigger node (extraSemicolon ctx target) := by
  refine .fixable h (by decide) fun fix hfix => ?_
  obtain rfl := List.mem_singleton.1 hfix
  exact .whole ""

theorem issued_checkEmptyStatement : IssuedAll ctx trigger node (checkEmptyStatement node ctx) := by
  simp [checkEmptyStatement, issued_extraSemicolon]

theorem mem_of_mem_looseSemicolons {child : Node} : ∀ {previous : Option String} {children : List Node},
    child ∈ looseSemicolons previous children → child ∈ children
  | _, [], h => by cases h
  | previous, first :: rest, h => by
    unfold looseSemicolons at h
    dsimp only at h
    split at h
    · exact List.mem_cons_of_mem _ (mem_of_mem_looseSemicolons h)
    split at h
    · rcases List.mem_cons.1 h with rfl | h
      · exact List.mem_cons_self
      · exact List.mem_cons_of_mem _ (mem_of_mem_looseSemicolons h)
    · exact List.mem_cons_of_mem _ (mem_of_mem_looseSemicolons h)

theorem issued_checkClassBody : IssuedAll ctx trigger node (checkClassBody node ctx) := by
  refine issuedAll_map.2 fun child hchild => issued_extraSemicolon _ _ _ (List.mem_cons_of_mem _ ?_)
  exact mem_of_mem_looseSemicolons hchild

theorem worded_unusedMessage (v : Scope.Variable) : worded (unusedMessage v) = true := by
  unfold unusedMessage
  split <;> simp [worded, toString]

theorem issued_checkUnused : IssuedAll ctx trigger node (checkUnused node ctx) := by
  unfold checkUnused
  split
  · next failure hfailure => exact issuedAll_singleton.2 (.failed hfailure)
  · simp [worded_unusedMessage]

variable {ctx node}

theorem identifierAllows_eq_error {identifier : Node} {failure : Failure}
    (h : identifierAllows ctx node identifier = .error failure) : ctx.scopes = .error failure := by
  unfold identifierAllows at h
  split at h
  · cases h
  split at h
  · next hscopes =>
    cases h
    exact hscopes
  split at h <;> cases h

theorem allAllow_eq_error {failure : Failure} : ∀ {identifiers : List Node},
    allAllow ctx node identifiers = .error failure → ctx.scopes = .error failure
  | [], h => by cases h
  | identifier :: rest, h => by
    unfold allAllow at h
    split at h
    · exact allAllow_eq_error h
    · exact identifierAllows_eq_error h

/-- Whether `let` can be used is known as soon as the scopes are. -/
theorem canUseLet_eq_error {failure : Failure} (h : canUseLet ctx node = .error failure) :
    ctx.scopes = .error failure := by
  unfold canUseLet at h
  split at h
  · split at h
    · cases h
    · exact allAllow_eq_error h
  · cases h

theorem issued_reportVar {keyword : Option Node} (h : ∀ token ∈ keyword, token ∈ node.children) :
    Issued ctx trigger node (reportVar ctx node keyword) := by
  unfold reportVar
  dsimp only
  split
  · exact .about node (by decide)
  · next token =>
    split
    · next failure hfailure => exact .failed (canUseLet_eq_error hfailure)
    · exact .about node (by decide)
    · refine .fixable List.mem_cons_self (by decide) fun fix hfix => ?_
      obtain rfl := List.mem_singleton.1 hfix
      exact .child (h token rfl) "let"

variable (ctx node)

theorem issued_checkVar : IssuedAll ctx trigger node (checkVar node ctx) :=
  issuedAll_singleton.2 (issued_reportVar trigger fun _ => Node.mem_children_of_childOfKind?)

theorem issued_checkLoopVar : IssuedAll ctx trigger node (checkLoopVar node ctx) := by
  unfold checkLoopVar
  split
  · next keyword hkeyword =>
    split
    · refine issuedAll_singleton.2 (issued_reportVar trigger fun token htoken => ?_)
      obtain rfl := Option.some.inj htoken
      exact Scope.mem_children_of_declarationKeyword? hkeyword
    · simp
  · simp

end Handlers

/-! ## All built-in rules -/

theorem issued_builtin : ∀ rule ∈ builtin, ∀ visitor ∈ rule.visitors, ∀ node ctx,
    IssuedAll ctx visitor.1 node (visitor.2 node ctx) := by
  simp only [builtin, List.forall_mem_cons]
  simp [defaultCase, eqeqeq, newParens, noCaller, noCondAssign, conditionals, noEmptyPattern, noEval, noExtraSemi,
    noRestrictedGlobals, noSelfCompare, noUnreachable, statementLists, noUnusedVars, noUselessComputedKey, noVar,
    noWhitespaceBeforeProperty, Trigger.entering, issued_checkDefault, issued_checkEquality, issued_checkParens,
    issued_checkCaller, issued_checkCondition, issued_checkEmptyPattern, issued_checkEval, issued_checkEmptyStatement,
    issued_checkClassBody, issued_checkGlobals, issued_checkSelfCompare, issued_checkReachable, issued_checkUnused,
    issued_checkComputedKey, issued_checkVar, issued_checkLoopVar, issued_checkDot]

/-- Fixes in the findings of built-in rules are edits, offered for nodes of the tree. -/
theorem exists_edit_of_mem_runRules {source : Source} {rules : List ActiveRule}
    (chosen : ∀ active ∈ rules, active.rule ∈ builtin) {finding : Finding} (hfinding : finding ∈ runRules source rules)
    {fix : Fix} (hfix : fix ∈ finding.fixes) :
    ∃ ctx trigger node target, ctx.source = source ∧ (∀ kind, trigger.kind = some kind → node.kind = kind) ∧
      node ∈ source.root.walk ∧ target ∈ source.root.walk ∧ finding.span = source.spanOf target ∧
      Edit ctx trigger node target fix := by
  obtain ⟨active, hactive, call, hcall, ⟨emitted, hemitted, rfl⟩ | ⟨failure, -, rfl⟩⟩ :=
    exists_call_of_mem_runRules hfinding
  · obtain ⟨hnode, visitor, hvisitor, hhandler, hkind⟩ := ActiveRule.mem_calls hcall
    rw [hhandler] at hemitted
    generalize hemission : Emission.finding emitted = emission at hemitted
    cases issued_builtin active.rule (chosen active hactive) visitor hvisitor call.node _ emission hemitted with
    | about =>
      rw [(Context.fixes_of_report hemission.symm).2.1] at hfix
      cases hfix
    | @fixable target htarget _ _ _ edits =>
      obtain ⟨hspan, hfixes, -⟩ := Context.fixes_of_report hemission.symm
      exact ⟨_, visitor.1, call.node, target, rfl, hkind, hnode, Node.cons_children_subset_walk hnode target htarget,
        hspan, edits fix (hfixes ▸ hfix)⟩
    | failed => cases hemission
  · cases hfix

end Rules

end ScriptLint
