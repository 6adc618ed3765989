/-
Handlers and the severity of their rule.

A built-in rule looks at the file, its options and the scopes, and a declared one
at the file; their severity they only hand on to the findings that they report.
So every rule that a configuration can switch on is blind to its severity
(`Registry.blind_of_build`).
-/
import ScriptLint.Proofs.Registry
import ScriptLint.Proofs.Severity.Outline

namespace ScriptLint

/-! ## Built-in rules -/

namespace Rules

variable (ctx : Context)

@[simp] theorem isEval_unstamped : isEval ctx.unstamped = isEval ctx := rfl

@[simp] theorem tokenTexts_unstamped : tokenTexts ctx.unstamped = tokenTexts ctx := rfl

@[simp] theorem identifierAllows_unstamped : identifierAllows ctx.unstamped = identifierAllows ctx := rfl

@[simp] theorem allAllow_unstamped (node : Node) : ∀ identifiers : List Node,
    allAllow ctx.unstamped node identifiers = allAllow ctx node identifiers
  | [] => rfl
  | identifier :: rest => by rw [allAllow, allAllow, identifierAllows_unstamped, allAllow_unstamped node rest]

@[simp] theorem canUseLet_unstamped (node : Node) : canUseLet ctx.unstamped node = canUseLet ctx node := by
  simp only [canUseLet, allAllow_unstamped]

@[simp] theorem unstamped_reportVar (node : Node) (keyword : Option Node) :
    (reportVar ctx.unstamped node keyword).unstamped = (reportVar ctx node keyword).unstamped := by
  unfold reportVar
  cases keyword with
  | none => simp
  | some keyword =>
    simp only [canUseLet_unstamped]
    split <;> simp

theorem blind_checkEval : Handler.Blind checkEval := by
  intro node ctx
  unfold checkEval
  split
  · exact map_unstamped_ite Iff.rfl (by simp) rfl
  · rfl

theorem blind_checkParens : Handler.Blind checkParens := by
  intro node ctx
  unfold checkParens
  split <;> simp

theorem blind_checkCaller : Handler.Blind checkCaller := by
  intro node ctx
  unfold checkCaller
  split
  · exact map_unstamped_ite Iff.rfl (by simp) rfl
  · rfl

theorem blind_checkEquality : Handler.Blind checkEquality := by
  intro node ctx
  unfold checkEquality
  split
  · exact map_unstamped_ite Iff.rfl rfl (map_unstamped_ite Iff.rfl rfl (by simp))
  · rfl

theorem blind_checkSelfCompare : Handler.Blind checkSelfCompare := by
  intro node ctx
  unfold checkSelfCompare
  split
  · exact map_unstamped_ite Iff.rfl (by simp) rfl
  · rfl

theorem blind_checkCondition (place : String) : Handler.Blind (checkCondition place) := by
  intro node ctx
  unfold checkCondition
  split
  · rfl
  · rw [Context.options_unstamped]
    split
    · simp
    · exact map_unstamped_ite Iff.rfl (by simp) rfl

theorem blind_checkDefault : Handler.Blind checkDefault := by
  intro node ctx
  unfold checkDefault
  split
  · rfl
  · dsimp only
    split
    · rfl
    · exact map_unstamped_ite Iff.rfl rfl (map_unstamped_ite Iff.rfl rfl (by simp))

theorem blind_checkReachable : Handler.Blind checkReachable := by
  intro node ctx
  unfold checkReachable
  split <;> simp

theorem blind_checkGlobals : Handler.Blind checkGlobals := by
  intro node ctx
  unfold checkGlobals
  rw [Context.options_unstamped, Context.scopes_unstamped]
  split
  · rfl
  · split
    · rfl
    · simp [List.map_filterMap, Function.comp_def]

theorem blind_checkComputedKey : Handler.Blind checkComputedKey := by
  intro node ctx
  unfold checkComputedKey
  split
  · rfl
  · split
    · rfl
    · exact map_unstamped_ite Iff.rfl rfl (by simp)

theorem blind_checkEmptyPattern (word : String) : Handler.Blind (checkEmptyPattern word) := by
  intro node ctx
  exact map_unstamped_ite Iff.rfl (by simp) rfl

theorem blind_checkDot : Handler.Blind checkDot := by
  intro node ctx
  unfold checkDot
  split
  · exact map_unstamped_ite Iff.rfl (by simp) rfl
  · rfl

theorem blind_checkEmptyStatement : Handler.Blind checkEmptyStatement := by
  intro node ctx
  exact map_unstamped_ite Iff.rfl rfl (by simp [extraSemicolon])

theorem blind_checkClassBody : Handler.Blind checkClassBody := by
  intro node ctx
  simp [checkClassBody, extraSemicolon]

theorem blind_checkUnused : Handler.Blind checkUnused := by
  intro node ctx
  unfold checkUnused
  rw [Context.scopes_unstamped, Context.options_unstamped]
  split
  · rfl
  · simp [List.map_filterMap, Function.comp_def]

theorem blind_checkVar : Handler.Blind checkVar := by
  intro node ctx
  simp [checkVar]

theorem blind_checkLoopVar : Handler.Blind checkLoopVar := by
  intro node ctx
  unfold checkLoopVar
  split
  · exact map_unstamped_ite Iff.rfl (by simp) rfl
  · rfl

/-- No built-in rule looks at its severity. -/
theorem blind_builtin : ∀ rule ∈ builtin, rule.Blind := by
  simp only [builtin, List.forall_mem_cons, Rule.Blind]
  simp [defaultCase, eqeqeq, newParens, noCaller, noCondAssign, conditionals, noEmptyPattern, noEval, noExtraSemi,
    noRestrictedGlobals, noSelfCompare, noUnreachable, statementLists, noUnusedVars, noUselessComputedKey, noVar,
    noWhitespaceBeforeProperty, blind_checkDefault, blind_checkEquality, blind_checkParens, blind_checkCaller,
    blind_checkCondition, blind_checkEmptyPattern, blind_checkEval, blind_checkEmptyStatement, blind_checkClassBody,
    blind_checkGlobals, blind_checkSelfCompare, blind_checkReachable, blind_checkUnused, blind_checkComputedKey,
    blind_checkVar, blind_checkLoopVar, blind_checkDot]

end Rules

/-! ## Declared rules -/

namespace Declared

variable (ctx : Context) (node : Node)

theorem holds_unstamped (condition : Condition) : condition.holds ctx.unstamped node = condition.holds ctx node := by
  cases condition <;> rfl

theorem fix_unstamped (edit : Edit) : edit.fix ctx.unstamped node = edit.fix ctx node := by
  cases edit <;> rfl

theorem fixesOf_unstamped : ∀ edits : List Edit, fixesOf ctx.unstamped node edits = fixesOf ctx node edits
  | [] => rfl
  | edit :: edits => by rw [fixesOf, fixesOf, fix_unstamped, fixesOf_unstamped edits]

/-- The severity of a finding built by hand does not count. -/
theorem unstamped_emission (item : Item) :
    (item.emission ctx.unstamped node).unstamped = (item.emission ctx node).unstamped := by
  cases item with
  | report message edits =>
    simp only [Item.emission, fixesOf_unstamped]
    split
    · rfl
    · exact ctx.unstamped_report node _ _
  | direct message severity => rfl
  | giveUp message => rfl
  | junk value => rfl

theorem blind_handler (action : Action) : Handler.Blind action.handler := by
  intro node ctx
  have hholds : (fun condition : Condition => condition.holds ctx.unstamped node) = (·.holds ctx node) :=
    funext (holds_unstamped ctx node)
  refine map_unstamped_ite (by rw [hholds]) ?_ rfl
  rw [List.map_map, List.map_map]
  exact List.map_congr_left fun item _ => (unstamped_emission ctx node item).symm

end Declared

theorem DeclaredRule.blind_toRule (rule : DeclaredRule) : rule.toRule.Blind := by
  intro visitor hvisitor
  obtain ⟨declared, -, rfl⟩ := List.mem_map.1 hvisitor
  exact Declared.blind_handler declared.2

/-- All rules that a configuration switches on are blind to their severity. -/
theorem Registry.blind_of_build {declared : List DeclaredRule} {config : Config} {registry : Registry}
    (h : Registry.build (Catalog.extended declared) config = .ok registry) :
    ∀ active ∈ registry.activeRules, active.rule.Blind := by
  intro active hactive
  rcases Registry.origin_of_build h active hactive with hbuiltin | ⟨source, -, hsource⟩
  · exact Rules.blind_builtin active.rule hbuiltin
  · exact hsource ▸ source.blind_toRule

end ScriptLint
