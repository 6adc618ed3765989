/-
Which unused names an export spares.

The rule about unused variables climbs from a name to the innermost declaration
or function around it and asks whether that is a declaration that is exported.
From a name in a pattern it climbs as from the pattern
(`innermost?_of_mem_bindings`), so what it meets depends on the form of the
declaration: the statement that declares the name, where it is one; the function,
for a parameter; and for loop heads and imports whatever is around them. The
kinds of function declarations are kinds of declarations too and are taken for
these, so that an exported function spares its parameters as well. `Spared`
lists all that an exported statement spares, and `checkUnused_spares` says that
the rule leaves out nothing else.
-/
import ScriptLint.Proofs.Calls
import ScriptLint.Proofs.Scope.Invariant
import ScriptLint.Rules.UnusedVariables

namespace ScriptLint

namespace Scope

/-! ## Above a bound name -/

mutual

theorem ancestors_of_mem_bindingsOf : ∀ {above : List Tree} {tree : Tree} {identifier : Node},
    identifier ∈ bindingsOf above tree →
      ∃ between, identifier.ancestors = between ++ Node.chain above ∧ ∀ node ∈ between, node.kind ∈ patternKinds
  | above, .node id label children, identifier, h => by
    -- Names of the children have this node between them and what is above.
    have inside : label.kind ∈ patternKinds → (∃ between, identifier.ancestors =
        between ++ Node.chain (.node id label children :: above) ∧ ∀ node ∈ between, node.kind ∈ patternKinds) →
        ∃ between, identifier.ancestors = between ++ Node.chain above ∧ ∀ node ∈ between, node.kind ∈ patternKinds := by
      rintro hkind ⟨between, hancestors, hpatterns⟩
      refine ⟨between ++ [⟨.node id label children, above⟩], ?_, fun node hnode => ?_⟩
      · rw [hancestors, Node.chain, List.append_cons]
      · rcases List.mem_append.1 hnode with hnode | hnode
        · exact hpatterns node hnode
        · obtain rfl := List.mem_singleton.1 hnode
          exact hkind
    unfold bindingsOf at h
    split at h
    · obtain rfl := List.mem_singleton.1 h
      exact ⟨[], rfl, List.forall_mem_nil _⟩
    · split at h
      · next hkind => exact inside (by simp [hkind, patternKinds]) (ancestors_of_mem_bindingsInField h)
      · split at h
        · next hkind =>
          refine inside ?_ (ancestors_of_mem_bindingsInField h)
          rcases hkind with hkind | hkind <;> simp [hkind, patternKinds]
        · split at h
          · next hkind =>
            refine inside ?_ (ancestors_of_mem_bindingsInAll h)
            rcases hkind with hkind | hkind | hkind <;> simp [hkind, patternKinds]
          · cases h

theorem ancestors_of_mem_bindingsInField {field : String} : ∀ {above : List Tree} {trees : List Tree}
    {identifier : Node}, identifier ∈ bindingsInField field above trees →
      ∃ between, identifier.ancestors = between ++ Node.chain above ∧ ∀ node ∈ between, node.kind ∈ patternKinds
  | _, [], _, h => by cases h
  | _, tree :: rest, _, h => by
    unfold bindingsInField at h
    split at h
    · exact ancestors_of_mem_bindingsOf h
    · exact ancestors_of_mem_bindingsInField h

theorem ancestors_of_mem_bindingsInAll : ∀ {above : List Tree} {trees : List Tree} {identifier : Node},
    identifier ∈ bindingsInAll above trees →
      ∃ between, identifier.ancestors = between ++ Node.chain above ∧ ∀ node ∈ between, node.kind ∈ patternKinds
  | _, [], _, h => by cases h
  | _, tree :: rest, _, h => by
    unfold bindingsInAll at h
    split at h
    · rcases List.mem_append.1 h with h | h
      · exact ancestors_of_mem_bindingsOf h
      · exact ancestors_of_mem_bindingsInAll h
    · exact ancestors_of_mem_bindingsInAll h

end

/-- Between a target and a name that it binds lie patterns only. -/
theorem ancestors_of_mem_bindings {target identifier : Node} (h : identifier ∈ bindings target) :
    ∃ between, identifier.ancestors = between ++ target.ancestors ∧ ∀ node ∈ between, node.kind ∈ patternKinds :=
  ancestors_of_mem_bindingsOf h

end Scope

namespace Rules

open Scope (Variable Table Declaration)

/-! ## What is climbed to -/

/-- Whether climbing ends at a node: at a declaration statement or a function. -/
def decides (node : Node) : Bool :=
  declarationKinds.contains node.kind || Scope.functionKinds.contains node.kind

/-- The innermost declaration or function around a node. -/
def innermost? (node : Node) : Option Node := node.ancestors.find? decides

/-- The same with the node itself in question. -/
def decider? (node : Node) : Option Node := (node :: node.ancestors).find? decides

theorem decides_of_declaration {node : Node} (h : node.kind ∈ declarationKinds) : decides node = true := by
  rw [decides, List.contains_iff_mem.2 h, Bool.true_or]

theorem decides_of_function {node : Node} (h : node.kind ∈ Scope.functionKinds) : decides node = true := by
  rw [decides, List.contains_iff_mem.2 h, Bool.or_true]

/-- Nodes of other kinds are climbed over. -/
theorem decides_eq_false {kinds : List String} {node : Node} (h : node.kind ∈ kinds)
    (other : ∀ kind ∈ kinds, kind ∉ declarationKinds ++ Scope.functionKinds) : decides node = false := by
  have hnot := other node.kind h
  rw [List.mem_append, ← List.contains_iff_mem, ← List.contains_iff_mem, ← Bool.or_eq_true] at hnot
  exact Bool.eq_false_iff.2 hnot

theorem decider?_of_decides {node : Node} (h : decides node = true) : decider? node = some node :=
  List.find?_cons_of_pos h

theorem decider?_of_not_decides {node : Node} (h : decides node = false) : decider? node = innermost? node :=
  List.find?_cons_of_neg (Bool.eq_false_iff.1 h)

theorem innermost?_of_mem_children {node child : Node} (h : child ∈ node.children) :
    innermost? child = decider? node := by
  rw [innermost?, Node.ancestors_of_mem_children h, decider?]

theorem innermost?_of_mem_bindings {target identifier : Node} (h : identifier ∈ Scope.bindings target) :
    innermost? identifier = innermost? target := by
  obtain ⟨between, hancestors, hpatterns⟩ := Scope.ancestors_of_mem_bindings h
  have hnone : between.find? decides = none :=
    List.find?_eq_none.2 fun node hnode => Bool.eq_false_iff.1 (decides_eq_false (hpatterns node hnode) (by decide))
  rw [innermost?, hancestors, List.find?_append, hnone, Option.none_or, innermost?]

/-- A statement that is exported, and so are the names it declares. -/
structure Exported (statement : Node) : Prop where
  kind : statement.kind ∈ declarationKinds
  parent : ∃ parent, statement.parent? = some parent ∧ parent.kind = "export_statement"

theorem isExported_iff {identifier : Node} : isExported identifier = true ↔
    ∃ statement, innermost? identifier = some statement ∧ Exported statement := by
  have hclimb : identifier.ancestors.find? (fun ancestor =>
      declarationKinds.contains ancestor.kind || Scope.functionKinds.contains ancestor.kind) =
        innermost? identifier := rfl
  simp only [isExported, hclimb]
  cases innermost? identifier with
  | none => simp
  | some statement =>
    simp only [Bool.and_eq_true, List.contains_iff_mem, Option.any_eq_true, decide_eq_true_eq, Option.some.injEq,
      exists_eq_left']
    constructor
    · rintro ⟨hkind, hparent⟩
      exact ⟨hkind, hparent⟩
    · exact fun h => ⟨h.kind, h.parent⟩

/-! ## What an exported statement spares -/

/-- The names that a statement binds by itself: the targets of its declarators, or its own name. -/
def ownNames (statement : Node) : List Node :=
  if statement.kind = "variable_declaration" ∨ statement.kind = "lexical_declaration" then
    Scope.declaratorTargets statement
  else (statement.childByField? "name").toList

/-- The nodes that declare names without being a declaration or a function: loop heads and imports. -/
def headKinds : List String := ["for_in_statement", "import_specifier", "import_clause", "namespace_import"]

/-- How an exported statement comes to spare a name. -/
inductive Spared (statement identifier : Node) : Prop where
  /-- The statement itself binds it. -/
  | itself (h : identifier ∈ ownNames statement)
  /-- It is a parameter of the function that the statement declares. -/
  | parameter (h : identifier ∈ (Scope.parameters statement).flatMap Scope.bindings)
      (direct : innermost? identifier = some statement)
  /-- A loop head or an import in the statement declares it, with no declaration or function around
  that is further in. -/
  | inner {head : Node} {here : List Declaration} (kind : head.kind ∈ headKinds)
      (declares : Scope.declarationsAt head = .ok here) {declaration : Declaration} (mem : declaration ∈ here)
      (declared : declaration.identifier = identifier) (direct : innermost? head = some statement)

theorem innermost?_of_mem_declaratorTargets {node identifier : Node} (h : identifier ∈ Scope.declaratorTargets node) :
    innermost? identifier = decider? node := by
  obtain ⟨declarator, hdeclarator, htarget⟩ := List.mem_flatMap.1 h
  obtain ⟨hnamed, hkind⟩ := List.mem_filter.1 hdeclarator
  obtain ⟨target, hfield, hbinding⟩ := Scope.mem_targetsOf htarget
  have hplain : decides declarator = false :=
    decides_eq_false (List.mem_singleton.2 (of_decide_eq_true hkind)) (by decide)
  rw [innermost?_of_mem_bindings hbinding, innermost?_of_mem_children (Node.mem_children_of_childByField? hfield),
    decider?_of_not_decides hplain, innermost?_of_mem_children (Node.mem_children_of_mem_namedChildren hnamed)]

theorem innermost?_of_mem_ownNames {statement identifier : Node} (hkind : statement.kind ∈ declarationKinds)
    (h : identifier ∈ ownNames statement) : innermost? identifier = some statement := by
  rw [← decider?_of_decides (decides_of_declaration hkind)]
  unfold ownNames at h
  split at h
  · exact innermost?_of_mem_declaratorTargets h
  · rw [Option.mem_toList] at h
    exact innermost?_of_mem_children (Node.mem_children_of_childByField? h)

/-- From a parameter one climbs to its function, unless the list of parameters is a function itself. -/
theorem innermost?_of_mem_parameters {node identifier : Node} (hfunction : node.kind ∈ Scope.functionKinds)
    (h : identifier ∈ (Scope.parameters node).flatMap Scope.bindings) :
    innermost? identifier = some node ∨
      ∃ list, innermost? identifier = some list ∧ list.parent? = some node := by
  have hdecides := decides_of_function hfunction
  obtain ⟨parameter, hparameter, hbinding⟩ := List.mem_flatMap.1 h
  rw [innermost?_of_mem_bindings hbinding]
  unfold Scope.parameters at hparameter
  split at hparameter
  · next single hsingle =>
    obtain rfl := List.mem_singleton.1 hparameter
    exact .inl ((innermost?_of_mem_children (Node.mem_children_of_childByField? hsingle)).trans
      (decider?_of_decides hdecides))
  · cases hlist : node.childByField? "parameters" with
    | none =>
      rw [hlist] at hparameter
      cases hparameter
    | some list =>
      rw [hlist, Option.map_some, Option.getD_some] at hparameter
      have hchild := Node.mem_children_of_childByField? hlist
      rw [innermost?_of_mem_children (Node.mem_children_of_mem_namedChildren hparameter)]
      cases hplain : decides list with
      | true => exact .inr ⟨list, decider?_of_decides hplain, Node.parent?_of_mem_children hchild⟩
      | false =>
        rw [decider?_of_not_decides hplain, innermost?_of_mem_children hchild]
        exact .inl (decider?_of_decides hdecides)

theorem innermost?_of_mem_head {head : Node} {here : List Declaration} (hhead : head.kind ∈ headKinds)
    (h : Scope.declarationsAt head = .ok here) {declaration : Declaration} (hmem : declaration ∈ here) :
    innermost? declaration.identifier = innermost? head := by
  have hplain : decides head = false := decides_eq_false hhead (by decide)
  rw [← decider?_of_not_decides hplain]
  cases Scope.declarationsAt_eq_ok_iff.1 h with
  | loop =>
    unfold Scope.loopHead at hmem
    split at hmem
    · cases hmem
    · obtain ⟨target, hfield, hbinding⟩ := Scope.mem_targetsOf (Scope.mem_declareAll.1 hmem).1
      rw [innermost?_of_mem_bindings hbinding, innermost?_of_mem_children (Node.mem_children_of_childByField? hfield)]
  | specifier _ named =>
    obtain rfl := List.mem_singleton.1 hmem
    exact innermost?_of_mem_children (Node.mem_children_of_either_field named)
  | imports =>
    have hidentifier := (List.mem_filter.1 (Scope.mem_declareAll.1 hmem).1).1
    exact innermost?_of_mem_children (Node.mem_children_of_mem_namedChildren hidentifier)
  | vars kind => exact absurd (kind ▸ hhead) (by decide)
  | lexical kind => exact absurd (kind ▸ hhead) (by decide)
  | function kind =>
    have hkinds : ∀ kind ∈ headKinds, kind ∉ Scope.functionKinds := by decide
    exact absurd kind (hkinds head.kind hhead)
  | classes kind => rcases kind with kind | kind <;> exact absurd (kind ▸ hhead) (by decide)
  | clause kind => exact absurd (kind ▸ hhead) (by decide)
  | other _ => cases hmem

/-- What an exported statement spares is not reported. -/
theorem Spared.innermost {statement identifier : Node} (h : Spared statement identifier)
    (exported : Exported statement) : innermost? identifier = some statement := by
  cases h with
  | itself hown => exact innermost?_of_mem_ownNames exported.kind hown
  | parameter _ direct => exact direct
  | inner kind declares mem declared direct => rw [← declared, innermost?_of_mem_head kind declares mem, direct]

section Climbing

variable {node statement identifier : Node} (hinner : innermost? identifier = some statement)

include hinner

/-- A statement to which one climbs from a name of its own spares the name. -/
theorem Spared.of_own (hclimb : innermost? identifier = decider? node) (hdecides : decides node = true)
    (hname : identifier ∈ ownNames node) : Spared statement identifier := by
  rw [hclimb, decider?_of_decides hdecides] at hinner
  exact .itself (Option.some.inj hinner ▸ hname)

theorem Spared.of_target (hkind : node.kind = "variable_declaration" ∨ node.kind = "lexical_declaration")
    (hname : identifier ∈ Scope.declaratorTargets node) : Spared statement identifier := by
  have hdeclaration : node.kind ∈ declarationKinds := by
    rcases hkind with hkind | hkind <;> simp [hkind, declarationKinds]
  refine .of_own hinner (innermost?_of_mem_declaratorTargets hname) (decides_of_declaration hdeclaration) ?_
  rwa [ownNames, if_pos hkind]

theorem Spared.of_name (hkind : node.kind = "class_declaration" ∨ node.kind ∈ Scope.functionKinds)
    (hname : node.childByField? "name" = some identifier) : Spared statement identifier := by
  have hkind' : node.kind ∈ "class_declaration" :: Scope.functionKinds := List.mem_cons.2 hkind
  have hdecides : decides node = true := by
    rcases hkind with hkind | hkind
    · exact decides_of_declaration (by simp [hkind, declarationKinds])
    · exact decides_of_function hkind
  refine .of_own hinner (innermost?_of_mem_children (Node.mem_children_of_childByField? hname)) hdecides ?_
  rw [ownNames, if_neg (not_or.2 ⟨ne_of_mem_of_not_mem hkind' (by decide), ne_of_mem_of_not_mem hkind' (by decide)⟩),
    hname]
  exact List.mem_singleton_self _

/-- A list of parameters that is a declaration itself is not exported, as its parent is a function. -/
theorem Spared.of_parameter (exported : Exported statement) (hkind : node.kind ∈ Scope.functionKinds)
    (hparameter : identifier ∈ (Scope.parameters node).flatMap Scope.bindings) : Spared statement identifier := by
  rcases innermost?_of_mem_parameters hkind hparameter with hclimb | ⟨list, hclimb, hparent⟩
  · obtain rfl := Option.some.inj (hclimb.symm.trans hinner)
    exact .parameter hparameter hclimb
  · obtain rfl := Option.some.inj (hclimb.symm.trans hinner)
    obtain ⟨parent, hsome, hexport⟩ := exported.parent
    obtain rfl := Option.some.inj (hparent.symm.trans hsome)
    rw [hexport] at hkind
    exact absurd hkind (by decide)

end Climbing

/-- Whoever declares a name inside an exported statement, the statement spares it in one of these ways.
Caught exceptions and the names of class expressions are never reported, so they need no sparing. -/
theorem spared_of_declared {node : Node} {here : List Declaration} (h : Scope.declarationsAt node = .ok here)
    {declaration : Declaration} (hmem : declaration ∈ here) (hcatch : declaration.kind ≠ "catch")
    (hclass : declaration.kind = "class" → declaration.identifier.parent? ≠ some declaration.scope)
    {statement : Node} (hinner : innermost? declaration.identifier = some statement) (exported : Exported statement) :
    Spared statement declaration.identifier := by
  have hhead : node.kind ∈ headKinds → Spared statement declaration.identifier := fun kind =>
    .inner kind h hmem rfl ((innermost?_of_mem_head kind h hmem).symm.trans hinner)
  cases Scope.declarationsAt_eq_ok_iff.1 h with
  | vars kind => exact .of_target hinner (.inl kind) (Scope.mem_declareAll.1 hmem).1
  | lexical kind => exact .of_target hinner (.inr kind) (Scope.mem_declareAll.1 hmem).1
  | function kind =>
    rcases List.mem_append.1 hmem with hmem | hmem
    · unfold Scope.functionName at hmem
      split at hmem
      · cases hmem
      · next name hname =>
        have hidentifier : declaration.identifier = name := by
          split_ifs at hmem
          · cases hmem
          · rw [List.mem_singleton.1 hmem]
          · rw [List.mem_singleton.1 hmem]
        exact .of_name hinner (.inr kind) (hidentifier ▸ hname)
    · exact .of_parameter hinner exported kind (Scope.mem_declareAll.1 hmem).1
  | classes kind =>
    unfold Scope.className at hmem
    split at hmem
    · cases hmem
    · next name hname =>
      obtain rfl := List.mem_singleton.1 hmem
      rcases kind with kind | kind
      · exact .of_name hinner (.inl kind) hname
      · have hscope : (if node.kind = "class_declaration" then Scope.blockScope node else node) = node := by
          simp [kind]
        have hparent := Node.parent?_of_childByField? hname
        exact absurd (hparent.trans (congrArg some hscope.symm)) (hclass rfl)
  | clause kind => exact absurd (Scope.mem_declareAll.1 hmem).2.1 hcatch
  | loop kind => exact hhead (by simp [kind, headKinds])
  | specifier kind => exact hhead (by simp [kind, headKinds])
  | imports kind => rcases kind with kind | kind <;> exact hhead (by simp [kind, headKinds])
  | other => cases hmem

/-! ## What is reported -/

/-- An unused variable that would be reported if nothing were exported. -/
structure Reportable (options : UnusedOptions) (vars : List Variable) (program : Node) (usesElements : Bool)
    (v : Variable) : Prop where
  unused : isUsed v = false
  caught : v.kind ≠ "catch"
  expression : namesItself v = false
  counts : v.kind = "param" → paramCounts options.args vars v = true
  element : ¬ (v.name = "React" ∧ usesElements = true)
  inner : ¬ (options.vars = .local ∧ v.scope.id = program.id)
  rest : ¬ (options.ignoreRestSiblings = true ∧ (firstIdentifier? v).any hasRestSibling = true)

theorem reportable_iff {options : UnusedOptions} {vars : List Variable} {program : Node} {usesElements : Bool}
    {v : Variable} : Reportable options vars program usesElements v ↔
      isUsed v = false ∧ v.kind ≠ "catch" ∧ namesItself v = false ∧
      (v.kind = "param" → paramCounts options.args vars v = true) ∧ ¬ (v.name = "React" ∧ usesElements = true) ∧
      ¬ (options.vars = .local ∧ v.scope.id = program.id) ∧
      ¬ (options.ignoreRestSiblings = true ∧ (firstIdentifier? v).any hasRestSibling = true) :=
  ⟨fun h => ⟨h.unused, h.caught, h.expression, h.counts, h.element, h.inner, h.rest⟩,
    fun ⟨unused, caught, expression, counts, element, inner, rest⟩ =>
      ⟨unused, caught, expression, counts, element, inner, rest⟩⟩

instance (options : UnusedOptions) (vars : List Variable) (program : Node) (usesElements : Bool) (v : Variable) :
    Decidable (Reportable options vars program usesElements v) :=
  decidable_of_iff' _ reportable_iff

/-- A variable whose first identifier an exported statement spares. -/
def SparedByExport (v : Variable) : Prop :=
  ∃ identifier, firstIdentifier? v = some identifier ∧ ∃ statement, Exported statement ∧ Spared statement identifier

theorem isReported_iff {options : UnusedOptions} {vars : List Variable} {program : Node} {usesElements : Bool}
    {v : Variable} : isReported options vars program usesElements v = true ↔
      Reportable options vars program usesElements v ∧ ¬ (firstIdentifier? v).any isExported = true := by
  rw [reportable_iff]
  simp only [isReported, Bool.and_eq_true, Bool.not_eq_true', Bool.or_eq_true, decide_eq_true_eq, Bool.and_eq_false_iff,
    decide_eq_false_iff_not]
  grind

section Table

variable {source : Source} {table : Table}

/-- A variable counts as exported just where an exported statement spares it. -/
theorem any_isExported_iff (h : Scope.analyze source = .ok table) {v : Variable} (hv : v ∈ table.vars)
    {options : UnusedOptions} {program : Node} {usesElements : Bool}
    (reportable : Reportable options table.vars program usesElements v) :
    (firstIdentifier? v).any isExported = true ↔ SparedByExport v := by
  have describes := Scope.describes_of_analyze h
  obtain ⟨declaration, hdeclaration, hfirst, hscope, hkind⟩ :=
    Scope.exists_founding describes (Scope.founded_of_analyze h) hv
  have hfirst : firstIdentifier? v = some declaration.identifier := hfirst
  constructor
  · intro hexported
    rw [hfirst, Option.any_some] at hexported
    obtain ⟨statement, hinner, exported⟩ := isExported_iff.1 hexported
    obtain ⟨node, -, here, hhere, hmem⟩ :=
      Scope.exists_of_mem_declarationsIn describes.collected declaration hdeclaration
    have hclass : declaration.kind = "class" → declaration.identifier.parent? ≠ some declaration.scope := by
      intro hclass hparent
      have hitself : namesItself v = true := by
        simp [namesItself, hfirst, hparent, ← hkind, hclass, hscope]
      rw [reportable.expression] at hitself
      cases hitself
    exact ⟨_, hfirst, statement, exported,
      spared_of_declared hhere hmem (hkind ▸ reportable.caught) hclass hinner exported⟩
  · rintro ⟨identifier, hidentifier, statement, exported, spared⟩
    rw [hidentifier, Option.any_some]
    exact isExported_iff.2 ⟨statement, spared.innermost exported, exported⟩

/-- **What exports spare.** Of the unused variables that would be reported if nothing were exported, the
rule leaves out just those whose first identifier an exported statement spares: a name that the
statement binds itself, a parameter of the function that it declares, or a name that a loop head
or an import declares in it with no function or declaration in between. -/
theorem checkUnused_spares (ctx : Context) (h : Scope.analyze ctx.source = .ok table)
    (scopes : ctx.scopes = .ok table) (program : Node) :
    let Reported := Reportable (unusedOptions ctx.options) table.vars program
      (program.walk.any (·.kind.startsWith "jsx_"))
    ∃ reported : List Variable, reported.Sublist table.vars ∧
      checkUnused program ctx = reported.filterMap (fun v =>
        (firstIdentifier? v).map fun identifier => ctx.report identifier (unusedMessage v)) ∧
      (∀ v ∈ reported, Reported v) ∧ ∀ v ∈ table.vars, Reported v → (v ∉ reported ↔ SparedByExport v) := by
  intro Reported
  let usesElements := program.walk.any (·.kind.startsWith "jsx_")
  refine ⟨table.vars.filter (isReported (unusedOptions ctx.options) table.vars program usesElements),
    List.filter_sublist, ?_, fun v hv => (isReported_iff.1 (List.mem_filter.1 hv).2).1, fun v hv reportable => ?_⟩
  · rw [checkUnused, scopes]
  · rw [← any_isExported_iff h hv reportable, List.mem_filter, isReported_iff]
    constructor
    · intro hnot
      by_contra hexported
      exact hnot ⟨hv, reportable, hexported⟩
    · exact fun hexported hreported => hreported.2.2 hexported

/-- An exported function with a parameter and a loop, and a constant that is not exported. -/
def exportSource : Source :=
  .ofParsed (.ofString "x.js") (Utf8.encode "export function f(a){for(const k of[]){}}const c=1")
    (.node { kind := "program", start := 0, stop := 50 }
      [.node { kind := "export_statement", start := 0, stop := 41 }
        [.node { kind := "function_declaration", start := 7, stop := 41, field := some "declaration" }
          [.node { kind := "identifier", start := 16, stop := 17, field := some "name" } [],
           .node { kind := "formal_parameters", start := 17, stop := 20, field := some "parameters" }
            [.node { kind := "identifier", start := 18, stop := 19 } []],
           .node { kind := "statement_block", start := 20, stop := 41, field := some "body" }
            [.node { kind := "for_in_statement", start := 21, stop := 40 }
              [.node { kind := "const", start := 25, stop := 30, named := false, field := some "kind" } [],
               .node { kind := "identifier", start := 31, stop := 32, field := some "left" } [],
               .node { kind := "array", start := 35, stop := 37, field := some "right" } [],
               .node { kind := "statement_block", start := 38, stop := 40, field := some "body" } []]]]],
       .node { kind := "lexical_declaration", start := 41, stop := 50 }
        [.node { kind := "const", start := 41, stop := 46, named := false, field := some "kind" } [],
         .node { kind := "variable_declarator", start := 47, stop := 50 }
          [.node { kind := "identifier", start := 47, stop := 48, field := some "name" } [],
           .node { kind := "number", start := 49, stop := 50, field := some "value" } []]]])

def exportContext : Context :=
  ⟨exportSource, Scope.analyze exportSource, noUnusedVars.id, .warn, .unused {}⟩

/-- The scopes of the source are known, and what can be computed from them. -/
theorem exists_exportTable {p : Table → Bool} (h : (Scope.analyze exportSource).toOption.any p = true) :
    ∃ table, Scope.analyze exportSource = .ok table ∧ p table = true := by
  cases htable : Scope.analyze exportSource with
  | error failure =>
    rw [htable] at h
    cases h
  | ok table =>
    rw [htable] at h
    exact ⟨table, rfl, h⟩

theorem checkUnused_spares_function : ∃ table, Scope.analyze exportSource = .ok table ∧
    table.vars.map Variable.name = ["f", "a", "k", "c"] ∧ ∀ v ∈ table.vars, v.name ≠ "c" → SparedByExport v := by
  let program := exportSource.root
  let message := "'c' is assigned a value but never used."
  obtain ⟨table, htable, hfacts⟩ := exists_exportTable (p := fun table =>
    table.vars.map Variable.name = ["f", "a", "k", "c"] && table.vars.all fun v => v.name = "c" ||
      (Reportable {} table.vars program false v && (firstIdentifier? v).isSome && unusedMessage v ≠ message))
    (by decide +kernel)
  obtain ⟨hnames, hvars⟩ := Bool.and_eq_true_iff.1 hfacts
  obtain ⟨reported, -, hcheck, -, hspared⟩ := checkUnused_spares exportContext htable htable program
  refine ⟨table, htable, of_decide_eq_true hnames, fun v hv hname => ?_⟩
  have hv' := List.all_eq_true.1 hvars v hv
  simp only [hname, decide_false, Bool.false_or, Bool.and_eq_true, decide_eq_true_eq] at hv'
  obtain ⟨⟨hreportable, hfirst⟩, hmessage⟩ := hv'
  have hplain : program.walk.any (·.kind.startsWith "jsx_") = false := by decide +kernel
  refine (hspared v hv (hplain.symm ▸ hreportable)).1 fun hreported => hmessage ?_
  obtain ⟨identifier, hidentifier⟩ := Option.isSome_iff_exists.1 hfirst
  have hemitted : exportContext.report identifier (unusedMessage v) ∈ checkUnused program exportContext :=
    hcheck ▸ List.mem_filterMap.2 ⟨v, hreported, by rw [hidentifier, Option.map_some]⟩
  have honly : (collect .warn (checkUnused program exportContext)).toOption.any
      (·.all fun finding => finding.message = message) = true := by decide +kernel
  cases hcollect : collect .warn (checkUnused program exportContext) with
  | error failure =>
    rw [hcollect] at honly
    cases honly
  | ok findings =>
    rw [hcollect] at honly
    obtain ⟨emitted, hfindings, rfl⟩ := collect_eq_ok_iff.1 hcollect
    rw [hfindings] at hemitted
    obtain ⟨finding, hfinding, hsame⟩ := List.mem_map.1 hemitted
    have hsays : finding.message = message :=
      of_decide_eq_true (List.all_eq_true.1 honly { finding with severity := .warn } (List.mem_map_of_mem hfinding))
    rw [← hsays, Emission.finding.inj hsame]

/-- Exports spare more than the names that exported statements bind themselves: the parameter and the name
in the loop head. -/
theorem not_ownNames_of_sparedByExport : ¬ ∀ (source : Source) (table : Table), Scope.analyze source = .ok table →
    ∀ (options : UnusedOptions) (program : Node) (usesElements : Bool), ∀ v ∈ table.vars,
      Reportable options table.vars program usesElements v →
        (isReported options table.vars program usesElements v = false ↔
          ∃ identifier, firstIdentifier? v = some identifier ∧
            ∃ statement, Exported statement ∧ identifier ∈ ownNames statement) := by
  intro hclaim
  let program := exportSource.root
  obtain ⟨table, htable, hfacts⟩ := exists_exportTable (p := fun table => table.vars.any fun v => v.kind = "param" &&
      Reportable {} table.vars program false v && !isReported {} table.vars program false v &&
      (firstIdentifier? v).any fun identifier => (innermost? identifier).all fun statement =>
        (ownNames statement).all fun name => name.id ≠ identifier.id)
    (by decide +kernel)
  obtain ⟨v, hv, hfacts⟩ := List.any_eq_true.1 hfacts
  simp only [Bool.and_eq_true, Bool.not_eq_true', decide_eq_true_eq] at hfacts
  obtain ⟨⟨⟨-, hreportable⟩, hunreported⟩, hown⟩ := hfacts
  obtain ⟨identifier, hfirst, statement, exported, hname⟩ :=
    (hclaim exportSource table htable {} program false v hv hreportable).1 hunreported
  rw [hfirst, Option.any_some, innermost?_of_mem_ownNames exported.kind hname, Option.all_some] at hown
  exact of_decide_eq_true (List.all_eq_true.1 hown identifier hname) rfl

end Table

end Rules

end ScriptLint
