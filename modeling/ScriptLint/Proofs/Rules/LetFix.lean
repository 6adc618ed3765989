/-
When `let` is offered for a `var`.

The fix asks that every declarator binds a plain identifier and that none of
the variables is declared twice (`OffersLet.bound`). A plain identifier is
declared by its own declaration only, so it belongs to the scope of the function
around that (`scope_of_plain`), and there it is the one declaration of its name.
-/
import ScriptLint.Engine
import ScriptLint.Proofs.Scope.Binding
import ScriptLint.Proofs.Scope.LetRewrite
import ScriptLint.Rules.VarDeclarations

namespace ScriptLint

/-- The fixes of a finding; a failure has none. -/
def Emission.fixes : Emission → List Fix
  | .finding found => found.fixes
  | .failed _ => []

namespace Rules

open Scope

/-- The rule reports a node with a fix. -/
def OffersLet (ctx : Context) (node : Node) : Prop :=
  ∃ visitor ∈ noVar.visitors, visitor.1 = .entering node.kind ∧
    ∃ emission ∈ visitor.2 node ctx, emission.fixes ≠ []

instance (ctx : Context) (node : Node) : Decidable (OffersLet ctx node) :=
  inferInstanceAs (Decidable (∃ visitor ∈ noVar.visitors, visitor.1 = .entering node.kind ∧
    ∃ emission ∈ visitor.2 node ctx, emission.fixes ≠ []))

/-! ## What the rule asks for -/

theorem reportVar_fixable {ctx : Context} {node : Node} {keyword : Option Node}
    (h : (reportVar ctx node keyword).fixes ≠ []) :
    ∃ token, keyword = some token ∧ canUseLet ctx node = .ok true := by
  have unfixed : ∀ message, (ctx.report node message).fixes = [] := by
    intro message
    cases hreport : ctx.report node message with
    | failed failure => rfl
    | finding finding => exact (Context.fixes_of_report hreport).2.1
  unfold reportVar at h
  cases keyword with
  | none => exact absurd (unfixed _) h
  | some token =>
    simp only at h
    split at h
    · exact absurd rfl h
    · exact absurd (unfixed _) h
    · next hlet => exact ⟨token, rfl, hlet⟩

theorem OffersLet.isVar {ctx : Context} {node : Node} (h : OffersLet ctx node) :
    ∃ keyword, IsVar node keyword ∧ canUseLet ctx node = .ok true := by
  obtain ⟨visitor, hvisitor, htrigger, emission, hemission, hfixes⟩ := h
  simp only [noVar, List.mem_cons, List.not_mem_nil, or_false] at hvisitor
  rcases hvisitor with rfl | rfl
  · have hkind : node.kind = "variable_declaration" := by
      simp only [Trigger.entering, Trigger.mk.injEq, Option.some.injEq, and_true] at htrigger
      exact htrigger.symm
    obtain rfl := List.mem_singleton.1 hemission
    obtain ⟨keyword, hkeyword, hlet⟩ := reportVar_fixable hfixes
    refine ⟨keyword, ⟨.inl hkind, ?_, ?_⟩, hlet⟩
    · rw [varKeyword?, if_neg (by rw [hkind]; decide)]
      exact hkeyword
    · have hfound := List.find?_some hkeyword
      exact of_decide_eq_true hfound
  · have hkind : node.kind = "for_in_statement" := by
      simp only [Trigger.entering, Trigger.mk.injEq, Option.some.injEq, and_true] at htrigger
      exact htrigger.symm
    change emission ∈ checkLoopVar node ctx at hemission
    unfold checkLoopVar at hemission
    split at hemission
    · next keyword hkeyword =>
      split at hemission
      · next hvar =>
        obtain rfl := List.mem_singleton.1 hemission
        obtain ⟨_, -, hlet⟩ := reportVar_fixable hfixes
        refine ⟨keyword, ⟨.inr hkind, ?_, hvar⟩, hlet⟩
        rw [varKeyword?, if_pos hkind]
        exact hkeyword
      · cases hemission
    · cases hemission

theorem canUseLet_eq_ok {ctx : Context} {node : Node} (h : canUseLet ctx node = .ok true) :
    placeAllows node = true ∧
      ∃ identifiers, plainBindings? node = some identifiers ∧ allAllow ctx node identifiers = .ok true := by
  unfold canUseLet at h
  split at h
  · next hplace =>
    refine ⟨hplace, ?_⟩
    split at h
    · cases h
    · next identifiers hbindings => exact ⟨identifiers, hbindings, h⟩
  · cases h

theorem allAllow_eq_ok {ctx : Context} {node : Node} : ∀ {identifiers : List Node},
    allAllow ctx node identifiers = .ok true → ∀ identifier ∈ identifiers,
      identifierAllows ctx node identifier = .ok true
  | [], _, _, h => by cases h
  | first :: rest, h, identifier, hmem => by
    unfold allAllow at h
    split at h
    · next hfirst =>
      rcases List.mem_cons.1 hmem with rfl | hmem
      · exact hfirst
      · exact allAllow_eq_ok h identifier hmem
    · next hother => exact absurd h hother

/-- The variable of an identifier that may be bound by `let` is declared once, and all its uses allow it. -/
theorem identifierAllows_eq_ok {ctx : Context} {node identifier : Node}
    (h : identifierAllows ctx node identifier = .ok true) :
    ∃ table v, ctx.scopes = .ok table ∧ table.variableOf? ctx.source identifier = some v ∧
      v.redeclared = false ∧ ∀ use ∈ v.references, useAllows node identifier use.identifier = true := by
  unfold identifierAllows at h
  split at h
  · cases h
  · split at h
    · cases h
    · next table hscopes =>
      split at h
      · cases h
      · next v hv =>
        refine ⟨table, v, hscopes, hv, ?_⟩
        have hall := Except.ok.inj h
        simp only [Bool.and_eq_true, Bool.not_eq_true', List.all_eq_true] at hall
        exact hall.1

/-! ## Plain identifiers -/

/-- An identifier that is bound as it is: the target of a declarator or of a loop head. -/
inductive Plain (node identifier : Node) : Prop where
  | declarator {declarator : Node} (statement : node.kind = "variable_declaration")
      (parent : identifier.parent? = some declarator) (kind : declarator.kind = "variable_declarator")
      (inside : declarator.parent? = some node)
  | head (loop : node.kind = "for_in_statement") (parent : identifier.parent? = some node)

theorem plainNames?_eq_some : ∀ {declarators names : List Node}, plainNames? declarators = some names →
    (declarators.flatMap fun declarator => targetsOf (declarator.childByField? "name")) = names ∧
      ∀ name ∈ names, ∃ declarator ∈ declarators, name.parent? = some declarator
  | [], names, h => by
    cases h
    exact ⟨rfl, fun _ hname => nomatch hname⟩
  | declarator :: rest, names, h => by
    unfold plainNames? at h
    split at h
    · cases h
    · next name hname =>
      split at h
      · next hkind =>
        obtain ⟨later, hlater, rfl⟩ := Option.map_eq_some_iff.1 h
        obtain ⟨htargets, hparents⟩ := plainNames?_eq_some hlater
        refine ⟨?_, fun other hother => ?_⟩
        · rw [List.flatMap_cons, htargets, hname]
          exact congrArg (· ++ later) (bindings_of_identifier hkind)
        · rcases List.mem_cons.1 hother with rfl | hother
          · exact ⟨declarator, List.mem_cons_self, Node.parent?_of_childByField? hname⟩
          · obtain ⟨owner, howner, hparent⟩ := hparents other hother
            exact ⟨owner, List.mem_cons_of_mem _ howner, hparent⟩
      · cases h

/-- Where the rule finds plain identifiers, they are all that the declaration declares. -/
theorem plainBindings?_eq_some {node keyword : Node} (hvar : IsVar node keyword) {identifiers : List Node}
    (h : plainBindings? node = some identifiers) :
    identifiers = boundBy node ∧ identifiers ≠ [] ∧ ∀ identifier ∈ identifiers, Plain node identifier := by
  unfold plainBindings? at h
  unfold boundBy
  split at h
  · next hkind =>
    rw [if_pos hkind]
    obtain ⟨identifier, hfilter, rfl⟩ := Option.map_eq_some_iff.1 h
    obtain ⟨hfield, hplain⟩ := Option.filter_eq_some_iff.1 hfilter
    refine ⟨?_, by simp, fun other hother => ?_⟩
    · rw [hfield]
      exact (bindings_of_identifier (of_decide_eq_true hplain)).symm
    · obtain rfl := List.mem_singleton.1 hother
      exact .head hkind (Node.parent?_of_childByField? hfield)
  · next hkind =>
    rw [if_neg hkind]
    obtain ⟨hnames, hsome⟩ := Option.filter_eq_some_iff.1 h
    obtain ⟨htargets, hparents⟩ := plainNames?_eq_some hnames
    refine ⟨htargets.symm, by simpa using hsome, fun identifier hidentifier => ?_⟩
    obtain ⟨declarator, hdeclarator, hparent⟩ := hparents identifier hidentifier
    obtain ⟨hnamed, hdeclaratorKind⟩ := List.mem_filter.1 hdeclarator
    have hchild := Node.mem_children_of_mem_namedChildren hnamed
    exact .declarator (hvar.kind.resolve_right hkind) hparent (of_decide_eq_true hdeclaratorKind)
      (Node.parent?_of_mem_children hchild)

/-- **A plain identifier is declared in the function around its declaration**, whichever node
declares it. -/
theorem scope_of_plain {node keyword identifier owner : Node} (hvar : IsVar node keyword)
    (hplain : Plain node identifier) {here : List Declaration} (h : declarationsAt owner = .ok here)
    {declaration : Declaration} (hmem : declaration ∈ here) (hsame : declaration.identifier = identifier) :
    declaration.scope = functionScope node := by
  have own : owner = node → declaration.scope = functionScope node := by
    rintro rfl
    rw [declarationsAt_of_isVar hvar] at h
    obtain rfl := Except.ok.inj h
    exact (mem_declareAll.1 hmem).2.2
  obtain ⟨-, parent, hparent, hstands⟩ := placed_of_mem_declarationsAt h hmem
  rw [hsame] at hparent
  cases hplain with
  | declarator statement hdeclarator kind inside =>
    obtain rfl := Option.some.inj (hparent.symm.trans hdeclarator)
    cases hstands with
    | pattern hpattern =>
      rw [kind] at hpattern
      exact absurd hpattern (by decide)
    | declarator _ howner _ => exact own (Option.some.inj (howner.symm.trans inside))
    | parameter howner function _ =>
      obtain rfl := Option.some.inj (howner.symm.trans inside)
      rw [statement] at function
      exact absurd function (by decide)
    | child same other _ => exact absurd (same ▸ kind) other
  | head loop hhead =>
    obtain rfl := Option.some.inj (hparent.symm.trans hhead)
    cases hstands with
    | pattern hpattern =>
      rw [loop] at hpattern
      exact absurd hpattern (by decide)
    | declarator kind _ _ =>
      rw [loop] at kind
      exact absurd kind (by decide)
    | parameter howner function scope =>
      -- The loop would be the parameter list of a function, which then is the function around it.
      rw [scope, functionScope, Node.enclosing_of_parent? howner, if_pos (List.contains_iff_mem.2 function)]
    | child same _ _ => exact own same.symm

/-! ## One declaration for each name -/

/-- The variable of an identifier is the one under its name in the scope of its last declaration. -/
theorem variableOf?_eq_some {source : Source} {table : Table} {identifier : Node} {v : Variable}
    (hdeclared : ∃ declaration ∈ table.declarations, declaration.identifier.id = identifier.id)
    (h : table.variableOf? source identifier = some v) :
    v ∈ table.vars ∧ ∃ declaration ∈ table.declarations, declaration.identifier.id = identifier.id ∧
      v.key = (declaration.scope.id, source.textOf identifier) := by
  unfold Table.variableOf? Table.indexOf? at h
  split at h
  · next declaration hfind =>
    obtain ⟨index, hindex, hv⟩ := Option.bind_eq_some_iff.1 h
    have hmem : declaration ∈ table.declarations := List.mem_reverse.1 (List.mem_of_find?_eq_some hfind)
    obtain ⟨hlength, hat, -⟩ := List.findIdx?_eq_some_iff_getElem.1 hindex
    rw [List.getElem?_eq_getElem hlength, Option.some.injEq] at hv
    subst hv
    have hid := List.find?_some hfind
    exact ⟨List.getElem_mem hlength, declaration, hmem, of_decide_eq_true hid, Variable.isAt_iff.1 hat⟩
  · next hnone =>
    obtain ⟨declaration, hmem, hid⟩ := hdeclared
    have hother := List.find?_eq_none.1 hnone declaration (List.mem_reverse.2 hmem)
    exact absurd (decide_eq_true hid) hother

section Offered

variable {source : Source} {node keyword : Node} {table : Table}

/-- Every declaration of a plain identifier in the file is in the function around it. -/
theorem scope_of_mem_declarations (distinct : source.tree.ids.Nodup) (hvar : IsVar node keyword)
    (describes : table.Describes source) {identifier : Node} (hplain : Plain node identifier)
    (hidentifier : identifier ∈ source.root.walk) {declaration : Declaration}
    (hmem : declaration ∈ table.declarations) (hid : declaration.identifier.id = identifier.id) :
    declaration.identifier = identifier ∧ declaration.scope = functionScope node := by
  obtain ⟨owner, howner, here, hhere, hdeclaration⟩ :=
    exists_of_mem_declarationsIn describes.collected declaration hmem
  have hwalk := Node.walk_subset howner _ (placed_of_mem_declarationsAt hhere hdeclaration).1
  have hsame : declaration.identifier = identifier := Node.eq_of_same_id distinct hwalk hidentifier hid
  exact ⟨hsame, scope_of_plain hvar hplain hhere hdeclaration hsame⟩

/-- **Where the fix is offered, analysis has a table, the declaration binds plain identifiers, and
each of them is the one declaration of its name in the function around.** -/
theorem OffersLet.bound {severity : Severity} {options : RuleOptions} (distinct : source.tree.ids.Nodup)
    (hnode : node ∈ source.root.walk)
    (h : OffersLet (Dispatch.contextFor source (analyze source) ⟨noVar, severity, options⟩) node) :
    ∃ keyword table, IsVar node keyword ∧ analyze source = .ok table ∧
      ∀ identifier ∈ boundBy node, identifier ∈ source.root.walk ∧ Plain node identifier ∧
        (boundIds (table.declarations.map (Declaration.binding source)) (functionScope node).id
          (source.textOf identifier)).length ≤ 1 := by
  obtain ⟨keyword, hvar, hlet⟩ := h.isVar
  obtain ⟨-, identifiers, hbindings, hall⟩ := canUseLet_eq_ok hlet
  obtain ⟨rfl, hsome, hplain⟩ := plainBindings?_eq_some hvar hbindings
  obtain ⟨first, hfirst⟩ := List.exists_mem_of_ne_nil _ hsome
  obtain ⟨table, -, htable, -⟩ := identifierAllows_eq_ok (allAllow_eq_ok hall first hfirst)
  have describes := describes_of_analyze htable
  refine ⟨keyword, table, hvar, htable, fun identifier hidentifier => ?_⟩
  have here := declarationsAt_of_isVar hvar
  have hmem : (⟨identifier, "var", functionScope node⟩ : Declaration) ∈
      declareAll (boundBy node) "var" (functionScope node) := mem_declareAll.2 ⟨hidentifier, rfl, rfl⟩
  have hwalk := Node.walk_subset hnode _ (placed_of_mem_declarationsAt here hmem).1
  refine ⟨hwalk, hplain identifier hidentifier, ?_⟩
  obtain ⟨other, v, hother, hv, hredeclared, -⟩ := identifierAllows_eq_ok (allAllow_eq_ok hall identifier hidentifier)
  obtain rfl := Except.ok.inj (htable.symm.trans hother)
  have hv : table.variableOf? source identifier = some v := hv
  have declared : ∃ declaration ∈ table.declarations, declaration.identifier.id = identifier.id :=
    ⟨_, mem_declarationsIn describes.collected hnode here _ hmem, rfl⟩
  obtain ⟨hvars, declaration, hdeclaration, hid, hkey⟩ := variableOf?_eq_some declared hv
  obtain ⟨-, hscope⟩ := scope_of_mem_declarations distinct hvar describes (hplain identifier hidentifier) hwalk
    hdeclaration hid
  rw [hscope] at hkey
  obtain ⟨hvscope, hvname⟩ := Prod.mk.inj hkey
  have hidentifiers := describes.identifiers v hvars
  rw [hvscope, hvname] at hidentifiers
  rw [boundIds_map_binding, List.length_map, ← hidentifiers]
  exact Nat.le_of_not_lt (of_decide_eq_false hredeclared)

end Offered

end Rules

end ScriptLint
