/-
What `let` does to the names of its own declaration.

The rule looks for the block of a declaration by itself and compares ranges,
while names are looked up along the scopes around them. In a regular file both
come to the same: the region that the rule takes is the scope that `let` declares
in (`letRegion_eq_letScope`), and what lies in its range lies in it. So every use
of the variable finds the new place, and finds it first (`rescoped_letRewrite`).
-/
import ScriptLint.Proofs.Rules.Capture
import ScriptLint.Proofs.Scope.Invariant
import ScriptLint.Proofs.Tree.Nesting

namespace ScriptLint

/-- A file with a tree as parsers make them: ranges are nested, names are leaves with a range of their
own, the program is outermost and exports stand directly in it. -/
structure Source.Regular (source : Source) : Prop where
  nested : source.Nested
  names : ∀ node ∈ source.root.walk, node.kind ∈ Scope.referenceKinds → node.isLeaf = true ∧ node.start < node.stop
  programs : ∀ node ∈ source.root.walk, node.kind = "program" → node.parent?.isNone = true
  exports : ∀ node ∈ source.root.walk, node.kind = "export_statement" →
    (node.parent?.bind Node.parent?).isNone = true

theorem Source.regular_iff {source : Source} : source.Regular ↔ source.Nested ∧
    (∀ node ∈ source.root.walk, node.kind ∈ Scope.referenceKinds → node.isLeaf = true ∧ node.start < node.stop) ∧
    (∀ node ∈ source.root.walk, node.kind = "program" → node.parent?.isNone = true) ∧
    ∀ node ∈ source.root.walk, node.kind = "export_statement" → (node.parent?.bind Node.parent?).isNone = true :=
  ⟨fun h => ⟨h.nested, h.names, h.programs, h.exports⟩,
    fun ⟨nested, names, programs, exports⟩ => ⟨nested, names, programs, exports⟩⟩

instance (source : Source) : Decidable source.Regular := decidable_of_iff' _ Source.regular_iff

/-- Below an outermost node nothing else can be found. -/
theorem Node.enclosing_of_outermost {node parent : Node} (h : node.parent? = some parent)
    (houter : parent.parent? = none) (kinds : List String) : node.enclosing kinds = parent := by
  rw [Node.enclosing_of_parent? h, Node.enclosing_of_parent?_eq_none houter, ite_self]

namespace Scope

/-! ## Where a table has a node -/

section Lookup

variable {source : Source} {table : Table}

theorem mem_identifiers (describes : table.Describes source) {v : Variable} (hv : v ∈ table.vars) {identifier : Node}
    (h : identifier ∈ v.identifiers) : ∃ declaration ∈ table.declarations, declaration.identifier = identifier ∧
      v.key = (declaration.scope.id, source.textOf identifier) := by
  rw [describes.identifiers v hv] at h
  obtain ⟨declaration, hmem, rfl⟩ := List.mem_map.1 h
  obtain ⟨hdeclaration, hat⟩ := List.mem_filter.1 hmem
  obtain ⟨hscope, hname⟩ := Declaration.isAt_iff.1 hat
  exact ⟨declaration, hdeclaration, rfl, Prod.ext hscope.symm hname.symm⟩

variable (distinct : source.tree.ids.Nodup) (describes : table.Describes source)

include distinct describes

/-- A use stands for the variable that holds it. -/
theorem variableOf?_of_mem_references {v : Variable} (hv : v ∈ table.vars) {use : Reference}
    (huse : use ∈ v.references) : table.variableOf? source use.identifier = some v := by
  have huses : use ∈ table.uses := List.mem_append_left _ (List.mem_flatMap.2 ⟨v, hv, huse⟩)
  have hisUse := ((describes.resolves distinct).only use huses).1
  have holds : ∀ {u}, u ∈ table.vars → ∀ other ∈ u.references,
      other ∈ usesIn source table.declarations ∧
        scopeFor? source table.declarations other.identifier other.name = some u.scope.id ∧ u.name = other.name := by
    intro u hu other hother
    rw [describes.references u hu] at hother
    exact ⟨(List.mem_filter.1 hother).1, of_decide_eq_true (List.mem_filter.1 hother).2⟩
  obtain ⟨huse', hscope, hname⟩ := holds hv use huse
  -- A use has one scope and one name, so no other variable holds it.
  have unique : ∀ u ∈ table.vars, (u.references.any fun other => other.identifier.id = use.identifier.id) = true →
      u = v := by
    intro u hu hany
    obtain ⟨other, hother, hid⟩ := List.any_eq_true.1 hany
    obtain ⟨hother', hscope', hname'⟩ := holds hu other hother
    obtain rfl := use_eq_of_same_id distinct hother' huse' (of_decide_eq_true hid)
    have hkey : u.key = v.key := Prod.ext (Option.some.inj (hscope'.symm.trans hscope)) (hname'.trans hname.symm)
    exact List.inj_on_of_nodup_map describes.distinct hu hv hkey
  rw [variableOf?_of_use describes distinct hisUse]
  cases hfind : table.vars.find? fun u => u.references.any (·.identifier.id = use.identifier.id) with
  | none =>
    have hnone := List.find?_eq_none.1 hfind v hv
    exact absurd (List.any_eq_true.2 ⟨use, huse, decide_eq_true rfl⟩) hnone
  | some u =>
    have hany : (u.references.any fun other => other.identifier.id = use.identifier.id) = true := by
      simpa using List.find?_some hfind
    rw [unique u (List.mem_of_find?_eq_some hfind) hany]

/-- A declared identifier stands for its variable, if it is declared in one scope only. -/
theorem variableOf?_of_mem_identifiers {v : Variable} (hv : v ∈ table.vars) {identifier : Node}
    (h : identifier ∈ v.identifiers)
    (only : ∀ u ∈ table.vars, identifier ∈ u.identifiers → u.scope.id = v.scope.id) :
    table.variableOf? source identifier = some v := by
  obtain ⟨declaration, hdeclaration, rfl, hkey⟩ := mem_identifiers describes hv h
  obtain ⟨u, hu, hvariable, hmem⟩ := exists_variableOf?_of_declared distinct describes hdeclaration
  obtain ⟨_, -, -, hkey'⟩ := mem_identifiers describes hu hmem
  have hname : u.name = v.name := (Prod.mk.inj hkey').2.trans (Prod.mk.inj hkey).2.symm
  have hsame : u.key = v.key := Prod.ext (only u hu hmem) hname
  rw [hvariable, List.inj_on_of_nodup_map describes.distinct hu hv hsame]

end Lookup

/-- The numbers of a file stay when kinds change. -/
theorem LetRewrite.nodup_ids {before after : Source} {node : Node} (h : LetRewrite before after node)
    (distinct : before.tree.ids.Nodup) : after.tree.ids.Nodup := by
  obtain ⟨keyword, -, htree⟩ := h.tree
  have hwalk : (Node.root after.tree).walk =
      (Node.root before.tree).walk.map (Node.rekind (letKinds node.id keyword.id)) := by
    rw [htree]
    exact Node.walk_rekind _ (Node.root before.tree)
  have hids : (Node.root after.tree).tree.ids = (Node.root before.tree).tree.ids := by
    rw [← Node.ids_walk, ← Node.ids_walk, hwalk, List.map_map]
    exact List.map_congr_left fun inner _ => Node.id_rekind _ inner
  exact hids ▸ distinct

namespace Rewritten

variable {before after : Source} {node : Node} {f : Rekinding} {table table' : Table}
  (rewritten : Rewritten before after node f table table')

include rewritten

/-- Afterwards an identifier of the declaration is bound in the scope of `let` only. -/
theorem eq_letScope_of_mem_boundIds {identifier : Node} (h : identifier ∈ boundBy node) {scope : Nat} {name : String}
    (hmem : identifier.id ∈ boundIds (table'.bindings after) scope name) : scope = (letScope node).id := by
  have hhome := rewritten.mem_boundIds_functionScope h
  have single := rewritten.single identifier h
  obtain ⟨first, last, hold, hnew⟩ := rewritten.moved
  rw [hnew, boundIds_append, boundIds_append, List.mem_append, List.mem_append, or_right_comm] at hmem
  rcases hmem with hother | hown
  · -- It would be declared twice in the file before.
    have hbefore : identifier.id ∈ boundIds (table.bindings before) scope name := by
      rw [hold, boundIds_append, boundIds_append, List.mem_append, List.mem_append, or_right_comm]
      exact .inl hother
    obtain rfl := rewritten.eq_functionScope_of_mem_boundIds h hbefore
    obtain ⟨declaration, hdeclaration, hsame⟩ := List.mem_map.1 (mem_boundIds.1 hbefore)
    obtain ⟨declaration', hdeclaration', hsame'⟩ := List.mem_map.1 (mem_boundIds.1 hhome)
    obtain ⟨hid, -, rfl⟩ := Binding.mk.inj hsame
    obtain ⟨hid', -, hname⟩ := Binding.mk.inj hsame'
    have hnode : declaration.identifier = declaration'.identifier :=
      Node.eq_of_same_id rewritten.distinct (mem_walk_of_mem_declarations rewritten.describes.collected hdeclaration).1
        (mem_walk_of_mem_declarations rewritten.describes.collected hdeclaration').1 (hid.trans hid'.symm)
    rw [hnode, hname] at hother
    rw [hold, boundIds_append, boundIds_append, List.length_append, List.length_append] at single
    have hone : 0 < (boundIds (bindAll before (boundBy node) (functionScope node).id) (functionScope node).id
        (before.textOf identifier)).length := List.length_pos_of_mem (mem_boundIds_bindAll h _)
    rcases hother with hother | hother
    · have := List.length_pos_of_mem hother
      omega
    · have := List.length_pos_of_mem hother
      omega
  · obtain ⟨_, -, hsame⟩ := List.mem_map.1 (mem_boundIds.1 hown)
    exact (Binding.mk.inj hsame).2.1.symm

/-- Its variable belongs to the function before. -/
theorem scope_of_mem_identifiers {identifier : Node} (h : identifier ∈ boundBy node) {v : Variable}
    (hv : v ∈ table.vars) (hmem : identifier ∈ v.identifiers) : v.scope.id = (functionScope node).id := by
  have hids : identifier.id ∈ boundIds (table.bindings before) v.scope.id v.name := by
    rw [← ids_identifiers rewritten.describes hv]
    exact List.mem_map_of_mem hmem
  exact rewritten.eq_functionScope_of_mem_boundIds h hids

/-- And to the scope of `let` afterwards. -/
theorem scope_of_id_mem_identifiers {identifier : Node} (h : identifier ∈ boundBy node) {w : Variable}
    (hw : w ∈ table'.vars) (hmem : identifier.id ∈ w.identifiers.map Node.id) : w.scope.id = (letScope node).id := by
  rw [ids_identifiers rewritten.describes' hw] at hmem
  exact rewritten.eq_letScope_of_mem_boundIds h hmem

/-- A use inside the scope of `let` finds the new place: this place is around the use, and the old one is
the new one or around that. -/
theorem exists_of_inside {identifier : Node} (h : identifier ∈ boundBy node) {v : Variable} (hv : v ∈ table.vars)
    (hmem : identifier ∈ v.identifiers) {use : Reference} (huse : use ∈ v.references)
    (hinside : letScope node ∈ use.identifier.ancestors) :
    ∃ w ∈ table'.vars, w.scope.id = (letScope node).id ∧ identifier.id ∈ w.identifiers.map Node.id ∧
      use.identifier.id ∈ w.references.map (·.identifier.id) := by
  obtain ⟨_, -, -, hkey⟩ := mem_identifiers rewritten.describes hv hmem
  have hname : v.name = before.textOf identifier := (Prod.mk.inj hkey).2
  obtain ⟨huseIn, huseName, hfind⟩ := find?_of_mem_references rewritten.describes hv huse
  rw [hname, rewritten.scope_of_mem_identifiers h hv hmem] at hfind
  have hfound := find?_moved_captured (rewritten.moves h) (rewritten.nodup_scopes huseIn)
    (rewritten.follows_letScope huseIn) hfind (List.mem_map_of_mem hinside) (functionScope_id_mem node)
  rw [← hname, huseName] at hfound
  obtain ⟨w, hw, hwkey, hreference, hids⟩ := rewritten.exists_of_find? huseIn hfound
  refine ⟨w, hw, (Prod.mk.inj hwkey).1, ?_, hreference⟩
  rw [hids, ← huseName, hname]
  exact rewritten.mem_boundIds_letScope h

/-- Afterwards the identifier, and each use of its variable, stands for this variable. -/
theorem variableOf?_of_same_id (distinct' : after.tree.ids.Nodup) {identifier : Node} (h : identifier ∈ boundBy node)
    {w : Variable} (hw : w ∈ table'.vars) (hmem : identifier.id ∈ w.identifiers.map Node.id) {inner : Node}
    (hinner : inner ∈ after.root.walk)
    (hid : inner.id = identifier.id ∨ inner.id ∈ w.references.map (·.identifier.id)) :
    table'.variableOf? after inner = some w := by
  have describes' := rewritten.describes'
  rcases hid with hid | hid
  · obtain ⟨declared, hdeclared, hsame⟩ := List.mem_map.1 hmem
    obtain ⟨declaration, hdeclaration, rfl, -⟩ := mem_identifiers describes' hw hdeclared
    rw [Node.eq_of_same_id distinct' hinner (mem_walk_of_mem_declarations describes'.collected hdeclaration).1
      (hid.trans hsame.symm)]
    refine variableOf?_of_mem_identifiers distinct' describes' hw hdeclared fun u hu hmem' => ?_
    rw [rewritten.scope_of_id_mem_identifiers h hw hmem]
    exact rewritten.scope_of_id_mem_identifiers h hu (hsame ▸ List.mem_map_of_mem hmem')
  · obtain ⟨reference, hreference, hsame⟩ := List.mem_map.1 hid
    have hwalk := (mem_referencesIn_iff.1 (find?_of_mem_references describes' hw hreference).1).1
    rw [Node.eq_of_same_id distinct' hinner hwalk hsame.symm]
    exact variableOf?_of_mem_references distinct' describes' hw hreference

end Rewritten

end Scope

namespace Rules

open Scope

/-! ## The region that the rule takes -/

/-- **The region that the rule takes is the scope of `let`.** -/
theorem letRegion_eq_letScope {source : Source} (regular : source.Regular) {node keyword : Node}
    (hnode : node ∈ source.root.walk) (hvar : IsVar node keyword) (hplace : placeAllows node = true) :
    letRegion node = letScope node := by
  unfold letRegion letScope
  split
  · rfl
  · next hkind =>
    have hstatement := hvar.kind.resolve_right hkind
    unfold placeAllows at hplace
    cases hparent : node.parent? with
    | none => simp [hparent] at hplace
    | some parent =>
      have hwalk : parent ∈ source.root.walk := by
        refine Node.ancestors_subset_walk node hnode parent ?_
        rw [Node.ancestors_of_parent? hparent]
        exact List.mem_cons_self
      simp only [hparent, hstatement, ne_eq, not_true_eq_false, decide_false, Bool.false_or, Bool.and_eq_true,
        Bool.or_eq_true] at hplace
      simp only
      by_cases hinitializer : isForInitializer node = true
      · have hfor : parent.kind = "for_statement" := by
          simp only [isForInitializer, hparent, Option.any_some, Bool.and_eq_true, decide_eq_true_eq] at hinitializer
          exact hinitializer.1
        rw [if_pos hinitializer, blockScope, Node.enclosing_of_parent? hparent, hfor, if_pos (by decide)]
      · rw [if_neg hinitializer, blockScope]
        have hlist := hplace.2.resolve_right hinitializer
        simp only [statementListKinds, List.contains_eq_mem, List.mem_cons, List.not_mem_nil, or_false,
          decide_eq_true_eq] at hlist
        rcases hlist with hprogram | hblock | hexport
        · have houter := Option.isNone_iff_eq_none.1 (regular.programs parent hwalk hprogram)
          rw [Node.enclosing_of_outermost hparent houter, Node.enclosing_of_outermost hparent houter]
        · rw [Node.enclosing_of_parent? hparent, Node.enclosing_of_parent? hparent, hblock, if_pos (by decide),
            if_pos (by decide)]
        · have houter := Option.isNone_iff_eq_none.1 (regular.exports parent hwalk hexport)
          rw [Node.enclosing_of_parent? hparent, Node.enclosing_of_parent? hparent, hexport, if_neg (by decide),
            if_neg (by decide)]
          cases hroot : parent.parent? with
          | none => rw [Node.enclosing_of_parent?_eq_none hroot, Node.enclosing_of_parent?_eq_none hroot]
          | some root =>
            rw [hroot, Option.bind_some] at houter
            rw [Node.enclosing_of_outermost hroot houter, Node.enclosing_of_outermost hroot houter]

/-- The scope of `let` has the declaration in it, so it is no leaf. -/
theorem isLeaf_letScope {tree : Tree} {node keyword : Node} (hnode : node ∈ (Node.root tree).walk)
    (hvar : IsVar node keyword) : (letScope node).isLeaf = false := by
  have hinner := Node.isLeaf_of_mem_children hvar.mem_children
  have hscope : letScope node ∈ node :: node.ancestors := by
    unfold letScope
    split
    · exact List.mem_cons_self
    · exact Node.enclosing_mem _ node
  rcases List.mem_cons.1 hscope with hself | hancestor
  · rw [hself]
    exact hinner
  · exact Node.isLeaf_of_mem_ancestors node hnode _ hancestor

/-! ## Uses of the names -/

/-- The end of a declarator, or of what a loop goes through, before which its name has no value. -/
inductive BoundBefore (node identifier : Node) (offset : Nat) : Prop where
  | declarator {declarator : Node} (statement : node.kind = "variable_declaration")
      (parent : identifier.parent? = some declarator) (kind : declarator.kind = "variable_declarator")
      (inside : declarator.parent? = some node) (before : declarator.stop ≤ offset)
  | head (loop : node.kind = "for_in_statement")
      (before : ∀ right, node.childByField? "right" = some right → right.stop ≤ offset)

theorem boundBefore_of_plain {node identifier : Node} (h : Plain node identifier) {offset : Nat}
    (hstart : bindingStart node identifier ≤ offset) : BoundBefore node identifier offset := by
  unfold bindingStart at hstart
  cases h with
  | declarator statement parent kind inside =>
    rw [if_neg (by rw [statement]; decide), parent] at hstart
    exact .declarator statement parent kind inside hstart
  | head loop parent =>
    refine .head loop fun right hright => ?_
    rw [if_pos loop, hright] at hstart
    exact hstart

/-- A use that has come to the variable of `let`: it belongs to the variable that the identifier declares in
the scope of `let`, stands in this scope, and comes after the binding. -/
structure Rescoped (after : Source) (table : Table) (node identifier : Node) (use : Reference) : Prop where
  resolved : ∃ v ∈ table.vars, v.scope.id = (letScope node).id ∧ identifier.id ∈ v.identifiers.map Node.id ∧
    use.identifier.id ∈ v.references.map (·.identifier.id) ∧
    ∀ inner ∈ after.root.walk, inner.id = identifier.id ∨ inner.id = use.identifier.id →
      table.variableOf? after inner = some v
  inside : letScope node ∈ use.identifier.ancestors
  bound : BoundBefore node identifier use.identifier.start

/-- What the rule has asked of the place of a declaration, and of every use of its names. -/
theorem OffersLet.allows {source : Source} {severity : Severity} {options : RuleOptions} {node : Node} {table : Table}
    (h : OffersLet (Dispatch.contextFor source (analyze source) ⟨noVar, severity, options⟩) node)
    (htable : analyze source = .ok table) : placeAllows node = true ∧ ∀ identifier ∈ boundBy node,
      ∃ v, table.variableOf? source identifier = some v ∧
        ∀ use ∈ v.references, useAllows node identifier use.identifier = true := by
  obtain ⟨keyword, hvar, hlet⟩ := h.isVar
  obtain ⟨hplace, identifiers, hbindings, hall⟩ := canUseLet_eq_ok hlet
  obtain ⟨rfl, -, -⟩ := plainBindings?_eq_some hvar hbindings
  refine ⟨hplace, fun identifier hidentifier => ?_⟩
  obtain ⟨other, v, hother, hv, -, hallows⟩ := identifierAllows_eq_ok (allAllow_eq_ok hall identifier hidentifier)
  obtain rfl := Except.ok.inj (htable.symm.trans hother)
  exact ⟨v, hv, hallows⟩

/-- A use that the rule allows stands in the scope of `let`, after the binding. -/
theorem inside_of_useAllows {source : Source} (regular : source.Regular) {node keyword : Node}
    (hnode : node ∈ source.root.walk) (hvar : IsVar node keyword) (hplace : placeAllows node = true)
    {use : Reference} {declarations : List Declaration} (huse : use ∈ usesIn source declarations) {identifier : Node}
    (h : useAllows node identifier use.identifier = true) :
    letScope node ∈ use.identifier.ancestors ∧ bindingStart node identifier ≤ use.identifier.start := by
  rw [useAllows, letRegion_eq_letScope regular hnode hvar hplace, Bool.and_eq_true, Bool.and_eq_true,
    decide_eq_true_eq] at h
  obtain ⟨⟨hcovers, hstart⟩, -⟩ := h
  obtain ⟨hwalk, -, hkind, -⟩ := mem_referencesIn_iff.1 huse
  obtain ⟨hleaf, hsome⟩ := regular.names _ hwalk hkind
  exact ⟨Node.mem_ancestors_of_covers regular.nested (letScope_mem_walk hnode) hwalk (isLeaf_letScope hnode hvar) hleaf
    hsome hcovers, hstart⟩

/-- **No use is lost to `let`.** Where the fix is offered in a regular file, in the file with `let` every use
of a variable of the declaration belongs to the variable that the same identifier declares in the scope of
`let`, and it stands in this scope and after the binding. -/
theorem rescoped_letRewrite (path : Path) (bytes : Bytes) (parsed : ParseTree) (severity : Severity)
    (options : RuleOptions) {node : Node} {after : Source}
    (regular : (Source.ofParsed path bytes parsed).Regular)
    (hnode : node ∈ (Source.ofParsed path bytes parsed).root.walk)
    (hoffer : OffersLet (Dispatch.contextFor (Source.ofParsed path bytes parsed)
      (analyze (Source.ofParsed path bytes parsed)) ⟨noVar, severity, options⟩) node)
    (hafter : LetRewrite (Source.ofParsed path bytes parsed) after node) :
    ∃ table table', analyze (Source.ofParsed path bytes parsed) = .ok table ∧ analyze after = .ok table' ∧
      ∀ identifier ∈ boundBy node, ∀ v ∈ table.vars, identifier ∈ v.identifiers → ∀ use ∈ v.references,
        Rescoped after table' node identifier use := by
  generalize hsource : Source.ofParsed path bytes parsed = source at *
  have distinct : source.tree.ids.Nodup := hsource ▸ Source.nodup_ids_ofParsed path bytes parsed
  obtain ⟨keyword, table, hvar, htable, hbound⟩ := hoffer.bound distinct hnode
  obtain ⟨table', htable', rewritten⟩ := exists_rewritten distinct hnode hvar htable hafter hbound
  obtain ⟨hplace, hallows⟩ := hoffer.allows htable
  refine ⟨table, table', htable, htable', fun identifier hidentifier v hv hmem use huse => ?_⟩
  have describes := rewritten.describes
  -- The variable that the rule has looked at is this one.
  obtain ⟨u, hu, huses⟩ := hallows identifier hidentifier
  have hvariable := variableOf?_of_mem_identifiers distinct describes hv hmem fun u hu hmem' =>
    (rewritten.scope_of_mem_identifiers hidentifier hu hmem').trans
      (rewritten.scope_of_mem_identifiers hidentifier hv hmem).symm
  obtain rfl := Option.some.inj (hu.symm.trans hvariable)
  have huseIn := (Rewritten.find?_of_mem_references describes hv huse).1
  obtain ⟨hinside, hstart⟩ := inside_of_useAllows regular hnode hvar hplace huseIn (huses use huse)
  obtain ⟨w, hw, hwscope, hdeclared, hreference⟩ := rewritten.exists_of_inside hidentifier hv hmem huse hinside
  refine ⟨⟨w, hw, hwscope, hdeclared, hreference, fun inner hinner hid => ?_⟩, hinside,
    boundBefore_of_plain (hbound identifier hidentifier).2.1 hstart⟩
  refine rewritten.variableOf?_of_same_id (hafter.nodup_ids distinct) hidentifier hw hdeclared hinner ?_
  exact hid.imp_right fun hsame => by rwa [hsame]

/-- In a plain block the call stays one of the variable. -/
theorem rescoped_blockSource :
    ∃ table table', analyze blockSource = .ok table ∧ analyze (letSource blockSource) = .ok table' ∧
      (∃ identifier ∈ boundBy (firstVar blockSource), ∃ v ∈ table.vars, ∃ use ∈ v.references,
        identifier.id ∈ v.identifiers.map Node.id ∧ use.identifier.start = 17) ∧
      ∀ identifier ∈ boundBy (firstVar blockSource), ∀ v ∈ table.vars, identifier ∈ v.identifiers →
        ∀ use ∈ v.references, Rescoped (letSource blockSource) table' (firstVar blockSource) identifier use := by
  obtain ⟨table, table', htable, htable', hrescoped⟩ := rescoped_letRewrite (.ofString "block.js") _ _ .warn .none
    (by decide +kernel) (firstVar_mem_walk blockSource) (by decide +kernel) (letRewrite_letSource (by decide +kernel))
  obtain rfl := Except.ok.inj (htable.symm.trans (analyze_eq_ok_tableOf (by decide +kernel)))
  exact ⟨tableOf blockSource, table', htable, htable', by decide +kernel, hrescoped⟩

end Rules

end ScriptLint
