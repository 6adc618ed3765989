/-
What `let` does to the names of other variables.

In the rewritten file the names of the declaration belong to an inner scope, so
a use of another variable with such a name is captured if it stands in that
scope and its own scope lies around (`Captures`); a use from outside the inner
scope loses its variable, and its name if no scope further out has it
(`Strands`). Where neither happens every other use keeps its variable and the
globals stay the same, and only there (`keepsResolution_iff`).
-/
import ScriptLint.Proofs.Rules.LetFix

namespace ScriptLint

namespace Scope

/-! ## What is to be kept -/

/-- From one table to another, uses of variables that none of some identifiers declares go to a
variable with the same declaring identifiers, and uses of globals stay such. -/
structure KeepsResolution (before after : Table) (identifiers : List Node) : Prop where
  resolved : ∀ v ∈ before.vars, (∀ identifier ∈ v.identifiers, identifier.id ∉ identifiers.map Node.id) →
    ∀ use ∈ v.references, ∃ w ∈ after.vars, use.identifier.id ∈ w.references.map (·.identifier.id) ∧
      w.identifiers.map Node.id = v.identifiers.map Node.id
  unresolved : ∀ id, id ∈ after.unresolved.map (·.identifier.id) ↔ id ∈ before.unresolved.map (·.identifier.id)

/-- Another variable of a name, declared in the scope of `let` or around it, is used in that scope. -/
def Captures (table : Table) (node : Node) (name : String) : Prop :=
  ∃ v ∈ table.vars, v.name = name ∧ v.scope.id ≠ (functionScope node).id ∧
    v.scope.id ∈ (letScope node :: (letScope node).ancestors).map Node.id ∧
    ∃ use ∈ v.references, (letScope node).id ∈ use.identifier.ancestors.map Node.id

/-- The variable itself is used outside the scope of `let`, and no scope around its own has the
name. -/
def Strands (table : Table) (node : Node) (name : String) : Prop :=
  (∃ v ∈ table.vars, v.name = name ∧ v.scope.id = (functionScope node).id ∧
    ∃ use ∈ v.references, (letScope node).id ∉ use.identifier.ancestors.map Node.id) ∧
  ∀ v ∈ table.vars, v.name = name → v.scope.id ∉ (functionScope node).ancestors.map Node.id

instance (table : Table) (node : Node) (name : String) : Decidable (Captures table node name) :=
  inferInstanceAs (Decidable (∃ v ∈ table.vars, v.name = name ∧ v.scope.id ≠ (functionScope node).id ∧
    v.scope.id ∈ (letScope node :: (letScope node).ancestors).map Node.id ∧
    ∃ use ∈ v.references, (letScope node).id ∈ use.identifier.ancestors.map Node.id))

instance (table : Table) (node : Node) (name : String) : Decidable (Strands table node name) :=
  inferInstanceAs (Decidable ((∃ v ∈ table.vars, v.name = name ∧ v.scope.id = (functionScope node).id ∧
    ∃ use ∈ v.references, (letScope node).id ∉ use.identifier.ancestors.map Node.id) ∧
    ∀ v ∈ table.vars, v.name = name → v.scope.id ∉ (functionScope node).ancestors.map Node.id))

/-! ## Uses -/

/-- A use is what the number of its identifier says. -/
theorem use_eq_of_same_id {source : Source} (distinct : source.tree.ids.Nodup) {declarations : List Declaration}
    {first second : Reference} (hfirst : first ∈ usesIn source declarations)
    (hsecond : second ∈ usesIn source declarations) (h : first.identifier.id = second.identifier.id) :
    first = second := by
  obtain ⟨hfirst, hfirstUse, -⟩ := mem_referencesIn_iff.1 hfirst
  obtain ⟨hsecond, hsecondUse, -⟩ := mem_referencesIn_iff.1 hsecond
  rw [hfirstUse, hsecondUse, Node.eq_of_same_id distinct hfirst hsecond h]

/-- The numbers of the scopes around a use, the innermost first. -/
def Reference.scopes (use : Reference) : List Nat := use.identifier.ancestors.map Node.id

/-- The bindings that a table was made from. -/
def Table.bindings (source : Source) (table : Table) : List Binding :=
  table.declarations.map (Declaration.binding source)

/-- The scopes after a scope in a chain are those around it. -/
theorem follows_ancestors {tree : Tree} (distinct : tree.ids.Nodup) {node scope : Node}
    (hnode : node ∈ (Node.root tree).walk) (hscope : scope ∈ (Node.root tree).walk) :
    Follows (node.ancestors.map Node.id) scope.id (scope.ancestors.map Node.id) := by
  intro before after h
  obtain ⟨first, rest, hsplit, -, hrest⟩ := List.map_eq_append_iff.1 h
  obtain ⟨ancestor, last, rfl, hid, rfl⟩ := List.map_eq_cons_iff.1 hrest
  have hmem : ancestor ∈ node.ancestors := by
    rw [hsplit]
    exact List.mem_append_right _ List.mem_cons_self
  obtain rfl := Node.eq_of_same_id distinct (Node.ancestors_subset_walk node hnode ancestor hmem) hscope hid
  rw [Node.ancestors_suffix hsplit]

/-! ## Both tables -/

/-- The binding at a place, an identifier in a scope. -/
def bindingAt (source : Source) (place : Node × Node) : Binding := ⟨place.1.id, place.2.id, source.textOf place.1⟩

theorem map_binding_eq (source : Source) (declarations : List Declaration) :
    declarations.map (Declaration.binding source) =
      (declarations.map Declaration.place).map (bindingAt source) := by
  rw [List.map_map]
  rfl

theorem map_id_eq (declarations : List Declaration) :
    declarations.map (·.identifier.id) = (declarations.map Declaration.place).map fun place => place.1.id := by
  rw [List.map_map]
  rfl

theorem map_binding_of_samePlaces {f : Rekinding} {before after : Source}
    {declarations declarations' : List Declaration}
    (same : SamePlaces f declarations declarations')
    (names : ∀ declaration ∈ declarations,
      after.textOf declaration.identifier = before.textOf declaration.identifier) :
    declarations'.map (Declaration.binding after) = declarations.map (Declaration.binding before) := by
  rw [map_binding_eq, same, List.map_map]
  refine List.map_congr_left fun declaration hdeclaration => ?_
  simp only [Function.comp_apply, bindingAt, Declaration.placeIn, Declaration.binding, Node.id_rekind,
    textOf_rekind, names declaration hdeclaration]

/-- Two files of which the second has `let` for the `var` of a declaration, and the tables of both. -/
structure Rewritten (before after : Source) (node : Node) (f : Rekinding) (table table' : Table) : Prop where
  distinct : before.tree.ids.Nodup
  walk : node ∈ before.root.walk
  describes : table.Describes before
  describes' : table'.Describes after
  uses : usesIn after table'.declarations = (usesIn before table.declarations).map (Reference.rekind f)
  /-- The bindings are the same, but for the scope of the names of the declaration. -/
  moved : ∃ first last : List Binding,
    table.bindings before =
      first ++ bindAll before (boundBy node) (functionScope node).id ++ last ∧
    table'.bindings after =
      first ++ bindAll before (boundBy node) (letScope node).id ++ last
  /-- Each of the names is declared once. -/
  single : ∀ identifier ∈ boundBy node,
    (boundIds (table.bindings before) (functionScope node).id (before.textOf identifier)).length ≤ 1
  /-- Each of the identifiers is declared in one scope only. -/
  own : ∀ identifier ∈ boundBy node, ∀ declaration ∈ table.declarations,
    declaration.identifier.id = identifier.id → declaration.scope = functionScope node

/-- The scope of `let` is the function around the declaration or lies in it. -/
theorem functionScope_mem_letScope (node : Node) :
    functionScope node ∈ letScope node :: (letScope node).ancestors := by
  unfold letScope
  split
  · exact Node.enclosing_mem functionKinds node
  · refine Node.enclosing_mem_of_subset (fun kind hkind => ?_) node
    exact List.mem_append_right _ hkind

theorem functionScope_id_mem (node : Node) :
    (functionScope node).id ∈ (letScope node).id :: (letScope node).ancestors.map Node.id := by
  rw [← List.map_cons]
  exact List.mem_map_of_mem (functionScope_mem_letScope node)

theorem letScope_mem_walk {tree : Tree} {node : Node} (h : node ∈ (Node.root tree).walk) :
    letScope node ∈ (Node.root tree).walk := by
  unfold letScope
  split
  · exact h
  · rcases List.mem_cons.1 (Node.enclosing_mem (blockKinds ++ functionKinds) node) with hself | hancestor
    · rw [blockScope, hself]
      exact h
    · exact Node.ancestors_subset_walk node h _ hancestor

theorem functionScope_mem_walk {tree : Tree} {node : Node} (h : node ∈ (Node.root tree).walk) :
    functionScope node ∈ (Node.root tree).walk := by
  rcases List.mem_cons.1 (Node.enclosing_mem functionKinds node) with hself | hancestor
  · rw [functionScope, hself]
    exact h
  · exact Node.ancestors_subset_walk node h _ hancestor

namespace Rewritten

variable {before after : Source} {node : Node} {f : Rekinding} {table table' : Table}

theorem find?_of_mem_references (h : table.Describes before) {v : Variable} (hv : v ∈ table.vars) {use : Reference}
    (huse : use ∈ v.references) : use ∈ usesIn before table.declarations ∧ v.name = use.name ∧
      use.scopes.find? (declares (table.bindings before) v.name) = some v.scope.id := by
  rw [h.references v hv] at huse
  obtain ⟨huse, hfound⟩ := List.mem_filter.1 huse
  obtain ⟨hscope, hname⟩ := of_decide_eq_true hfound
  rw [scopeFor?_eq_find?, ← hname] at hscope
  exact ⟨huse, hname, hscope⟩

theorem ids_identifiers (h : table.Describes before) {v : Variable} (hv : v ∈ table.vars) :
    v.identifiers.map Node.id = boundIds (table.bindings before) v.scope.id v.name := by
  rw [h.identifiers v hv, Table.bindings, boundIds_map_binding]

theorem mem_unresolved_iff (h : table.Describes before) {id : Nat} :
    id ∈ table.unresolved.map (·.identifier.id) ↔ ∃ use ∈ usesIn before table.declarations,
      use.scopes.find? (declares (table.bindings before) use.name) = none ∧ use.identifier.id = id := by
  simp only [h.unresolved, List.mem_map, List.mem_filter, Option.isNone_iff_eq_none, scopeFor?_eq_find?, and_assoc]
  rfl

/-- A scope with a name has a variable for it. -/
theorem exists_of_declares (h : table.Describes before) {scope : Nat} {name : String}
    (hdeclares : declares (table.bindings before) name scope = true) :
    ∃ v ∈ table.vars, v.name = name ∧ v.scope.id = scope := by
  obtain ⟨id, hid⟩ := List.exists_mem_of_ne_nil _ (declares_iff.1 hdeclares)
  obtain ⟨declaration, hdeclaration, hsame⟩ := List.mem_map.1 (mem_boundIds.1 hid)
  obtain ⟨-, rfl, rfl⟩ := Binding.mk.inj hsame
  obtain ⟨v, hv, hkey⟩ := List.mem_map.1 (h.complete declaration hdeclaration)
  exact ⟨v, hv, (Prod.mk.inj hkey).2, (Prod.mk.inj hkey).1⟩

theorem scopes_rekind (use : Reference) : (use.rekind f).scopes = use.scopes :=
  Node.ids_ancestors_rekind f use.identifier

variable (rewritten : Rewritten before after node f table table')

include rewritten

/-- A use that is found in a scope afterwards belongs to the variable there. -/
theorem exists_of_find? {use : Reference} (huse : use ∈ usesIn before table.declarations) {scope : Nat}
    (h : use.scopes.find? (declares (table'.bindings after) use.name) = some scope) :
    ∃ w ∈ table'.vars, w.key = (scope, use.name) ∧ use.identifier.id ∈ w.references.map (·.identifier.id) ∧
      w.identifiers.map Node.id = boundIds (table'.bindings after) scope use.name := by
  obtain ⟨w, hw, hname, hscope⟩ := exists_of_declares rewritten.describes' (List.find?_some h)
  refine ⟨w, hw, Prod.ext hscope hname, List.mem_map.2 ⟨use.rekind f, ?_, Node.id_rekind f use.identifier⟩, ?_⟩
  · rw [rewritten.describes'.references w hw, List.mem_filter, rewritten.uses]
    refine ⟨List.mem_map_of_mem huse, decide_eq_true ⟨?_, hname⟩⟩
    rw [scopeFor?_eq_find?, hscope]
    rw [← scopes_rekind (f := f)] at h
    exact h
  · rw [ids_identifiers rewritten.describes' hw, hname, hscope]

/-- Other names are bound as before. -/
theorem boundIds_of_not_named {name : String} (h : ∀ identifier ∈ boundBy node, before.textOf identifier ≠ name)
    (scope : Nat) : boundIds (table'.bindings after) scope name = boundIds (table.bindings before) scope name := by
  obtain ⟨first, last, hold, hnew⟩ := rewritten.moved
  rw [hold, hnew]
  exact boundIds_moved_of_not_named h scope

/-- Other scopes bind what they did. -/
theorem boundIds_of_ne {scope : Nat} (hhome : scope ≠ (functionScope node).id)
    (hplace : scope ≠ (letScope node).id) (name : String) :
    boundIds (table'.bindings after) scope name = boundIds (table.bindings before) scope name := by
  obtain ⟨first, last, hold, hnew⟩ := rewritten.moved
  rw [hold, hnew]
  exact boundIds_moved_of_ne hhome hplace name

/-- Each name of the declaration moves. -/
theorem moves {identifier : Node} (h : identifier ∈ boundBy node) :
    Moves (functionScope node).id (letScope node).id
      (declares (table.bindings before) (before.textOf identifier))
      (declares (table'.bindings after) (before.textOf identifier)) := by
  have single := rewritten.single identifier h
  obtain ⟨first, last, hold, hnew⟩ := rewritten.moved
  rw [hold] at single
  rw [hold, hnew]
  exact moves_of_single h single

theorem mem_boundIds_letScope {identifier : Node} (h : identifier ∈ boundBy node) :
    identifier.id ∈ boundIds (table'.bindings after) (letScope node).id (before.textOf identifier) := by
  obtain ⟨first, last, -, hnew⟩ := rewritten.moved
  rw [hnew]
  exact mem_boundIds_moved h

theorem mem_boundIds_functionScope {identifier : Node} (h : identifier ∈ boundBy node) :
    identifier.id ∈ boundIds (table.bindings before) (functionScope node).id (before.textOf identifier) := by
  obtain ⟨first, last, hold, -⟩ := rewritten.moved
  rw [hold]
  exact mem_boundIds_moved h

/-- An identifier of the declaration is bound in the function around it only. -/
theorem eq_functionScope_of_mem_boundIds {identifier : Node} (h : identifier ∈ boundBy node) {scope : Nat}
    {name : String} (hmem : identifier.id ∈ boundIds (table.bindings before) scope name) :
    scope = (functionScope node).id := by
  obtain ⟨declaration, hdeclaration, hsame⟩ := List.mem_map.1 (mem_boundIds.1 hmem)
  obtain ⟨hid, rfl, -⟩ := Binding.mk.inj hsame
  rw [rewritten.own identifier h declaration hdeclaration hid]

theorem follows_letScope {use : Reference} (huse : use ∈ usesIn before table.declarations) :
    Follows use.scopes (letScope node).id ((letScope node).ancestors.map Node.id) :=
  follows_ancestors rewritten.distinct (mem_referencesIn_iff.1 huse).1 (letScope_mem_walk rewritten.walk)

theorem follows_functionScope {use : Reference} (huse : use ∈ usesIn before table.declarations) :
    Follows use.scopes (functionScope node).id ((functionScope node).ancestors.map Node.id) :=
  follows_ancestors rewritten.distinct (mem_referencesIn_iff.1 huse).1 (functionScope_mem_walk rewritten.walk)

theorem nodup_scopes {use : Reference} (huse : use ∈ usesIn before table.declarations) : use.scopes.Nodup :=
  Node.nodup_ids_ancestors rewritten.distinct (mem_referencesIn_iff.1 huse).1

/-! ## Uses that keep their variable -/

/-- Without captures a use of another variable finds the scope that it found. -/
theorem find?_of_not_captures
    (free : ∀ identifier ∈ boundBy node, ¬ Captures table node (before.textOf identifier)) {v : Variable}
    (hv : v ∈ table.vars) (hother : ∀ identifier ∈ v.identifiers, identifier.id ∉ (boundBy node).map Node.id)
    {use : Reference} (huse : use ∈ v.references) :
    use.scopes.find? (declares (table'.bindings after) v.name) = some v.scope.id ∧
      boundIds (table'.bindings after) v.scope.id v.name = boundIds (table.bindings before) v.scope.id v.name := by
  obtain ⟨hmem, hname, hfind⟩ := find?_of_mem_references rewritten.describes hv huse
  by_cases hnamed : ∃ identifier ∈ boundBy node, before.textOf identifier = v.name
  · obtain ⟨identifier, hidentifier, hsame⟩ := hnamed
    have hhome : v.scope.id ≠ (functionScope node).id := by
      intro hscope
      have bound := rewritten.mem_boundIds_functionScope hidentifier
      rw [hsame, ← hscope, ← ids_identifiers rewritten.describes hv] at bound
      obtain ⟨declared, hdeclared, hid⟩ := List.mem_map.1 bound
      exact hother declared hdeclared (hid ▸ List.mem_map_of_mem hidentifier)
    have hfree : ¬ ((letScope node).id ∈ use.scopes ∧
        v.scope.id ∈ (letScope node).id :: (letScope node).ancestors.map Node.id) := by
      rintro ⟨hplace, haround⟩
      refine free identifier hidentifier ⟨v, hv, hsame.symm, hhome, ?_, use, huse, hplace⟩
      rw [List.map_cons]
      exact haround
    have hplace : v.scope.id ≠ (letScope node).id := by
      intro hscope
      refine hfree ⟨hscope ▸ List.mem_of_find?_eq_some hfind, ?_⟩
      rw [hscope]
      exact List.mem_cons_self
    have hmoves := rewritten.moves hidentifier
    rw [hsame] at hmoves
    exact ⟨find?_moved hmoves (rewritten.follows_letScope hmem) hfind hhome hfree,
      rewritten.boundIds_of_ne hhome hplace v.name⟩
  · have hnone : ∀ identifier ∈ boundBy node, before.textOf identifier ≠ v.name :=
      fun identifier hidentifier hsame => hnamed ⟨identifier, hidentifier, hsame⟩
    have same := rewritten.boundIds_of_not_named hnone
    refine ⟨?_, same v.scope.id⟩
    rw [← hfind]
    congr 1
    funext scope
    rw [declares, declares, same]

/-- Without strays a use is one of a global just when it was. -/
theorem find?_eq_none_iff_of_not_strands
    (free : ∀ identifier ∈ boundBy node, ¬ Strands table node (before.textOf identifier))
    {use : Reference} (huse : use ∈ usesIn before table.declarations) :
    use.scopes.find? (declares (table'.bindings after) use.name) = none ↔
      use.scopes.find? (declares (table.bindings before) use.name) = none := by
  by_cases hnamed : ∃ identifier ∈ boundBy node, before.textOf identifier = use.name
  · obtain ⟨identifier, hidentifier, hsame⟩ := hnamed
    have hmoves := rewritten.moves hidentifier
    have hhome := declares_iff.2 (List.ne_nil_of_mem (rewritten.mem_boundIds_functionScope hidentifier))
    rw [hsame] at hmoves hhome
    constructor
    · intro hnone
      cases hfind : use.scopes.find? (declares (table.bindings before) use.name) with
      | none => rfl
      | some scope =>
        by_cases hscope : scope = (functionScope node).id
        · subst hscope
          obtain ⟨houtside, hnothing⟩ := (find?_moved_eq_none_iff hmoves (rewritten.nodup_scopes huse)
            (rewritten.follows_functionScope huse) hfind).1 hnone
          obtain ⟨v, hv, hvname, hvscope⟩ := exists_of_declares rewritten.describes hhome
          have hmem : use ∈ v.references := by
            rw [rewritten.describes.references v hv, List.mem_filter]
            refine ⟨huse, decide_eq_true ⟨?_, hvname⟩⟩
            rw [scopeFor?_eq_find?, hvscope]
            exact hfind
          refine absurd ⟨⟨v, hv, hvname.trans hsame.symm, hvscope, use, hmem, houtside⟩, ?_⟩
            (free identifier hidentifier)
          intro w hw hwname haround
          refine hnothing w.scope.id haround (declares_iff.2 ?_)
          rw [← hsame, ← hwname, ← ids_identifiers rewritten.describes hw, ne_eq, List.map_eq_nil_iff]
          exact rewritten.describes.declared w hw
        · exact absurd hnone (find?_moved_ne_none_of_ne hmoves hfind hscope)
    · exact find?_moved_eq_none hmoves (rewritten.follows_letScope huse)
        (functionScope_id_mem node) hhome
  · have hnone : ∀ identifier ∈ boundBy node, before.textOf identifier ≠ use.name :=
      fun identifier hidentifier hsame => hnamed ⟨identifier, hidentifier, hsame⟩
    have same : declares (table'.bindings after) use.name = declares (table.bindings before) use.name := by
      funext scope
      rw [declares, declares, rewritten.boundIds_of_not_named hnone]
    rw [same]

/-! ## Uses that do not -/

/-- A captured use goes to a variable that the declaration declares. -/
theorem not_captures (keeps : KeepsResolution table table' (boundBy node)) {identifier : Node}
    (hidentifier : identifier ∈ boundBy node) : ¬ Captures table node (before.textOf identifier) := by
  rintro ⟨v, hv, hname, hhome, haround, use, huse, hplace⟩
  have hother : ∀ declared ∈ v.identifiers, declared.id ∉ (boundBy node).map Node.id := by
    intro declared hdeclared hbound
    obtain ⟨other, hother, hid⟩ := List.mem_map.1 hbound
    have bound : other.id ∈ boundIds (table.bindings before) v.scope.id v.name := by
      rw [hid, ← ids_identifiers rewritten.describes hv]
      exact List.mem_map_of_mem hdeclared
    exact hhome (rewritten.eq_functionScope_of_mem_boundIds hother bound)
  obtain ⟨w, hw, hreference, hids⟩ := keeps.resolved v hv hother use huse
  obtain ⟨hmem, huseName, hfind⟩ := find?_of_mem_references rewritten.describes hv huse
  -- The variable of the use in the rewritten file is the one in the scope of `let`.
  obtain ⟨found, hfound, hid⟩ := List.mem_map.1 hreference
  obtain ⟨hfoundUse, hwname, hwfind⟩ := find?_of_mem_references rewritten.describes' hw hfound
  rw [rewritten.uses] at hfoundUse
  obtain ⟨original, horiginal, rfl⟩ := List.mem_map.1 hfoundUse
  have hsame : original = use := use_eq_of_same_id rewritten.distinct horiginal hmem
    ((Node.id_rekind f original.identifier).symm.trans hid)
  subst hsame
  rw [List.map_cons] at haround
  have hmoves := rewritten.moves hidentifier
  have hcaptured := find?_moved_captured hmoves (rewritten.nodup_scopes hmem) (rewritten.follows_letScope hmem)
    (hname ▸ hfind) hplace haround
  have hwscope : w.scope.id = (letScope node).id := by
    rw [scopes_rekind, show w.name = before.textOf identifier from hwname.trans (huseName.symm.trans hname),
      hcaptured] at hwfind
    exact (Option.some.inj hwfind).symm
  have bound := rewritten.mem_boundIds_letScope hidentifier
  rw [← hwscope, ← hname, show v.name = w.name from huseName.trans hwname.symm,
    ← ids_identifiers rewritten.describes' hw, hids, ids_identifiers rewritten.describes hv] at bound
  exact hhome (rewritten.eq_functionScope_of_mem_boundIds hidentifier bound)

/-- A stranded use becomes one of a global. -/
theorem not_strands (keeps : KeepsResolution table table' (boundBy node)) {identifier : Node}
    (hidentifier : identifier ∈ boundBy node) : ¬ Strands table node (before.textOf identifier) := by
  rintro ⟨⟨v, hv, hname, hscope, use, huse, houtside⟩, hnothing⟩
  obtain ⟨hmem, huseName, hfind⟩ := find?_of_mem_references rewritten.describes hv huse
  have hmoves := rewritten.moves hidentifier
  rw [← hname] at hmoves
  rw [hscope] at hfind
  have hlost : use.scopes.find? (declares (table'.bindings after) use.name) = none := by
    rw [← huseName]
    refine (find?_moved_eq_none_iff hmoves (rewritten.nodup_scopes hmem)
      (rewritten.follows_functionScope hmem) hfind).2 ⟨houtside, fun other hother hdeclares => ?_⟩
    obtain ⟨w, hw, hwname, rfl⟩ := exists_of_declares rewritten.describes hdeclares
    exact hnothing w hw (hwname.trans hname) hother
  have hglobal : use.identifier.id ∈ table'.unresolved.map (·.identifier.id) := by
    refine (mem_unresolved_iff rewritten.describes').2 ⟨use.rekind f, ?_, ?_, Node.id_rekind f use.identifier⟩
    · rw [rewritten.uses]
      exact List.mem_map_of_mem hmem
    · rw [scopes_rekind]
      exact hlost
  obtain ⟨other, hother, hnone, hid⟩ :=
    (mem_unresolved_iff rewritten.describes).1 ((keeps.unresolved use.identifier.id).1 hglobal)
  obtain rfl := use_eq_of_same_id rewritten.distinct hother hmem hid
  rw [← huseName, hfind] at hnone
  cases hnone

/-- **Resolution is kept just where nothing is captured and nothing is stranded.** -/
theorem keepsResolution_iff : KeepsResolution table table' (boundBy node) ↔
    ∀ identifier ∈ boundBy node, ¬ Captures table node (before.textOf identifier) ∧
      ¬ Strands table node (before.textOf identifier) := by
  constructor
  · intro keeps identifier hidentifier
    exact ⟨rewritten.not_captures keeps hidentifier, rewritten.not_strands keeps hidentifier⟩
  · intro free
    constructor
    case resolved =>
      intro v hv hother use huse
      obtain ⟨hmem, hname, -⟩ := find?_of_mem_references rewritten.describes hv huse
      obtain ⟨hfind, hids⟩ := rewritten.find?_of_not_captures
        (fun identifier hidentifier => (free identifier hidentifier).1) hv hother huse
      rw [hname] at hfind hids
      obtain ⟨w, hw, -, hreference, hbound⟩ := rewritten.exists_of_find? hmem hfind
      refine ⟨w, hw, hreference, ?_⟩
      rw [hbound, hids, ids_identifiers rewritten.describes hv, hname]
    case unresolved =>
      intro id
      rw [mem_unresolved_iff rewritten.describes', mem_unresolved_iff rewritten.describes, rewritten.uses]
      have same : ∀ use ∈ usesIn before table.declarations,
          (use.scopes.find? (declares (table'.bindings after) use.name) = none ↔
            use.scopes.find? (declares (table.bindings before) use.name) = none) :=
        fun use huse => rewritten.find?_eq_none_iff_of_not_strands
          (fun identifier hidentifier => (free identifier hidentifier).2) huse
      constructor
      · rintro ⟨_, hmem, hnone, rfl⟩
        obtain ⟨use, huse, rfl⟩ := List.mem_map.1 hmem
        rw [scopes_rekind] at hnone
        exact ⟨use, huse, (same use huse).1 hnone, (Node.id_rekind f use.identifier).symm⟩
      · rintro ⟨use, huse, hnone, rfl⟩
        refine ⟨use.rekind f, List.mem_map_of_mem huse, ?_, Node.id_rekind f use.identifier⟩
        rw [scopes_rekind]
        exact (same use huse).2 hnone

end Rewritten

/-! ## The tables of a rewritten file -/

/-- Declared identifiers read as before. -/
theorem LetRewrite.names_declared {before after : Source} {node : Node} (h : LetRewrite before after node)
    {declarations : List Declaration} (hdeclarations : declarationsIn before.root.walk = .ok declarations) :
    ∀ declaration ∈ declarations,
      after.textOf declaration.identifier = before.textOf declaration.identifier := by
  intro declaration hmem
  obtain ⟨owner, howner, here, hhere, hdeclaration⟩ := exists_of_mem_declarationsIn hdeclarations declaration hmem
  have hwalk := Node.walk_subset howner _ (placed_of_mem_declarationsAt hhere hdeclaration).1
  exact h.names _ hwalk (.inr ⟨owner, howner, here, hhere, declaration, hdeclaration, rfl⟩)

theorem map_id_of_samePlaces {f : Rekinding} {declarations declarations' : List Declaration}
    (same : SamePlaces f declarations declarations') :
    declarations'.map (·.identifier.id) = declarations.map (·.identifier.id) := by
  rw [map_id_eq, same, List.map_map]
  exact List.map_congr_left fun declaration _ => Node.id_rekind f declaration.identifier

/-- Analysis goes through after the rewrite, and its table is that of the file before with the names
of the declaration moved. -/
theorem exists_rewritten {before after : Source} {node keyword : Node} {table : Table}
    (distinct : before.tree.ids.Nodup) (hnode : node ∈ before.root.walk) (hvar : IsVar node keyword)
    (htable : analyze before = .ok table) (rewrite : LetRewrite before after node)
    (hbound : ∀ identifier ∈ boundBy node, identifier ∈ before.root.walk ∧ Rules.Plain node identifier ∧
      (boundIds (table.bindings before) (functionScope node).id (before.textOf identifier)).length ≤ 1) :
    ∃ table', analyze after = .ok table' ∧
      Rewritten before after node (letKinds node.id keyword.id) table table' := by
  have describes := describes_of_analyze htable
  obtain ⟨first, last, first', own', last', hsplit, hafter, hfirst, hlast, hown⟩ :=
    collected_of_letRewrite distinct hnode hvar describes.collected
  obtain ⟨token, htoken, htree⟩ := rewrite.tree
  obtain rfl := Option.some.inj (htoken.symm.trans hvar.found)
  have hroot : after.root = before.root.rekind (letKinds node.id token.id) := by
    rw [Source.root, htree]
    rfl
  have hcollected : declarationsIn after.root.walk = .ok (first' ++ own' ++ last') := by
    rw [Source.root, htree]
    exact hafter
  obtain ⟨table', htable'⟩ := exists_analyze_of_collected hcollected
  have describes' := describes_of_analyze htable'
  have hdeclarations : table'.declarations = first' ++ own' ++ last' :=
    Except.ok.inj (describes'.collected.symm.trans hcollected)
  have names := rewrite.names_declared describes.collected
  rw [hsplit] at names
  refine ⟨table', htable', ?_⟩
  constructor
  case distinct => exact distinct
  case walk => exact hnode
  case describes => exact describes
  case describes' => exact describes'
  case uses =>
    have declared : table'.declarations.map (·.identifier.id) = table.declarations.map (·.identifier.id) := by
      have hownIds : own'.map (·.identifier.id) = (boundBy node).map Node.id := by
        rw [map_id_eq, hown, List.map_map]
        exact List.map_congr_left fun identifier _ => Node.id_rekind _ identifier
      rw [hdeclarations, hsplit]
      simp only [List.map_append, map_id_of_samePlaces hfirst, map_id_of_samePlaces hlast, hownIds, declareAll,
        List.map_map]
      rfl
    rw [usesIn, usesIn, declared, hroot, Node.walk_rekind]
    exact referencesIn_rekind (letKinds_spares _ _) _ fun inner hinner hkind =>
      rewrite.names inner hinner (.inl hkind)
  case moved =>
    refine ⟨first.map (Declaration.binding before), last.map (Declaration.binding before), ?_, ?_⟩
    · simp only [Table.bindings, hsplit, List.map_append, declareAll, List.map_map]
      rfl
    · have hownBindings : own'.map (Declaration.binding after) =
          bindAll before (boundBy node) (letScope node).id := by
        rw [map_binding_eq, hown, List.map_map]
        refine List.map_congr_left fun identifier hidentifier => ?_
        have hname := names ⟨identifier, "var", functionScope node⟩ (List.mem_append_left _
          (List.mem_append_right _ (mem_declareAll.2 ⟨hidentifier, rfl, rfl⟩)))
        simp only [Function.comp_apply, bindingAt, Node.id_rekind, textOf_rekind, hname]
      rw [Table.bindings, hdeclarations, List.map_append, List.map_append, hownBindings,
        map_binding_of_samePlaces hfirst fun declaration hmem =>
          names declaration (List.mem_append_left _ (List.mem_append_left _ hmem)),
        map_binding_of_samePlaces hlast fun declaration hmem => names declaration (List.mem_append_right _ hmem)]
  case single => exact fun identifier hidentifier => (hbound identifier hidentifier).2.2
  case own =>
    intro identifier hidentifier declaration hmem hid
    obtain ⟨hwalk, hplain, -⟩ := hbound identifier hidentifier
    exact (Rules.scope_of_mem_declarations distinct hvar describes hplain hwalk hmem hid).2

end Scope

namespace Rules

open Scope

/-- **When `let` in place of `var` keeps the names of other variables.** Where the fix is offered, in
the file with `let` the uses of all other variables keep their variable, and the uses of globals are
the same, if and only if for none of the names of the declaration there is another variable, declared
in the scope of `let` or around it, with a use in that scope, and the variable itself has no use
outside it that no scope further out could take. -/
theorem keepsResolution_letRewrite_iff (path : Path) (bytes : Bytes) (parsed : ParseTree) (severity : Severity)
    (options : RuleOptions) {node : Node} {after : Source}
    (hnode : node ∈ (Source.ofParsed path bytes parsed).root.walk)
    (hoffer : OffersLet (Dispatch.contextFor (Source.ofParsed path bytes parsed)
      (analyze (Source.ofParsed path bytes parsed)) ⟨noVar, severity, options⟩) node)
    (hafter : LetRewrite (Source.ofParsed path bytes parsed) after node) :
    ∃ table table', analyze (Source.ofParsed path bytes parsed) = .ok table ∧ analyze after = .ok table' ∧
      (KeepsResolution table table' (boundBy node) ↔ ∀ identifier ∈ boundBy node,
        ¬ Captures table node ((Source.ofParsed path bytes parsed).textOf identifier) ∧
        ¬ Strands table node ((Source.ofParsed path bytes parsed).textOf identifier)) := by
  have distinct := Source.nodup_ids_ofParsed path bytes parsed
  obtain ⟨keyword, table, hvar, htable, hbound⟩ := hoffer.bound distinct hnode
  obtain ⟨table', htable', rewritten⟩ := exists_rewritten distinct hnode hvar htable hafter hbound
  exact ⟨table, table', htable, htable', rewritten.keepsResolution_iff⟩

/-! ## Two texts -/

/-- The first `var` statement of a file. -/
def firstVar (source : Source) : Node :=
  (source.root.walk.find? (·.kind = "variable_declaration")).getD source.root

/-- A file with `let` for its first `var`. -/
def letSource (source : Source) : Source :=
  Source.rekind (letKinds (firstVar source).id (((varKeyword? (firstVar source)).map Node.id).getD 0)) source

theorem firstVar_mem_walk (source : Source) : firstVar source ∈ source.root.walk := by
  unfold firstVar
  cases hfind : source.root.walk.find? (·.kind = "variable_declaration") with
  | none => exact Node.mem_walk_self _
  | some node => exact List.mem_of_find?_eq_some hfind

theorem letRewrite_letSource {source : Source} (h : (varKeyword? (firstVar source)).isSome = true) :
    LetRewrite source (letSource source) (firstVar source) := by
  obtain ⟨keyword, hkeyword⟩ := Option.isSome_iff_exists.1 h
  unfold letSource
  rw [hkeyword]
  exact letRewrite_rekind hkeyword

/-- A token of a text. -/
def token (kind : String) (start stop : Nat) (named : Bool := false) (field : Option String := none) : ParseTree :=
  .node { kind, start, stop, named, field } []

/-- A part of a text with smaller ones in it. -/
def phrase (kind : String) (start stop : Nat) (children : List ParseTree) (field : Option String := none) :
    ParseTree :=
  .node { kind, start, stop, field } children

/-- The statement `var e = 1;` at an offset. -/
def varStatement (start : Nat) : ParseTree :=
  phrase "variable_declaration" start (start + 10)
    [token "var" start (start + 3),
     phrase "variable_declarator" (start + 4) (start + 9)
      [token "identifier" (start + 4) (start + 5) true (some "name"), token "=" (start + 6) (start + 7),
       token "number" (start + 8) (start + 9) true (some "value")],
     token ";" (start + 9) (start + 10)]

/-- The statement `use(e)` at an offset. -/
def callStatement (start : Nat) : ParseTree :=
  phrase "expression_statement" start (start + 6)
    [phrase "call_expression" start (start + 6)
      [token "identifier" start (start + 3) true (some "function"),
       phrase "arguments" (start + 3) (start + 6)
        [token "(" (start + 3) (start + 4), token "identifier" (start + 4) (start + 5) true,
         token ")" (start + 5) (start + 6)] (some "arguments")]]

/-- A block with both. -/
def varBlock (start : Nat) (field : Option String := none) : ParseTree :=
  phrase "statement_block" start (start + 21)
    [token "\x7b" start (start + 1), varStatement (start + 2), callStatement (start + 13),
     token "\x7d" (start + 20) (start + 21)] field

/-- The text `{ var e = 1; use(e) }` with its tree. -/
def blockSource : Source :=
  .ofParsed (.ofString "block.js") (Utf8.encode "\x7b var e = 1; use(e) \x7d") (phrase "program" 0 21 [varBlock 0])

/-- The text `try {} catch (e) { var e = 1; use(e) }` with its tree. -/
def catchSource : Source :=
  .ofParsed (.ofString "catch.js") (Utf8.encode "try \x7b\x7d catch (e) \x7b var e = 1; use(e) \x7d")
    (phrase "program" 0 38
      [phrase "try_statement" 0 38
        [token "try" 0 3, phrase "statement_block" 4 6 [token "\x7b" 4 5, token "\x7d" 5 6] (some "body"),
         phrase "catch_clause" 7 38
          [token "catch" 7 12, token "(" 13 14, token "identifier" 14 15 true (some "parameter"), token ")" 15 16,
           varBlock 17 (some "body")] (some "handler")]])

/-- In a plain block nothing is in the way. -/
theorem keepsResolution_blockSource :
    OffersLet (Dispatch.contextFor blockSource (analyze blockSource) ⟨noVar, .warn, .none⟩)
      (firstVar blockSource) ∧
    ∃ table table', analyze blockSource = .ok table ∧ analyze (letSource blockSource) = .ok table' ∧
      KeepsResolution table table' (boundBy (firstVar blockSource)) := by
  have hoffer : OffersLet (Dispatch.contextFor blockSource (analyze blockSource) ⟨noVar, .warn, .none⟩)
      (firstVar blockSource) := by decide +kernel
  obtain ⟨table, table', htable, htable', hiff⟩ := keepsResolution_letRewrite_iff (.ofString "block.js") _ _ .warn
    .none (firstVar_mem_walk blockSource) hoffer (letRewrite_letSource (by decide +kernel))
  obtain rfl := Except.ok.inj (htable.symm.trans (analyze_eq_ok_tableOf (by decide +kernel)))
  exact ⟨hoffer, tableOf blockSource, table', htable, htable', hiff.2 (by decide +kernel)⟩

/-- **The fix captures the parameter of a `catch` clause.** The call in the block is one of the
parameter, and one of the new variable after the fix that the rule offers. -/
theorem not_keepsResolution_catchSource :
    OffersLet (Dispatch.contextFor catchSource (analyze catchSource) ⟨noVar, .warn, .none⟩)
      (firstVar catchSource) ∧
    LetRewrite catchSource (letSource catchSource) (firstVar catchSource) ∧
    ∃ table table', analyze catchSource = .ok table ∧ analyze (letSource catchSource) = .ok table' ∧
      ¬ KeepsResolution table table' (boundBy (firstVar catchSource)) := by
  refine ⟨by decide +kernel, letRewrite_letSource (by decide +kernel), tableOf catchSource,
    tableOf (letSource catchSource), analyze_eq_ok_tableOf (by decide +kernel),
    analyze_eq_ok_tableOf (by decide +kernel), fun keeps => ?_⟩
  exact absurd keeps.resolved (by decide +kernel)

end Rules

end ScriptLint
