/-
Scoping of a tree whose declaration keywords and statements got other kinds.

Binding names, scopes and uses are found by kinds that such a change spares, so
they are found in the same places (`bindings_rekind`, `functionScope_rekind`,
`referencesIn_rekind`).
-/
import ScriptLint.Proofs.Tree.Rekind
import ScriptLint.Scope.Table

namespace ScriptLint

namespace Scope

/-- The kinds of declaration statements and of their keywords. -/
def declarationKinds : List String := ["var", "let", "variable_declaration", "lexical_declaration"]

section Spared

variable {f : Rekinding}

mutual

theorem bindingsOf_rekind (spares : f.Spares declarationKinds) : ∀ (above : List Tree) (tree : Tree),
    bindingsOf (above.map (Tree.rekind f)) (tree.rekind f) = (bindingsOf above tree).map (Node.rekind f)
  | above, .node id label children => by
    have field := fun name => bindingsInField_rekind spares name (.node id label children :: above) children
    have all := bindingsInAll_rekind spares (.node id label children :: above) children
    simp only [List.map_cons, Tree.rekind] at field all
    simp only [Tree.rekind, bindingsOf, spares "identifier" (by decide),
      spares "shorthand_property_identifier_pattern" (by decide), spares "pair_pattern" (by decide),
      spares "assignment_pattern" (by decide), spares "object_assignment_pattern" (by decide),
      spares "object_pattern" (by decide), spares "array_pattern" (by decide),
      spares "rest_pattern" (by decide), field, all]
    split
    · rfl
    · split
      · rfl
      · split
        · rfl
        · split <;> rfl

theorem bindingsInField_rekind (spares : f.Spares declarationKinds) (field : String) :
    ∀ (above : List Tree) (trees : List Tree),
    bindingsInField field (above.map (Tree.rekind f)) (Tree.rekindAll f trees) =
      (bindingsInField field above trees).map (Node.rekind f)
  | _, [] => rfl
  | above, tree :: rest => by
    simp only [Tree.rekindAll, bindingsInField, Tree.label_rekind]
    split
    · exact bindingsOf_rekind spares above tree
    · exact bindingsInField_rekind spares field above rest

theorem bindingsInAll_rekind (spares : f.Spares declarationKinds) : ∀ (above : List Tree) (trees : List Tree),
    bindingsInAll (above.map (Tree.rekind f)) (Tree.rekindAll f trees) =
      (bindingsInAll above trees).map (Node.rekind f)
  | _, [] => rfl
  | above, tree :: rest => by
    simp only [Tree.rekindAll, bindingsInAll, Tree.label_rekind, ne_eq, spares "comment" (by decide)]
    split
    · rw [bindingsOf_rekind spares above tree, bindingsInAll_rekind spares above rest, List.map_append]
    · exact bindingsInAll_rekind spares above rest

end

theorem bindings_rekind (spares : f.Spares declarationKinds) (target : Node) :
    bindings (target.rekind f) = (bindings target).map (Node.rekind f) :=
  bindingsOf_rekind spares target.above target.tree

theorem targetsOf_rekind (spares : f.Spares declarationKinds) (target : Option Node) :
    targetsOf (target.map (Node.rekind f)) = (targetsOf target).map (Node.rekind f) := by
  cases target with
  | none => rfl
  | some node => exact bindings_rekind spares node

theorem flatMap_bindings_rekind (spares : f.Spares declarationKinds) (targets : List Node) :
    (targets.map (Node.rekind f)).flatMap bindings = (targets.flatMap bindings).map (Node.rekind f) := by
  simp only [List.flatMap_map, List.map_flatMap, bindings_rekind spares]

theorem declaratorTargets_rekind (spares : f.Spares declarationKinds) (node : Node) :
    declaratorTargets (node.rekind f) = (declaratorTargets node).map (Node.rekind f) := by
  simp only [declaratorTargets, Node.namedChildren_rekind spares (by decide),
    Node.filter_kind_rekind spares (show "variable_declarator" ∉ declarationKinds by decide),
    List.flatMap_map, List.map_flatMap, Node.childByField?_rekind, targetsOf_rekind spares]

theorem parameters_rekind (spares : f.Spares declarationKinds) (node : Node) :
    parameters (node.rekind f) = (parameters node).map (Node.rekind f) := by
  unfold parameters
  rw [Node.childByField?_rekind, Node.childByField?_rekind]
  cases node.childByField? "parameter" with
  | some single => rfl
  | none =>
    cases node.childByField? "parameters" with
    | none => rfl
    | some list => exact Node.namedChildren_rekind spares (by decide) list

theorem functionScope_rekind (spares : f.Spares declarationKinds) (node : Node) :
    functionScope (node.rekind f) = (functionScope node).rekind f :=
  Node.enclosing_rekind spares (by decide) node

theorem blockScope_rekind (spares : f.Spares declarationKinds) (node : Node) :
    blockScope (node.rekind f) = (blockScope node).rekind f :=
  Node.enclosing_rekind spares (by decide) node

/-! ## Uses -/

theorem accessIn_rekind (spares : f.Spares declarationKinds) (label : Label) (id : Nat) (field : Option String) :
    accessIn { label with kind := f id label.kind } field = accessIn label field := by
  simp only [accessIn, spares "assignment_expression" (by decide), spares "for_in_statement" (by decide),
    spares "augmented_assignment_expression" (by decide), spares "update_expression" (by decide)]

theorem accessUnder_rekind (spares : f.Spares declarationKinds) : ∀ (field : Option String) (above : List Tree),
    accessUnder field (above.map (Tree.rekind f)) = accessUnder field above
  | _, [] => rfl
  | field, .node id label children :: above => by
    have pattern : patternKinds.contains (f id label.kind) = patternKinds.contains label.kind :=
      Node.contains_kind_rekind spares (by decide) ⟨.node id label children, above⟩
    have later := accessUnder_rekind spares label.field above
    simp only [List.map_cons, Tree.rekind, accessUnder, Tree.label, pattern,
      spares "assignment_pattern" (by decide), spares "object_assignment_pattern" (by decide), later,
      accessIn_rekind spares]
    rfl

theorem access_rekind (spares : f.Spares declarationKinds) (identifier : Node) :
    access (identifier.rekind f) = access identifier := by
  unfold access
  rw [Node.field_rekind]
  exact accessUnder_rekind spares identifier.field identifier.above

theorem reexported_rekind (specifier : Node) : reexported (specifier.rekind f) = reexported specifier := by
  obtain ⟨tree, above⟩ := specifier
  cases above with
  | nil => rfl
  | cons first above =>
    cases above with
    | nil => rfl
    | cons statement above =>
      have hsource := Node.childByField?_rekind f ⟨statement, above⟩ "source"
      simp only [Node.rekind] at hsource
      simp only [reexported, Node.rekind, List.map_cons, hsource, Option.isSome_map]

theorem isReference_rekind (spares : f.Spares declarationKinds) (node : Node) (name : String) :
    isReference (node.rekind f) name = isReference node name := by
  simp only [isReference, Node.parent?_rekind]
  cases node.parent? with
  | none => rfl
  | some parent =>
    simp only [Option.map_some,
      Node.kind_rekind_eq_iff spares (show "import_specifier" ∉ declarationKinds by decide),
      Node.kind_rekind_eq_iff spares (show "namespace_export" ∉ declarationKinds by decide),
      Node.kind_rekind_eq_iff spares (show "export_specifier" ∉ declarationKinds by decide),
      Node.kind_rekind_eq_iff spares (show "jsx_closing_element" ∉ declarationKinds by decide), ne_eq,
      Node.field_rekind, reexported_rekind,
      Node.contains_kind_rekind spares (show ∀ kind ∈ elementNameParents, kind ∉ declarationKinds by decide),
      Node.contains_kind_rekind spares (show ∀ kind ∈ labelParents, kind ∉ declarationKinds by decide)]

end Spared

/-- A use in the tree with new kinds. -/
def Reference.rekind (f : Rekinding) (reference : Reference) : Reference :=
  { reference with identifier := reference.identifier.rekind f }

theorem referenceOf_rekind {f : Rekinding} (spares : f.Spares declarationKinds) (identifier : Node)
    (name : String) :
    referenceOf (identifier.rekind f) name = (referenceOf identifier name).rekind f := by
  simp only [referenceOf, access_rekind spares, Reference.rekind]

theorem textOf_rekind (f : Rekinding) (source : Source) (node : Node) :
    source.textOf (node.rekind f) = source.textOf node := by
  simp only [Source.textOf, Node.start_rekind, Node.stop_rekind]

/-- The same identifiers are uses, as long as they show the same names. -/
theorem referencesIn_rekind {f : Rekinding} (spares : f.Spares declarationKinds) {before after : Source}
    (declared : List Nat) : ∀ {nodes : List Node},
      (∀ node ∈ nodes, node.kind ∈ referenceKinds → after.textOf node = before.textOf node) →
        referencesIn after declared (nodes.map (Node.rekind f)) =
          (referencesIn before declared nodes).map (Reference.rekind f)
  | [], _ => rfl
  | node :: rest, names => by
    have later := referencesIn_rekind spares declared fun other hother =>
      names other (List.mem_cons_of_mem node hother)
    have sameKind : referenceKinds.contains (node.rekind f).kind = referenceKinds.contains node.kind :=
      Node.contains_kind_rekind spares (by decide) node
    unfold referencesIn at later ⊢
    rw [List.map_cons, List.filterMap_cons, List.filterMap_cons, later]
    simp only [sameKind, Node.id_rekind, textOf_rekind, isReference_rekind spares, referenceOf_rekind spares]
    by_cases huse : (referenceKinds.contains node.kind && !declared.contains node.id) = true
    · have hkind := List.contains_iff_mem.1 (Bool.and_eq_true_iff.1 huse).1
      rw [if_pos huse, if_pos huse, names node List.mem_cons_self hkind]
      by_cases hreference : isReference node (before.textOf node) = true
      · rw [if_pos hreference, if_pos hreference]
        rfl
      · rw [if_neg hreference, if_neg hreference]
    · rw [if_neg huse, if_neg huse]

end Scope

end ScriptLint
