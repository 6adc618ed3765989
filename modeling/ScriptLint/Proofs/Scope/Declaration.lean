/-
Where declared identifiers stand.

An identifier that a node declares is inside a destructuring pattern, or it is
a child of the node itself, of one of its declarators or of its parameter list
(`placed_of_mem_declarationsAt`). So a plain identifier tells which node
declares it and, for `var`, in which scope.
-/
import Mathlib.Tactic.SplitIfs
import ScriptLint.Proofs.Tree.Walk
import ScriptLint.Scope.Table

namespace ScriptLint

namespace Node

variable {node child : Node}

theorem mem_children_of_childByField? {name : String} (h : node.childByField? name = some child) :
    child ∈ node.children :=
  List.mem_of_find?_eq_some h

theorem parent?_of_childByField? {name : String} (h : node.childByField? name = some child) :
    child.parent? = some node :=
  parent?_of_mem_children (mem_children_of_childByField? h)

/-- What fills the first of two fields that is filled at all is a child. -/
theorem mem_children_of_either_field {first second : String}
    (h : (node.childByField? first <|> node.childByField? second) = some child) : child ∈ node.children := by
  rw [Option.orElse_eq_orElse, Option.orElse_eq_or, Option.or_eq_some_iff] at h
  rcases h with h | ⟨-, h⟩
  · exact mem_children_of_childByField? h
  · exact mem_children_of_childByField? h

theorem mem_children_of_mem_namedChildren (h : child ∈ node.namedChildren) : child ∈ node.children :=
  (List.mem_filter.1 h).1

theorem mem_children_of_childOfKind? {kind : String} (h : node.childOfKind? kind = some child) :
    child ∈ node.children :=
  List.mem_of_find?_eq_some h

end Node

namespace Scope

theorem mem_children_of_declarationKeyword? {node child : Node} (h : declarationKeyword? node = some child) :
    child ∈ node.children := by
  unfold declarationKeyword? at h
  cases hfield : node.childByField? "kind" with
  | none =>
    rw [hfield] at h
    exact List.mem_of_find?_eq_some h
  | some other =>
    rw [hfield] at h
    obtain rfl := Option.some.inj h
    exact Node.mem_children_of_childByField? hfield

/-! ## Binding names of a target -/

/-- A node whose parent is a destructuring pattern or a part of one. -/
def InPattern (node : Node) : Prop := ∃ parent, node.parent? = some parent ∧ parent.kind ∈ patternKinds

mutual

theorem mem_bindingsOf : ∀ {above : List Tree} {tree : Tree} {identifier : Node},
    identifier ∈ bindingsOf above tree →
      identifier ∈ Node.walkTree above tree ∧ (identifier = ⟨tree, above⟩ ∨ InPattern identifier)
  | above, .node id label children, identifier, h => by
    have inside : ∀ {nodes : List Node}, label.kind ∈ patternKinds → identifier ∈ nodes →
        (identifier ∈ nodes → identifier ∈ Node.walkTrees (.node id label children :: above) children ∧
          ((∃ tree ∈ children, identifier = ⟨tree, .node id label children :: above⟩) ∨ InPattern identifier)) →
        identifier ∈ Node.walkTree above (.node id label children) ∧
          (identifier = ⟨.node id label children, above⟩ ∨ InPattern identifier) := by
      intro nodes hkind hmem hall
      obtain ⟨hwalk, ⟨tree, -, rfl⟩ | hpattern⟩ := hall hmem
      · exact ⟨List.mem_cons_of_mem _ hwalk, .inr ⟨⟨.node id label children, above⟩, rfl, hkind⟩⟩
      · exact ⟨List.mem_cons_of_mem _ hwalk, .inr hpattern⟩
    unfold bindingsOf at h
    split at h
    · obtain rfl := List.mem_singleton.1 h
      exact ⟨List.mem_cons_self, .inl rfl⟩
    · split at h
      · next hkind => exact inside (by simp [hkind, patternKinds]) h mem_bindingsInField
      · split at h
        · next hkind =>
          refine inside ?_ h mem_bindingsInField
          rcases hkind with hkind | hkind <;> simp [hkind, patternKinds]
        · split at h
          · next hkind =>
            refine inside ?_ h mem_bindingsInAll
            rcases hkind with hkind | hkind | hkind <;> simp [hkind, patternKinds]
          · cases h

theorem mem_bindingsInField {field : String} : ∀ {above : List Tree} {trees : List Tree} {identifier : Node},
    identifier ∈ bindingsInField field above trees →
      identifier ∈ Node.walkTrees above trees ∧
        ((∃ tree ∈ trees, identifier = ⟨tree, above⟩) ∨ InPattern identifier)
  | _, [], _, h => by cases h
  | above, tree :: rest, identifier, h => by
    unfold bindingsInField at h
    split at h
    · obtain ⟨hwalk, rfl | hpattern⟩ := mem_bindingsOf h
      · exact ⟨List.mem_append_left _ hwalk, .inl ⟨tree, List.mem_cons_self, rfl⟩⟩
      · exact ⟨List.mem_append_left _ hwalk, .inr hpattern⟩
    · obtain ⟨hwalk, ⟨other, hother, rfl⟩ | hpattern⟩ := mem_bindingsInField h
      · exact ⟨List.mem_append_right _ hwalk, .inl ⟨other, List.mem_cons_of_mem _ hother, rfl⟩⟩
      · exact ⟨List.mem_append_right _ hwalk, .inr hpattern⟩

theorem mem_bindingsInAll : ∀ {above : List Tree} {trees : List Tree} {identifier : Node},
    identifier ∈ bindingsInAll above trees →
      identifier ∈ Node.walkTrees above trees ∧
        ((∃ tree ∈ trees, identifier = ⟨tree, above⟩) ∨ InPattern identifier)
  | _, [], _, h => by cases h
  | above, tree :: rest, identifier, h => by
    have later : identifier ∈ bindingsInAll above rest → identifier ∈ Node.walkTrees above (tree :: rest) ∧
        ((∃ other ∈ tree :: rest, identifier = ⟨other, above⟩) ∨ InPattern identifier) := by
      intro h
      obtain ⟨hwalk, ⟨other, hother, rfl⟩ | hpattern⟩ := mem_bindingsInAll h
      · exact ⟨List.mem_append_right _ hwalk, .inl ⟨other, List.mem_cons_of_mem _ hother, rfl⟩⟩
      · exact ⟨List.mem_append_right _ hwalk, .inr hpattern⟩
    unfold bindingsInAll at h
    split at h
    · rcases List.mem_append.1 h with h | h
      · obtain ⟨hwalk, rfl | hpattern⟩ := mem_bindingsOf h
        · exact ⟨List.mem_append_left _ hwalk, .inl ⟨tree, List.mem_cons_self, rfl⟩⟩
        · exact ⟨List.mem_append_left _ hwalk, .inr hpattern⟩
      · exact later h
    · exact later h

end

theorem mem_walk_of_mem_bindings {target identifier : Node} (h : identifier ∈ bindings target) :
    identifier ∈ target.walk :=
  (mem_bindingsOf h).1

/-- A binding name is the target itself or lies in a pattern. -/
theorem eq_or_inPattern_of_mem_bindings {target identifier : Node} (h : identifier ∈ bindings target) :
    identifier = target ∨ InPattern identifier :=
  (mem_bindingsOf h).2

theorem bindings_of_identifier {target : Node} (h : target.kind = "identifier") : bindings target = [target] := by
  obtain ⟨⟨id, label, children⟩, above⟩ := target
  unfold bindings bindingsOf
  exact if_pos (.inl h)

theorem mem_targetsOf {target : Option Node} {identifier : Node} (h : identifier ∈ targetsOf target) :
    ∃ node, target = some node ∧ identifier ∈ bindings node := by
  cases target with
  | none => cases h
  | some node => exact ⟨node, rfl, h⟩

/-! ## Declaring nodes -/

/-- The kinds of the nodes that declare names. -/
def declaringKinds : List String :=
  ["variable_declaration", "lexical_declaration", "for_in_statement", "class_declaration", "class",
   "catch_clause", "import_specifier", "import_clause", "namespace_import"] ++ functionKinds

/-- What a node declares, by its kind. -/
inductive DeclaredBy (node : Node) : List Declaration → Prop where
  | vars (kind : node.kind = "variable_declaration") :
      DeclaredBy node (declareAll (declaratorTargets node) "var" (functionScope node))
  | lexical (kind : node.kind = "lexical_declaration") :
      DeclaredBy node (declareAll (declaratorTargets node)
        (((declarationKeyword? node).map Node.kind).getD "let") (blockScope node))
  | loop (kind : node.kind = "for_in_statement") : DeclaredBy node (loopHead node)
  | function (kind : node.kind ∈ functionKinds) :
      DeclaredBy node (functionName node ++ declareAll ((parameters node).flatMap bindings) "param" node)
  | classes (kind : node.kind = "class_declaration" ∨ node.kind = "class") : DeclaredBy node (className node)
  /-- A catch clause and its parameter. -/
  | clause (kind : node.kind = "catch_clause") :
      DeclaredBy node (declareAll (targetsOf (node.childByField? "parameter")) "catch" node)
  | specifier {name : Node} (kind : node.kind = "import_specifier")
      (named : (node.childByField? "alias" <|> node.childByField? "name") = some name) :
      DeclaredBy node [⟨name, "import", node.rootOf⟩]
  | imports (kind : node.kind = "import_clause" ∨ node.kind = "namespace_import") :
      DeclaredBy node (declareAll (node.namedChildren.filter (·.kind = "identifier")) "import" node.rootOf)
  | other (kind : node.kind ∉ declaringKinds) : DeclaredBy node []

/-- A node declares names, and analysis goes on, just as its kind says. -/
theorem declarationsAt_eq_ok_iff {node : Node} {here : List Declaration} :
    declarationsAt node = .ok here ↔ DeclaredBy node here := by
  constructor
  · intro h
    unfold declarationsAt at h
    split_ifs at h with hvar hlexical hloop hfunction hclass hclause hspecifier himports
    · cases h
      exact .vars hvar
    · cases h
      exact .lexical hlexical
    · cases h
      exact .loop hloop
    · cases h
      exact .function (List.contains_iff_mem.1 hfunction)
    · cases h
      exact .classes hclass
    · cases h
      exact .clause hclause
    · split at h
      · cases h
      · next name named =>
        cases h
        exact .specifier hspecifier named
    · cases h
      exact .imports himports
    · cases h
      refine .other fun kind => ?_
      rcases List.mem_append.1 kind with kind | kind
      · simp [hvar, hlexical, hloop, not_or.1 hclass, hclause, hspecifier, not_or.1 himports] at kind
      · exact hfunction (List.contains_iff_mem.2 kind)
  · intro h
    cases h with
    | vars kind => simp [declarationsAt, kind]
    | lexical kind => simp [declarationsAt, kind]
    | loop kind => simp [declarationsAt, kind]
    | function kind =>
      have apart : ∀ other ∉ functionKinds, node.kind ≠ other := fun other => ne_of_mem_of_not_mem kind
      rw [declarationsAt, if_neg (apart _ (by decide)), if_neg (apart _ (by decide)),
        if_neg (apart _ (by decide)), if_pos (List.contains_iff_mem.2 kind)]
    | classes kind => rcases kind with kind | kind <;> simp [declarationsAt, functionKinds, kind]
    | clause kind => simp [declarationsAt, functionKinds, kind]
    | specifier kind named => simp [declarationsAt, functionKinds, kind, named]
    | imports kind => rcases kind with kind | kind <;> simp [declarationsAt, functionKinds, kind]
    | other kind =>
      have apart : ∀ other ∈ declaringKinds, node.kind ≠ other := fun other hother =>
        (ne_of_mem_of_not_mem hother kind).symm
      have notFunction : ¬ functionKinds.contains node.kind = true := fun function =>
        kind (List.mem_append_right _ (List.contains_iff_mem.1 function))
      rw [declarationsAt, if_neg (apart _ (by decide)), if_neg (apart _ (by decide)),
        if_neg (apart _ (by decide)), if_neg notFunction,
        if_neg (not_or.2 ⟨apart _ (by decide), apart _ (by decide)⟩), if_neg (apart _ (by decide)),
        if_neg (apart _ (by decide)), if_neg (not_or.2 ⟨apart _ (by decide), apart _ (by decide)⟩)]

/-- Only an import specifier without a name cannot be read. -/
theorem unnamed_of_declarationsAt {node : Node} {failure : Failure} (h : declarationsAt node = .error failure) :
    node.kind = "import_specifier" ∧ node.childByField? "alias" = none ∧ node.childByField? "name" = none := by
  unfold declarationsAt at h
  split_ifs at h with _ _ _ _ _ _ hspecifier
  split at h
  · next hnone => exact ⟨hspecifier, by simpa using hnone⟩
  · cases h

/-! ## Where declared identifiers stand -/

/-- How an identifier with a parent stands to the node that declares it. -/
inductive Stands (node : Node) (declaration : Declaration) (parent : Node) : Prop where
  /-- Somewhere in a pattern. -/
  | pattern (inside : parent.kind ∈ patternKinds)
  /-- In a declarator of the node. -/
  | declarator (kind : parent.kind = "variable_declarator") (inside : parent.parent? = some node)
      (scope : node.kind = "variable_declaration" → declaration.scope = functionScope node)
  /-- In the parameter list of a function. -/
  | parameter (inside : parent.parent? = some node) (function : node.kind ∈ functionKinds)
      (scope : declaration.scope = node)
  /-- Right under the node. -/
  | child (same : parent = node) (kind : node.kind ≠ "variable_declarator")
      (head : node.kind = "for_in_statement" → declaration ∈ loopHead node)

/-- A declaration with an identifier that stands in one of these ways, below the declaring node. -/
def Placed (node : Node) (declaration : Declaration) : Prop :=
  declaration.identifier ∈ node.walk ∧
    ∃ parent, declaration.identifier.parent? = some parent ∧ Stands node declaration parent

theorem Placed.of_inPattern {node : Node} {declaration : Declaration} (hwalk : declaration.identifier ∈ node.walk)
    (h : InPattern declaration.identifier) : Placed node declaration := by
  obtain ⟨parent, hparent, hkind⟩ := h
  exact ⟨hwalk, parent, hparent, .pattern hkind⟩

/-- A child that is declared by its own parent. -/
theorem Placed.of_child {node child : Node} {declaration : Declaration} (hchild : child ∈ node.children)
    (h : declaration.identifier = child) (kind : node.kind ≠ "variable_declarator")
    (head : node.kind = "for_in_statement" → declaration ∈ loopHead node) : Placed node declaration := by
  obtain ⟨identifier, how, scope⟩ := declaration
  obtain rfl := h
  exact ⟨Node.mem_walk_of_mem_children hchild (Node.mem_walk_self _), node,
    Node.parent?_of_mem_children hchild, .child rfl kind head⟩

/-- A name that is bound by a child of the node. -/
theorem Placed.of_target {node target : Node} {declaration : Declaration} (htarget : target ∈ node.children)
    (h : declaration.identifier ∈ bindings target) (kind : node.kind ≠ "variable_declarator")
    (head : node.kind = "for_in_statement" → declaration ∈ loopHead node) : Placed node declaration := by
  rcases eq_or_inPattern_of_mem_bindings h with hself | hpattern
  · exact .of_child htarget hself kind head
  · exact .of_inPattern (Node.mem_walk_of_mem_children htarget (mem_walk_of_mem_bindings h)) hpattern

theorem mem_declareAll {identifiers : List Node} {how : String} {scope : Node} {declaration : Declaration} :
    declaration ∈ declareAll identifiers how scope ↔
      declaration.identifier ∈ identifiers ∧ declaration.kind = how ∧ declaration.scope = scope := by
  obtain ⟨identifier, kind, place⟩ := declaration
  simp only [declareAll, List.mem_map, Declaration.mk.injEq]
  constructor
  · rintro ⟨_, hmem, rfl, rfl, rfl⟩
    exact ⟨hmem, rfl, rfl⟩
  · rintro ⟨hmem, rfl, rfl⟩
    exact ⟨identifier, hmem, rfl, rfl, rfl⟩

theorem placed_of_mem_declaratorTargets {node : Node} {declaration : Declaration}
    (h : declaration.identifier ∈ declaratorTargets node)
    (scope : node.kind = "variable_declaration" → declaration.scope = functionScope node) :
    Placed node declaration := by
  obtain ⟨declarator, hdeclarator, htarget⟩ := List.mem_flatMap.1 h
  obtain ⟨hnamed, hkind⟩ := List.mem_filter.1 hdeclarator
  obtain ⟨target, hfield, hbinding⟩ := mem_targetsOf htarget
  have hchild := Node.mem_children_of_mem_namedChildren hnamed
  have hinner := Node.mem_children_of_childByField? hfield
  have hwalk : declaration.identifier ∈ node.walk :=
    Node.mem_walk_of_mem_children hchild (Node.mem_walk_of_mem_children hinner (mem_walk_of_mem_bindings hbinding))
  rcases eq_or_inPattern_of_mem_bindings hbinding with hself | hpattern
  · refine ⟨hwalk, declarator, hself ▸ Node.parent?_of_childByField? hfield, .declarator ?_ ?_ scope⟩
    · exact of_decide_eq_true hkind
    · exact Node.parent?_of_mem_children hchild
  · exact .of_inPattern hwalk hpattern

theorem placed_of_mem_parameters {node : Node} {declaration : Declaration} (hkind : node.kind ∈ functionKinds)
    (h : declaration.identifier ∈ (parameters node).flatMap bindings) (scope : declaration.scope = node) :
    Placed node declaration := by
  have hother : node.kind ≠ "variable_declarator" := by
    intro hsame
    rw [hsame] at hkind
    exact absurd hkind (by decide)
  have hloop : node.kind ≠ "for_in_statement" := by
    intro hsame
    rw [hsame] at hkind
    exact absurd hkind (by decide)
  obtain ⟨parameter, hparameter, hbinding⟩ := List.mem_flatMap.1 h
  unfold parameters at hparameter
  split at hparameter
  · next single hsingle =>
    obtain rfl := List.mem_singleton.1 hparameter
    exact .of_target (Node.mem_children_of_childByField? hsingle) hbinding hother fun hhead => absurd hhead hloop
  · cases hlist : node.childByField? "parameters" with
    | none =>
      rw [hlist] at hparameter
      cases hparameter
    | some list =>
      rw [hlist] at hparameter
      have hlistChild := Node.mem_children_of_childByField? hlist
      have hinner : parameter ∈ list.children := Node.mem_children_of_mem_namedChildren hparameter
      have hwalk : declaration.identifier ∈ node.walk :=
        Node.mem_walk_of_mem_children hlistChild
          (Node.mem_walk_of_mem_children hinner (mem_walk_of_mem_bindings hbinding))
      rcases eq_or_inPattern_of_mem_bindings hbinding with hself | hpattern
      · exact ⟨hwalk, list, hself ▸ Node.parent?_of_mem_children hinner,
          .parameter (Node.parent?_of_mem_children hlistChild) hkind scope⟩
      · exact .of_inPattern hwalk hpattern

theorem placed_of_mem_loopHead {node : Node} {declaration : Declaration} (hkind : node.kind = "for_in_statement")
    (h : declaration ∈ loopHead node) : Placed node declaration := by
  have hhead := h
  unfold loopHead at h
  split at h
  · cases h
  · obtain ⟨htarget, -, -⟩ := mem_declareAll.1 h
    obtain ⟨target, hfield, hbinding⟩ := mem_targetsOf htarget
    refine .of_target (Node.mem_children_of_childByField? hfield) hbinding ?_ fun _ => hhead
    rw [hkind]
    decide

/-- A name that a function or class binds is a child of it. -/
theorem placed_of_name {node name scope : Node} {how : String} (h : node.childByField? "name" = some name)
    (kind : node.kind ≠ "variable_declarator") (hloop : node.kind ≠ "for_in_statement") :
    Placed node ⟨name, how, scope⟩ :=
  .of_child (Node.mem_children_of_childByField? h) rfl kind fun hhead => absurd hhead hloop

theorem placed_of_mem_functionName {node : Node} {declaration : Declaration}
    (kind : node.kind ≠ "variable_declarator") (hloop : node.kind ≠ "for_in_statement")
    (h : declaration ∈ functionName node) : Placed node declaration := by
  unfold functionName at h
  split at h
  · cases h
  · next name hname =>
    split at h
    · cases h
    · split at h
      · obtain rfl := List.mem_singleton.1 h
        exact placed_of_name hname kind hloop
      · obtain rfl := List.mem_singleton.1 h
        exact placed_of_name hname kind hloop

theorem placed_of_mem_className {node : Node} {declaration : Declaration}
    (kind : node.kind ≠ "variable_declarator") (hloop : node.kind ≠ "for_in_statement")
    (h : declaration ∈ className node) : Placed node declaration := by
  unfold className at h
  split at h
  · cases h
  · next name hname =>
    obtain rfl := List.mem_singleton.1 h
    exact placed_of_name hname kind hloop

/-- **Every declared identifier stands in one of four ways to the node that declares it.** -/
theorem placed_of_mem_declarationsAt {node : Node} {here : List Declaration} (h : declarationsAt node = .ok here)
    {declaration : Declaration} (hmem : declaration ∈ here) : Placed node declaration := by
  cases declarationsAt_eq_ok_iff.1 h with
  | vars kind =>
    obtain ⟨htarget, -, hscope⟩ := mem_declareAll.1 hmem
    exact placed_of_mem_declaratorTargets htarget fun _ => hscope
  | lexical kind =>
    obtain ⟨htarget, -, -⟩ := mem_declareAll.1 hmem
    refine placed_of_mem_declaratorTargets htarget fun hvar => ?_
    rw [kind] at hvar
    exact absurd hvar (by decide)
  | loop kind => exact placed_of_mem_loopHead kind hmem
  | function kind =>
    rcases List.mem_append.1 hmem with hmem | hmem
    · exact placed_of_mem_functionName (ne_of_mem_of_not_mem kind (by decide))
        (ne_of_mem_of_not_mem kind (by decide)) hmem
    · obtain ⟨htarget, -, hscope⟩ := mem_declareAll.1 hmem
      exact placed_of_mem_parameters kind htarget hscope
  | classes kind =>
    refine placed_of_mem_className ?_ ?_ hmem
    · rcases kind with kind | kind <;> rw [kind] <;> decide
    · rcases kind with kind | kind <;> rw [kind] <;> decide
  | clause kind =>
    obtain ⟨htarget, -, -⟩ := mem_declareAll.1 hmem
    obtain ⟨target, hfield, hbinding⟩ := mem_targetsOf htarget
    refine .of_target (Node.mem_children_of_childByField? hfield) hbinding ?_ fun hloop => ?_
    · rw [kind]
      decide
    · rw [kind] at hloop
      exact absurd hloop (by decide)
  | specifier kind named =>
    obtain rfl := List.mem_singleton.1 hmem
    refine .of_child (Node.mem_children_of_either_field named) rfl ?_ fun hloop => ?_
    · rw [kind]
      decide
    · rw [kind] at hloop
      exact absurd hloop (by decide)
  | imports kind =>
    obtain ⟨htarget, -, -⟩ := mem_declareAll.1 hmem
    have hchild := Node.mem_children_of_mem_namedChildren (List.mem_filter.1 htarget).1
    refine .of_child hchild rfl ?_ fun hloop => ?_
    · rcases kind with kind | kind <;> rw [kind] <;> decide
    · rcases kind with kind | kind <;> rw [kind] at hloop <;> exact absurd hloop (by decide)
  | other _ => cases hmem

/-! ## Collecting -/

theorem declarationsIn_cons {node : Node} {rest : List Node} {declarations : List Declaration} :
    declarationsIn (node :: rest) = .ok declarations ↔
      ∃ here later, declarationsAt node = .ok here ∧ declarationsIn rest = .ok later ∧
        declarations = here ++ later := by
  constructor
  · intro h
    unfold declarationsIn at h
    split at h
    · cases h
    · next here hhere =>
      split at h
      · cases h
      · next later hlater =>
        cases h
        exact ⟨here, later, hhere, hlater, rfl⟩
  · rintro ⟨here, later, hhere, hlater, rfl⟩
    rw [declarationsIn, hhere, hlater]

theorem declarationsIn_append {first second : List Node} {declarations : List Declaration} :
    declarationsIn (first ++ second) = .ok declarations ↔
      ∃ before after, declarationsIn first = .ok before ∧ declarationsIn second = .ok after ∧
        declarations = before ++ after := by
  induction first generalizing declarations with
  | nil =>
    constructor
    · exact fun h => ⟨[], declarations, rfl, h, rfl⟩
    · rintro ⟨before, after, hbefore, hafter, rfl⟩
      obtain rfl := Except.ok.inj hbefore
      exact hafter
  | cons node rest ih =>
    rw [List.cons_append, declarationsIn_cons]
    constructor
    · rintro ⟨here, _, hhere, htogether, rfl⟩
      obtain ⟨later, after, hlater, hafter, rfl⟩ := ih.1 htogether
      have hbefore := declarationsIn_cons.2 ⟨here, later, hhere, hlater, rfl⟩
      exact ⟨here ++ later, after, hbefore, hafter, (List.append_assoc _ _ _).symm⟩
    · rintro ⟨_, after, hbefore, hafter, rfl⟩
      obtain ⟨here, later, hhere, hlater, rfl⟩ := declarationsIn_cons.1 hbefore
      have htogether := ih.2 ⟨later, after, hlater, hafter, rfl⟩
      exact ⟨here, later ++ after, hhere, htogether, List.append_assoc _ _ _⟩

/-- Declarations can be collected unless one of the nodes cannot be read. -/
theorem exists_declarationsIn {nodes : List Node} (h : ∀ node ∈ nodes, ∃ here, declarationsAt node = .ok here) :
    ∃ declarations, declarationsIn nodes = .ok declarations := by
  induction nodes with
  | nil => exact ⟨[], rfl⟩
  | cons node rest ih =>
    obtain ⟨here, hhere⟩ := h node List.mem_cons_self
    obtain ⟨later, hlater⟩ := ih fun other hother => h other (List.mem_cons_of_mem _ hother)
    exact ⟨here ++ later, declarationsIn_cons.2 ⟨here, later, hhere, hlater, rfl⟩⟩

/-- Every collected declaration is made by one of the nodes. -/
theorem exists_of_mem_declarationsIn {nodes : List Node} {declarations : List Declaration}
    (h : declarationsIn nodes = .ok declarations) : ∀ declaration ∈ declarations,
      ∃ node ∈ nodes, ∃ here, declarationsAt node = .ok here ∧ declaration ∈ here := by
  induction nodes generalizing declarations with
  | nil =>
    cases h
    exact fun declaration hmem => nomatch hmem
  | cons node rest ih =>
    obtain ⟨here, later, hhere, hlater, rfl⟩ := declarationsIn_cons.1 h
    intro declaration hmem
    rcases List.mem_append.1 hmem with hmem | hmem
    · exact ⟨node, List.mem_cons_self, here, hhere, hmem⟩
    · obtain ⟨other, hother, found⟩ := ih hlater declaration hmem
      exact ⟨other, List.mem_cons_of_mem _ hother, found⟩

/-- What a node declares is collected. -/
theorem mem_declarationsIn {nodes : List Node} {declarations : List Declaration}
    (h : declarationsIn nodes = .ok declarations) {node : Node} (hnode : node ∈ nodes)
    {here : List Declaration} (hhere : declarationsAt node = .ok here) :
    ∀ declaration ∈ here, declaration ∈ declarations := by
  intro declaration hmem
  obtain ⟨before, after, rfl⟩ := List.append_of_mem hnode
  obtain ⟨first, _, -, hrest, rfl⟩ := declarationsIn_append.1 h
  obtain ⟨same, last, hsame, -, rfl⟩ := declarationsIn_cons.1 hrest
  obtain rfl := Except.ok.inj (hhere.symm.trans hsame)
  exact List.mem_append_right _ (List.mem_append_left _ hmem)

end Scope

end ScriptLint
