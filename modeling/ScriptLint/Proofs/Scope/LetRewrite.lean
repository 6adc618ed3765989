/-
A file in which one `var` has become `let`.

`letKinds` says which kinds change: that of the keyword, and that of the
statement if it is one. The rewritten file declares what the file did, in the
same order and the same scopes, but for the names of the one declaration, which
go from the function around it to `letScope` (`collected_of_letRewrite`).
-/
import ScriptLint.Proofs.Scope.Declaration
import ScriptLint.Proofs.Scope.Rekind

namespace ScriptLint

namespace Scope

/-! ## The rewrite -/

/-- The kinds after one `var` has become `let`, by the numbers of its declaration and keyword. -/
def letKinds (declaration keyword : Nat) : Rekinding := fun id kind =>
  if id = keyword ∧ kind = "var" then "let"
  else if id = declaration ∧ kind = "variable_declaration" then "lexical_declaration"
  else kind

/-- The identifiers that a `var` statement or the head of a loop declares. -/
def boundBy (node : Node) : List Node :=
  if node.kind = "for_in_statement" then targetsOf (node.childByField? "left") else declaratorTargets node

/-- The keyword of a `var` statement or of the head of a loop. -/
def varKeyword? (node : Node) : Option Node :=
  if node.kind = "for_in_statement" then declarationKeyword? node else node.childOfKind? "var"

/-- The scope that `let` would declare the names in. -/
def letScope (node : Node) : Node :=
  if node.kind = "for_in_statement" then node else blockScope node

/-- Whether a node shows a name: a possible use, or an identifier that is declared. -/
def ShowsName (source : Source) (node : Node) : Prop :=
  node.kind ∈ referenceKinds ∨
    ∃ owner ∈ source.root.walk, ∃ here, declarationsAt owner = .ok here ∧
      ∃ declaration ∈ here, declaration.identifier = node

/-- One file is another with `let` for the `var` of a declaration: the kinds of its tree have changed
so, and every name reads as before. -/
structure LetRewrite (before after : Source) (node : Node) : Prop where
  tree : ∃ keyword, varKeyword? node = some keyword ∧
    after.tree = before.tree.rekind (letKinds node.id keyword.id)
  names : ∀ inner ∈ before.root.walk, ShowsName before inner → after.textOf inner = before.textOf inner

/-- A file with new kinds and the same bytes. -/
def Source.rekind (f : Rekinding) (source : Source) : Source := { source with tree := source.tree.rekind f }

theorem letRewrite_rekind {source : Source} {node keyword : Node} (h : varKeyword? node = some keyword) :
    LetRewrite source (Source.rekind (letKinds node.id keyword.id) source) node where
  tree := ⟨keyword, h, rfl⟩
  names _ _ _ := rfl

/-! ## Kinds -/

section Kinds

variable {declaration keyword : Nat}

theorem letKinds_spares (declaration keyword : Nat) : (letKinds declaration keyword).Spares declarationKinds := by
  intro kind hkind id old
  unfold letKinds
  split
  · next h =>
    refine iff_of_false ?_ ?_
    · rintro rfl
      exact hkind (by decide)
    · rintro rfl
      exact hkind (h.2 ▸ by decide)
  · split
    · next h =>
      refine iff_of_false ?_ ?_
      · rintro rfl
        exact hkind (by decide)
      · rintro rfl
        exact hkind (h.2 ▸ by decide)
    · exact Iff.rfl

theorem letKinds_eq_var_iff {id : Nat} {kind : String} :
    letKinds declaration keyword id kind = "var" ↔ kind = "var" ∧ id ≠ keyword := by
  unfold letKinds
  split
  · next h => simp [h.1]
  · next h =>
    split
    · next hstatement => simp [hstatement.2]
    · exact ⟨fun hkind => ⟨hkind, fun hid => h ⟨hid, hkind⟩⟩, fun hkind => hkind.1⟩

theorem letKinds_of_ne {id : Nat} (h : id ≠ declaration) {kind other : String} (hother : other ≠ "let")
    (hvar : other ≠ "var") : letKinds declaration keyword id kind = other ↔ kind = other := by
  unfold letKinds
  split
  · next hkeyword =>
    rw [hkeyword.2]
    exact iff_of_false hother.symm hvar.symm
  · rw [if_neg fun hstatement => h hstatement.1]

theorem keyword_kinds_rekind (node : Node) :
    ["var", "let", "const"].contains (node.rekind (letKinds declaration keyword)).kind =
      ["var", "let", "const"].contains node.kind := by
  rw [Node.kind_rekind]
  unfold letKinds
  split
  · next h =>
    rw [h.2]
    rfl
  · split
    · next h =>
      rw [h.2]
      rfl
    · rfl

theorem declarationKeyword?_rekind (node : Node) :
    declarationKeyword? (node.rekind (letKinds declaration keyword)) =
      (declarationKeyword? node).map (Node.rekind (letKinds declaration keyword)) := by
  unfold declarationKeyword?
  rw [Node.childByField?_rekind, Node.children_rekind, List.find?_map]
  simp only [Function.comp_def, keyword_kinds_rekind]
  cases node.childByField? "kind" <;> rfl

end Kinds

/-! ## What the other nodes declare -/

/-- The identifier and the scope of a declaration. -/
def Declaration.place (declaration : Declaration) : Node × Node := (declaration.identifier, declaration.scope)

/-- The place of a declaration in a tree with new kinds. -/
def Declaration.placeIn (f : Rekinding) (declaration : Declaration) : Node × Node :=
  (declaration.identifier.rekind f, declaration.scope.rekind f)

/-- Declarations with the places that others have in a tree with new kinds. -/
def SamePlaces (f : Rekinding) (before after : List Declaration) : Prop :=
  after.map Declaration.place = before.map (Declaration.placeIn f)

theorem samePlaces_declareAll (f : Rekinding) (identifiers : List Node) (first second : String) (scope : Node) :
    SamePlaces f (declareAll identifiers first scope)
      (declareAll (identifiers.map (Node.rekind f)) second (scope.rekind f)) := by
  simp only [SamePlaces, declareAll, List.map_map]
  rfl

theorem samePlaces_nil (f : Rekinding) : SamePlaces f [] [] := rfl

theorem SamePlaces.append {f : Rekinding} {first second first' second' : List Declaration}
    (hfirst : SamePlaces f first first') (hsecond : SamePlaces f second second') :
    SamePlaces f (first ++ second) (first' ++ second') := by
  unfold SamePlaces at *
  rw [List.map_append, List.map_append, hfirst, hsecond]

section Others

variable {f : Rekinding} (spares : f.Spares declarationKinds)

include spares

theorem samePlaces_functionName {node : Node} (h : node.kind ∈ functionKinds) :
    SamePlaces f (functionName node) (functionName (node.rekind f)) := by
  have apart : ∀ kind ∈ functionKinds, kind ∉ declarationKinds := by decide
  have sameKind : (node.rekind f).kind = node.kind :=
    (Node.kind_rekind_eq_iff spares (apart _ h) node).2 rfl
  unfold functionName
  rw [Node.childByField?_rekind, sameKind]
  cases node.childByField? "name" with
  | none => exact samePlaces_nil f
  | some name =>
    simp only [Option.map_some, blockScope_rekind spares]
    split
    · exact samePlaces_nil f
    · split <;> rfl

theorem samePlaces_className (node : Node) : SamePlaces f (className node) (className (node.rekind f)) := by
  unfold className
  rw [Node.childByField?_rekind]
  cases node.childByField? "name" with
  | none => exact samePlaces_nil f
  | some name =>
    simp only [Option.map_some, blockScope_rekind spares,
      Node.kind_rekind_eq_iff spares (show "class_declaration" ∉ declarationKinds by decide)]
    split <;> rfl

end Others

section Elsewhere

variable {node : Node} {declaration keyword : Nat}

/-- The head of another loop keeps its keyword. -/
theorem samePlaces_loopHead (h : ∀ child ∈ node.children, child.id ≠ keyword) :
    SamePlaces (letKinds declaration keyword) (loopHead node)
      (loopHead (node.rekind (letKinds declaration keyword))) := by
  have spares := letKinds_spares declaration keyword
  unfold loopHead
  rw [declarationKeyword?_rekind]
  cases hkeyword : declarationKeyword? node with
  | none => exact samePlaces_nil _
  | some token =>
    have hother := h token (mem_children_of_declarationKeyword? hkeyword)
    have sameKind : (token.rekind (letKinds declaration keyword)).kind = "var" ↔ token.kind = "var" := by
      rw [Node.kind_rekind, letKinds_eq_var_iff]
      exact and_iff_left hother
    simp only [Option.map_some, Node.childByField?_rekind, targetsOf_rekind spares, functionScope_rekind spares,
      sameKind]
    split <;> exact samePlaces_declareAll _ _ _ _ _

/-- A node that is not the declaration, nor the parent of its keyword, declares what it did. -/
theorem DeclaredBy.rekind (hnode : node.id ≠ declaration)
    (hchildren : ∀ child ∈ node.children, child.id ≠ keyword) {here : List Declaration} (h : DeclaredBy node here) :
    ∃ here', DeclaredBy (node.rekind (letKinds declaration keyword)) here' ∧
      SamePlaces (letKinds declaration keyword) here here' := by
  have spares := letKinds_spares declaration keyword
  have kinds : ∀ kind ≠ "var", kind ≠ "let" →
      ((node.rekind (letKinds declaration keyword)).kind = kind ↔ node.kind = kind) := by
    intro kind hvar hlet
    rw [Node.kind_rekind]
    exact letKinds_of_ne hnode hlet hvar
  cases h with
  | vars kind =>
    refine ⟨_, .vars ((kinds _ (by decide) (by decide)).2 kind), ?_⟩
    rw [declaratorTargets_rekind spares, functionScope_rekind spares]
    exact samePlaces_declareAll _ _ _ _ _
  | lexical kind =>
    refine ⟨_, .lexical ((kinds _ (by decide) (by decide)).2 kind), ?_⟩
    rw [declaratorTargets_rekind spares, blockScope_rekind spares]
    exact samePlaces_declareAll _ _ _ _ _
  | loop kind => exact ⟨_, .loop ((kinds _ (by decide) (by decide)).2 kind), samePlaces_loopHead hchildren⟩
  | function kind =>
    have sameKind : (node.rekind (letKinds declaration keyword)).kind = node.kind :=
      (kinds _ (ne_of_mem_of_not_mem kind (by decide)) (ne_of_mem_of_not_mem kind (by decide))).2 rfl
    refine ⟨_, .function (sameKind ▸ kind), ?_⟩
    rw [parameters_rekind spares, flatMap_bindings_rekind spares]
    exact (samePlaces_functionName spares kind).append (samePlaces_declareAll _ _ _ _ _)
  | classes kind =>
    have either := or_congr (kinds "class_declaration" (by decide) (by decide))
      (kinds "class" (by decide) (by decide))
    exact ⟨_, .classes (either.2 kind), samePlaces_className spares node⟩
  | clause kind =>
    refine ⟨_, .clause ((kinds _ (by decide) (by decide)).2 kind), ?_⟩
    rw [Node.childByField?_rekind, targetsOf_rekind spares]
    exact samePlaces_declareAll _ _ _ _ _
  | @specifier name kind named =>
    refine ⟨[⟨name.rekind (letKinds declaration keyword), "import", _⟩],
      .specifier ((kinds _ (by decide) (by decide)).2 kind) ?_, ?_⟩
    · rw [Node.childByField?_rekind, Node.childByField?_rekind]
      cases halias : node.childByField? "alias" with
      | none =>
        rw [halias] at named
        exact congrArg (Option.map _) named
      | some other =>
        rw [halias] at named
        exact congrArg (Option.map _) named
    · rw [Node.rootOf_rekind]
      rfl
  | imports kind =>
    have either := or_congr (kinds "import_clause" (by decide) (by decide))
      (kinds "namespace_import" (by decide) (by decide))
    refine ⟨_, .imports (either.2 kind), ?_⟩
    rw [Node.namedChildren_rekind spares (by decide), Node.filter_kind_rekind spares (by decide),
      Node.rootOf_rekind]
    exact samePlaces_declareAll _ _ _ _ _
  | other kind =>
    refine ⟨_, .other fun declares => kind ?_, samePlaces_nil _⟩
    have sameKind := (kinds _ (ne_of_mem_of_not_mem declares (by decide))
      (ne_of_mem_of_not_mem declares (by decide))).1 rfl
    rw [sameKind]
    exact declares

theorem declarationsAt_rekind_of_ne (hnode : node.id ≠ declaration)
    (hchildren : ∀ child ∈ node.children, child.id ≠ keyword) {here : List Declaration}
    (h : declarationsAt node = .ok here) :
    ∃ here', declarationsAt (node.rekind (letKinds declaration keyword)) = .ok here' ∧
      SamePlaces (letKinds declaration keyword) here here' := by
  obtain ⟨here', hhere', same⟩ := (declarationsAt_eq_ok_iff.1 h).rekind hnode hchildren
  exact ⟨here', declarationsAt_eq_ok_iff.2 hhere', same⟩

end Elsewhere

/-! ## What the declaration itself declares -/

/-- A `var` statement or loop head with a `var` keyword, which `let` could replace. -/
structure IsVar (node keyword : Node) : Prop where
  kind : node.kind = "variable_declaration" ∨ node.kind = "for_in_statement"
  found : varKeyword? node = some keyword
  isVar : keyword.kind = "var"

theorem IsVar.mem_children {node keyword : Node} (h : IsVar node keyword) : keyword ∈ node.children := by
  have found := h.found
  unfold varKeyword? at found
  split at found
  · exact mem_children_of_declarationKeyword? found
  · exact Node.mem_children_of_childOfKind? found

/-- With `var` the names belong to the function around the declaration. -/
theorem declarationsAt_of_isVar {node keyword : Node} (h : IsVar node keyword) :
    declarationsAt node = .ok (declareAll (boundBy node) "var" (functionScope node)) := by
  have found := h.found
  rw [declarationsAt_eq_ok_iff]
  rcases h.kind with hkind | hkind
  · have hloop : node.kind ≠ "for_in_statement" := by
      rw [hkind]
      decide
    rw [boundBy, if_neg hloop]
    exact .vars hkind
  · rw [varKeyword?, if_pos hkind] at found
    have own : loopHead node = declareAll (boundBy node) "var" (functionScope node) := by
      simp [loopHead, found, boundBy, hkind, h.isVar]
    rw [← own]
    exact .loop hkind

/-- With `let` they belong to the scope of `let`. -/
theorem declarationsAt_rekind_of_isVar {node keyword : Node} (h : IsVar node keyword) :
    ∃ here, declarationsAt (node.rekind (letKinds node.id keyword.id)) = .ok here ∧
      here.map Declaration.place = (boundBy node).map fun identifier =>
        (identifier.rekind (letKinds node.id keyword.id),
          (letScope node).rekind (letKinds node.id keyword.id)) := by
  have spares := letKinds_spares node.id keyword.id
  have found := h.found
  rcases h.kind with hkind | hkind
  · have sameKind : (node.rekind (letKinds node.id keyword.id)).kind = "lexical_declaration" := by
      rw [Node.kind_rekind, hkind]
      simp [letKinds]
    refine ⟨_, declarationsAt_eq_ok_iff.2 (.lexical sameKind), ?_⟩
    simp only [declaratorTargets_rekind spares, blockScope_rekind spares, declareAll, List.map_map, boundBy,
      letScope, hkind]
    rfl
  · have sameKind : (node.rekind (letKinds node.id keyword.id)).kind = "for_in_statement" :=
      (Node.kind_rekind_eq_iff spares (by decide) node).2 hkind
    have notVar : (keyword.rekind (letKinds node.id keyword.id)).kind ≠ "var" := by
      rw [Node.kind_rekind, ne_eq, letKinds_eq_var_iff]
      exact fun hvar => hvar.2 rfl
    unfold varKeyword? at found
    rw [if_pos hkind] at found
    refine ⟨_, declarationsAt_eq_ok_iff.2 (.loop sameKind), ?_⟩
    simp only [loopHead, declarationKeyword?_rekind, found, Option.map_some, notVar, if_false,
      Node.childByField?_rekind, targetsOf_rekind spares, declareAll, List.map_map, boundBy, letScope, hkind,
      if_true]
    rfl

/-! ## What the file declares -/

theorem declarationsIn_rekind_of_ne {declaration keyword : Nat} {nodes : List Node}
    (hnodes : ∀ node ∈ nodes, node.id ≠ declaration ∧ ∀ child ∈ node.children, child.id ≠ keyword)
    {declarations : List Declaration} (h : declarationsIn nodes = .ok declarations) :
    ∃ declarations',
      declarationsIn (nodes.map (Node.rekind (letKinds declaration keyword))) = .ok declarations' ∧
      SamePlaces (letKinds declaration keyword) declarations declarations' := by
  induction nodes generalizing declarations with
  | nil =>
    cases h
    exact ⟨[], rfl, samePlaces_nil _⟩
  | cons node rest ih =>
    obtain ⟨here, later, hhere, hlater, rfl⟩ := declarationsIn_cons.1 h
    obtain ⟨hnode, hchildren⟩ := hnodes node List.mem_cons_self
    obtain ⟨here', hhere', hsame⟩ := declarationsAt_rekind_of_ne hnode hchildren hhere
    obtain ⟨later', hlater', hrest⟩ := ih (fun other hother => hnodes other (List.mem_cons_of_mem _ hother)) hlater
    refine ⟨here' ++ later', ?_, hsame.append hrest⟩
    rw [List.map_cons]
    exact declarationsIn_cons.2 ⟨here', later', hhere', hlater', rfl⟩

/-- **What the rewrite does to declarations.** Those before and after the `var` keep their places, and
its own go from the function around it to the scope of `let`. -/
theorem collected_of_letRewrite {tree : Tree} (distinct : tree.ids.Nodup) {node keyword : Node}
    (hnode : node ∈ (Node.root tree).walk) (hvar : IsVar node keyword) {declarations : List Declaration}
    (h : declarationsIn (Node.root tree).walk = .ok declarations) :
    ∃ first last first' own' last',
      declarations = first ++ declareAll (boundBy node) "var" (functionScope node) ++ last ∧
      declarationsIn (Node.root (tree.rekind (letKinds node.id keyword.id))).walk = .ok (first' ++ own' ++ last') ∧
      SamePlaces (letKinds node.id keyword.id) first first' ∧ SamePlaces (letKinds node.id keyword.id) last last' ∧
      own'.map Declaration.place = (boundBy node).map fun identifier =>
        (identifier.rekind (letKinds node.id keyword.id),
          (letScope node).rekind (letKinds node.id keyword.id)) := by
  obtain ⟨before, after, hwalk⟩ := List.append_of_mem hnode
  have others : ∀ other ∈ before ++ after,
      other.id ≠ node.id ∧ ∀ child ∈ other.children, child.id ≠ keyword.id := by
    intro other hother
    obtain ⟨hmem, hne⟩ := Node.ne_of_mem_rest distinct hwalk hother
    refine ⟨hne, fun child hchild hsame => hne ?_⟩
    rw [Node.eq_of_same_child_id distinct hmem hnode hchild hvar.mem_children hsame]
  rw [hwalk] at h
  obtain ⟨first, _, hfirst, hrest, rfl⟩ := declarationsIn_append.1 h
  obtain ⟨own, last, hown, hlast, rfl⟩ := declarationsIn_cons.1 hrest
  obtain rfl := Except.ok.inj ((declarationsAt_of_isVar hvar).symm.trans hown)
  obtain ⟨first', hfirst', hsameFirst⟩ := declarationsIn_rekind_of_ne
    (fun other hother => others other (List.mem_append_left _ hother)) hfirst
  obtain ⟨last', hlast', hsameLast⟩ := declarationsIn_rekind_of_ne
    (fun other hother => others other (List.mem_append_right _ hother)) hlast
  obtain ⟨own', hown', hplaces⟩ := declarationsAt_rekind_of_isVar hvar
  refine ⟨first, last, first', own', last', (List.append_assoc _ _ _).symm, ?_, hsameFirst, hsameLast, hplaces⟩
  have hroot : Node.root (tree.rekind (letKinds node.id keyword.id)) =
      (Node.root tree).rekind (letKinds node.id keyword.id) := rfl
  rw [hroot, Node.walk_rekind, hwalk, List.map_append, List.map_cons, List.append_assoc]
  have hrest' := declarationsIn_cons.2 ⟨own', last', hown', hlast', rfl⟩
  exact declarationsIn_append.2 ⟨first', own' ++ last', hfirst', hrest', rfl⟩

end Scope

end ScriptLint
