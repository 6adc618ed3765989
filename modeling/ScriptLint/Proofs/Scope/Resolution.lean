/-
Uses of names resolve to the innermost scope that declares them.

The spec speaks of nodes: which of them use a name (`IsUse`), and which scope is
the innermost one around a node that has a name (`Innermost`). The table of a
file enters each use once and nothing else, with the variable of that scope, or
as a use of a global where no scope around it has the name (`Table.Resolves`,
`resolves_of_analyze`). Declarations count wherever they stand in the file.
-/
import ScriptLint.Proofs.Distinct
import ScriptLint.Proofs.Scope.Declaration
import ScriptLint.Proofs.Scope.Table

namespace ScriptLint

namespace Scope

/-! ## What resolution is -/

/-- An identifier that uses its name: one that declares nothing, where names are used. -/
structure IsUse (source : Source) (table : Table) (node : Node) : Prop where
  walk : node ∈ source.root.walk
  kind : node.kind ∈ referenceKinds
  undeclared : ∀ declaration ∈ table.declarations, declaration.identifier ≠ node
  place : isReference node (source.textOf node) = true

/-- Some identifier of the file is declared in a scope with a name. -/
def Table.Binds (source : Source) (table : Table) (name : String) (scope : Node) : Prop :=
  ∃ declaration ∈ table.declarations, declaration.scope = scope ∧ source.textOf declaration.identifier = name

/-- The nearest ancestor of a node with a property. -/
def Innermost (p : Node → Prop) (node scope : Node) : Prop :=
  ∃ inner outer, node.ancestors = inner ++ scope :: outer ∧ p scope ∧ ∀ other ∈ inner, ¬ p other

theorem Innermost.holds {p : Node → Prop} {node scope : Node} (h : Innermost p node scope) : p scope := by
  obtain ⟨_, _, -, hp, -⟩ := h
  exact hp

/-- All uses that a table holds: those of its variables and those of globals. -/
def Table.uses (table : Table) : List Reference := table.vars.flatMap Variable.references ++ table.unresolved

/-- The use that an identifier makes of the name it shows. -/
def useOf (source : Source) (node : Node) : Reference := referenceOf node (source.textOf node)

/-- A table in which every use of a file is resolved to the innermost scope with its name. -/
structure Table.Resolves (source : Source) (table : Table) : Prop where
  /-- The declarations are those of all nodes of the file. -/
  collected : declarationsIn source.root.walk = .ok table.declarations
  /-- Each identifier that uses its name is entered once. -/
  once : ∀ node, IsUse source table node →
    table.uses.filter (·.identifier.id = node.id) = [useOf source node]
  /-- Where some scope around has the name, the use is one of the variable of the innermost. -/
  bound : ∀ node, IsUse source table node →
    (∃ scope ∈ node.ancestors, table.Binds source (source.textOf node) scope) →
    ∃ scope v, Innermost (table.Binds source (source.textOf node)) node scope ∧
      (table.variablesIn scope).filter (·.name = source.textOf node) = [v] ∧
      useOf source node ∈ v.references ∧ table.variableOf? source node = some v
  /-- Elsewhere it is one of a global. -/
  free : ∀ node, IsUse source table node →
    (∀ scope ∈ node.ancestors, ¬ table.Binds source (source.textOf node) scope) →
    useOf source node ∈ table.unresolved ∧ table.variableOf? source node = none
  /-- No other node is entered. -/
  only : ∀ use ∈ table.uses, IsUse source table use.identifier ∧ use = useOf source use.identifier
  /-- Uses stand in document order. -/
  ordered : ∀ v ∈ table.vars, (v.references.map Reference.identifier).Sublist source.root.walk
  orderedGlobals : (table.unresolved.map Reference.identifier).Sublist source.root.walk

/-! ## Scopes and declared identifiers -/

theorem rootOf_mem (node : Node) : node.rootOf ∈ node :: node.ancestors := by
  unfold Node.rootOf
  cases hlast : node.ancestors.getLast? with
  | none => exact List.mem_cons_self
  | some last => exact List.mem_cons_of_mem _ (List.mem_of_getLast? hlast)

/-- A declaration is in the scope of the declaring node itself or of a node around it. -/
theorem scope_mem_of_mem_declarationsAt {node : Node} {here : List Declaration}
    (h : declarationsAt node = .ok here) {declaration : Declaration} (hmem : declaration ∈ here) :
    declaration.scope ∈ node :: node.ancestors := by
  have function := Node.enclosing_mem functionKinds node
  have block := Node.enclosing_mem (blockKinds ++ functionKinds) node
  cases declarationsAt_eq_ok_iff.1 h with
  | vars kind =>
    rw [(mem_declareAll.1 hmem).2.2]
    exact function
  | lexical kind =>
    rw [(mem_declareAll.1 hmem).2.2]
    exact block
  | loop kind =>
    unfold loopHead at hmem
    split at hmem
    · cases hmem
    · rw [(mem_declareAll.1 hmem).2.2]
      split
      · exact function
      · exact List.mem_cons_self
  | function kind =>
    rcases List.mem_append.1 hmem with hmem | hmem
    · unfold functionName at hmem
      split at hmem
      · cases hmem
      split at hmem
      · cases hmem
      split at hmem
      · obtain rfl := List.mem_singleton.1 hmem
        exact block
      · obtain rfl := List.mem_singleton.1 hmem
        exact List.mem_cons_self
    · rw [(mem_declareAll.1 hmem).2.2]
      exact List.mem_cons_self
  | classes kind =>
    unfold className at hmem
    split at hmem
    · cases hmem
    · obtain rfl := List.mem_singleton.1 hmem
      simp only
      split
      · exact block
      · exact List.mem_cons_self
  | clause kind =>
    rw [(mem_declareAll.1 hmem).2.2]
    exact List.mem_cons_self
  | specifier kind named =>
    obtain rfl := List.mem_singleton.1 hmem
    exact rootOf_mem node
  | imports kind =>
    rw [(mem_declareAll.1 hmem).2.2]
    exact rootOf_mem node
  | other _ => cases hmem

section Collected

variable {source : Source} {table : Table}

/-- Declarations are made between nodes of the file. -/
theorem mem_walk_of_mem_declarations (collected : declarationsIn source.root.walk = .ok table.declarations)
    {declaration : Declaration} (h : declaration ∈ table.declarations) :
    declaration.identifier ∈ source.root.walk ∧ declaration.scope ∈ source.root.walk := by
  obtain ⟨owner, howner, here, hhere, hmem⟩ := exists_of_mem_declarationsIn collected declaration h
  refine ⟨Node.walk_subset howner _ (placed_of_mem_declarationsAt hhere hmem).1, ?_⟩
  rcases List.mem_cons.1 (scope_mem_of_mem_declarationsAt hhere hmem) with hself | hancestor
  · rw [hself]
    exact howner
  · exact Node.ancestors_subset_walk owner howner _ hancestor

/-- A node is a use just when collecting uses enters it. -/
theorem mem_usesIn_iff (distinct : source.tree.ids.Nodup)
    (collected : declarationsIn source.root.walk = .ok table.declarations) {use : Reference} :
    use ∈ usesIn source table.declarations ↔
      IsUse source table use.identifier ∧ use = useOf source use.identifier := by
  rw [usesIn, mem_referencesIn_iff]
  constructor
  · rintro ⟨hwalk, huse, hkind, hdeclared, hplace⟩
    refine ⟨⟨hwalk, hkind, fun declaration hdeclaration hsame => hdeclared ?_, hplace⟩, huse⟩
    rw [← hsame]
    exact List.mem_map_of_mem hdeclaration
  · rintro ⟨⟨hwalk, hkind, hdeclared, hplace⟩, huse⟩
    refine ⟨hwalk, huse, hkind, fun hmem => ?_, hplace⟩
    obtain ⟨declaration, hdeclaration, hid⟩ := List.mem_map.1 hmem
    exact hdeclared declaration hdeclaration
      (Node.eq_of_same_id distinct (mem_walk_of_mem_declarations collected hdeclaration).1 hwalk hid)

/-- Uses are entered in document order. -/
theorem map_identifier_referencesIn (declared : List Nat) : ∀ nodes : List Node,
    ((referencesIn source declared nodes).map Reference.identifier).Sublist nodes
  | [] => .slnil
  | node :: rest => by
    have ih := map_identifier_referencesIn declared rest
    unfold referencesIn at ih ⊢
    rw [List.filterMap_cons]
    split
    · exact ih.cons node
    · next use huse =>
      obtain ⟨-, -, rfl⟩ : _ ∧ _ ∧ referenceOf node (source.textOf node) = use := by
        simpa [Option.ite_none_right_eq_some] using huse
      exact ih.cons_cons node

theorem nodup_ids_usesIn (distinct : source.tree.ids.Nodup) (declarations : List Declaration) :
    ((usesIn source declarations).map (·.identifier.id)).Nodup := by
  have hsublist : (((usesIn source declarations).map Reference.identifier).map Node.id).Sublist
      (source.root.walk.map Node.id) := (map_identifier_referencesIn _ source.root.walk).map Node.id
  rw [List.map_map, Node.ids_walk] at hsublist
  exact distinct.sublist hsublist

theorem filter_usesIn (distinct : source.tree.ids.Nodup)
    (collected : declarationsIn source.root.walk = .ok table.declarations) {node : Node}
    (h : IsUse source table node) :
    (usesIn source table.declarations).filter (·.identifier.id = node.id) = [useOf source node] := by
  have hmem : useOf source node ∈ usesIn source table.declarations :=
    (mem_usesIn_iff distinct collected).2 ⟨h, rfl⟩
  exact filter_key_eq_singleton (nodup_ids_usesIn distinct table.declarations) hmem

/-! ## The innermost scope -/

/-- In the file, a scope is what its number says. -/
theorem any_isAt_iff (distinct : source.tree.ids.Nodup)
    (collected : declarationsIn source.root.walk = .ok table.declarations) {name : String} {scope : Node}
    (hscope : scope ∈ source.root.walk) :
    table.declarations.any (·.isAt source scope.id name) = true ↔ table.Binds source name scope := by
  rw [List.any_eq_true]
  constructor
  · rintro ⟨declaration, hdeclaration, hat⟩
    obtain ⟨hid, hname⟩ := Declaration.isAt_iff.1 hat
    have hwalk := (mem_walk_of_mem_declarations collected hdeclaration).2
    exact ⟨declaration, hdeclaration, Node.eq_of_same_id distinct hwalk hscope hid, hname⟩
  · rintro ⟨declaration, hdeclaration, rfl, hname⟩
    exact ⟨declaration, hdeclaration, Declaration.isAt_iff.2 ⟨rfl, hname⟩⟩

/-- Looking a name up finds the innermost scope that has it. -/
theorem scopeFor?_of_innermost (distinct : source.tree.ids.Nodup)
    (collected : declarationsIn source.root.walk = .ok table.declarations) {node scope : Node} {name : String}
    (hnode : node ∈ source.root.walk) (h : Innermost (table.Binds source name) node scope) :
    scopeFor? source table.declarations node name = some scope.id := by
  obtain ⟨inner, outer, hchain, hbinds, hinner⟩ := h
  have hwalk := Node.ancestors_subset_walk node hnode
  rw [hchain] at hwalk
  have hfirst := (any_isAt_iff distinct collected (hwalk scope (by simp))).2 hbinds
  rw [scopeFor?, hchain, List.map_append, List.map_cons, List.find?_append, List.find?_map,
    List.find?_eq_none.2, Option.map_none, Option.none_or, List.find?_cons, hfirst]
  intro other hother hat
  exact hinner other hother ((any_isAt_iff distinct collected (hwalk other (by simp [hother]))).1 hat)

theorem scopeFor?_eq_none (distinct : source.tree.ids.Nodup)
    (collected : declarationsIn source.root.walk = .ok table.declarations) {node : Node} {name : String}
    (hnode : node ∈ source.root.walk) (h : ∀ scope ∈ node.ancestors, ¬ table.Binds source name scope) :
    scopeFor? source table.declarations node name = none := by
  rw [scopeFor?, List.find?_map, Option.map_eq_none_iff, List.find?_eq_none]
  intro scope hscope hat
  have hwalk := Node.ancestors_subset_walk node hnode scope hscope
  exact h scope hscope ((any_isAt_iff distinct collected hwalk).1 hat)

end Collected

/-- Where some ancestor has a property, one of them is the nearest. -/
theorem exists_innermost {p : Node → Prop} {node : Node} (h : ∃ scope ∈ node.ancestors, p scope) :
    ∃ scope, Innermost p node scope := by
  classical
  have hsome : (node.ancestors.find? fun scope => decide (p scope)).isSome = true :=
    List.find?_isSome.2 (by simpa using h)
  obtain ⟨scope, hfind⟩ := Option.isSome_iff_exists.1 hsome
  obtain ⟨hscope, inner, outer, hchain, hinner⟩ := List.find?_eq_some_iff_append.1 hfind
  refine ⟨scope, inner, outer, hchain, of_decide_eq_true hscope, fun other hother hp => ?_⟩
  simpa [hp] using hinner other hother

/-! ## Where a use is entered -/

section Described

variable {source : Source} {table : Table} (describes : table.Describes source)

include describes

/-- Where a name is declared there is a variable. -/
theorem exists_variable_of_binds {name : String} {scope : Node} (h : table.Binds source name scope) :
    ∃ v ∈ table.vars, v.key = (scope.id, name) := by
  obtain ⟨declaration, hdeclaration, rfl, rfl⟩ := h
  exact List.mem_map.1 (describes.complete declaration hdeclaration)

theorem variablesIn_eq_singleton {v : Variable} (hv : v ∈ table.vars) {name : String} {scope : Node}
    (hkey : v.key = (scope.id, name)) : (table.variablesIn scope).filter (·.name = name) = [v] := by
  rw [← filter_key_eq_singleton describes.distinct hv, hkey, Table.variablesIn, List.filter_filter]
  refine List.filter_congr fun other _ => ?_
  rw [Bool.eq_iff_iff]
  simp [Variable.key, and_comm]

section Use

variable (distinct : source.tree.ids.Nodup) {node : Node} (h : IsUse source table node)

include distinct h

/-- A use with a scope is entered with the variable of that scope only. -/
theorem filter_references_of_scope {scope : Nat}
    (hscope : scopeFor? source table.declarations node (source.textOf node) = some scope) {v : Variable}
    (hv : v ∈ table.vars) : v.references.filter (·.identifier.id = node.id) =
      if v.key = (scope, source.textOf node) then [useOf source node] else [] := by
  have hfits : (scopeFor? source table.declarations node (source.textOf node) = some v.scope.id ∧
      v.name = source.textOf node) ↔ v.key = (scope, source.textOf node) := by
    rw [hscope, Option.some.injEq, Variable.key, Prod.mk.injEq, @eq_comm _ scope]
  rw [describes.references v hv, List.filter_comm, filter_usesIn distinct describes.collected h,
    List.filter_cons, List.filter_nil, ← if_congr hfits rfl rfl]
  simp only [decide_eq_true_eq]
  rfl

theorem filter_references_of_no_scope
    (hscope : scopeFor? source table.declarations node (source.textOf node) = none) {v : Variable}
    (hv : v ∈ table.vars) : v.references.filter (·.identifier.id = node.id) = [] := by
  rw [describes.references v hv, List.filter_comm, filter_usesIn distinct describes.collected h]
  refine List.filter_eq_nil_iff.2 fun use huse hfits => ?_
  obtain rfl := List.mem_singleton.1 huse
  have hfound := (of_decide_eq_true hfits).1
  rw [show scopeFor? source table.declarations (useOf source node).identifier (useOf source node).name = none
    from hscope] at hfound
  cases hfound

theorem filter_unresolved : table.unresolved.filter (·.identifier.id = node.id) =
    if (scopeFor? source table.declarations node (source.textOf node)).isNone then [useOf source node] else [] := by
  rw [describes.unresolved, List.filter_comm, filter_usesIn distinct describes.collected h,
    List.filter_cons, List.filter_nil]
  rfl

/-- Where the name is declared around a use, the use is entered with the variable of the innermost
scope and with no other. -/
theorem exists_innermost_variable
    (hbound : ∃ scope ∈ node.ancestors, table.Binds source (source.textOf node) scope) :
    ∃ scope, Innermost (table.Binds source (source.textOf node)) node scope ∧
      scopeFor? source table.declarations node (source.textOf node) = some scope.id ∧
      ∃ v ∈ table.vars, v.key = (scope.id, source.textOf node) ∧ ∀ u ∈ table.vars,
        u.references.filter (·.identifier.id = node.id) = if u.key = v.key then [useOf source node] else [] := by
  obtain ⟨scope, hinnermost⟩ := exists_innermost hbound
  have hscope := scopeFor?_of_innermost distinct describes.collected h.walk hinnermost
  obtain ⟨v, hv, hkey⟩ := exists_variable_of_binds describes hinnermost.holds
  refine ⟨scope, hinnermost, hscope, v, hv, hkey, fun u hu => ?_⟩
  rw [filter_references_of_scope describes distinct h hscope hu, hkey]

/-- A use is entered once. -/
theorem filter_uses : table.uses.filter (·.identifier.id = node.id) = [useOf source node] := by
  rw [Table.uses, List.filter_append, List.filter_flatMap, filter_unresolved describes distinct h]
  by_cases hbound : ∃ scope ∈ node.ancestors, table.Binds source (source.textOf node) scope
  · obtain ⟨scope, -, hscope, v, hv, -, heach⟩ := exists_innermost_variable describes distinct h hbound
    have hothers : ∀ u ∈ table.vars, u.key ≠ v.key → u.references.filter (·.identifier.id = node.id) = [] := by
      intro u hu hne
      rw [heach u hu, if_neg hne]
    rw [flatMap_key_eq describes.distinct hv hothers, heach v hv, if_pos rfl, hscope]
    rfl
  · have hscope := scopeFor?_eq_none distinct describes.collected h.walk
      (fun scope hscope hbinds => hbound ⟨scope, hscope, hbinds⟩)
    have hnowhere : (table.vars.flatMap fun v => v.references.filter (·.identifier.id = node.id)) = [] :=
      List.flatMap_eq_nil_iff.2 fun v hv => filter_references_of_no_scope describes distinct h hscope hv
    rw [hnowhere, hscope]
    rfl

/-- An identifier that is a use is looked up among the uses. -/
theorem variableOf?_of_use : table.variableOf? source node =
    table.vars.find? fun v => v.references.any (·.identifier.id = node.id) := by
  have hundeclared : table.declarations.reverse.find? (·.identifier.id = node.id) = none := by
    refine List.find?_eq_none.2 fun declaration hdeclaration hsame => ?_
    have hmem := List.mem_reverse.1 hdeclaration
    exact h.undeclared declaration hmem (Node.eq_of_same_id distinct
      (mem_walk_of_mem_declarations describes.collected hmem).1 h.walk (of_decide_eq_true hsame))
  rw [Table.variableOf?, Table.indexOf?, hundeclared, List.find?_eq_bind_findIdx?_getElem?]

end Use

end Described

/-- A variable holds a use of a node just when it is found to. -/
theorem any_references_iff {v : Variable} {node : Node} : v.references.any (·.identifier.id = node.id) = true ↔
    v.references.filter (·.identifier.id = node.id) ≠ [] := by
  rw [List.any_eq_true, ne_eq, List.filter_eq_nil_iff]
  simp

/-- A table that describes its file resolves every use. -/
theorem Table.Describes.resolves {source : Source} {table : Table} (describes : table.Describes source)
    (distinct : source.tree.ids.Nodup) : table.Resolves source where
  collected := describes.collected
  once node h := filter_uses describes distinct h
  bound node h hbound := by
    obtain ⟨scope, hinnermost, -, v, hv, hkey, heach⟩ := exists_innermost_variable describes distinct h hbound
    refine ⟨scope, v, hinnermost, variablesIn_eq_singleton describes hv hkey, ?_, ?_⟩
    · have hmem : useOf source node ∈ v.references.filter (·.identifier.id = node.id) := by
        rw [heach v hv, if_pos rfl]
        exact List.mem_singleton_self _
      exact (List.mem_filter.1 hmem).1
    · have hsame : table.vars.filter (fun u => u.references.any (·.identifier.id = node.id)) =
          table.vars.filter (fun u => u.key = v.key) := by
        refine List.filter_congr fun u hu => ?_
        rw [Bool.eq_iff_iff, any_references_iff, heach u hu, decide_eq_true_eq]
        split
        · next hsame => exact iff_of_true (List.cons_ne_nil _ _) hsame
        · next hother => exact iff_of_false (fun hne => hne rfl) hother
      rw [variableOf?_of_use describes distinct h, ← List.head?_filter, hsame,
        filter_key_eq_singleton describes.distinct hv]
      rfl
  free node h hfree := by
    have hscope := scopeFor?_eq_none distinct describes.collected h.walk hfree
    constructor
    · have hmem : useOf source node ∈ table.unresolved.filter (·.identifier.id = node.id) := by
        rw [filter_unresolved describes distinct h, hscope]
        exact List.mem_singleton_self _
      exact (List.mem_filter.1 hmem).1
    · rw [variableOf?_of_use describes distinct h, List.find?_eq_none]
      exact fun v hv hany =>
        any_references_iff.1 hany (filter_references_of_no_scope describes distinct h hscope hv)
  only use huse := by
    rw [← mem_usesIn_iff distinct describes.collected]
    rcases List.mem_append.1 huse with huse | huse
    · obtain ⟨v, hv, huse⟩ := List.mem_flatMap.1 huse
      rw [describes.references v hv] at huse
      exact (List.mem_filter.1 huse).1
    · rw [describes.unresolved] at huse
      exact (List.mem_filter.1 huse).1
  ordered v hv := by
    rw [describes.references v hv]
    exact (List.filter_sublist.map _).trans (map_identifier_referencesIn _ _)
  orderedGlobals := by
    rw [describes.unresolved]
    exact (List.filter_sublist.map _).trans (map_identifier_referencesIn _ _)

/-- **Names resolve to the innermost scope that declares them.** Analysis of a file, whatever its
tree, enters each use once, with the variable of that scope or as a use of a global. It enters
nothing else, and all in document order. -/
theorem resolves_of_analyze (path : Path) (bytes : Bytes) (parsed : ParseTree) {table : Table}
    (h : analyze (.ofParsed path bytes parsed) = .ok table) : table.Resolves (.ofParsed path bytes parsed) :=
  (describes_of_analyze h).resolves (Source.nodup_ids_ofParsed path bytes parsed)

/-- The statement `let e;` at an offset. -/
def letStatement (start : Nat) : ParseTree :=
  .node { kind := "lexical_declaration", start, stop := start + 6 }
    [.node { kind := "let", start, stop := start + 3, named := false, field := some "kind" } [],
     .node { kind := "variable_declarator", start := start + 4, stop := start + 5 }
      [.node { kind := "identifier", start := start + 4, stop := start + 5, field := some "name" } []],
     .node { kind := ";", start := start + 5, stop := start + 6, named := false } []]

/-- The text `let e; { e; let e; }` with its tree. -/
def hoistSource : Source :=
  .ofParsed (.ofString "hoist.js") (Utf8.encode "let e; \x7b e; let e; \x7d")
    (.node { kind := "program", start := 0, stop := 20 }
      [letStatement 0,
       .node { kind := "statement_block", start := 7, stop := 20 }
        [.node { kind := "\x7b", start := 7, stop := 8, named := false } [],
         .node { kind := "expression_statement", start := 9, stop := 11 }
          [.node { kind := "identifier", start := 9, stop := 10 } [],
           .node { kind := ";", start := 10, stop := 11, named := false } []],
         letStatement 12,
         .node { kind := "\x7d", start := 19, stop := 20, named := false } []]])

/-- The use in the block is one of the variable that the block declares after it. -/
theorem resolves_hoistSource :
    analyze hoistSource = .ok (tableOf hoistSource) ∧ (tableOf hoistSource).Resolves hoistSource ∧
      (tableOf hoistSource).vars.map (fun v => (v.scope.kind, v.references.map (·.identifier.start))) =
        [("program", []), ("statement_block", [9])] := by
  have hanalyze : analyze hoistSource = .ok (tableOf hoistSource) := analyze_eq_ok_tableOf (by decide +kernel)
  exact ⟨hanalyze, resolves_of_analyze _ _ _ hanalyze, by decide +kernel⟩

end Scope

end ScriptLint
