/-
The representation invariant of scope tables.

Collecting keeps one variable for each scope and name, in the order in which the
declarations first came to them (`Founded`, kept by each declaration). Where the
identifiers of a variable stand is a fact about nodes: whatever a node declares
is below it, and the scope is the node or around it, so a scope lies strictly
around the identifiers declared in it. `Table.WellFormed` is what the rules rely
on when they take the first identifier of a variable or ask for its scope.
-/
import ScriptLint.Proofs.Scope.Resolution

namespace ScriptLint

namespace Scope

/-! ## Declared identifiers lie below their declaring node -/

/-- What lies around a node lies around everything below it, and so does the node. -/
theorem mem_ancestors_of_mem_children {node child inner : Node} (hchild : child ∈ node.children)
    (h : inner ∈ child.walk) : ∀ outer ∈ node :: node.ancestors, outer ∈ inner.ancestors := by
  refine Node.forall_mem_walk (motive := fun inner => ∀ outer ∈ node :: node.ancestors, outer ∈ inner.ancestors)
    ?_ (fun inner ih deeper hdeeper outer houter => ?_) inner h
  · rw [Node.ancestors_of_mem_children hchild]
    exact fun outer houter => houter
  · rw [Node.ancestors_of_mem_children hdeeper]
    exact List.mem_cons_of_mem _ (ih outer houter)

/-- Whether a node lies below another one, in the walk of one of its children. -/
def Below (node inner : Node) : Prop := ∃ child ∈ node.children, inner ∈ child.walk

theorem below_of_field {node child : Node} {name : String} (h : node.childByField? name = some child) :
    Below node child :=
  ⟨child, Node.mem_children_of_childByField? h, Node.mem_walk_self child⟩

theorem below_of_mem_targetsOf {node identifier : Node} {name : String}
    (h : identifier ∈ targetsOf (node.childByField? name)) : Below node identifier := by
  obtain ⟨target, hfield, hbinding⟩ := mem_targetsOf h
  exact ⟨target, Node.mem_children_of_childByField? hfield, mem_walk_of_mem_bindings hbinding⟩

theorem Below.of_child {node child inner : Node} (hchild : child ∈ node.children) (h : Below child inner) :
    Below node inner := by
  obtain ⟨next, hnext, hinner⟩ := h
  exact ⟨child, hchild, Node.mem_walk_of_mem_children hnext hinner⟩

theorem below_of_mem_declaratorTargets {node identifier : Node} (h : identifier ∈ declaratorTargets node) :
    Below node identifier := by
  obtain ⟨declarator, hdeclarator, htarget⟩ := List.mem_flatMap.1 h
  have hchild := Node.mem_children_of_mem_namedChildren (List.mem_filter.1 hdeclarator).1
  exact .of_child hchild (below_of_mem_targetsOf htarget)

theorem below_of_mem_parameters {node identifier : Node} (h : identifier ∈ (parameters node).flatMap bindings) :
    Below node identifier := by
  obtain ⟨parameter, hparameter, hbinding⟩ := List.mem_flatMap.1 h
  have hwalk := mem_walk_of_mem_bindings hbinding
  unfold parameters at hparameter
  split at hparameter
  · next single hsingle =>
    obtain rfl := List.mem_singleton.1 hparameter
    exact ⟨parameter, Node.mem_children_of_childByField? hsingle, hwalk⟩
  · cases hlist : node.childByField? "parameters" with
    | none =>
      rw [hlist] at hparameter
      cases hparameter
    | some list =>
      rw [hlist] at hparameter
      have hinner : parameter ∈ list.children := Node.mem_children_of_mem_namedChildren hparameter
      exact .of_child (Node.mem_children_of_childByField? hlist) ⟨parameter, hinner, hwalk⟩

/-- Every form of declaration takes its identifiers from below the declaring node. -/
theorem below_of_mem_declarationsAt {node : Node} {here : List Declaration} (h : declarationsAt node = .ok here)
    {declaration : Declaration} (hmem : declaration ∈ here) : Below node declaration.identifier := by
  cases declarationsAt_eq_ok_iff.1 h with
  | vars kind => exact below_of_mem_declaratorTargets (mem_declareAll.1 hmem).1
  | lexical kind => exact below_of_mem_declaratorTargets (mem_declareAll.1 hmem).1
  | loop kind =>
    unfold loopHead at hmem
    split at hmem
    · cases hmem
    · exact below_of_mem_targetsOf (mem_declareAll.1 hmem).1
  | function kind =>
    rcases List.mem_append.1 hmem with hmem | hmem
    · unfold functionName at hmem
      split at hmem
      · cases hmem
      · next name hname =>
        split_ifs at hmem
        · cases hmem
        all_goals
          obtain rfl := List.mem_singleton.1 hmem
          exact below_of_field hname
    · exact below_of_mem_parameters (mem_declareAll.1 hmem).1
  | classes kind =>
    unfold className at hmem
    split at hmem
    · cases hmem
    · next name hname =>
      obtain rfl := List.mem_singleton.1 hmem
      exact below_of_field hname
  | clause kind => exact below_of_mem_targetsOf (mem_declareAll.1 hmem).1
  | specifier kind named =>
    obtain rfl := List.mem_singleton.1 hmem
    exact ⟨_, Node.mem_children_of_either_field named, Node.mem_walk_self _⟩
  | imports kind =>
    have hchild := Node.mem_children_of_mem_namedChildren (List.mem_filter.1 (mem_declareAll.1 hmem).1).1
    exact ⟨_, hchild, Node.mem_walk_self _⟩
  | other _ => cases hmem

/-- **A scope lies strictly around what is declared in it**, whatever the form of the declaration. -/
theorem scope_mem_ancestors_of_mem_declarationsAt {node : Node} {here : List Declaration}
    (h : declarationsAt node = .ok here) {declaration : Declaration} (hmem : declaration ∈ here) :
    declaration.scope ∈ declaration.identifier.ancestors := by
  obtain ⟨child, hchild, hwalk⟩ := below_of_mem_declarationsAt h hmem
  exact mem_ancestors_of_mem_children hchild hwalk _ (scope_mem_of_mem_declarationsAt h hmem)

theorem scope_mem_ancestors_of_mem_declarationsIn {nodes : List Node} {declarations : List Declaration}
    (h : declarationsIn nodes = .ok declarations) {declaration : Declaration} (hmem : declaration ∈ declarations) :
    declaration.scope ∈ declaration.identifier.ancestors := by
  obtain ⟨node, -, here, hhere, hdeclared⟩ := exists_of_mem_declarationsIn h declaration hmem
  exact scope_mem_ancestors_of_mem_declarationsAt hhere hdeclared

/-! ## Variables in the order of their first declarations -/

/-- The scope and the name that a declaration is filed under. -/
def Declaration.key (source : Source) (declaration : Declaration) : Nat × String :=
  (declaration.scope.id, source.textOf declaration.identifier)

/-- Variables in the order of the first declarations under their scopes and names, each with what
that declaration says of it. -/
structure Founded (source : Source) (declarations : List Declaration) (vars : List Variable) : Prop where
  keys : vars.map Variable.key = (declarations.map (Declaration.key source)).eraseDups
  first : ∀ v ∈ vars, ∃ declaration, declarations.find? (·.isAt source v.scope.id v.name) = some declaration ∧
    declaration.kind = v.kind ∧ declaration.scope = v.scope

section Founded

variable {source : Source} {declarations : List Declaration} {vars : List Variable}

theorem founded_nil (source : Source) : Founded source [] [] where
  keys := rfl
  first _ h := nomatch h

/-- One more declaration adds to the variable of its scope and name, or it founds one. -/
theorem Founded.addDeclaration (founded : Founded source declarations vars) (declaration : Declaration) :
    Founded source (declarations ++ [declaration])
      (addDeclaration (source.textOf declaration.identifier) declaration vars) := by
  have kept : ∀ v ∈ vars, ∃ first,
      (declarations ++ [declaration]).find? (·.isAt source v.scope.id v.name) = some first ∧
        first.kind = v.kind ∧ first.scope = v.scope := by
    intro v hv
    obtain ⟨first, hfind, hfirst⟩ := founded.first v hv
    exact ⟨first, by rw [List.find?_append, hfind, Option.some_or], hfirst⟩
  have distinct : (vars.map Variable.key).Nodup := founded.keys ▸ nodup_eraseDups _
  have hdeclared : declaration.key source ∈ vars.map Variable.key ↔
      declaration.key source ∈ declarations.map (Declaration.key source) := by
    rw [founded.keys, List.mem_eraseDups]
  by_cases h : declaration.key source ∈ vars.map Variable.key
  · obtain ⟨hkeys, hall⟩ := addDeclaration_of_mem distinct h
    constructor
    case keys =>
      rw [hkeys, founded.keys, List.map_append, List.map_singleton, eraseDups_concat, if_pos (hdeclared.1 h)]
    case first =>
      intro u hu
      rcases hall u hu with ⟨hmem, -⟩ | ⟨v, hv, -, rfl⟩
      · exact kept u hmem
      · exact kept v hv
  · rw [addDeclaration_of_not_mem h]
    constructor
    case keys =>
      rw [List.map_append, founded.keys, List.map_append, List.map_singleton, List.map_singleton,
        eraseDups_concat, if_neg fun hmem => h (hdeclared.2 hmem)]
      rfl
    case first =>
      intro u hu
      rcases List.mem_append.1 hu with hu | hu
      · exact kept u hu
      · obtain rfl := List.mem_singleton.1 hu
        have hnone : declarations.find?
            (·.isAt source declaration.scope.id (source.textOf declaration.identifier)) = none := by
          refine List.find?_eq_none.2 fun other hother hat => h (hdeclared.2 ?_)
          obtain ⟨hscope, hname⟩ := Declaration.isAt_iff.1 hat
          rw [Declaration.key, ← hscope, ← hname]
          exact List.mem_map_of_mem hother
        refine ⟨declaration, ?_, rfl, rfl⟩
        rw [List.find?_append, hnone, Option.none_or, List.find?_cons, Declaration.isAt_iff.2 ⟨rfl, rfl⟩]

theorem Founded.foldl : ∀ (later : List Declaration) {declarations : List Declaration} {vars : List Variable},
    Founded source declarations vars → Founded source (declarations ++ later)
      (later.foldl (fun vars declaration =>
        Scope.addDeclaration (source.textOf declaration.identifier) declaration vars) vars)
  | [], declarations, _, founded => by
    rw [List.append_nil]
    exact founded
  | declaration :: later, declarations, _, founded => by
    rw [List.foldl_cons, List.append_cons]
    exact Founded.foldl later (founded.addDeclaration declaration)

/-- Entering uses founds no variables. -/
theorem Founded.addReferences (founded : Founded source declarations vars) (references : List Reference) :
    Founded source declarations (references.foldl addReference ⟨vars, [], declarations⟩).vars := by
  constructor
  case keys => rw [keys_foldl_addReference, founded.keys]
  case first =>
    intro v hv
    rw [foldl_addReference] at hv
    obtain ⟨w, hw, rfl⟩ := List.mem_map.1 hv
    exact founded.first w hw

end Founded

theorem founded_of_analyze {source : Source} {table : Table} (h : analyze source = .ok table) :
    Founded source table.declarations table.vars := by
  simp only [analyze] at h
  split at h
  · cases h
  · next declarations hdeclarations =>
    obtain rfl := Except.ok.inj h
    rw [declarations_foldl_addReference]
    exact (Founded.foldl declarations (founded_nil source)).addReferences _

/-! ## The invariant -/

/-- What holds of the table of a file, whatever was declared and used in it. -/
structure Table.WellFormed (source : Source) (table : Table) : Prop where
  /-- One variable at most for a scope and a name. -/
  distinct : (table.vars.map fun v => (v.scope, v.name)).Nodup
  /-- The variables of all scopes, each of them once. -/
  gathered : (source.root.walk.flatMap table.variablesIn).Perm table.vars
  /-- The declarations of all nodes in document order, ... -/
  collected : declarationsIn source.root.walk = .ok table.declarations
  /-- ... and the variables in the order in which these first come to them. -/
  order : table.vars.map Variable.key = (table.declarations.map (Declaration.key source)).eraseDups
  /-- An identifier declares a variable just when some node declares it in that scope. -/
  declaring : ∀ v ∈ table.vars, ∀ identifier, identifier ∈ v.identifiers ↔
    ∃ declaration ∈ table.declarations, declaration.identifier = identifier ∧
      declaration.scope = v.scope ∧ source.textOf identifier = v.name
  /-- There is a first one, which says what the variable is bound as. -/
  founded : ∀ v ∈ table.vars, ∃ declaration ∈ table.declarations,
    v.identifiers.head? = some declaration.identifier ∧ declaration.scope = v.scope ∧ declaration.kind = v.kind
  /-- Uses show the name. -/
  referring : ∀ v ∈ table.vars, ∀ use ∈ v.references, use.name = v.name ∧ source.textOf use.identifier = v.name
  /-- A scope lies strictly around the identifiers declared in it. -/
  around : ∀ v ∈ table.vars, ∀ identifier ∈ v.identifiers, v.scope ∈ identifier.ancestors
  /-- A declared identifier stands for a variable that lists it. -/
  listed : ∀ v ∈ table.vars, ∀ identifier ∈ v.identifiers,
    ∃ u ∈ table.vars, table.variableOf? source identifier = some u ∧ identifier ∈ u.identifiers
  /-- What declares is not a use. -/
  apart : ((table.vars.flatMap Variable.identifiers).map Node.id).Disjoint
    (table.uses.map (·.identifier.id))

section WellFormed

variable {source : Source} {table : Table}

/-- The first identifier of a variable is the one of the declaration that founds it. -/
theorem head?_identifiersAt {declarations : List Declaration} {scope : Nat} {name : String} :
    (identifiersAt source declarations scope name).head? =
      (declarations.find? (·.isAt source scope name)).map Declaration.identifier := by
  rw [identifiersAt, List.head?_map, List.head?_filter]

theorem scope_mem_walk (describes : table.Describes source)
    (founded : Founded source table.declarations table.vars) {v : Variable} (hv : v ∈ table.vars) :
    v.scope ∈ source.root.walk := by
  obtain ⟨declaration, hfind, -, hscope⟩ := founded.first v hv
  rw [← hscope]
  exact (mem_walk_of_mem_declarations describes.collected (List.mem_of_find?_eq_some hfind)).2

/-- A variable lists what is declared under its scope and name. -/
theorem mem_identifiers_of_key (describes : table.Describes source) {v : Variable} (hv : v ∈ table.vars)
    {declaration : Declaration} (h : declaration ∈ table.declarations) (hkey : v.key = declaration.key source) :
    declaration.identifier ∈ v.identifiers := by
  rw [describes.identifiers v hv]
  obtain ⟨hscope, hname⟩ := Prod.mk.inj hkey
  exact List.mem_map_of_mem (List.mem_filter.2 ⟨h, Declaration.isAt_iff.2 ⟨hscope.symm, hname.symm⟩⟩)

/-- A variable has a first identifier, of the declaration that founds it. -/
theorem exists_founding (describes : table.Describes source) (founded : Founded source table.declarations table.vars)
    {v : Variable} (hv : v ∈ table.vars) : ∃ declaration ∈ table.declarations,
      v.identifiers.head? = some declaration.identifier ∧ declaration.scope = v.scope ∧ declaration.kind = v.kind := by
  obtain ⟨declaration, hfind, hkind, hscope⟩ := founded.first v hv
  refine ⟨declaration, List.mem_of_find?_eq_some hfind, ?_, hscope, hkind⟩
  rw [describes.identifiers v hv, head?_identifiersAt, hfind, Option.map_some]

variable (distinct : source.tree.ids.Nodup) (describes : table.Describes source)

include distinct describes

theorem mem_identifiers_iff (founded : Founded source table.declarations table.vars) {v : Variable}
    (hv : v ∈ table.vars) {identifier : Node} : identifier ∈ v.identifiers ↔
      ∃ declaration ∈ table.declarations, declaration.identifier = identifier ∧
        declaration.scope = v.scope ∧ source.textOf identifier = v.name := by
  constructor
  · intro h
    rw [describes.identifiers v hv, identifiersAt] at h
    obtain ⟨declaration, hmem, rfl⟩ := List.mem_map.1 h
    obtain ⟨hdeclaration, hat⟩ := List.mem_filter.1 hmem
    obtain ⟨hid, hname⟩ := Declaration.isAt_iff.1 hat
    have hwalk := (mem_walk_of_mem_declarations describes.collected hdeclaration).2
    exact ⟨declaration, hdeclaration, rfl,
      Node.eq_of_same_id distinct hwalk (scope_mem_walk describes founded hv) hid, hname⟩
  · rintro ⟨declaration, hdeclaration, rfl, hscope, hname⟩
    refine mem_identifiers_of_key describes hv hdeclaration ?_
    rw [Variable.key, Declaration.key, hscope, hname]

/-- A declared identifier stands for the variable of the last declaration with it. -/
theorem exists_variableOf?_of_declared {declaration : Declaration} (h : declaration ∈ table.declarations) :
    ∃ v ∈ table.vars, table.variableOf? source declaration.identifier = some v ∧
      declaration.identifier ∈ v.identifiers := by
  obtain ⟨last, hlast⟩ : ∃ last, table.declarations.reverse.find? (·.identifier.id = declaration.identifier.id) =
      some last :=
    Option.isSome_iff_exists.1 (List.find?_isSome.2 ⟨declaration, List.mem_reverse.2 h, decide_eq_true rfl⟩)
  have hmem : last ∈ table.declarations := List.mem_reverse.1 (List.mem_of_find?_eq_some hlast)
  have hid : last.identifier.id = declaration.identifier.id := by simpa using List.find?_some hlast
  have hsame : last.identifier = declaration.identifier :=
    Node.eq_of_same_id distinct (mem_walk_of_mem_declarations describes.collected hmem).1
      (mem_walk_of_mem_declarations describes.collected h).1 hid
  obtain ⟨u, hu, hkey⟩ := List.mem_map.1 (describes.complete last hmem)
  obtain ⟨v, hv⟩ : ∃ v, table.vars.find? (·.isAt last.scope.id (source.textOf last.identifier)) = some v :=
    Option.isSome_iff_exists.1 (List.find?_isSome.2 ⟨u, hu, Variable.isAt_iff.2 hkey⟩)
  have hat : v.isAt last.scope.id (source.textOf last.identifier) = true := by simpa using List.find?_some hv
  rw [← hsame]
  refine ⟨v, List.mem_of_find?_eq_some hv, ?_,
    mem_identifiers_of_key describes (List.mem_of_find?_eq_some hv) hmem (Variable.isAt_iff.1 hat)⟩
  rw [hsame, Table.variableOf?, Table.indexOf?, hlast, ← List.find?_eq_bind_findIdx?_getElem?, ← hsame]
  exact hv

/-- Declared identifiers and uses are different nodes. -/
theorem identifier_id_ne_of_mem_uses {declaration : Declaration} (h : declaration ∈ table.declarations)
    {use : Reference} (huse : use ∈ table.uses) : declaration.identifier.id ≠ use.identifier.id := by
  intro hsame
  have hisUse := ((describes.resolves distinct).only use huse).1
  exact hisUse.undeclared declaration h (Node.eq_of_same_id distinct
    (mem_walk_of_mem_declarations describes.collected h).1 hisUse.walk hsame)

theorem Founded.wellFormed (founded : Founded source table.declarations table.vars) : table.WellFormed source where
  distinct := by
    refine List.Nodup.of_map (fun place : Node × String => (place.1.id, place.2)) ?_
    rw [List.map_map]
    exact describes.distinct
  gathered := by
    have hids : source.root.walk.map Node.id = source.tree.ids := Node.ids_walk source.root
    have hscopes : source.root.walk.flatMap table.variablesIn =
        source.tree.ids.flatMap fun k => table.vars.filter fun v => v.scope.id = k := by
      rw [← hids, List.flatMap_map]
      rfl
    rw [hscopes]
    refine (perm_flatMap_filter_key distinct fun v hv => ?_).symm
    rw [← hids]
    exact List.mem_map_of_mem (scope_mem_walk describes founded hv)
  collected := describes.collected
  order := founded.keys
  declaring v hv identifier := mem_identifiers_iff distinct describes founded hv
  founded v hv := exists_founding describes founded hv
  referring v hv use huse := by
    have hname : v.name = use.name := by
      rw [describes.references v hv] at huse
      exact (of_decide_eq_true (List.mem_filter.1 huse).2).2
    have huses : use ∈ table.uses := List.mem_append_left _ (List.mem_flatMap.2 ⟨v, hv, huse⟩)
    have hshown : use = useOf source use.identifier := ((describes.resolves distinct).only use huses).2
    rw [hname]
    exact ⟨rfl, (congrArg Reference.name hshown).symm⟩
  around v hv identifier hidentifier := by
    obtain ⟨declaration, hdeclaration, rfl, hscope, -⟩ :=
      (mem_identifiers_iff distinct describes founded hv).1 hidentifier
    rw [← hscope]
    exact scope_mem_ancestors_of_mem_declarationsIn describes.collected hdeclaration
  listed v hv identifier hidentifier := by
    obtain ⟨declaration, hdeclaration, rfl, -⟩ := (mem_identifiers_iff distinct describes founded hv).1 hidentifier
    exact exists_variableOf?_of_declared distinct describes hdeclaration
  apart := by
    intro id hdeclared hused
    obtain ⟨identifier, hidentifier, rfl⟩ := List.mem_map.1 hdeclared
    obtain ⟨v, hv, hidentifier⟩ := List.mem_flatMap.1 hidentifier
    obtain ⟨use, huse, hsame⟩ := List.mem_map.1 hused
    obtain ⟨declaration, hdeclaration, rfl, -⟩ := (mem_identifiers_iff distinct describes founded hv).1 hidentifier
    exact identifier_id_ne_of_mem_uses distinct describes hdeclaration huse hsame.symm

end WellFormed

end Scope

end ScriptLint
