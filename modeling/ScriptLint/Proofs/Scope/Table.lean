/-
What a scope table says, in terms of the declarations and uses it was made from.

`Records` is the invariant of collecting declarations: one variable for each
scope and name, with the identifiers declared there in document order. Uses are
entered with the scope that `scopeFor?` finds, the innermost one around them
that declares their name anywhere in the file. `Table.Describes` puts both
together, and `describes_of_analyze` says that analysis gives such a table.
-/
import ScriptLint.Proofs.Tree.Walk
import ScriptLint.Scope.Table

namespace ScriptLint

namespace Scope

/-- Whether a declaration binds a name in the scope with a number. -/
def Declaration.isAt (source : Source) (declaration : Declaration) (scope : Nat) (name : String) : Bool :=
  declaration.scope.id == scope && source.textOf declaration.identifier == name

/-- The scope and the name that a variable is filed under. -/
def Variable.key (v : Variable) : Nat × String := (v.scope.id, v.name)

theorem Variable.isAt_iff {v : Variable} {scope : Nat} {name : String} :
    v.isAt scope name = true ↔ v.key = (scope, name) := by
  simp [Variable.isAt, Variable.key]

theorem Declaration.isAt_iff {source : Source} {declaration : Declaration} {scope : Nat} {name : String} :
    declaration.isAt source scope name = true ↔
      declaration.scope.id = scope ∧ source.textOf declaration.identifier = name := by
  simp [Declaration.isAt]

/-- The identifiers declared under a scope and a name, in document order. -/
def identifiersAt (source : Source) (declarations : List Declaration) (scope : Nat) (name : String) : List Node :=
  (declarations.filter (·.isAt source scope name)).map Declaration.identifier

/-! ## Collecting declarations -/

section Adding

variable {name : String} {declaration : Declaration}

/-- Adding a declaration under a new scope and name puts a new variable last. -/
theorem addDeclaration_of_not_mem : ∀ {vars : List Variable},
    (declaration.scope.id, name) ∉ vars.map Variable.key → addDeclaration name declaration vars =
      vars ++ [⟨name, declaration.kind, declaration.scope, [declaration.identifier], []⟩]
  | [], _ => rfl
  | v :: rest, h => by
    rw [List.map_cons, List.mem_cons, not_or] at h
    unfold addDeclaration
    rw [if_neg fun hat => h.1 (Variable.isAt_iff.1 hat).symm, addDeclaration_of_not_mem h.2, List.cons_append]

/-- Under a scope and name with a variable it keeps the list of variables, but for one identifier
more in that variable. -/
theorem addDeclaration_of_mem : ∀ {vars : List Variable}, (vars.map Variable.key).Nodup →
    (declaration.scope.id, name) ∈ vars.map Variable.key →
      (addDeclaration name declaration vars).map Variable.key = vars.map Variable.key ∧
      ∀ u ∈ addDeclaration name declaration vars, (u ∈ vars ∧ u.key ≠ (declaration.scope.id, name)) ∨
        ∃ v ∈ vars, v.key = (declaration.scope.id, name) ∧
          u = { v with identifiers := v.identifiers ++ [declaration.identifier] }
  | [], _, h => by cases h
  | v :: rest, distinct, h => by
    rw [List.map_cons, List.nodup_cons] at distinct
    unfold addDeclaration
    split
    · next hat =>
      have hkey := Variable.isAt_iff.1 hat
      refine ⟨rfl, fun u hu => ?_⟩
      rcases List.mem_cons.1 hu with rfl | hu
      · exact .inr ⟨v, List.mem_cons_self, hkey, rfl⟩
      · refine .inl ⟨List.mem_cons_of_mem _ hu, fun hsame => distinct.1 ?_⟩
        rw [hkey, ← hsame]
        exact List.mem_map_of_mem hu
    · next hat =>
      have hne : v.key ≠ (declaration.scope.id, name) := fun hkey => hat (Variable.isAt_iff.2 hkey)
      have hrest : (declaration.scope.id, name) ∈ rest.map Variable.key := by
        rcases List.mem_cons.1 h with hsame | hrest
        · exact absurd hsame.symm hne
        · exact hrest
      obtain ⟨hkeys, hall⟩ := addDeclaration_of_mem distinct.2 hrest
      refine ⟨by rw [List.map_cons, hkeys, List.map_cons], fun u hu => ?_⟩
      rcases List.mem_cons.1 hu with rfl | hu
      · exact .inl ⟨List.mem_cons_self, hne⟩
      · rcases hall u hu with ⟨hmem, hother⟩ | ⟨w, hw, hsame, rfl⟩
        · exact .inl ⟨List.mem_cons_of_mem _ hmem, hother⟩
        · exact .inr ⟨w, List.mem_cons_of_mem _ hw, hsame, rfl⟩

end Adding

/-- Variables made from declarations: one for each scope and name that is declared, with the
identifiers declared there. -/
structure Records (source : Source) (declarations : List Declaration) (vars : List Variable) : Prop where
  distinct : (vars.map Variable.key).Nodup
  identifiers : ∀ v ∈ vars, v.identifiers = identifiersAt source declarations v.scope.id v.name
  declared : ∀ v ∈ vars, v.identifiers ≠ []
  complete : ∀ declaration ∈ declarations,
    (declaration.scope.id, source.textOf declaration.identifier) ∈ vars.map Variable.key
  unused : ∀ v ∈ vars, v.references = []

section Records

variable {source : Source} {declarations : List Declaration} {vars : List Variable}

theorem identifiersAt_append (first second : List Declaration) (scope : Nat) (name : String) :
    identifiersAt source (first ++ second) scope name =
      identifiersAt source first scope name ++ identifiersAt source second scope name := by
  simp only [identifiersAt, List.filter_append, List.map_append]

theorem identifiersAt_singleton_self (declaration : Declaration) :
    identifiersAt source [declaration] declaration.scope.id (source.textOf declaration.identifier) =
      [declaration.identifier] := by
  simp [identifiersAt, Declaration.isAt]

theorem identifiersAt_singleton_other {declaration : Declaration} {scope : Nat} {name : String}
    (h : (scope, name) ≠ (declaration.scope.id, source.textOf declaration.identifier)) :
    identifiersAt source [declaration] scope name = [] := by
  have hother : ¬ declaration.isAt source scope name = true := by
    intro hat
    obtain ⟨rfl, rfl⟩ := Declaration.isAt_iff.1 hat
    exact h rfl
  simp [identifiersAt, hother]

/-- Nothing is declared where no variable is. -/
theorem Records.identifiersAt_eq_nil (records : Records source declarations vars) {scope : Nat} {name : String}
    (h : (scope, name) ∉ vars.map Variable.key) : identifiersAt source declarations scope name = [] := by
  refine List.map_eq_nil_iff.2 (List.filter_eq_nil_iff.2 fun declaration hdeclaration hat => h ?_)
  obtain ⟨rfl, rfl⟩ := Declaration.isAt_iff.1 hat
  exact records.complete declaration hdeclaration

theorem records_nil (source : Source) : Records source [] [] where
  distinct := List.nodup_nil
  identifiers _ h := nomatch h
  declared _ h := nomatch h
  complete _ h := nomatch h
  unused _ h := nomatch h

/-- One more declaration. -/
theorem Records.addDeclaration (records : Records source declarations vars) (declaration : Declaration) :
    Records source (declarations ++ [declaration])
      (addDeclaration (source.textOf declaration.identifier) declaration vars) := by
  have kept : ∀ u ∈ vars, u.key ≠ (declaration.scope.id, source.textOf declaration.identifier) →
      u.identifiers = identifiersAt source (declarations ++ [declaration]) u.scope.id u.name := by
    intro u hu hother
    rw [identifiersAt_append, identifiersAt_singleton_other hother, List.append_nil]
    exact records.identifiers u hu
  by_cases h : (declaration.scope.id, source.textOf declaration.identifier) ∈ vars.map Variable.key
  · obtain ⟨hkeys, hall⟩ := addDeclaration_of_mem records.distinct h
    constructor
    case distinct =>
      rw [hkeys]
      exact records.distinct
    case identifiers =>
      intro u hu
      rcases hall u hu with ⟨hmem, hother⟩ | ⟨v, hv, hkey, rfl⟩
      · exact kept u hmem hother
      · have hscope : v.scope.id = declaration.scope.id := congrArg Prod.fst hkey
        have hname : v.name = source.textOf declaration.identifier := congrArg Prod.snd hkey
        rw [identifiersAt_append, records.identifiers v hv, hscope, hname, identifiersAt_singleton_self]
    case declared =>
      intro u hu
      rcases hall u hu with ⟨hmem, -⟩ | ⟨v, hv, -, rfl⟩
      · exact records.declared u hmem
      · exact List.append_ne_nil_of_right_ne_nil _ (List.cons_ne_nil _ _)
    case complete =>
      intro other hother
      rw [hkeys]
      rcases List.mem_append.1 hother with hother | hother
      · exact records.complete other hother
      · obtain rfl := List.mem_singleton.1 hother
        exact h
    case unused =>
      intro u hu
      rcases hall u hu with ⟨hmem, -⟩ | ⟨v, hv, -, rfl⟩
      · exact records.unused u hmem
      · exact records.unused v hv
  · rw [addDeclaration_of_not_mem h]
    have others : ∀ u ∈ vars, u.key ≠ (declaration.scope.id, source.textOf declaration.identifier) :=
      fun u hu hsame => h (hsame ▸ List.mem_map_of_mem hu)
    constructor
    case distinct =>
      rw [List.map_append, List.nodup_append]
      refine ⟨records.distinct, by simp, fun key hmem other hother => ?_⟩
      obtain rfl := List.mem_singleton.1 hother
      rintro rfl
      exact h hmem
    case identifiers =>
      intro u hu
      rcases List.mem_append.1 hu with hu | hu
      · exact kept u hu (others u hu)
      · obtain rfl := List.mem_singleton.1 hu
        rw [identifiersAt_append, records.identifiersAt_eq_nil h, identifiersAt_singleton_self]
        rfl
    case declared =>
      intro u hu
      rcases List.mem_append.1 hu with hu | hu
      · exact records.declared u hu
      · obtain rfl := List.mem_singleton.1 hu
        exact List.cons_ne_nil _ _
    case complete =>
      intro other hother
      rw [List.map_append]
      rcases List.mem_append.1 hother with hother | hother
      · exact List.mem_append_left _ (records.complete other hother)
      · obtain rfl := List.mem_singleton.1 hother
        exact List.mem_append_right _ List.mem_cons_self
    case unused =>
      intro u hu
      rcases List.mem_append.1 hu with hu | hu
      · exact records.unused u hu
      · obtain rfl := List.mem_singleton.1 hu
        rfl

theorem Records.foldl : ∀ (later : List Declaration) {declarations : List Declaration} {vars : List Variable},
    Records source declarations vars → Records source (declarations ++ later)
      (later.foldl (fun vars declaration =>
        Scope.addDeclaration (source.textOf declaration.identifier) declaration vars) vars)
  | [], declarations, _, records => by
    rw [List.append_nil]
    exact records
  | declaration :: later, declarations, _, records => by
    rw [List.foldl_cons, List.append_cons]
    exact Records.foldl later (records.addDeclaration declaration)

end Records

/-! ## Entering uses -/

/-- The number of the innermost scope around an identifier that some declaration binds a name in. -/
def scopeFor? (source : Source) (declarations : List Declaration) (identifier : Node) (name : String) :
    Option Nat :=
  (identifier.ancestors.map Node.id).find? fun scope => declarations.any (·.isAt source scope name)

/-- Whether a use was resolved to a variable. -/
def Variable.answers (vars : List Variable) (v : Variable) (reference : Reference) : Bool :=
  (resolve? vars reference.identifier reference.name).any (v.isAt · reference.name)

theorem isAt_any_eq {source : Source} {declarations : List Declaration} {vars : List Variable}
    (records : Records source declarations vars) (scope : Nat) (name : String) :
    vars.any (·.isAt scope name) = declarations.any (·.isAt source scope name) := by
  refine Bool.eq_iff_iff.2 ?_
  rw [List.any_eq_true, List.any_eq_true]
  constructor
  · rintro ⟨v, hv, hat⟩
    obtain ⟨rfl, rfl⟩ := Prod.mk.inj (Variable.isAt_iff.1 hat)
    have hsome := records.declared v hv
    rw [records.identifiers v hv, identifiersAt, ne_eq, List.map_eq_nil_iff] at hsome
    obtain ⟨declaration, hmem⟩ := List.exists_mem_of_ne_nil _ hsome
    obtain ⟨hdeclaration, hat⟩ := List.mem_filter.1 hmem
    exact ⟨declaration, hdeclaration, hat⟩
  · rintro ⟨declaration, hdeclaration, hat⟩
    obtain ⟨rfl, rfl⟩ := Declaration.isAt_iff.1 hat
    obtain ⟨v, hv, hkey⟩ := List.mem_map.1 (records.complete declaration hdeclaration)
    exact ⟨v, hv, Variable.isAt_iff.2 hkey⟩

theorem resolve?_eq_scopeFor? {source : Source} {declarations : List Declaration} {vars : List Variable}
    (records : Records source declarations vars) (identifier : Node) (name : String) :
    resolve? vars identifier name = scopeFor? source declarations identifier name := by
  simp only [resolve?, scopeFor?, isAt_any_eq records, List.find?_map, Function.comp_def]

/-- Looking a name up depends on the scopes and names of the variables alone. -/
theorem resolve?_map {g : Variable → Variable} (h : ∀ v, (g v).key = v.key) (vars : List Variable)
    (identifier : Node) (name : String) :
    resolve? (vars.map g) identifier name = resolve? vars identifier name := by
  have same : ∀ v scope, (g v).isAt scope name = v.isAt scope name := by
    intro v scope
    rw [Bool.eq_iff_iff, Variable.isAt_iff, Variable.isAt_iff, h]
  simp only [resolve?, List.any_map, Function.comp_def, same]

theorem Variable.answers_map {g : Variable → Variable} (h : ∀ v, (g v).key = v.key) (vars : List Variable)
    (v : Variable) : (g v).answers (vars.map g) = v.answers vars := by
  funext reference
  have same : ∀ scope, (g v).isAt scope reference.name = v.isAt scope reference.name := by
    intro scope
    rw [Bool.eq_iff_iff, Variable.isAt_iff, Variable.isAt_iff, h]
  simp only [Variable.answers, resolve?_map h, same]

/-- Every variable gets the uses that were resolved to it, in their order, and the other uses are
those of globals. -/
theorem foldl_addReference : ∀ (references : List Reference) (table : Table),
    references.foldl addReference table =
      ⟨table.vars.map fun v =>
          { v with references := v.references ++ references.filter (v.answers table.vars) },
        table.unresolved ++ references.filter fun reference =>
          (resolve? table.vars reference.identifier reference.name).isNone,
        table.declarations⟩
  | [], table => by simp
  | reference :: rest, table => by
    rw [List.foldl_cons, foldl_addReference rest]
    unfold addReference
    cases hresolve : resolve? table.vars reference.identifier reference.name with
    | none =>
      have unanswered : ∀ v : Variable, v.answers table.vars reference = false := by
        intro v
        rw [Variable.answers, hresolve]
        rfl
      simp [hresolve, unanswered]
    | some scope =>
      have answered : ∀ v : Variable, v.answers table.vars reference = v.isAt scope reference.name := by
        intro v
        rw [Variable.answers, hresolve]
        rfl
      have sameKey : ∀ v : Variable, (if v.isAt scope reference.name then
          { v with references := v.references ++ [reference] } else v).key = v.key := by
        intro v
        split <;> rfl
      simp only [resolve?_map sameKey, List.map_map, List.filter_cons, hresolve, answered, Option.isNone_some,
        Bool.false_eq_true, if_false, Table.mk.injEq, and_true]
      refine List.map_congr_left fun v _ => ?_
      simp only [Function.comp_apply, Variable.answers_map sameKey]
      split
      · simp only [List.append_assoc, List.singleton_append]
      · rfl

theorem keys_foldl_addReference (references : List Reference) (table : Table) :
    (references.foldl addReference table).vars.map Variable.key = table.vars.map Variable.key := by
  rw [foldl_addReference, List.map_map]
  rfl

theorem declarations_foldl_addReference (references : List Reference) (table : Table) :
    (references.foldl addReference table).declarations = table.declarations := by
  rw [foldl_addReference]

/-! ## The table of a file -/

/-- The identifiers of a file that use a name, with declarations that say which are not uses. -/
def usesIn (source : Source) (declarations : List Declaration) : List Reference :=
  referencesIn source (declarations.map (·.identifier.id)) source.root.walk

theorem mem_referencesIn_iff {source : Source} {declared : List Nat} {nodes : List Node} {use : Reference} :
    use ∈ referencesIn source declared nodes ↔
      use.identifier ∈ nodes ∧ use = referenceOf use.identifier (source.textOf use.identifier) ∧
        use.identifier.kind ∈ referenceKinds ∧ use.identifier.id ∉ declared ∧
        isReference use.identifier (source.textOf use.identifier) = true := by
  simp only [referencesIn, List.mem_filterMap, Option.ite_none_right_eq_some, Option.some.injEq,
    Bool.and_eq_true, Bool.not_eq_true', List.contains_eq_mem, decide_eq_true_eq, decide_eq_false_iff_not]
  constructor
  · rintro ⟨node, hnode, ⟨hkind, hdeclared⟩, hplace, rfl⟩
    exact ⟨hnode, rfl, hkind, hdeclared, hplace⟩
  · rintro ⟨hnode, huse, hkind, hdeclared, hplace⟩
    exact ⟨use.identifier, hnode, ⟨hkind, hdeclared⟩, hplace, huse.symm⟩

/-- A table that holds what was declared and used in a file. -/
structure Table.Describes (source : Source) (table : Table) : Prop where
  collected : declarationsIn source.root.walk = .ok table.declarations
  distinct : (table.vars.map Variable.key).Nodup
  declared : ∀ v ∈ table.vars, v.identifiers ≠ []
  identifiers : ∀ v ∈ table.vars, v.identifiers = identifiersAt source table.declarations v.scope.id v.name
  complete : ∀ declaration ∈ table.declarations,
    (declaration.scope.id, source.textOf declaration.identifier) ∈ table.vars.map Variable.key
  references : ∀ v ∈ table.vars, v.references = (usesIn source table.declarations).filter fun use =>
    scopeFor? source table.declarations use.identifier use.name = some v.scope.id ∧ v.name = use.name
  unresolved : table.unresolved = (usesIn source table.declarations).filter fun use =>
    (scopeFor? source table.declarations use.identifier use.name).isNone

theorem Records.describes {source : Source} {declarations : List Declaration} {vars : List Variable}
    (records : Records source declarations vars)
    (hdeclarations : declarationsIn source.root.walk = .ok declarations) :
    ((usesIn source declarations).foldl addReference ⟨vars, [], declarations⟩).Describes source := by
  rw [foldl_addReference]
  constructor
  case collected => exact hdeclarations
  case distinct =>
    rw [List.map_map]
    exact records.distinct
  case declared =>
    intro v hv
    obtain ⟨w, hw, rfl⟩ := List.mem_map.1 hv
    exact records.declared w hw
  case identifiers =>
    intro v hv
    obtain ⟨w, hw, rfl⟩ := List.mem_map.1 hv
    exact records.identifiers w hw
  case complete =>
    intro declaration hdeclaration
    rw [List.map_map]
    exact records.complete declaration hdeclaration
  case references =>
    intro v hv
    obtain ⟨w, hw, rfl⟩ := List.mem_map.1 hv
    rw [records.unused w hw, List.nil_append]
    refine List.filter_congr fun use _ => ?_
    rw [Variable.answers, resolve?_eq_scopeFor? records]
    cases scopeFor? source declarations use.identifier use.name with
    | none => simp
    | some scope =>
      rw [Bool.eq_iff_iff]
      simp only [Option.any_some, Variable.isAt, Bool.and_eq_true, beq_iff_eq, decide_eq_true_eq,
        Option.some.injEq]
      exact ⟨fun h => ⟨h.1.symm, h.2⟩, fun h => ⟨h.1.symm, h.2⟩⟩
  case unresolved => simp only [List.nil_append, resolve?_eq_scopeFor? records]

/-- **A scope table describes its file**: each variable has the identifiers declared in its scope
under its name, and the uses for which its scope is the innermost one around that declares it. -/
theorem describes_of_analyze {source : Source} {table : Table} (h : analyze source = .ok table) :
    table.Describes source := by
  simp only [analyze] at h
  split at h
  · cases h
  · next declarations hdeclarations =>
    obtain rfl := Except.ok.inj h
    exact (Records.foldl declarations (records_nil source)).describes hdeclarations

/-- Analysis fails only where a declaration cannot be read. -/
theorem exists_analyze_of_collected {source : Source} {declarations : List Declaration}
    (h : declarationsIn source.root.walk = .ok declarations) : ∃ table, analyze source = .ok table := by
  simp only [analyze, h]
  exact ⟨_, rfl⟩

/-- The table of a file, empty if analysis fails. -/
def tableOf (source : Source) : Table :=
  match analyze source with
  | .ok table => table
  | .error _ => ⟨[], [], []⟩

theorem analyze_eq_ok_tableOf {source : Source} (h : (analyze source).isOk = true) :
    analyze source = .ok (tableOf source) := by
  unfold tableOf
  cases hanalyze : analyze source with
  | ok table => rfl
  | error failure =>
    rw [hanalyze] at h
    cases h

end Scope

end ScriptLint
