/-
What the books of an analysis say.

Every place that is noted in the books is the place that the table gives: that
of the variable with a scope and a name, of the one that an identifier declares
last, of the one that lists a use (`Books.Mirrors`). So the representation
invariant of tables holds of the books as well (`wellFormed_of_analyze`).
-/
import ScriptLint.Proofs.Scope.Bookkeeping

namespace ScriptLint

namespace Scope

/-! ## Places -/

/-- The variables in the places of a scope are those of the scope, in their order. -/
theorem filterMap_placesIn (vars : List Variable) (scope : Nat) :
    (Keyed.values (placesIn (vars.map Variable.key) scope)).filterMap (vars[·]?) =
      vars.filter (·.scope.id = scope) := by
  have hplaces : Keyed.values (placesIn (vars.map Variable.key) scope) =
      (vars.zipIdx.filter fun entry => entry.1.scope.id = scope).map Prod.snd := by
    simp only [Keyed.values, placesIn, List.zipIdx_map, List.filter_map, List.map_map]
    rfl
  have hthere : (vars.zipIdx.filter fun entry => entry.1.scope.id = scope).filterMap (fun entry => vars[entry.2]?) =
      (vars.zipIdx.filter fun entry => entry.1.scope.id = scope).filterMap (fun entry => some entry.1) :=
    List.filterMap_congr fun entry hentry => List.mem_zipIdx_iff_getElem?.1 (List.mem_filter.1 hentry).1
  have hfirst : vars = vars.zipIdx.map Prod.fst := (List.zipIdx_map_fst 0 vars).symm
  rw [hplaces, List.filterMap_map]
  refine hthere.trans ?_
  rw [List.filterMap_eq_map']
  conv_rhs => rw [hfirst, List.filter_map]
  rfl

/-- A variable is found in its place by its scope and name. -/
theorem idxOf?_eq_some_iff_getElem? {vars : List Variable} (distinct : (vars.map Variable.key).Nodup)
    {key : Nat × String} {place : Nat} :
    (vars.map Variable.key).idxOf? key = some place ↔ ∃ v, vars[place]? = some v ∧ v.key = key := by
  rw [← Option.map_eq_some_iff, ← List.getElem?_map]
  refine ⟨getElem?_of_idxOf?, fun h => ?_⟩
  obtain ⟨first, hfirst⟩ := Option.isSome_iff_exists.1 (List.isSome_idxOf?.2 (List.mem_of_getElem? h))
  obtain ⟨hlt, -⟩ := List.getElem?_eq_some_iff.1 h
  rw [hfirst, (List.getElem?_inj hlt distinct).1 (h.trans (getElem?_of_idxOf? hfirst).symm)]

/-- The place of the only item with a property is where that property is first found. -/
theorem findIdx?_eq_of_forall {α : Type} {items : List α} {p : α → Bool} {found : Option Nat}
    (h : ∀ place, found = some place ↔ ∃ item, items[place]? = some item ∧ p item = true) :
    items.findIdx? p = found := by
  cases found with
  | none =>
    refine List.findIdx?_eq_none_iff.2 fun item hitem => Bool.eq_false_iff.2 fun hp => ?_
    obtain ⟨place, hplace⟩ := List.mem_iff_getElem?.1 hitem
    cases (h place).2 ⟨item, hplace, hp⟩
  | some place =>
    obtain ⟨item, hitem, hp⟩ := (h place).1 rfl
    obtain ⟨hlt, rfl⟩ := List.getElem?_eq_some_iff.1 hitem
    refine List.findIdx?_eq_some_iff_getElem.2 ⟨hlt, hp, fun before hbefore hpbefore => ?_⟩
    have hsame := (h before).2 ⟨_, List.getElem?_eq_getElem (Nat.lt_trans hbefore hlt), hpbefore⟩
    exact Nat.lt_irrefl _ (Option.some.inj hsame ▸ hbefore)

/-! ## Books and tables -/

/-- Books that say what a table says. -/
structure Books.Mirrors (source : Source) (table : Table) (books : Books) : Prop where
  vars : books.vars = table.vars
  unresolved : books.unresolved = table.unresolved
  /-- Filed under a scope and a name is the place of their variable. -/
  scopes : ∀ scope name place, Keyed.get? name (books.scopes scope) = some place ↔
    ∃ v, table.vars[place]? = some v ∧ v.key = (scope, name)
  /-- The identifiers that declare, ... -/
  declaredBy : ∀ id, (books.declaredBy id).isSome ↔ ∃ v ∈ table.vars, ∃ identifier ∈ v.identifiers, identifier.id = id
  /-- ... and those that were resolved. -/
  resolved : ∀ id, (books.resolved id).isSome ↔ ∃ v ∈ table.vars, ∃ use ∈ v.references, use.identifier.id = id
  variablesIn : ∀ scope, books.variablesIn scope = table.variablesIn scope
  variableOf? : ∀ node ∈ source.root.walk, books.variableOf? node = table.variableOf? source node

section Mirrors

variable {source : Source} {table : Table} {books : Books}

/-- Variables are founded where something is declared. -/
theorem resolve?_of_founded (founded : Founded source table.declarations table.vars) (identifier : Node)
    (name : String) : resolve? table.vars identifier name = scopeFor? source table.declarations identifier name := by
  have same : ∀ scope : Nat, table.vars.any (·.isAt scope name) =
      table.declarations.any (·.isAt source scope name) := by
    intro scope
    have hkeys : (scope, name) ∈ table.vars.map Variable.key ↔
        (scope, name) ∈ table.declarations.map (Declaration.key source) := by
      rw [founded.keys, List.mem_eraseDups]
    rw [Bool.eq_iff_iff, List.any_eq_true, List.any_eq_true]
    simpa [Variable.isAt_iff, Declaration.isAt_iff, Declaration.key] using hkeys
  simp only [resolve?, scopeFor?, same, List.find?_map, Function.comp_def]

variable (describes : table.Describes source) (founded : Founded source table.declarations table.vars)
  (follows : books.Follows source table (usesIn source table.declarations))

include describes in
/-- What declares is in the books what some variable lists. -/
theorem isSome_declaredPlace?_iff (id : Nat) :
    (declaredPlace? source table.declarations (table.vars.map Variable.key) id).isSome = true ↔
      ∃ v ∈ table.vars, ∃ identifier ∈ v.identifiers, identifier.id = id := by
  rw [isSome_declaredPlace? describes.complete, List.contains_iff_mem, List.mem_map]
  constructor
  · rintro ⟨declaration, hdeclaration, rfl⟩
    obtain ⟨v, hv, hkey⟩ := List.mem_map.1 (describes.complete declaration hdeclaration)
    exact ⟨v, hv, _, mem_identifiers_of_key describes hv hdeclaration hkey, rfl⟩
  · rintro ⟨v, hv, identifier, hidentifier, rfl⟩
    rw [describes.identifiers v hv] at hidentifier
    obtain ⟨declaration, hmem, rfl⟩ := List.mem_map.1 hidentifier
    exact ⟨declaration, (List.mem_filter.1 hmem).1, rfl⟩

include describes founded in
/-- A use is found in a place just when the variable there lists it. -/
theorem placeFor?_eq_some_iff {use : Reference} (huse : use ∈ usesIn source table.declarations) {place : Nat} :
    placeFor? table.vars use.identifier use.name = some place ↔
      ∃ v, table.vars[place]? = some v ∧ use ∈ v.references := by
  have listed : ∀ v ∈ table.vars, use ∈ v.references ↔
      resolve? table.vars use.identifier use.name = some v.scope.id ∧ v.name = use.name := by
    intro v hv
    rw [describes.references v hv, List.mem_filter, decide_eq_true_eq, resolve?_of_founded founded]
    exact and_iff_right huse
  rw [placeFor?, Option.bind_eq_some_iff]
  constructor
  · rintro ⟨scope, hscope, hplace⟩
    obtain ⟨v, hv, hkey⟩ := (idxOf?_eq_some_iff_getElem? describes.distinct).1 hplace
    obtain ⟨rfl, hname⟩ := Prod.mk.inj hkey
    exact ⟨v, hv, (listed v (List.mem_of_getElem? hv)).2 ⟨hscope, hname⟩⟩
  · rintro ⟨v, hv, hmem⟩
    obtain ⟨hscope, hname⟩ := (listed v (List.mem_of_getElem? hv)).1 hmem
    refine ⟨v.scope.id, hscope, (idxOf?_eq_some_iff_getElem? describes.distinct).2 ⟨v, hv, ?_⟩⟩
    rw [Variable.key, hname]

include describes founded in
/-- What was resolved to a place is what refers to the variable there. -/
theorem resolvedPlace?_eq_some_iff (distinct : source.tree.ids.Nodup) {id place : Nat} :
    resolvedPlace? table.vars (usesIn source table.declarations) id = some place ↔
      ∃ v, table.vars[place]? = some v ∧ ∃ use ∈ v.references, use.identifier.id = id := by
  rw [resolvedPlace?]
  constructor
  · intro h
    obtain ⟨use, hmem, hplace⟩ := List.exists_of_findSome?_eq_some h
    obtain ⟨huse, hid⟩ := List.mem_filter.1 hmem
    obtain ⟨v, hv, hlists⟩ := (placeFor?_eq_some_iff describes founded (List.mem_reverse.1 huse)).1 hplace
    exact ⟨v, hv, use, hlists, of_decide_eq_true hid⟩
  · rintro ⟨v, hv, use, hlists, rfl⟩
    have huse : use ∈ usesIn source table.declarations := by
      rw [describes.references v (List.mem_of_getElem? hv)] at hlists
      exact (List.mem_filter.1 hlists).1
    have hplace := (placeFor?_eq_some_iff describes founded huse).2 ⟨v, hv, hlists⟩
    rw [List.filter_reverse, filter_key_eq_singleton (nodup_ids_usesIn distinct table.declarations) huse,
      List.reverse_singleton, List.findSome?_cons, hplace]

include describes founded follows

/-- The place that the books have for an identifier is the one that the table has. -/
theorem declaredBy_orElse_resolved (distinct : source.tree.ids.Nodup) {node : Node} (hnode : node ∈ source.root.walk) :
    (books.declaredBy node.id <|> books.resolved node.id) = table.indexOf? source node := by
  rw [follows.declaredBy, follows.resolved, declaredPlace?, Table.indexOf?]
  cases hlast : table.declarations.reverse.find? (·.identifier.id = node.id) with
  | none =>
    refine (findIdx?_eq_of_forall fun place => ?_).symm
    refine (resolvedPlace?_eq_some_iff describes founded distinct).trans ?_
    simp only [List.any_eq_true, decide_eq_true_eq]
  | some last =>
    have hmem := List.mem_reverse.1 (List.mem_of_find?_eq_some hlast)
    have hid : last.identifier.id = node.id := by simpa using List.find?_some hlast
    obtain rfl := Node.eq_of_same_id distinct (mem_walk_of_mem_declarations describes.collected hmem).1 hnode hid
    obtain ⟨place, hplace⟩ := Option.isSome_iff_exists.1 (List.isSome_idxOf?.2 (describes.complete last hmem))
    have hfound := (findIdx?_isAt table.vars last.scope.id (source.textOf last.identifier)).trans hplace
    rw [Option.bind_some, Declaration.key, hplace]
    exact hfound.symm

theorem Books.Follows.mirrors (distinct : source.tree.ids.Nodup) : books.Mirrors source table where
  vars := follows.vars
  unresolved := follows.unresolved
  scopes scope name place := by
    rw [follows.scopes, get?_placesIn, idxOf?_eq_some_iff_getElem? describes.distinct]
  declaredBy id := by
    rw [follows.declaredBy]
    exact isSome_declaredPlace?_iff describes id
  resolved id := by
    rw [follows.resolved, Option.isSome_iff_exists]
    simp only [resolvedPlace?_eq_some_iff describes founded distinct]
    constructor
    · rintro ⟨place, v, hv, hrefers⟩
      exact ⟨v, List.mem_of_getElem? hv, hrefers⟩
    · rintro ⟨v, hv, hrefers⟩
      obtain ⟨place, hplace⟩ := List.mem_iff_getElem?.1 hv
      exact ⟨place, v, hplace, hrefers⟩
  variablesIn scope := by
    rw [Books.variablesIn, follows.scopes, follows.vars, filterMap_placesIn]
    rfl
  variableOf? node hnode := by
    rw [Books.variableOf?, declaredBy_orElse_resolved describes founded follows distinct hnode, follows.vars]
    rfl

end Mirrors

/-- **The representation invariant of scope analysis.** Whenever a file can be analysed, whatever its
tree, its table is well-formed, and the books of an analysis in place say what the table says. -/
theorem wellFormed_of_analyze (path : Path) (bytes : Bytes) (parsed : ParseTree) {table : Table}
    (h : Scope.analyze (.ofParsed path bytes parsed) = .ok table) :
    table.WellFormed (.ofParsed path bytes parsed) ∧ ∃ books,
      Books.analyze (.ofParsed path bytes parsed) = .ok books ∧ books.Mirrors (.ofParsed path bytes parsed) table := by
  have distinct := Source.nodup_ids_ofParsed path bytes parsed
  have describes := describes_of_analyze h
  have founded := founded_of_analyze h
  obtain ⟨books, hbooks, follows⟩ := follows_of_analyze h
  exact ⟨founded.wellFormed distinct describes, books, hbooks, follows.mirrors describes founded distinct⟩

/-- The statement `var e;` at an offset. -/
def varDeclaration (start : Nat) : ParseTree :=
  .node { kind := "variable_declaration", start, stop := start + 6 }
    [.node { kind := "var", start, stop := start + 3, named := false } [],
     .node { kind := "variable_declarator", start := start + 4, stop := start + 5 }
      [.node { kind := "identifier", start := start + 4, stop := start + 5, field := some "name" } []],
     .node { kind := ";", start := start + 5, stop := start + 6, named := false } []]

/-- The text `var e; { e; var e; }` with its tree. -/
def sharedSource : Source :=
  .ofParsed (.ofString "shared.js") (Utf8.encode "var e; \x7b e; var e; \x7d")
    (.node { kind := "program", start := 0, stop := 20 }
      [varDeclaration 0,
       .node { kind := "statement_block", start := 7, stop := 20 }
        [.node { kind := "\x7b", start := 7, stop := 8, named := false } [],
         .node { kind := "expression_statement", start := 9, stop := 11 }
          [.node { kind := "identifier", start := 9, stop := 10 } [],
           .node { kind := ";", start := 10, stop := 11, named := false } []],
         varDeclaration 12,
         .node { kind := "\x7d", start := 19, stop := 20, named := false } []]])

/-- Two declarations share one variable of the program, which the use between them refers to. -/
theorem wellFormed_sharedSource :
    Scope.analyze sharedSource = .ok (tableOf sharedSource) ∧ (tableOf sharedSource).WellFormed sharedSource ∧
      (∃ books, Books.analyze sharedSource = .ok books ∧ books.Mirrors sharedSource (tableOf sharedSource)) ∧
      (tableOf sharedSource).vars.map (fun v => (v.name, v.scope.kind, v.identifiers.map Node.start)) =
        [("e", "program", [4, 16])] ∧
      (tableOf sharedSource).vars.map (fun v => v.references.map (·.identifier.start)) = [[9]] := by
  have hanalyze : Scope.analyze sharedSource = .ok (tableOf sharedSource) :=
    analyze_eq_ok_tableOf (by decide +kernel)
  obtain ⟨wellFormed, mirrored⟩ := wellFormed_of_analyze _ _ _ hanalyze
  exact ⟨hanalyze, wellFormed, mirrored, by decide +kernel, by decide +kernel⟩

end Scope

end ScriptLint
