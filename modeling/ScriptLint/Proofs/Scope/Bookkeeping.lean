/-
Scope analysis with its books kept in place.

Besides the list of variables, an analysis in place keeps for each scope the
places of its variables by name, and for each identifier the place of the
variable that it declares or that it was resolved to. It looks names up in these
books alone. The invariant is that the books follow the table of what was noted
(`Books.Follows`): each declaration keeps it, then each use, so an analysis in
place ends with books that follow the table of the file (`follows_of_analyze`).
-/
import Mathlib.Logic.Function.Basic
import ScriptLint.Keyed
import ScriptLint.Proofs.Distinct
import ScriptLint.Proofs.Scope.Invariant

namespace ScriptLint

namespace Scope

/-! ## Books -/

/-- What an analysis in place has noted so far. Variables are known by their places in the list. -/
structure Books where
  vars : List Variable
  unresolved : List Reference
  /-- By the number of a scope, the variables declared in it under their names. -/
  scopes : Nat → Keyed Nat
  /-- By the number of an identifier, the variable that it declares, ... -/
  declaredBy : Nat → Option Nat
  /-- ... and the one that it refers to. -/
  resolved : Nat → Option Nat

namespace Books

def empty : Books := ⟨[], [], fun _ => [], fun _ => none, fun _ => none⟩

/-- Adds an identifier to the variable in a place and notes that it declares it. -/
def addIdentifier (books : Books) (place : Nat) (identifier : Node) : Books :=
  { books with
    vars := books.vars.modify place fun v => { v with identifiers := v.identifiers ++ [identifier] }
    declaredBy := Function.update books.declaredBy identifier.id (some place) }

/-- Files a new variable, which no identifier declares yet, last and under its scope and name. -/
def addVariable (books : Books) (name kind : String) (scope : Node) : Books :=
  { books with
    vars := books.vars ++ [⟨name, kind, scope, [], []⟩]
    scopes := Function.update books.scopes scope.id
      (Keyed.set name books.vars.length (books.scopes scope.id)) }

def declare (source : Source) (books : Books) (declaration : Declaration) : Books :=
  let name := source.textOf declaration.identifier
  match Keyed.get? name (books.scopes declaration.scope.id) with
  | some place => books.addIdentifier place declaration.identifier
  | none =>
    (books.addVariable name declaration.kind declaration.scope).addIdentifier books.vars.length
      declaration.identifier

/-- Notes what a node declares. -/
def collect (source : Source) (books : Books) (node : Node) : Except Failure Books := do
  let here ← declarationsAt node
  return here.foldl (declare source) books

/-- The variable with a name in the innermost scope around an identifier that has one. -/
def lookup (books : Books) (identifier : Node) (name : String) : Option Nat :=
  identifier.ancestors.findSome? fun scope => Keyed.get? name (books.scopes scope.id)

/-- Enters a use with the variable that its name stands for, or as a use of a global. -/
def refer (books : Books) (use : Reference) : Books :=
  match books.lookup use.identifier use.name with
  | none => { books with unresolved := books.unresolved ++ [use] }
  | some place =>
    { books with
      vars := books.vars.modify place fun v => { v with references := v.references ++ [use] }
      resolved := Function.update books.resolved use.identifier.id (some place) }

/-- Enters a node that uses a name and declares none. -/
def visit (source : Source) (books : Books) (node : Node) : Books :=
  if referenceKinds.contains node.kind && (books.declaredBy node.id).isNone then
    let name := source.textOf node
    if isReference node name then books.refer (referenceOf node name) else books
  else books

/-- Two walks over the file: one for its declarations, then one for its uses. -/
def analyze (source : Source) : Except Failure Books := do
  let collected ← source.root.walk.foldlM (collect source) empty
  return source.root.walk.foldl (visit source) collected

def variableOf? (books : Books) (identifier : Node) : Option Variable :=
  (books.declaredBy identifier.id <|> books.resolved identifier.id).bind (books.vars[·]?)

def variablesIn (books : Books) (scope : Node) : List Variable :=
  (Keyed.values (books.scopes scope.id)).filterMap (books.vars[·]?)

end Books

/-! ## Places by scope and name -/

/-- The places of the variables of a scope under their names. -/
def placesIn (keys : List (Nat × String)) (scope : Nat) : Keyed Nat :=
  (keys.zipIdx.filter fun entry => entry.1.1 = scope).map fun entry => (entry.1.2, entry.2)

section Places

variable (keys : List (Nat × String))

theorem get?_placesIn (scope : Nat) (name : String) :
    Keyed.get? name (placesIn keys scope) = keys.idxOf? (scope, name) := by
  have counted : ∀ (keys : List (Nat × String)) (start : Nat), Keyed.get? name
      (((keys.zipIdx start).filter fun entry => entry.1.1 = scope).map fun entry => (entry.1.2, entry.2)) =
        (keys.idxOf? (scope, name)).map (· + start) := by
    intro keys
    induction keys with
    | nil => exact fun _ => rfl
    | cons key rest ih =>
      intro start
      obtain ⟨place, other⟩ := key
      have hshift : ((rest.idxOf? (scope, name)).map (· + 1)).map (· + start) =
          (rest.idxOf? (scope, name)).map (· + (start + 1)) := by
        rw [Option.map_map]
        exact Option.map_congr fun n _ => by simp only [Function.comp_apply]; omega
      rw [List.zipIdx_cons, List.filter_cons, List.idxOf?_cons]
      by_cases hscope : place = scope
      · by_cases hname : other = name
        · simp [hscope, hname, Keyed.get?]
        · simp [hscope, hname, Keyed.get?, ih, hshift]
      · simp [hscope, ih, hshift]
  rw [placesIn, counted keys 0]
  exact Option.map_id' ..

/-- One more variable is filed last in its own scope and nowhere else. -/
theorem placesIn_concat (key : Nat × String) (scope : Nat) :
    placesIn (keys ++ [key]) scope =
      placesIn keys scope ++ if key.1 = scope then [(key.2, keys.length)] else [] := by
  rw [placesIn, List.zipIdx_append, List.filter_append, List.map_append, Nat.zero_add]
  congr 1
  by_cases h : key.1 = scope <;> simp [h]

end Places

theorem idxOf?_append (first second : List (Nat × String)) (key : Nat × String) :
    (first ++ second).idxOf? key = (first.idxOf? key).or ((second.idxOf? key).map (· + first.length)) :=
  List.findIdx?_append

theorem findIdx?_isAt (vars : List Variable) (scope : Nat) (name : String) :
    vars.findIdx? (·.isAt scope name) = (vars.map Variable.key).idxOf? (scope, name) := by
  rw [List.idxOf?, List.findIdx?_map]
  congr 1

theorem addDeclaration_of_findIdx? {declaration : Declaration} {name : String} : ∀ {vars : List Variable} {place : Nat},
    vars.findIdx? (·.isAt declaration.scope.id name) = some place → addDeclaration name declaration vars =
      vars.modify place fun v => { v with identifiers := v.identifiers ++ [declaration.identifier] }
  | [], _, h => by cases h
  | v :: rest, place, h => by
    rw [List.findIdx?_cons] at h
    unfold addDeclaration
    split at h
    · next hat =>
      obtain rfl := Option.some.inj h
      rw [if_pos hat, List.modify_zero_cons]
    · next hat =>
      obtain ⟨before, hbefore, rfl⟩ := Option.map_eq_some_iff.1 h
      rw [if_neg hat, List.modify_succ_cons, addDeclaration_of_findIdx? hbefore]

/-- Changing what a variable lists changes no scope and no name. -/
theorem map_key_modify {g : Variable → Variable} (h : ∀ v, (g v).key = v.key) : ∀ (vars : List Variable) (place : Nat),
    (vars.modify place g).map Variable.key = vars.map Variable.key
  | [], place => by rw [List.modify_nil]
  | v :: rest, 0 => by rw [List.modify_zero_cons, List.map_cons, h, List.map_cons]
  | v :: rest, place + 1 => by rw [List.modify_succ_cons, List.map_cons, map_key_modify h rest place, List.map_cons]

/-! ## Following a table -/

/-- The place of the variable of the last declaration with an identifier. -/
def declaredPlace? (source : Source) (declarations : List Declaration) (keys : List (Nat × String)) (id : Nat) :
    Option Nat :=
  (declarations.reverse.find? (·.identifier.id = id)).bind fun declaration =>
    keys.idxOf? (declaration.key source)

/-- The place of the variable that a name stands for around an identifier. -/
def placeFor? (vars : List Variable) (identifier : Node) (name : String) : Option Nat :=
  (resolve? vars identifier name).bind fun scope => (vars.map Variable.key).idxOf? (scope, name)

/-- The place of the variable that the last use of an identifier was resolved to. -/
def resolvedPlace? (vars : List Variable) (uses : List Reference) (id : Nat) : Option Nat :=
  (uses.reverse.filter (·.identifier.id = id)).findSome? fun use => placeFor? vars use.identifier use.name

/-- Books that follow a table in which some declarations and some uses are entered. -/
structure Books.Follows (source : Source) (table : Table) (uses : List Reference) (books : Books) : Prop where
  vars : books.vars = table.vars
  unresolved : books.unresolved = table.unresolved
  scopes : ∀ scope, books.scopes scope = placesIn (table.vars.map Variable.key) scope
  declaredBy : ∀ id, books.declaredBy id =
    declaredPlace? source table.declarations (table.vars.map Variable.key) id
  resolved : ∀ id, books.resolved id = resolvedPlace? table.vars uses id

/-! ## Collecting in place -/

/-- The variables of declarations, made one after another. -/
def variablesOf (source : Source) (declarations : List Declaration) : List Variable :=
  declarations.foldl (fun vars declaration =>
    addDeclaration (source.textOf declaration.identifier) declaration vars) []

theorem founded_variablesOf (source : Source) (declarations : List Declaration) :
    Founded source declarations (variablesOf source declarations) :=
  Founded.foldl declarations (founded_nil source)

theorem variablesOf_concat (source : Source) (declarations : List Declaration) (declaration : Declaration) :
    variablesOf source (declarations ++ [declaration]) =
      addDeclaration (source.textOf declaration.identifier) declaration (variablesOf source declarations) := by
  rw [variablesOf, List.foldl_append]
  rfl

/-- The table of some declarations, before any use is entered. -/
def declarationTable (source : Source) (declarations : List Declaration) : Table :=
  ⟨variablesOf source declarations, [], declarations⟩

section Collecting

variable {source : Source} {declarations : List Declaration} {books : Books}

theorem follows_empty (source : Source) : Books.empty.Follows source (declarationTable source []) [] where
  vars := rfl
  unresolved := rfl
  scopes _ := rfl
  declaredBy _ := rfl
  resolved _ := rfl

theorem declaredPlace?_concat (declaration : Declaration) (keys : List (Nat × String)) (id : Nat) :
    declaredPlace? source (declarations ++ [declaration]) keys id =
      if declaration.identifier.id = id then keys.idxOf? (declaration.key source)
      else declaredPlace? source declarations keys id := by
  rw [declaredPlace?, List.reverse_append, List.reverse_singleton, List.singleton_append, List.find?_cons]
  by_cases h : declaration.identifier.id = id
  · simp [h]
  · simp [h, declaredPlace?]

/-- Where the variables of all declarations are found, they are found with more behind them. -/
theorem declaredPlace?_append {keys : List (Nat × String)}
    (h : ∀ declaration ∈ declarations, declaration.key source ∈ keys) (more : List (Nat × String)) (id : Nat) :
    declaredPlace? source declarations (keys ++ more) id = declaredPlace? source declarations keys id := by
  unfold declaredPlace?
  cases hlast : declarations.reverse.find? (·.identifier.id = id) with
  | none => rfl
  | some last =>
    have hmem := h last (List.mem_reverse.1 (List.mem_of_find?_eq_some hlast))
    obtain ⟨place, hplace⟩ := Option.isSome_iff_exists.1 (List.isSome_idxOf?.2 hmem)
    rw [Option.bind_some, Option.bind_some, idxOf?_append, hplace, Option.some_or]

theorem key_mem_variablesOf {declaration : Declaration} (h : declaration ∈ declarations) :
    declaration.key source ∈ (variablesOf source declarations).map Variable.key := by
  rw [(founded_variablesOf source declarations).keys, List.mem_eraseDups]
  exact List.mem_map_of_mem h

/-- Books of declarations, in their own terms. -/
theorem Books.Follows.read (h : books.Follows source (declarationTable source declarations) []) :
    books.vars = variablesOf source declarations ∧ books.unresolved = [] ∧
      (∀ scope, books.scopes scope = placesIn (books.vars.map Variable.key) scope) ∧
      (∀ id, books.declaredBy id = declaredPlace? source declarations (books.vars.map Variable.key) id) ∧
      ∀ id, books.resolved id = none := by
  rw [h.vars]
  exact ⟨rfl, h.unresolved, h.scopes, h.declaredBy, h.resolved⟩

/-- An identifier more for the variable that its scope and name have. -/
theorem Books.Follows.addIdentifier (h : books.Follows source (declarationTable source declarations) [])
    {declaration : Declaration} {place : Nat}
    (hplace : (books.vars.map Variable.key).idxOf? (declaration.key source) = some place) :
    (books.addIdentifier place declaration.identifier).Follows source
      (declarationTable source (declarations ++ [declaration])) [] := by
  obtain ⟨hsame, hunresolved, hscopes, hdeclared, hresolved⟩ := h.read
  have hfound : books.vars.findIdx?
      (·.isAt declaration.scope.id (source.textOf declaration.identifier)) = some place := by
    rw [findIdx?_isAt]
    exact hplace
  have hvars : variablesOf source (declarations ++ [declaration]) =
      (books.addIdentifier place declaration.identifier).vars := by
    rw [variablesOf_concat, ← hsame, addDeclaration_of_findIdx? hfound]
    rfl
  have hkeys : (variablesOf source (declarations ++ [declaration])).map Variable.key =
      books.vars.map Variable.key := by
    rw [hvars]
    exact map_key_modify (fun v => by rfl) books.vars place
  constructor
  case vars => exact hvars.symm
  case unresolved => exact hunresolved
  case scopes =>
    rw [declarationTable, hkeys]
    exact hscopes
  case declaredBy =>
    intro id
    rw [declarationTable, hkeys, declaredPlace?_concat, hplace, ← hdeclared]
    simp only [Books.addIdentifier, Function.update_apply, eq_comm]
  case resolved => exact hresolved

/-- A variable more for a new scope and name. -/
theorem Books.Follows.addVariable (h : books.Follows source (declarationTable source declarations) [])
    {declaration : Declaration} (hnew : declaration.key source ∉ books.vars.map Variable.key) :
    ((books.addVariable (source.textOf declaration.identifier) declaration.kind declaration.scope).addIdentifier
      books.vars.length declaration.identifier).Follows source
        (declarationTable source (declarations ++ [declaration])) [] := by
  obtain ⟨hsame, hunresolved, hscopes, hdeclared, hresolved⟩ := h.read
  have hvars : variablesOf source (declarations ++ [declaration]) = books.vars ++
      [⟨source.textOf declaration.identifier, declaration.kind, declaration.scope, [declaration.identifier], []⟩] := by
    rw [variablesOf_concat, ← hsame, addDeclaration_of_not_mem hnew]
  have hkeys : (variablesOf source (declarations ++ [declaration])).map Variable.key =
      books.vars.map Variable.key ++ [declaration.key source] := by
    rw [hvars, List.map_append]
    rfl
  have hlength : (books.vars.map Variable.key).length = books.vars.length := List.length_map _
  constructor
  case vars =>
    rw [declarationTable, hvars]
    exact modify_concat _ _ books.vars
  case unresolved => exact hunresolved
  case scopes =>
    intro scope
    rw [declarationTable, hkeys, placesIn_concat, hlength, ← hscopes]
    simp only [Books.addIdentifier, Books.addVariable, Function.update_apply]
    by_cases hscope : scope = declaration.scope.id
    · have hnone : Keyed.get? (source.textOf declaration.identifier) (books.scopes declaration.scope.id) = none := by
        rw [hscopes, get?_placesIn, List.idxOf?_eq_none_iff]
        exact hnew
      subst hscope
      rw [if_pos rfl, if_pos (by rfl), Keyed.set_of_get?_eq_none hnone]
      rfl
    · rw [if_neg hscope, if_neg (fun hsame => hscope hsame.symm), List.append_nil]
  case declaredBy =>
    intro id
    have hlast : (books.vars.map Variable.key ++ [declaration.key source]).idxOf? (declaration.key source) =
        some books.vars.length := by
      rw [idxOf?_append, List.idxOf?_eq_none_iff.2 hnew, hlength]
      simp
    have hall : ∀ other ∈ declarations, other.key source ∈ books.vars.map Variable.key := by
      rw [hsame]
      exact fun other => key_mem_variablesOf
    rw [declarationTable, hkeys, declaredPlace?_concat, hlast, declaredPlace?_append hall, ← hdeclared]
    simp only [Books.addIdentifier, Books.addVariable, Function.update_apply, eq_comm]
  case resolved => exact hresolved

/-- **One more declaration keeps the books.** -/
theorem Books.Follows.declare (h : books.Follows source (declarationTable source declarations) [])
    (declaration : Declaration) : (books.declare source declaration).Follows source
      (declarationTable source (declarations ++ [declaration])) [] := by
  obtain ⟨-, -, hscopes, -⟩ := h.read
  simp only [Books.declare, hscopes, get?_placesIn]
  split
  · next place hplace => exact h.addIdentifier hplace
  · next hnone => exact h.addVariable (List.idxOf?_eq_none_iff.1 hnone)

theorem Books.Follows.foldl_declare : ∀ (later : List Declaration) {declarations : List Declaration} {books : Books},
    books.Follows source (declarationTable source declarations) [] →
      (later.foldl (Books.declare source) books).Follows source (declarationTable source (declarations ++ later)) []
  | [], declarations, _, h => by
    rw [List.append_nil]
    exact h
  | declaration :: later, declarations, _, h => by
    rw [List.foldl_cons, List.append_cons]
    exact foldl_declare later (h.declare declaration)

/-- The first walk declares what the nodes declare, or it fails where one of them cannot be read. -/
theorem foldlM_collect : ∀ (nodes : List Node) (books : Books), nodes.foldlM (Books.collect source) books =
    (declarationsIn nodes).map fun declarations => declarations.foldl (Books.declare source) books
  | [], books => rfl
  | node :: rest, books => by
    rw [List.foldlM_cons, Books.collect, declarationsIn]
    cases declarationsAt node with
    | error failure => rfl
    | ok here =>
      have hrest := foldlM_collect rest (here.foldl (Books.declare source) books)
      simp only [bind, Except.bind, pure, Except.pure] at hrest ⊢
      rw [hrest]
      cases declarationsIn rest with
      | error failure => rfl
      | ok later => simp only [Except.map, List.foldl_append]

end Collecting

/-! ## Resolving in place -/

theorem resolvedPlace?_concat (vars : List Variable) (uses : List Reference) (use : Reference) (id : Nat) :
    resolvedPlace? vars (uses ++ [use]) id =
      (if use.identifier.id = id then placeFor? vars use.identifier use.name else none).or
        (resolvedPlace? vars uses id) := by
  rw [resolvedPlace?, List.reverse_append, List.reverse_singleton, List.singleton_append, List.filter_cons]
  by_cases h : use.identifier.id = id
  · rw [if_pos (decide_eq_true h), if_pos h, List.findSome?_cons, resolvedPlace?]
    cases placeFor? vars use.identifier use.name <;> rfl
  · rw [if_neg (by simpa using h), if_neg h, Option.none_or, resolvedPlace?]

section Resolving

variable {source : Source} {table : Table} {uses : List Reference} {books : Books}

theorem any_isAt_eq_isSome_idxOf? (vars : List Variable) (scope : Nat) (name : String) :
    vars.any (·.isAt scope name) = ((vars.map Variable.key).idxOf? (scope, name)).isSome := by
  rw [← findIdx?_isAt, List.findIdx?_isSome]

/-- A scope that a name is resolved to has a variable with that name. -/
theorem idxOf?_of_resolve? {vars : List Variable} {identifier : Node} {name : String} {scope : Nat}
    (h : resolve? vars identifier name = some scope) :
    ∃ place, (vars.map Variable.key).idxOf? (scope, name) = some place := by
  obtain ⟨node, hfind, rfl⟩ := Option.map_eq_some_iff.1 h
  have hany : vars.any (·.isAt node.id name) = true := by simpa using List.find?_some hfind
  rw [any_isAt_eq_isSome_idxOf?] at hany
  exact Option.isSome_iff_exists.1 hany

theorem getElem?_of_idxOf? {keys : List (Nat × String)} {key : Nat × String} {place : Nat}
    (h : keys.idxOf? key = some place) : keys[place]? = some key := by
  obtain ⟨hlt, heq, -⟩ := List.idxOf?_eq_some_iff.1 h
  rw [List.getElem?_eq_getElem hlt, heq]

/-- In the books a name is looked up as in the table. -/
theorem Books.Follows.lookup_eq (h : books.Follows source table uses) (identifier : Node) (name : String) :
    books.lookup identifier name = placeFor? table.vars identifier name := by
  rw [Books.lookup, placeFor?, resolve?]
  simp only [h.scopes, get?_placesIn, any_isAt_eq_isSome_idxOf?]
  induction identifier.ancestors with
  | nil => rfl
  | cons scope outer ih =>
    rw [List.findSome?_cons, List.find?_cons]
    cases hplace : (table.vars.map Variable.key).idxOf? (scope.id, name) with
    | none => exact ih
    | some place => exact hplace.symm

theorem placeFor?_eq_none_iff {vars : List Variable} {identifier : Node} {name : String} :
    placeFor? vars identifier name = none ↔ resolve? vars identifier name = none := by
  rw [placeFor?]
  cases hscope : resolve? vars identifier name with
  | none => exact iff_of_true rfl rfl
  | some scope =>
    obtain ⟨place, hplace⟩ := idxOf?_of_resolve? hscope
    rw [Option.bind_some, hplace]
    exact iff_of_false (Option.some_ne_none _) (Option.some_ne_none _)

/-- A use of a name that is found in a place is entered with the variable there. -/
theorem addReference_of_placeFor? (distinct : (table.vars.map Variable.key).Nodup) {use : Reference} {place : Nat}
    (h : placeFor? table.vars use.identifier use.name = some place) :
    addReference table use = { table with
      vars := table.vars.modify place fun v => { v with references := v.references ++ [use] } } := by
  obtain ⟨scope, hscope, hplace⟩ := Option.bind_eq_some_iff.1 h
  rw [addReference, hscope, modify_eq_map distinct (getElem?_of_idxOf? hplace)]
  simp only [Variable.isAt_iff]

theorem placeFor?_of_keys {vars others : List Variable} (h : others.map Variable.key = vars.map Variable.key)
    (identifier : Node) (name : String) : placeFor? others identifier name = placeFor? vars identifier name := by
  simp only [placeFor?, resolve?, any_isAt_eq_isSome_idxOf?, h]

theorem resolvedPlace?_of_keys {vars others : List Variable} (h : others.map Variable.key = vars.map Variable.key)
    (uses : List Reference) (id : Nat) : resolvedPlace? others uses id = resolvedPlace? vars uses id := by
  simp only [resolvedPlace?, placeFor?_of_keys h]

/-- **One more use keeps the books.** -/
theorem Books.Follows.refer (h : books.Follows source table uses) (distinct : (table.vars.map Variable.key).Nodup)
    (use : Reference) : (books.refer use).Follows source (addReference table use) (uses ++ [use]) := by
  have hlookup := h.lookup_eq use.identifier use.name
  rw [Books.refer, hlookup]
  cases hplace : placeFor? table.vars use.identifier use.name with
  | none =>
    rw [addReference, placeFor?_eq_none_iff.1 hplace]
    constructor
    case vars => exact h.vars
    case unresolved => rw [h.unresolved]
    case scopes => exact h.scopes
    case declaredBy => exact h.declaredBy
    case resolved =>
      intro id
      rw [resolvedPlace?_concat, hplace, ite_self, Option.none_or]
      exact h.resolved id
  | some place =>
    have hkeys : (table.vars.modify place fun v => { v with references := v.references ++ [use] }).map Variable.key =
        table.vars.map Variable.key := map_key_modify (fun v => by rfl) table.vars place
    rw [addReference_of_placeFor? distinct hplace]
    constructor
    case vars => rw [h.vars]
    case unresolved => exact h.unresolved
    case scopes =>
      rw [hkeys]
      exact h.scopes
    case declaredBy =>
      rw [hkeys]
      exact h.declaredBy
    case resolved =>
      intro id
      rw [resolvedPlace?_of_keys hkeys, resolvedPlace?_concat, hplace, ← h.resolved]
      refine (Function.update_apply _ _ _ id).trans ?_
      by_cases hid : use.identifier.id = id
      · rw [if_pos hid, if_pos hid.symm, Option.some_or]
      · rw [if_neg hid, if_neg fun hsame => hid hsame.symm, Option.none_or]

theorem Books.Follows.foldl_refer : ∀ (later : List Reference) {table : Table} {uses : List Reference} {books : Books},
    (table.vars.map Variable.key).Nodup → books.Follows source table uses →
      (later.foldl Books.refer books).Follows source (later.foldl addReference table) (uses ++ later)
  | [], table, uses, _, _, h => by
    rw [List.append_nil]
    exact h
  | use :: later, table, uses, _, distinct, h => by
    rw [List.foldl_cons, List.foldl_cons, List.append_cons]
    refine foldl_refer later ?_ (h.refer distinct use)
    exact (keys_foldl_addReference [use] table).symm ▸ distinct

/-- Entering uses declares nothing. -/
theorem declaredBy_foldl_refer : ∀ (uses : List Reference) (books : Books),
    (uses.foldl Books.refer books).declaredBy = books.declaredBy
  | [], _ => rfl
  | use :: uses, books => by
    have hrefer : (books.refer use).declaredBy = books.declaredBy := by
      unfold Books.refer
      split <;> rfl
    rw [List.foldl_cons, declaredBy_foldl_refer uses, hrefer]

/-- The second walk enters the uses of the file one after another. -/
theorem foldl_visit {declared : List Nat} : ∀ (nodes : List Node) {books : Books},
    (∀ id, (books.declaredBy id).isNone = !declared.contains id) → nodes.foldl (Books.visit source) books =
      (referencesIn source declared nodes).foldl Books.refer books
  | [], _, _ => rfl
  | node :: rest, books, h => by
    have hvisit : Books.visit source books node =
        (referencesIn source declared [node]).foldl Books.refer books := by
      simp only [Books.visit, referencesIn, List.filterMap_cons, List.filterMap_nil, h]
      split
      · split <;> rfl
      · rfl
    have hsplit : referencesIn source declared (node :: rest) =
        referencesIn source declared [node] ++ referencesIn source declared rest := by
      rw [← List.singleton_append, referencesIn, List.filterMap_append]
      rfl
    rw [List.foldl_cons, hvisit, hsplit, List.foldl_append]
    exact foldl_visit rest fun id => by rw [declaredBy_foldl_refer, h]

end Resolving

/-! ## The books of a file -/

section File

variable {source : Source}

/-- With all their variables at hand, declarations are found by their identifiers. -/
theorem isSome_declaredPlace? {declarations : List Declaration} {keys : List (Nat × String)}
    (h : ∀ declaration ∈ declarations, declaration.key source ∈ keys) (id : Nat) :
    (declaredPlace? source declarations keys id).isSome =
      (declarations.map fun declaration => declaration.identifier.id).contains id := by
  unfold declaredPlace?
  cases hlast : declarations.reverse.find? (·.identifier.id = id) with
  | none =>
    rw [List.find?_eq_none] at hlast
    refine (Bool.eq_false_iff.2 fun hmem => ?_).symm
    obtain ⟨declaration, hdeclaration, hid⟩ := List.mem_map.1 (List.contains_iff_mem.1 hmem)
    exact hlast declaration (List.mem_reverse.2 hdeclaration) (decide_eq_true hid)
  | some last =>
    have hmem := List.mem_reverse.1 (List.mem_of_find?_eq_some hlast)
    have hid : last.identifier.id = id := by simpa using List.find?_some hlast
    rw [Option.bind_some, List.isSome_idxOf?.2 (h last hmem), ← hid]
    exact (List.contains_iff_mem.2 (List.mem_map_of_mem hmem)).symm

/-- An analysis in place declares what the file declares and refers what it uses, or it fails with
the table. -/
theorem Books.analyze_eq (source : Source) : Books.analyze source =
    (declarationsIn source.root.walk).map fun declarations =>
      (usesIn source declarations).foldl Books.refer (declarations.foldl (Books.declare source) .empty) := by
  rw [Books.analyze, foldlM_collect]
  cases declarationsIn source.root.walk with
  | error failure => rfl
  | ok declarations =>
    have follows := (follows_empty source).foldl_declare declarations
    have hdeclared : ∀ id, ((declarations.foldl (Books.declare source) .empty).declaredBy id).isNone =
        !(declarations.map fun declaration => declaration.identifier.id).contains id := by
      intro id
      rw [follows.declaredBy, ← isSome_declaredPlace? fun _ => key_mem_variablesOf, Option.not_isSome]
      rfl
    exact congrArg Except.ok (foldl_visit source.root.walk hdeclared)

/-- The books of some declarations and uses follow their table. -/
theorem follows_declarationTable (source : Source) (declarations : List Declaration) (uses : List Reference) :
    (uses.foldl Books.refer (declarations.foldl (Books.declare source) .empty)).Follows source
      (uses.foldl addReference (declarationTable source declarations)) uses := by
  have distinct : ((variablesOf source declarations).map Variable.key).Nodup :=
    (founded_variablesOf source declarations).keys ▸ nodup_eraseDups _
  exact Books.Follows.foldl_refer uses distinct ((follows_empty source).foldl_declare declarations)

/-- Where there is a table, an analysis in place comes through with books that follow it. -/
theorem follows_of_analyze {table : Table} (h : Scope.analyze source = .ok table) : ∃ books,
    Books.analyze source = .ok books ∧ books.Follows source table (usesIn source table.declarations) := by
  simp only [Scope.analyze] at h
  split at h
  · cases h
  · next declarations hdeclarations =>
    have follows := follows_declarationTable source declarations (usesIn source declarations)
    obtain rfl := Except.ok.inj h
    refine ⟨_, by rw [Books.analyze_eq, hdeclarations]; rfl, ?_⟩
    rw [declarations_foldl_addReference]
    exact follows

end File

end Scope

end ScriptLint
