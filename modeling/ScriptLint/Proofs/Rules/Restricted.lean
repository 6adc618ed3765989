/-
Which uses of global variables are reported.

A configured name is reported wherever it is used and no scope around declares
it (`RestrictedUse`), once for each such node, in document order, with the
message of the last entry for the name (`Tells`). The uses of globals in a table
are just those nodes (`mem_unresolved_iff`). Whether a use reads the name is not
asked: a plain target of an assignment or of a loop, by itself or in a pattern,
is only written (`Target`, `not_read_iff`) and is reported like the others.
-/
import Mathlib.Data.List.Perm.Subperm
import ScriptLint.Proofs.Isolation
import ScriptLint.Proofs.Scope.Resolution
import ScriptLint.Rules.Globals

namespace ScriptLint

namespace Scope

/-! ## Uses of globals -/

/-- A use of a name that no scope around it declares. -/
structure IsGlobalUse (source : Source) (table : Table) (node : Node) : Prop where
  use : IsUse source table node
  free : ∀ scope ∈ node.ancestors, ¬ table.Binds source (source.textOf node) scope

/-- What a table holds as uses of globals. -/
theorem mem_unresolved_iff {source : Source} {table : Table} (distinct : source.tree.ids.Nodup)
    (describes : table.Describes source) {use : Reference} : use ∈ table.unresolved ↔
      IsGlobalUse source table use.identifier ∧ use = useOf source use.identifier := by
  rw [describes.unresolved, List.mem_filter, mem_usesIn_iff distinct describes.collected,
    Option.isNone_iff_eq_none]
  constructor
  · rintro ⟨⟨huse, heq⟩, hnone⟩
    refine ⟨⟨huse, fun scope hscope hbinds => ?_⟩, heq⟩
    obtain ⟨inner, hinner⟩ := exists_innermost ⟨scope, hscope, hbinds⟩
    have hname : use.name = source.textOf use.identifier := by
      rw [heq]
      rfl
    rw [hname, scopeFor?_of_innermost distinct describes.collected huse.walk hinner] at hnone
    cases hnone
  · rintro ⟨⟨huse, hfree⟩, heq⟩
    refine ⟨⟨huse, heq⟩, ?_⟩
    have hname : use.name = source.textOf use.identifier := by
      rw [heq]
      rfl
    rw [hname]
    exact scopeFor?_eq_none distinct describes.collected huse.walk hfree

/-! ## Uses that do not read -/

/-- A node that is only written: the target of a plain assignment or of a loop head, or a part of a pattern that
is one, if it is not a default value in it. -/
inductive Target : Node → Prop
  | whole {node parent : Node} (inside : node.parent? = some parent)
      (kind : parent.kind = "assignment_expression" ∨ parent.kind = "for_in_statement")
      (field : node.field = some "left") : Target node
  | part {node parent : Node} (inside : node.parent? = some parent) (kind : parent.kind ∈ patternKinds)
      (chosen : parent.kind = "assignment_pattern" ∨ parent.kind = "object_assignment_pattern" →
        node.field = some "left")
      (outer : Target parent) : Target node

theorem access_of_parent? {node parent : Node} (h : node.parent? = some parent) : access node =
    if patternKinds.contains parent.kind then
      if (parent.kind = "assignment_pattern" ∨ parent.kind = "object_assignment_pattern") ∧ node.field ≠ some "left" then
        .reads
      else access parent
    else accessIn parent.label node.field := by
  obtain ⟨tree, above⟩ := node
  cases above with
  | nil => cases h
  | cons outer above =>
    cases h
    rfl

theorem access_of_parent?_eq_none {node : Node} (h : node.parent? = none) : access node = .reads := by
  obtain ⟨tree, above⟩ := node
  cases above with
  | nil => rfl
  | cons outer above => cases h

theorem not_read_accessIn_iff {parent : Label} {field : Option String} : (accessIn parent field).read = false ↔
    (parent.kind = "assignment_expression" ∨ parent.kind = "for_in_statement") ∧ field = some "left" := by
  unfold accessIn
  split
  · next h => exact iff_of_true rfl ⟨.inl h.1, h.2⟩
  · next hassigned =>
    split
    · next h => exact iff_of_true rfl ⟨.inr h.1, h.2⟩
    · next hloop =>
      have hnot : ¬ ((parent.kind = "assignment_expression" ∨ parent.kind = "for_in_statement") ∧
          field = some "left") := by
        rintro ⟨hkind | hkind, hfield⟩
        · exact hassigned ⟨hkind, hfield⟩
        · exact hloop ⟨hkind, hfield⟩
      refine iff_of_false ?_ hnot
      split
      · exact Bool.noConfusion
      · split <;> exact Bool.noConfusion

/-- Just the targets are written and not read. -/
theorem not_read_iff (source : Source) (node : Node) : (useOf source node).read = false ↔ Target node := by
  change (access node).read = false ↔ Target node
  induction node using Node.parentInduction with
  | outermost node houter =>
    rw [access_of_parent?_eq_none houter]
    refine iff_of_false Bool.noConfusion ?_
    rintro (⟨inside, -, -⟩ | ⟨inside, -, -, -⟩) <;> exact absurd (houter.symm.trans inside) nofun
  | inner node parent hparent ih =>
    have hsame : ∀ other, node.parent? = some other → other = parent := fun other h =>
      Option.some.inj (h.symm.trans hparent)
    rw [access_of_parent? hparent]
    by_cases hpattern : patternKinds.contains parent.kind
    · have hkind := List.contains_iff_mem.1 hpattern
      have hwhole : ¬ (parent.kind = "assignment_expression" ∨ parent.kind = "for_in_statement") := by
        rintro (h | h) <;> rw [h] at hkind <;> exact absurd hkind (by decide)
      rw [if_pos hpattern]
      split
      · next hdefault =>
        refine iff_of_false Bool.noConfusion ?_
        rintro (⟨inside, kind, -⟩ | ⟨inside, -, chosen, -⟩) <;> obtain rfl := hsame _ inside
        · exact hwhole kind
        · exact hdefault.2 (chosen hdefault.1)
      · next hchosen =>
        rw [ih]
        constructor
        · refine fun outer => .part hparent hkind (fun h => ?_) outer
          exact Classical.byContradiction fun hfield => hchosen ⟨h, hfield⟩
        · rintro (⟨inside, kind, -⟩ | ⟨inside, -, -, outer⟩) <;> obtain rfl := hsame _ inside
          · exact absurd kind hwhole
          · exact outer
    · rw [if_neg hpattern, not_read_accessIn_iff]
      constructor
      · exact fun ⟨kind, field⟩ => .whole hparent kind field
      · rintro (⟨inside, kind, field⟩ | ⟨inside, kind, -, -⟩) <;> obtain rfl := hsame _ inside
        · exact ⟨kind, field⟩
        · exact absurd (List.contains_iff_mem.2 kind) hpattern

end Scope

namespace Rules

open Scope (Table Reference IsGlobalUse Target useOf)

/-! ## Entries -/

/-- The last of some entries for a name. -/
def LastEntry (globals : List RestrictedGlobal) (name : String) (entry : RestrictedGlobal) : Prop :=
  ∃ before after, globals = before ++ entry :: after ∧ entry.name = name ∧ ∀ other ∈ after, other.name ≠ name

theorem restriction?_eq_some_iff {globals : List RestrictedGlobal} {name : String} {entry : RestrictedGlobal} :
    restriction? globals name = some entry ↔ LastEntry globals name entry := by
  rw [restriction?, List.find?_eq_some_iff_append]
  constructor
  · rintro ⟨hname, after, before, hglobals, hafter⟩
    refine ⟨before.reverse, after.reverse, ?_, of_decide_eq_true hname, fun other hother => ?_⟩
    · rw [← List.reverse_reverse globals, hglobals]
      simp
    · simpa using hafter other (List.mem_reverse.1 hother)
  · rintro ⟨before, after, rfl, hname, hafter⟩
    refine ⟨decide_eq_true hname, after.reverse, before.reverse, by simp, fun other hother => ?_⟩
    simpa using hafter other (List.mem_reverse.1 hother)

theorem isSome_restriction?_iff {globals : List RestrictedGlobal} {name : String} :
    (restriction? globals name).isSome = true ↔ ∃ entry ∈ globals, entry.name = name := by
  simp [restriction?, List.find?_isSome]

/-! ## What is reported -/

/-- A use of a global with a configured name. -/
structure RestrictedUse (source : Source) (table : Table) (globals : List RestrictedGlobal) (node : Node) : Prop where
  free : IsGlobalUse source table node
  named : ∃ entry ∈ globals, entry.name = source.textOf node

/-- The finding about a node, for an entry. -/
def restrictedAt (source : Source) (severity : Severity) (node : Node) (entry : RestrictedGlobal) : Finding :=
  { rule := noRestrictedGlobals.id, severity, message := restrictionMessage entry, path := source.path
    span := source.spanOf node, nodeKind := some node.kind }

/-- The finding about a node, with the message of the last entry for its name. -/
def Tells (source : Source) (severity : Severity) (globals : List RestrictedGlobal) (node : Node) (finding : Finding) :
    Prop :=
  ∃ entry, LastEntry globals (source.textOf node) entry ∧ finding = restrictedAt source severity node entry

/-- Findings about just the nodes of a file with a property, in document order and once for each. -/
def ReportsJust (source : Source) (severity : Severity) (globals : List RestrictedGlobal) (p : Node → Prop)
    (findings : List Finding) : Prop :=
  ∃ nodes : List Node, nodes.Sublist source.root.walk ∧ nodes.Nodup ∧ (∀ node, node ∈ nodes ↔ p node) ∧
    List.Forall₂ (Tells source severity globals) nodes findings

/-- The rule alone, with some entries. -/
def restrictedAlone (severity : Severity) (globals : List RestrictedGlobal) : ActiveRule :=
  ⟨noRestrictedGlobals, severity, .restricted globals⟩

section Run

variable {source : Source} {severity : Severity} {globals : List RestrictedGlobal} {table : Table}

/-- The findings about uses of globals, one for each whose name is configured. -/
def restrictedIn (source : Source) (severity : Severity) (globals : List RestrictedGlobal) (uses : List Reference) :
    List Finding :=
  uses.filterMap fun use => (restriction? globals use.name).map (restrictedAt source severity use.identifier)

theorem checkGlobals_eq {ctx : Context} (scopes : ctx.scopes = .ok table) (hrule : ctx.rule = noRestrictedGlobals.id)
    (node : Node) : checkGlobals node ctx =
      (restrictedIn ctx.source ctx.severity (restrictedGlobals ctx.options) table.unresolved).map .finding := by
  unfold checkGlobals
  split
  · next hnone =>
    rw [hnone]
    simp [restrictedIn, restriction?]
  · rw [scopes, restrictedIn, List.map_filterMap]
    refine List.filterMap_congr fun use _ => ?_
    cases restriction? (restrictedGlobals ctx.options) use.name with
    | none => rfl
    | some entry => simp [restrictedAt, Context.report, hrule]

theorem result_checkGlobals {ctx : Context} (scopes : ctx.scopes = .ok table) (hrule : ctx.rule = noRestrictedGlobals.id)
    (node : Node) : (Call.mk node checkGlobals).result ctx =
      .ok (restrictedIn ctx.source ctx.severity (restrictedGlobals ctx.options) table.unresolved) := by
  rw [Call.result, collect_eq_ok_iff]
  refine ⟨_, checkGlobals_eq scopes hrule node, ?_⟩
  rw [restrictedIn, List.map_filterMap]
  refine List.filterMap_congr fun use _ => ?_
  cases restriction? (restrictedGlobals ctx.options) use.name <;> rfl

theorem runRules_restrictedAlone (single : source.root.walk.filter (·.kind = "program") = [source.root])
    (h : Scope.analyze source = .ok table) : runRules source [restrictedAlone severity globals] =
      restrictedIn source severity globals table.unresolved := by
  rw [runRules_singleton, ActiveRule.calls_of_single rfl, ← programs, programs_eq_singleton single, List.map_singleton,
    contribution, result_checkGlobals h rfl]
  exact List.append_nil _

/-- Where the scopes are not known, there is one failure to tell of, if any name is configured. -/
theorem runRules_restrictedAlone_of_error (single : source.root.walk.filter (·.kind = "program") = [source.root])
    {failure : Failure} (h : Scope.analyze source = .error failure) :
    runRules source [restrictedAlone severity globals] = if globals = [] then [] else
      [failureFinding (Dispatch.contextFor source (.error failure) (restrictedAlone severity globals)) source.root
        failure] := by
  rw [runRules_singleton, ActiveRule.calls_of_single rfl, ← programs, programs_eq_singleton single,
    List.map_singleton, h]
  cases globals <;> rfl

theorem forall₂_filterMap {α β : Type} {f : α → Option β} {R : α → β → Prop} : ∀ {items : List α},
    (∀ item ∈ items, ∀ value, f item = some value → R item value) →
      List.Forall₂ R (items.filter fun item => (f item).isSome) (items.filterMap f)
  | [], _ => .nil
  | item :: rest, h => by
    rw [List.forall_mem_cons] at h
    rw [List.filter_cons, List.filterMap_cons]
    cases hvalue : f item with
    | none => exact forall₂_filterMap h.2
    | some value => exact .cons (h.1 value hvalue) (forall₂_filterMap h.2)

theorem reportsJust_restrictedIn (distinct : source.tree.ids.Nodup) (describes : table.Describes source) :
    ReportsJust source severity globals (RestrictedUse source table globals)
      (restrictedIn source severity globals table.unresolved) := by
  have hnamed : ∀ use ∈ table.unresolved, use.name = source.textOf use.identifier := by
    intro use huse
    rw [((Scope.mem_unresolved_iff distinct describes).1 huse).2]
    rfl
  let restricted := fun use : Reference =>
    (restriction? globals use.name).map (restrictedAt source severity use.identifier)
  let nodes := (table.unresolved.filter fun use => (restricted use).isSome).map Reference.identifier
  have hsublist : nodes.Sublist source.root.walk :=
    (List.filter_sublist.map _).trans (describes.resolves distinct).orderedGlobals
  have hwalk : source.root.walk.Nodup := .of_map Node.id (by rwa [Node.ids_walk])
  refine ⟨nodes, hsublist, hwalk.sublist hsublist, fun node => ?_, ?_⟩
  · constructor
    · intro hnode
      obtain ⟨use, huse, rfl⟩ := List.mem_map.1 hnode
      obtain ⟨huse, hsome⟩ := List.mem_filter.1 huse
      rw [Option.isSome_map, hnamed use huse, isSome_restriction?_iff] at hsome
      exact ⟨((Scope.mem_unresolved_iff distinct describes).1 huse).1, hsome⟩
    · rintro ⟨free, named⟩
      have huse : useOf source node ∈ table.unresolved := (Scope.mem_unresolved_iff distinct describes).2 ⟨free, rfl⟩
      refine List.mem_map.2 ⟨_, List.mem_filter.2 ⟨huse, ?_⟩, rfl⟩
      rw [Option.isSome_map]
      exact isSome_restriction?_iff.2 named
  · rw [List.forall₂_map_left_iff]
    refine forall₂_filterMap fun use huse finding hfinding => ?_
    obtain ⟨entry, hentry, rfl⟩ := Option.map_eq_some_iff.1 hfinding
    rw [hnamed use huse] at hentry
    exact ⟨entry, restriction?_eq_some_iff.1 hentry, rfl⟩

/-- Findings about all nodes with a property are not findings about fewer of them. -/
theorem ReportsJust.iff_forall {p q : Node → Prop} {findings : List Finding}
    (h : ReportsJust source severity globals p findings) (fewer : ∀ node, q node → p node) :
    ReportsJust source severity globals q findings ↔ ∀ node, p node → q node := by
  obtain ⟨nodes, hsublist, hnodup, hmem, htells⟩ := h
  constructor
  · rintro ⟨others, -, hothers, hmem', htells'⟩ node hp
    have hsubset : others ⊆ nodes := fun other hother => (hmem other).2 (fewer other ((hmem' other).1 hother))
    have hlength : nodes.length ≤ others.length :=
      Nat.le_of_eq (htells.length_eq.trans htells'.length_eq.symm)
    have hperm : others.Perm nodes := (List.subperm_of_subset hothers hsubset).perm_of_length_le hlength
    exact (hmem' node).1 (hperm.mem_iff.2 ((hmem node).2 hp))
  · intro hall
    exact ⟨nodes, hsublist, hnodup, fun node => (hmem node).trans ⟨hall node, fewer node⟩, htells⟩

end Run

/-- **Uses of restricted globals are reported, reads or not.** In a file whose root is the one program, the rule
reports just the uses of a configured name that no scope around them declares, in document order and once each,
with the message of the last entry for the name. These are reads only if no such use is a target that is
written and not read. Where the scopes are not known, nothing but that is reported, if any name is
configured. -/
theorem restrictedAlone_reports (path : Path) (bytes : Bytes) (parsed : ParseTree) (severity : Severity)
    (globals : List RestrictedGlobal) :
    let source := Source.ofParsed path bytes parsed
    let findings := runRules source [restrictedAlone severity globals]
    source.root.walk.filter (·.kind = "program") = [source.root] →
      (∀ table, Scope.analyze source = .ok table →
        ReportsJust source severity globals (RestrictedUse source table globals) findings ∧
        (ReportsJust source severity globals
            (fun node => RestrictedUse source table globals node ∧ (useOf source node).read = true) findings ↔
          ∀ node, RestrictedUse source table globals node → ¬ Target node)) ∧
      ∀ failure, Scope.analyze source = .error failure → globals = [] ∧ findings = [] ∨ ∃ ctx : Context,
        ctx.rule = noRestrictedGlobals.id ∧ ctx.source = source ∧ findings = [failureFinding ctx source.root failure] := by
  intro source findings single
  have distinct : source.tree.ids.Nodup := Source.nodup_ids_ofParsed path bytes parsed
  refine ⟨fun table h => ?_, fun failure h => ?_⟩
  · have hjust : ReportsJust source severity globals (RestrictedUse source table globals) findings := by
      have hfindings : findings = _ := runRules_restrictedAlone single h
      rw [hfindings]
      exact reportsJust_restrictedIn distinct (Scope.describes_of_analyze h)
    refine ⟨hjust, (hjust.iff_forall fun node => And.left).trans (forall₂_congr fun node hnode => ?_)⟩
    rw [← Scope.not_read_iff source, Bool.not_eq_false, and_iff_right hnode]
  · have hfindings : findings = _ := runRules_restrictedAlone_of_error single h
    rw [hfindings]
    split
    · next hnone => exact .inl ⟨hnone, rfl⟩
    · exact .inr ⟨_, rfl, rfl, rfl⟩

/-- An assignment to a name that nothing declares. -/
def assignedSource : Source :=
  .ofParsed (.ofString "x.js") (Utf8.encode "event = 1")
    (.node { kind := "program", start := 0, stop := 9 }
      [.node { kind := "expression_statement", start := 0, stop := 9 }
        [.node { kind := "assignment_expression", start := 0, stop := 9 }
          [.node { kind := "identifier", start := 0, stop := 5, field := some "left" } [],
           .node { kind := "=", start := 6, stop := 7, named := false } [],
           .node { kind := "number", start := 8, stop := 9, field := some "right" } []]]])

theorem assignedSource_single :
    assignedSource.root.walk.filter (·.kind = "program") = [assignedSource.root] := rfl

theorem analyze_assignedSource : Scope.analyze assignedSource = .ok (Scope.tableOf assignedSource) :=
  Scope.analyze_eq_ok_tableOf (by decide +kernel)

theorem restrictedAlone_reports_assignedSource :
    assignedSource.root.walk.filter (·.kind = "program") = [assignedSource.root] ∧
    ReportsJust assignedSource .error [⟨"event", none⟩]
      (RestrictedUse assignedSource (Scope.tableOf assignedSource) [⟨"event", none⟩])
      (runRules assignedSource [restrictedAlone .error [⟨"event", none⟩]]) :=
  ⟨assignedSource_single,
    ((restrictedAlone_reports _ _ _ .error [⟨"event", none⟩] assignedSource_single).1 _ analyze_assignedSource).1⟩

/-- Not only reads are reported: the target of the assignment is, too. -/
theorem not_reportsJust_reads : ¬ ∀ (path : Path) (bytes : Bytes) (parsed : ParseTree) (severity : Severity)
    (globals : List RestrictedGlobal) (table : Table),
    let source := Source.ofParsed path bytes parsed
    source.root.walk.filter (·.kind = "program") = [source.root] → Scope.analyze source = .ok table →
      ReportsJust source severity globals
        (fun node => RestrictedUse source table globals node ∧ (useOf source node).read = true)
        (runRules source [restrictedAlone severity globals]) := by
  intro hclaim
  have hjust : ReportsJust assignedSource .error [⟨"event", none⟩] (fun node =>
      RestrictedUse assignedSource (Scope.tableOf assignedSource) [⟨"event", none⟩] node ∧
        (useOf assignedSource node).read = true) (runRules assignedSource [restrictedAlone .error [⟨"event", none⟩]]) :=
    hclaim _ _ _ _ _ _ assignedSource_single analyze_assignedSource
  obtain ⟨nodes, -, -, hmem, htells⟩ := hjust
  have hlength : nodes.length = 1 := by
    rw [htells.length_eq]
    refine (congrArg List.length (runRules_restrictedAlone assignedSource_single analyze_assignedSource)).trans ?_
    decide +kernel
  obtain ⟨node, rfl⟩ := List.length_eq_one_iff.1 hlength
  obtain ⟨⟨free, -⟩, hread⟩ := (hmem node).1 List.mem_cons_self
  have huse : useOf assignedSource node ∈ (Scope.tableOf assignedSource).unresolved :=
    (Scope.mem_unresolved_iff (Source.nodup_ids_ofParsed _ _ _)
      (Scope.describes_of_analyze analyze_assignedSource)).2 ⟨free, rfl⟩
  have hwritten : (Scope.tableOf assignedSource).unresolved.all (!·.read) = true := by decide +kernel
  have hnot := List.all_eq_true.1 hwritten _ huse
  rw [hread] at hnot
  cases hnot

end Rules

end ScriptLint
