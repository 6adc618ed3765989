/-
What the options of the rule about unused variables leave out.

Under the widest options all variables count, all parameters too, beside a rest
element or not. Other options only leave out some of what is found then
(`isReported_iff_widest`): parameters, those before the tail of unused ones of
their function (`UnusedTail`), variables of the program itself, and names that
stand beside a rest element (`LeftOut`). A variable is left out for itself, so
that a run under other options is the widest one with some findings picked out,
in the order of the visits and in that of reports (`narrows_runRules`,
`Narrows.canonicalOrder`).
-/
import Mathlib.Data.List.TakeWhile
import ScriptLint.Proofs.Isolation
import ScriptLint.Proofs.Rules.Exports
import ScriptLint.Report

namespace ScriptLint

namespace Rules

open Scope (Variable Table)

/-! ## Parameters of a function -/

/-- The parameters of a function, in the order of the table. -/
def paramsOf (vars : List Variable) (function : Node) : List Variable :=
  vars.filter fun v => v.kind = "param" && v.scope.id = function.id

/-- The last of some parameters that are unused, as many as there are: in the order of the first identifiers
they come last, none of them is used, and no longer end of the list is all unused. -/
def UnusedTail (params tail : List Variable) : Prop :=
  ∃ arranged, ArrangedBy firstStart (fun a b => decide (a ≤ b)) params arranged ∧ tail <:+ arranged ∧
    (∀ v ∈ tail, isUsed v = false) ∧
    ∀ longer, longer <:+ arranged → (∀ v ∈ longer, isUsed v = false) → longer <:+ tail

theorem unusedTail_paramsAfterUsed (params : List Variable) : UnusedTail params (paramsAfterUsed params) := by
  let arranged := params.mergeSort fun a b => firstStart a ≤ firstStart b
  have hprefix : arranged.reverse.takeWhile (fun v => !isUsed v) <+: arranged.reverse := List.takeWhile_prefix _
  refine ⟨arranged, arrangedBy_mergeSort (by simp; omega) (by simp; omega) params, ?_, fun v hv => ?_,
    fun longer hlonger hunused => ?_⟩
  · rwa [paramsAfterUsed, ← List.reverse_prefix, List.reverse_reverse]
  · simpa using List.mem_takeWhile_imp (List.mem_reverse.1 hv)
  · obtain ⟨before, hbefore⟩ := hlonger
    have hall : ∀ v ∈ longer.reverse, (!isUsed v) = true := by
      intro v hv
      rw [hunused v (List.mem_reverse.1 hv)]
      rfl
    have htail : paramsAfterUsed params = ((longer.reverse ++ before.reverse).takeWhile fun v => !isUsed v).reverse := by
      rw [← List.reverse_append, hbefore]
      rfl
    rw [htail, List.takeWhile_append_of_pos hall, List.reverse_append, List.reverse_reverse]
    exact List.suffix_append _ _

/-- There is one such tail. -/
theorem UnusedTail.eq {params tail : List Variable} (h : UnusedTail params tail) : tail = paramsAfterUsed params := by
  obtain ⟨arranged, harranged, htail, hunused, hlongest⟩ := h
  obtain ⟨others, hothers, htail', hunused', hlongest'⟩ := unusedTail_paramsAfterUsed params
  obtain rfl : arranged = others := by
    refine eq_of_pairwise_of_filter_eq firstStart (fun a b => decide (a ≤ b) = true) (by simp) (by simp; omega)
      harranged.ordered hothers.ordered fun k => ?_
    rw [harranged.stable, hothers.stable]
  exact (hlongest' tail htail hunused).eq_of_length
    (Nat.le_antisymm (hlongest' tail htail hunused).length_le (hlongest _ htail' hunused').length_le)

/-- With distinct scopes and names, a parameter counts in the second mode when it is in the tail. -/
theorem paramCounts_afterUsed_iff {vars : List Variable} (distinct : (vars.map Variable.key).Nodup) {param : Variable}
    (hparam : param ∈ vars) : paramCounts .afterUsed vars param = true ↔
      param ∈ paramsAfterUsed (paramsOf vars param.scope) := by
  have hvars : ∀ v ∈ paramsAfterUsed (paramsOf vars param.scope), v ∈ vars := by
    obtain ⟨arranged, harranged, htail, -⟩ := unusedTail_paramsAfterUsed (paramsOf vars param.scope)
    exact fun v hv => (List.mem_filter.1 (harranged.perm.mem_iff.1 (htail.subset hv))).1
  rw [paramCounts, ← paramsOf, List.any_eq_true]
  constructor
  · rintro ⟨v, hv, hat⟩
    obtain rfl : v = param := List.inj_on_of_nodup_map distinct (hvars v hv) hparam (Variable.isAt_iff.1 hat)
    exact hv
  · exact fun hmem => ⟨param, hmem, Variable.isAt_iff.2 rfl⟩

/-! ## Rest elements -/

/-- A name that is taken out of an object beside a rest element, by itself or under a key. -/
def BesideRest (identifier : Node) : Prop :=
  ∃ pattern, (identifier.parent? = some pattern ∨
      ∃ pair, identifier.parent? = some pair ∧ pair.kind = "pair_pattern" ∧ pair.parent? = some pattern) ∧
    pattern.kind = "object_pattern" ∧ ∃ rest ∈ pattern.namedChildren, rest.kind = "rest_pattern"

theorem hasRestSibling_iff {identifier : Node} : hasRestSibling identifier = true ↔ BesideRest identifier := by
  have hpattern : ∀ member : Node, (member.parent?.any fun pattern =>
      pattern.kind = "object_pattern" && pattern.namedChildren.any (·.kind = "rest_pattern")) = true ↔
      ∃ pattern, member.parent? = some pattern ∧ pattern.kind = "object_pattern" ∧
        ∃ rest ∈ pattern.namedChildren, rest.kind = "rest_pattern" := by
    intro member
    simp [Option.any_eq_true]
  unfold hasRestSibling BesideRest
  cases hparent : identifier.parent? with
  | none =>
    refine iff_of_false (by simp [hparent]) ?_
    rintro ⟨pattern, h | ⟨pair, h, -⟩, -⟩ <;> cases h
  | some parent =>
    dsimp only
    by_cases hpair : parent.kind = "pair_pattern"
    · rw [if_pos hpair, hpattern]
      constructor
      · rintro ⟨pattern, hmember, hrest⟩
        exact ⟨pattern, .inr ⟨parent, rfl, hpair, hmember⟩, hrest⟩
      · rintro ⟨pattern, h | ⟨pair, h, -, hmember⟩, hkind, hrest⟩
        · cases h
          exact absurd (hpair.symm.trans hkind) (by decide)
        · cases h
          exact ⟨pattern, hmember, hkind, hrest⟩
    · rw [if_neg hpair, hpattern, hparent]
      constructor
      · rintro ⟨pattern, hmember, hrest⟩
        exact ⟨pattern, .inl hmember, hrest⟩
      · rintro ⟨pattern, hmember | ⟨pair, h, hkind, -⟩, hrest⟩
        · exact ⟨pattern, hmember, hrest⟩
        · cases h
          exact absurd hkind hpair

/-! ## What options leave out -/

/-- The options under which most is found. -/
def widest : UnusedOptions := { vars := .all, args := .all, ignoreRestSiblings := false }

/-- Why options leave out a variable that is found under the widest ones. -/
inductive LeftOut (options : UnusedOptions) (vars : List Variable) (program : Node) (v : Variable) : Prop
  | parameter (kind : v.kind = "param") (args : options.args = .none)
  | early (kind : v.kind = "param") (args : options.args = .afterUsed) {tail : List Variable}
      (last : UnusedTail (paramsOf vars v.scope) tail) (before : v ∉ tail)
  | outermost (scope : v.scope = program) (only : options.vars = .local)
  | rest {identifier : Node} (first : firstIdentifier? v = some identifier) (beside : BesideRest identifier)
      (ignored : options.ignoreRestSiblings = true)

section Table

variable {source : Source} {table : Table} (distinct : source.tree.ids.Nodup) (h : Scope.analyze source = .ok table)
  {v : Variable} (hv : v ∈ table.vars) {program : Node} (hprogram : program ∈ source.root.walk)

include distinct h hv hprogram

theorem leftOut_iff (options : UnusedOptions) : LeftOut options table.vars program v ↔
    v.kind = "param" ∧ paramCounts options.args table.vars v = false ∨
      options.vars = .local ∧ v.scope.id = program.id ∨
      options.ignoreRestSiblings = true ∧ (firstIdentifier? v).any hasRestSibling = true := by
  have describes := Scope.describes_of_analyze h
  have hscope := Scope.scope_mem_walk describes (Scope.founded_of_analyze h) hv
  constructor
  · rintro (⟨kind, args⟩ | ⟨kind, args, last, before⟩ | ⟨scope, only⟩ | ⟨first, beside, ignored⟩)
    · exact .inl ⟨kind, by rw [args, paramCounts]⟩
    · refine .inl ⟨kind, Bool.eq_false_iff.2 fun hcounts => before ?_⟩
      rw [args, paramCounts_afterUsed_iff describes.distinct hv, ← last.eq] at hcounts
      exact hcounts
    · exact .inr (.inl ⟨only, by rw [scope]⟩)
    · exact .inr (.inr ⟨ignored, by rw [first, Option.any_some, hasRestSibling_iff.2 beside]⟩)
  · rintro (⟨kind, hcounts⟩ | ⟨only, hid⟩ | ⟨ignored, hrest⟩)
    · cases hargs : options.args with
      | none => exact .parameter kind hargs
      | all =>
        rw [hargs, paramCounts] at hcounts
        cases hcounts
      | afterUsed =>
        refine .early kind hargs (unusedTail_paramsAfterUsed _) fun hmem => ?_
        rw [← paramCounts_afterUsed_iff describes.distinct hv, ← hargs, hcounts] at hmem
        cases hmem
    · exact .outermost (Node.eq_of_same_id distinct hscope hprogram hid) only
    · obtain ⟨identifier, hfirst, hrest⟩ := (Option.any_eq_true _ _).1 hrest
      exact .rest hfirst (hasRestSibling_iff.1 hrest) ignored

/-- A variable is reported if it is under the widest options and the options do not leave it out. -/
theorem isReported_iff_widest (options : UnusedOptions) (usesElements : Bool) :
    isReported options table.vars program usesElements v = true ↔
      isReported widest table.vars program usesElements v = true ∧ ¬ LeftOut options table.vars program v := by
  rw [isReported_iff, isReported_iff, reportable_iff, reportable_iff, leftOut_iff distinct h hv hprogram]
  simp only [widest, paramCounts, Bool.false_eq_true, reduceCtorEq]
  grind

end Table

/-! ## Runs under different options -/

/-- The finding about a variable, at its first identifier. -/
def findingAbout (source : Source) (severity : Severity) (v : Variable) : Finding :=
  let identifier := (firstIdentifier? v).getD v.scope
  { rule := noUnusedVars.id, severity, message := unusedMessage v, path := source.path
    span := source.spanOf identifier, nodeKind := some identifier.kind }

/-- The rule alone, with some options. -/
def unusedAlone (severity : Severity) (options : UnusedOptions) : ActiveRule :=
  ⟨noUnusedVars, severity, .unused options⟩

theorem calls_unusedAlone (source : Source) (severity : Severity) (options : UnusedOptions) :
    (unusedAlone severity options).calls source.root = (programs source).map (⟨·, checkUnused⟩) :=
  ActiveRule.calls_of_single rfl source.root

/-- With the scopes known, a call finds the variables that are reported. -/
theorem result_checkUnused {ctx : Context} {table : Table} (scopes : ctx.scopes = .ok table)
    (hrule : ctx.rule = noUnusedVars.id) (declared : ∀ v ∈ table.vars, v.identifiers ≠ []) (program : Node) :
    (Call.mk program checkUnused).result ctx = .ok ((table.vars.filter (isReported (unusedOptions ctx.options) table.vars
      program (program.walk.any (·.kind.startsWith "jsx_")))).map (findingAbout ctx.source ctx.severity)) := by
  rw [Call.result, collect_eq_ok_iff]
  let reported := table.vars.filter (isReported (unusedOptions ctx.options) table.vars program
    (program.walk.any (·.kind.startsWith "jsx_")))
  refine ⟨reported.map (findingAbout ctx.source ctx.severity), ?_, by rw [List.map_map]; rfl⟩
  simp only [checkUnused, scopes, List.map_map]
  rw [← List.filterMap_eq_map]
  refine List.filterMap_congr fun v hv => ?_
  obtain ⟨identifier, hfirst⟩ := Option.isSome_iff_exists.1
    (List.isSome_head?.2 (declared v (List.mem_filter.1 hv).1))
  have hfirst : firstIdentifier? v = some identifier := hfirst
  simp [hfirst, findingAbout, Context.report, hrule]

open Classical in
/-- What a run finds under the widest options, for which program and about which variable; under all others
it finds the same, in the same order, without what they leave out. -/
structure Narrows (source : Source) (table : Table) (severity : Severity) (run : UnusedOptions → List Finding)
    (found : List (Node × Variable)) : Prop where
  known : ∀ pair ∈ found, pair.1 ∈ programs source ∧ pair.2 ∈ table.vars
  wide : run widest = found.map (findingAbout source severity ·.2)
  narrow : ∀ options, run options =
    (found.filter fun pair => ¬ LeftOut options table.vars pair.1 pair.2).map (findingAbout source severity ·.2)

theorem not_leftOut_widest {vars : List Variable} {program : Node} {v : Variable} : ¬ LeftOut widest vars program v := by
  rintro (⟨-, h⟩ | ⟨-, h, -, -⟩ | ⟨-, h⟩ | ⟨-, -, h⟩) <;> cases h

section Runs

variable {source : Source} {table : Table} {severity : Severity}

/-- The variables that are reported under the widest options, program by program. -/
def foundAlone (source : Source) (table : Table) : List (Node × Variable) :=
  (programs source).flatMap fun program => (table.vars.filter (isReported widest table.vars program
    (program.walk.any (·.kind.startsWith "jsx_")))).map (program, ·)

theorem runRules_unusedAlone (h : Scope.analyze source = .ok table) (options : UnusedOptions) :
    runRules source [unusedAlone severity options] = (programs source).flatMap fun program =>
      (table.vars.filter (isReported options table.vars program (program.walk.any (·.kind.startsWith "jsx_")))).map
        (findingAbout source severity) := by
  let ctx := Dispatch.contextFor source (Scope.analyze source) (unusedAlone severity options)
  have hresults : ∀ call ∈ (programs source).map (⟨·, checkUnused⟩ : Node → Call), call.result ctx = .ok
      ((table.vars.filter (isReported options table.vars call.node
        (call.node.walk.any (·.kind.startsWith "jsx_")))).map (findingAbout source severity)) := by
    intro call hcall
    obtain ⟨program, -, rfl⟩ := List.mem_map.1 hcall
    exact result_checkUnused h rfl (Scope.describes_of_analyze h).declared program
  rw [runRules_singleton, calls_unusedAlone, contribution_of_ok hresults, List.flatMap_map]

theorem narrows_runRules (distinct : source.tree.ids.Nodup) (h : Scope.analyze source = .ok table) :
    Narrows source table severity (fun options => runRules source [unusedAlone severity options])
      (foundAlone source table) := by
  classical
  have hnarrow : ∀ options, runRules source [unusedAlone severity options] =
      ((foundAlone source table).filter fun pair => ¬ LeftOut options table.vars pair.1 pair.2).map
        (findingAbout source severity ·.2) := by
    intro options
    rw [runRules_unusedAlone h, foundAlone, List.filter_flatMap, List.map_flatMap]
    refine List.flatMap_congr fun program hprogram => ?_
    rw [List.filter_map, List.map_map, List.filter_filter]
    refine congrArg (List.map _) (List.filter_congr fun v hv => ?_)
    rw [Bool.eq_iff_iff, isReported_iff_widest distinct h hv (mem_programs hprogram).1]
    simp [and_comm]
  refine ⟨fun pair hpair => ?_, ?_, hnarrow⟩
  · obtain ⟨program, hprogram, hmem⟩ := List.mem_flatMap.1 hpair
    obtain ⟨v, hv, rfl⟩ := List.mem_map.1 hmem
    exact ⟨hprogram, (List.mem_filter.1 hv).1⟩
  · simp only [hnarrow, not_leftOut_widest, not_false_eq_true, decide_true, List.filter_true]

/-- In the order of reports the same is left out. -/
theorem Narrows.canonicalOrder {run : UnusedOptions → List Finding} {found : List (Node × Variable)}
    (h : Narrows source table severity run found) : ∃ found', found'.Perm found ∧
      Narrows source table severity (fun options => canonicalOrder (run options)) found' := by
  classical
  let key := fun pair : Node × Variable => (findingAbout source severity pair.2).key
  have hsorted : ∀ pairs : List (Node × Variable),
      ScriptLint.canonicalOrder (pairs.map (findingAbout source severity ·.2)) =
        (sortByKey key pairs).map (findingAbout source severity ·.2) := fun pairs => sortByKey_map (fun _ => rfl) pairs
  refine ⟨sortByKey key found, sortByKey_perm .., fun pair hpair => ?_, ?_, fun options => ?_⟩
  · exact h.known pair ((sortByKey_perm ..).mem_iff.1 hpair)
  · rw [h.wide, hsorted]
  · rw [h.narrow options, hsorted, filter_sortByKey_comm]

/-- Where options leave out more, less is found. -/
theorem Narrows.sublist {run : UnusedOptions → List Finding} {found : List (Node × Variable)}
    (h : Narrows source table severity run found) {options others : UnusedOptions}
    (more : ∀ program v, LeftOut others table.vars program v → LeftOut options table.vars program v) :
    (run options).Sublist (run others) := by
  classical
  rw [h.narrow, h.narrow]
  refine (List.monotone_filter_right found fun pair hkept => ?_).map _
  simp only [decide_eq_true_eq] at hkept ⊢
  exact fun hothers => hkept (more _ _ hothers)

/-- Where the scopes are not known, there is one failure to tell of, whatever the options are. -/
theorem runRules_unusedAlone_of_error {failure : Failure} (h : Scope.analyze source = .error failure)
    (options : UnusedOptions) : runRules source [unusedAlone severity options] =
      runRules source [unusedAlone severity widest] := by
  have hfail : ∀ options, runRules source [unusedAlone severity options] = (((programs source).map
      (⟨·, checkUnused⟩ : Node → Call)).head?.map fun call => failureFinding
        ⟨source, .error failure, noUnusedVars.id, severity, .none⟩ call.node failure).toList := by
    intro options
    rw [runRules_singleton, calls_unusedAlone]
    refine contribution_of_error fun call hcall => ?_
    obtain ⟨program, -, rfl⟩ := List.mem_map.1 hcall
    simp only [Call.result, checkUnused, Dispatch.contextFor, h, collect]
  rw [hfail, hfail]

end Runs

/-- **Options of the rule about unused variables only leave findings out.** On every tree whose scopes are
known, a run finds what the widest options find, in the same order, without the variables that the options
leave out, in the order of the visits and in that of reports; where the scopes are not known, options make no
difference. So without parameters no more is found than with those after the last used one, and with these no
more than with all. -/
theorem unusedAlone_narrows (path : Path) (bytes : Bytes) (parsed : ParseTree) (severity : Severity) :
    let source := Source.ofParsed path bytes parsed
    let run := fun options => runRules source [unusedAlone severity options]
    (∀ table, Scope.analyze source = .ok table → ∃ found found', found'.Perm found ∧
      Narrows source table severity run found ∧
      Narrows source table severity (fun options => canonicalOrder (run options)) found') ∧
    (∀ failure, Scope.analyze source = .error failure → ∀ options, run options = run widest) ∧
    ∀ options : UnusedOptions, (run { options with args := .none }).Sublist (run { options with args := .afterUsed }) ∧
      (run { options with args := .afterUsed }).Sublist (run { options with args := .all }) := by
  intro source run
  have distinct : source.tree.ids.Nodup := Source.nodup_ids_ofParsed path bytes parsed
  refine ⟨fun table h => ?_, fun failure h => runRules_unusedAlone_of_error h, fun options => ?_⟩
  · have hruns : Narrows source table severity run _ := narrows_runRules distinct h
    obtain ⟨found', hperm, hsorted⟩ := hruns.canonicalOrder
    exact ⟨_, found', hperm, hruns, hsorted⟩
  · cases h : Scope.analyze source with
    | error failure =>
      have hsame : ∀ options, run options = run widest := runRules_unusedAlone_of_error h
      simp only [hsame, List.Sublist.refl, and_self]
    | ok table =>
      have hruns : Narrows source table severity run _ := narrows_runRules distinct h
      constructor
      · refine hruns.sublist fun program v => ?_
        rintro (⟨-, args⟩ | ⟨kind, -, -, -⟩ | ⟨scope, only⟩ | ⟨first, beside, ignored⟩)
        · cases args
        · exact .parameter kind rfl
        · exact .outermost scope only
        · exact .rest first beside ignored
      · refine hruns.sublist fun program v => ?_
        rintro (⟨-, args⟩ | ⟨-, args, -, -⟩ | ⟨scope, only⟩ | ⟨first, beside, ignored⟩)
        · cases args
        · cases args
        · exact .outermost scope only
        · exact .rest first beside ignored

/-- A function with three parameters, the second of which is used, and a name beside a rest element. -/
def siftedSource : Source :=
  .ofParsed (.ofString "x.js") (Utf8.encode "function f(a,b,c){b}var {x,...r}=o")
    (.node { kind := "program", start := 0, stop := 34 }
      [.node { kind := "function_declaration", start := 0, stop := 20 }
        [.node { kind := "identifier", start := 9, stop := 10, field := some "name" } [],
         .node { kind := "formal_parameters", start := 10, stop := 17, field := some "parameters" }
          [.node { kind := "identifier", start := 11, stop := 12 } [],
           .node { kind := "identifier", start := 13, stop := 14 } [],
           .node { kind := "identifier", start := 15, stop := 16 } []],
         .node { kind := "statement_block", start := 17, stop := 20, field := some "body" }
          [.node { kind := "expression_statement", start := 18, stop := 19 }
            [.node { kind := "identifier", start := 18, stop := 19 } []]]],
       .node { kind := "variable_declaration", start := 20, stop := 34 }
        [.node { kind := "variable_declarator", start := 24, stop := 34 }
          [.node { kind := "object_pattern", start := 24, stop := 32, field := some "name" }
            [.node { kind := "shorthand_property_identifier_pattern", start := 25, stop := 26 } [],
             .node { kind := "rest_pattern", start := 27, stop := 31 }
              [.node { kind := "identifier", start := 30, stop := 31 } []]],
           .node { kind := "identifier", start := 33, stop := 34, field := some "value" } []]]])

theorem unusedAlone_narrows_siftedSource : ∃ table found, Scope.analyze siftedSource = .ok table ∧
    Narrows siftedSource table .warn (fun options => runRules siftedSource [unusedAlone .warn options]) found ∧
    [widest, { widest with args := .none }, { widest with vars := .local }, { widest with ignoreRestSiblings := true }].map
      (fun options => (runRules siftedSource [unusedAlone .warn options]).map (·.span.start)) =
      [[9, 11, 15, 25, 30], [9, 25, 30], [11, 15], [9, 11, 15, 30]] := by
  have hknown : (Scope.analyze siftedSource).isOk = true := by decide +kernel
  have htable := Scope.analyze_eq_ok_tableOf hknown
  obtain ⟨found, -, -, hnarrows, -⟩ := (unusedAlone_narrows _ _ _ .warn).1 _ htable
  refine ⟨_, found, htable, hnarrows, ?_⟩
  simp only [runRules_unusedAlone htable, programs, visits_eq_tour]
  decide +kernel

end Rules

end ScriptLint
