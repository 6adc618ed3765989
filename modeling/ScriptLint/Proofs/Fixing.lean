/-
What fixing a text amounts to.

A pass is accepted when it applies something and its output still parses;
`Accepts` is a chain of such passes from one text to another, and `Ending` says
why a loop stopped after one. `passes_eq_ok` follows the loop along the chain.
Rules that never emit a fatal finding keep a text that parses apart from one
that does not, since only the former has anything to apply.
-/
import ScriptLint.Proofs.Isolation
import ScriptLint.Proofs.Selection
import ScriptLint.Proofs.Text.Utf8
import ScriptLint.Session

namespace ScriptLint

/-! ## Fatal findings -/

/-- A rule whose handlers emit no fatal finding. -/
def Rule.NeverFatal (rule : Rule) : Prop :=
  ∀ visitor ∈ rule.visitors, ∀ (node : Node) (ctx : Context) (finding : Finding),
    Emission.finding finding ∈ visitor.2 node ctx → finding.fatal = false

theorem fatal_of_mem_runRules {source : Source} {rules : List ActiveRule}
    (h : ∀ active ∈ rules, active.rule.NeverFatal) :
    ∀ finding ∈ runRules source rules, finding.fatal = false := by
  intro finding hfinding
  obtain ⟨active, hactive, visitor, hvisitor, node, ⟨emitted, hemitted, rfl⟩ | ⟨failure, rfl⟩⟩ :=
    mem_runRules hfinding
  · exact h active hactive visitor hvisitor node _ emitted hemitted
  · rfl

/-- A text with a syntax error does not open. -/
theorem Source.ofBytes_of_syntaxError {parser : Parser} {path : Path} {text : String} {tree : ParseTree}
    {error : ParseError} (hparse : parser text = some tree)
    (herror : tree.syntaxError? (Utf8.encode text) = some error) :
    Source.ofBytes parser path (Utf8.encode text) = .error (.parse error) := by
  simp only [Source.ofBytes, Utf8.decode?_encode, hparse, herror]

namespace Linter

variable {linter : Linter} {path : Path}

/-- Linting the text gives findings, and none of them is fatal. -/
def LintsClean (linter : Linter) (path : Path) (text : String) : Prop :=
  ∃ findings, linter.lint text path = .ok findings ∧ ∀ finding ∈ findings, finding.fatal = false

/-- The findings of a text are those of a run over its tree, or the one about a parse error. -/
theorem lint_eq_ok {text : String} {findings : List Finding} (h : linter.lint text path = .ok findings) :
    (∃ source, Source.ofBytes linter.parser path (Utf8.encode text) = .ok source ∧
        findings = canonicalOrder (runRules source linter.rules)) ∨
      ∃ error, Source.ofBytes linter.parser path (Utf8.encode text) = .error (.parse error) ∧
        findings = [parseErrorFinding path error] := by
  unfold lint at h
  split at h
  · next source hsource =>
    cases h
    exact .inl ⟨source, hsource, rfl⟩
  · next error herror =>
    cases h
    exact .inr ⟨error, herror, rfl⟩
  · cases h

/-- A text to which something is applied has been parsed. -/
theorem lintsClean_of_applied (quiet : ∀ active ∈ linter.rules, active.rule.NeverFatal) {text : String}
    {findings : List Finding} {fixed : FixOutcome} (hlint : linter.lint text path = .ok findings)
    (happly : applyFixes text findings = .ok fixed) (hsome : fixed.applied ≠ []) :
    linter.LintsClean path text := by
  refine ⟨findings, hlint, ?_⟩
  rcases lint_eq_ok hlint with ⟨source, -, rfl⟩ | ⟨error, -, rfl⟩
  · intro finding hfinding
    exact fatal_of_mem_runRules quiet finding (List.mem_mergeSort.1 hfinding)
  · -- The finding about a parse error has no fix, so nothing would have been applied.
    refine absurd ((applied_eq_nil_iff happly).2 ?_) hsome
    intro finding hfinding
    obtain rfl := List.mem_singleton.1 hfinding
    rfl

/-! ## Chains of accepted passes -/

/-- A pass from a text: what applying the fixes of its findings gives. The output parses, and
something was applied. -/
structure Accepted (linter : Linter) (path : Path) (text : String) (fixed : FixOutcome) : Prop where
  applies : ∃ findings, linter.lint text path = .ok findings ∧ applyFixes text findings = .ok fixed
  applied_ne_nil : fixed.applied ≠ []
  clean : linter.LintsClean path fixed.output

/-- Accepted passes, one after another, lead from the first text to the last. -/
inductive Accepts (linter : Linter) (path : Path) : String → List FixOutcome → String → Prop where
  | done (text : String) : Accepts linter path text [] text
  | pass {text last : String} {fixed : FixOutcome} {rest : List FixOutcome} :
      Accepted linter path text fixed → Accepts linter path fixed.output rest last →
      Accepts linter path text (fixed :: rest) last

/-- How many fixes were applied by passes. -/
def totalApplied : List FixOutcome → Nat
  | [] => 0
  | fixed :: rest => fixed.applied.length + totalApplied rest

/-- What the last of some passes skipped, or what was skipped before them. -/
def lastSkipped (before : List Conflict) : List FixOutcome → List Conflict
  | [] => before
  | fixed :: rest => lastSkipped fixed.skipped rest

theorem Accepts.clean {text last : String} {fixed : FixOutcome} {rest : List FixOutcome}
    (h : Accepts linter path text (fixed :: rest) last) : linter.LintsClean path last := by
  induction rest generalizing text fixed with
  | nil =>
    cases h with
    | pass first rest =>
      cases rest with
      | done => exact first.clean
  | cons next rest ih =>
    cases h with
    | pass _ rest => exact ih rest

/-- A chain of accepted passes keeps a text clean, or not clean. -/
theorem Accepts.lintsClean_iff (quiet : ∀ active ∈ linter.rules, active.rule.NeverFatal)
    {text last : String} {accepted : List FixOutcome} (h : Accepts linter path text accepted last) :
    linter.LintsClean path last ↔ linter.LintsClean path text := by
  cases accepted with
  | nil =>
    cases h with
    | done => exact Iff.rfl
  | cons fixed rest =>
    have hlast := h.clean
    cases h with
    | pass first _ =>
      obtain ⟨findings, hlint, happly⟩ := first.applies
      exact iff_of_true hlast (lintsClean_of_applied quiet hlint happly first.applied_ne_nil)

/-! ## The loop -/

/-- Why fixing ended after some accepted passes of at most `limit`, and the conflicts it then has:
none when nothing was left to apply, else those of the last accepted pass. -/
inductive Ending (linter : Linter) (path : Path) (limit : Nat) (before : List Conflict)
    (accepted : List FixOutcome) (result : FixState) : Prop where
  /-- The next pass applied nothing. -/
  | stable {fixed : FixOutcome} (room : accepted.length < limit)
      (applies : applyFixes result.output result.findings = .ok fixed) (nothing : fixed.applied = [])
      (conflicts : result.conflicts = [])
  /-- The output of the next pass had a fatal finding. -/
  | discarded {fixed : FixOutcome} {refreshed : List Finding} (room : accepted.length < limit)
      (applies : applyFixes result.output result.findings = .ok fixed) (something : fixed.applied ≠ [])
      (lints : linter.lint fixed.output path = .ok refreshed)
      (fatal : ∃ finding ∈ refreshed, finding.fatal = true)
      (conflicts : result.conflicts = lastSkipped before accepted)
  /-- All passes were used. -/
  | spent (full : accepted.length = limit) (conflicts : result.conflicts = lastSkipped before accepted)

/-- The three things a pass can do. -/
theorem pass_eq_ok {state : FixState} {outcome : Pass} (h : linter.pass path state = .ok outcome) :
    ∃ fixed, applyFixes state.output state.findings = .ok fixed ∧
      (fixed.applied = [] ∧ outcome = .stable fixed.skipped ∨
        fixed.applied ≠ [] ∧ ∃ refreshed, linter.lint fixed.output path = .ok refreshed ∧
          ((∃ finding ∈ refreshed, finding.fatal = true) ∧ outcome = .discarded ∨
            (∀ finding ∈ refreshed, finding.fatal = false) ∧ outcome = .accepted
              ⟨fixed.output, refreshed, fixed.skipped, state.applied + fixed.applied.length⟩)) := by
  unfold pass at h
  split at h
  · cases h
  · next fixed happly =>
    refine ⟨fixed, happly, ?_⟩
    split at h
    · next hnone =>
      cases h
      exact .inl ⟨List.isEmpty_iff.1 hnone, rfl⟩
    · next hsome =>
      have hne : fixed.applied ≠ [] := fun hnil => hsome (List.isEmpty_iff.2 hnil)
      split at h
      · cases h
      · next refreshed hlint =>
        refine .inr ⟨hne, refreshed, hlint, ?_⟩
        split at h
        · next hfatal =>
          cases h
          exact .inl ⟨List.any_eq_true.1 hfatal, rfl⟩
        · next hclean =>
          cases h
          refine .inr ⟨fun finding hfinding => ?_, rfl⟩
          exact Bool.eq_false_iff.2 fun hfatal => hclean (List.any_eq_true.2 ⟨finding, hfinding, hfatal⟩)

/-- From a state whose findings are those of its output, the loop goes along a chain of accepted
passes to such a state again, and adds up what they apply. -/
theorem passes_eq_ok {result : FixState} : ∀ (limit : Nat) (state : FixState),
    linter.lint state.output path = .ok state.findings → linter.passes path limit state = .ok result →
      linter.lint result.output path = .ok result.findings ∧
      ∃ accepted : List FixOutcome, accepted.length ≤ limit ∧
        Accepts linter path state.output accepted result.output ∧
        result.applied = state.applied + totalApplied accepted ∧
        Ending linter path limit state.conflicts accepted result
  | 0, state, hlint, h => by
    cases h
    exact ⟨hlint, [], Nat.le_refl 0, .done _, rfl, .spent rfl rfl⟩
  | limit + 1, state, hlint, h => by
    unfold passes at h
    cases hpass : linter.pass path state with
    | error failure =>
      rw [hpass] at h
      cases h
    | ok outcome =>
      rw [hpass] at h
      obtain ⟨fixed, happly, ⟨hnone, rfl⟩ | ⟨hsome, refreshed, hrefreshed, ⟨hfatal, rfl⟩ | ⟨hclean, rfl⟩⟩⟩ :=
        pass_eq_ok hpass
      · cases h
        have hskipped := skipped_eq_nil_of_applied_eq_nil happly hnone
        exact ⟨hlint, [], Nat.zero_le _, .done _, rfl, .stable (Nat.succ_pos limit) happly hnone hskipped⟩
      · cases h
        exact ⟨hlint, [], Nat.zero_le _, .done _, rfl,
          .discarded (Nat.succ_pos limit) happly hsome hrefreshed hfatal rfl⟩
      · obtain ⟨hresult, accepted, hlength, hchain, happlied, hending⟩ :=
          passes_eq_ok limit ⟨fixed.output, refreshed, fixed.skipped, _⟩ hrefreshed h
        have first : Accepted linter path state.output fixed :=
          ⟨⟨state.findings, hlint, happly⟩, hsome, refreshed, hrefreshed, hclean⟩
        refine ⟨hresult, fixed :: accepted, Nat.succ_le_succ hlength, .pass first hchain, ?_, ?_⟩
        · simp only [happlied, totalApplied]
          omega
        · cases hending with
          | stable room applies nothing conflicts =>
            exact .stable (Nat.succ_lt_succ room) applies nothing conflicts
          | discarded room applies something lints fatal conflicts =>
            exact .discarded (Nat.succ_lt_succ room) applies something lints fatal conflicts
          | spent full conflicts => exact .spent (congrArg (· + 1) full) conflicts

/-! ## Fixing a text -/

theorem lint_of_syntaxError {text : String} {tree : ParseTree} {error : ParseError}
    (hparse : linter.parser text = some tree) (herror : tree.syntaxError? (Utf8.encode text) = some error) :
    linter.lint text path = .ok [parseErrorFinding path error] := by
  simp only [lint, Source.ofBytes_of_syntaxError hparse herror]

/-- Nothing is applied to a text whose findings have no fixes. -/
theorem passes_of_unfixable {state : FixState} (hnone : ∀ finding ∈ state.findings, finding.fixes = [])
    (hconflicts : state.conflicts = []) : ∀ limit, linter.passes path limit state = .ok state
  | 0 => rfl
  | limit + 1 => by
    simp only [passes, pass, applyFixes_of_unfixable hnone, List.isEmpty_nil, if_true]
    rw [← hconflicts]

/-- A fix that returns goes along a chain of accepted passes from the text, and has the findings of
its output. -/
theorem fix_eq_ok {text : String} {result : FixState} (h : linter.fix text path = .ok result) :
    linter.lint result.output path = .ok result.findings ∧
      ∃ accepted : List FixOutcome, accepted.length ≤ linter.fixPasses ∧
        Accepts linter path text accepted result.output ∧ result.applied = totalApplied accepted ∧
        Ending linter path linter.fixPasses [] accepted result := by
  unfold fix at h
  split at h
  · cases h
  · next findings hlint =>
    obtain ⟨hresult, accepted, hlength, hchain, happlied, hending⟩ :=
      passes_eq_ok linter.fixPasses ⟨text, findings, [], 0⟩ hlint h
    rw [Nat.zero_add] at happlied
    exact ⟨hresult, accepted, hlength, hchain, happlied, hending⟩

/-- **What fixing a text amounts to.** The result holds the lint findings of its output. The output
is reached by accepted passes, as many as the limit at most, whose fixes add up to the applied
count, and the conflicts are those that the way the loop ended asks for. With rules that never emit
a fatal finding the output lints clean just when the text does. A text with a syntax error comes
back as it is, with the one finding about the error. -/
theorem fix_accepts (linter : Linter) (text : String) (path : Path) :
    (∀ result, linter.fix text path = .ok result →
      linter.lint result.output path = .ok result.findings ∧
      (∃ accepted : List FixOutcome, accepted.length ≤ linter.fixPasses ∧
        Accepts linter path text accepted result.output ∧ result.applied = totalApplied accepted ∧
        Ending linter path linter.fixPasses [] accepted result) ∧
      ((∀ active ∈ linter.rules, active.rule.NeverFatal) →
        (linter.LintsClean path result.output ↔ linter.LintsClean path text))) ∧
    (∀ tree error, linter.parser text = some tree → tree.syntaxError? (Utf8.encode text) = some error →
      linter.fix text path = .ok ⟨text, [parseErrorFinding path error], [], 0⟩) := by
  constructor
  · intro result h
    obtain ⟨hresult, accepted, hlength, hchain, happlied, hending⟩ := fix_eq_ok h
    exact ⟨hresult, ⟨accepted, hlength, hchain, happlied, hending⟩, fun quiet => hchain.lintsClean_iff quiet⟩
  · intro tree error hparse herror
    have hlint : linter.lint text path = .ok [parseErrorFinding path error] :=
      lint_of_syntaxError hparse herror
    simp only [fix, hlint]
    refine passes_of_unfixable (fun finding hfinding => ?_) rfl linter.fixPasses
    obtain rfl := List.mem_singleton.1 hfinding
    rfl

/-- A rule that shortens one text. -/
def shortening : Rule :=
  { id := "short", name := "short"
    visitors := [(.entering "program", fun node ctx =>
      if ctx.text node = "ab" then [ctx.report node "long" [ctx.replace node "a"]] else [])] }

/-- A parser that sees one program in every text, with an error if the text is an open bracket. -/
def bracketParser : Parser := fun text =>
  some (.node { kind := "program", start := 0, stop := text.length, hasError := text = "(" } [])

/-- Three passes of the shortening rule. -/
def shorteningLinter : Linter := ⟨bracketParser, [⟨shortening, .warn, .none⟩], 3⟩

theorem shortening_neverFatal : shortening.NeverFatal := by
  intro visitor hvisitor node ctx finding hfinding
  obtain rfl := List.mem_singleton.1 hvisitor
  simp only [] at hfinding
  split at hfinding
  · exact (Context.labels_of_report (List.mem_singleton.1 hfinding).symm).fatal
  · cases hfinding

deriving instance DecidableEq for Except

theorem fix_accepts_shortening :
    shorteningLinter.fix "ab" (.ofString "x.js") = .ok ⟨"a", [], [], 1⟩ ∧
    (∃ accepted : List FixOutcome, accepted.length ≤ 3 ∧
      Accepts shorteningLinter (.ofString "x.js") "ab" accepted "a" ∧ 1 = totalApplied accepted ∧
      Ending shorteningLinter (.ofString "x.js") 3 [] accepted ⟨"a", [], [], 1⟩) ∧
    (shorteningLinter.LintsClean (.ofString "x.js") "a" ↔ shorteningLinter.LintsClean (.ofString "x.js") "ab") ∧
    ∃ error, shorteningLinter.fix "(" (.ofString "x.js") =
      .ok ⟨"(", [parseErrorFinding (.ofString "x.js") error], [], 0⟩ := by
  have hfix : shorteningLinter.fix "ab" (.ofString "x.js") = .ok ⟨"a", [], [], 1⟩ := by decide +kernel
  obtain ⟨-, haccepted, hclean⟩ := (fix_accepts shorteningLinter "ab" (.ofString "x.js")).1 _ hfix
  have quiet : ∀ active ∈ shorteningLinter.rules, active.rule.NeverFatal := by
    intro active hactive
    obtain rfl := List.mem_singleton.1 hactive
    exact shortening_neverFatal
  refine ⟨hfix, haccepted, hclean quiet, ?_⟩
  exact ⟨_, (fix_accepts shorteningLinter "(" (.ofString "x.js")).2 _ _ rfl rfl⟩

end Linter

end ScriptLint
