/-
Severities do not influence the analysis.

Two linters that differ in the severities of their rules, none of which looks at
its severity, come to the same outline of a text and stamp it each in its own
way (`lint_eq_stamped`, `outline_eq`). Choosing and applying fixes looks at everything but severities
(`applyFixes_unstamped`), so the passes of the two stay side by side up to the end
(`passes_unstamped`), and what they write is the same (`lint_fix_restamped`).
-/
import ScriptLint.Proofs.Fixing
import ScriptLint.Proofs.Severity.Outline

namespace ScriptLint

/-! ## Choosing fixes -/

def Choice.unstamped (choice : Choice) : Choice := { choice with owner := choice.owner.unstamped }

def Verdict.unstamped : Verdict → Verdict
  | .chosen fix => .chosen fix
  | .blocked owner => .blocked owner.unstamped
  | .unfixable => .unfixable

def Selection.unstamped (selection : Selection) : Selection :=
  { selection with choices := selection.choices.map Choice.unstamped }

theorem blocker?_unstamped (choices : List Choice) (candidate : Fix) :
    blocker? (choices.map Choice.unstamped) candidate = (blocker? choices candidate).map Finding.unstamped := by
  simp only [blocker?, List.find?_map, Option.map_map]
  rfl

theorem judge_unstamped (choices : List Choice) : ∀ candidates : List Fix,
    judge (choices.map Choice.unstamped) candidates = (judge choices candidates).unstamped
  | [] => rfl
  | candidate :: rest => by
    rw [judge, judge, blocker?_unstamped]
    cases blocker? choices candidate with
    | none => rfl
    | some owner =>
      cases rest with
      | nil => rfl
      | cons next rest => exact judge_unstamped choices (next :: rest)

theorem selectStep_unstamped (selection : Selection) (finding : Finding) :
    selectStep selection.unstamped finding.unstamped = (selectStep selection finding).unstamped := by
  unfold selectStep
  rw [show judge selection.unstamped.choices finding.unstamped.fixes = (judge selection.choices finding.fixes).unstamped
    from judge_unstamped selection.choices finding.fixes]
  cases judge selection.choices finding.fixes with
  | chosen fix => simp only [Verdict.unstamped, Selection.unstamped, List.map_append]; rfl
  | blocked owner => rfl
  | unfixable => rfl

theorem selectFixes_unstamped (findings : List Finding) :
    selectFixes (findings.map Finding.unstamped) = (selectFixes findings).unstamped := by
  have hfold : ∀ (findings : List Finding) (selection : Selection),
      (findings.map Finding.unstamped).foldl selectStep selection.unstamped = (findings.foldl selectStep selection).unstamped := by
    intro findings
    induction findings with
    | nil => exact fun _ => rfl
    | cons finding findings ih =>
      intro selection
      rw [List.map_cons, List.foldl_cons, List.foldl_cons, selectStep_unstamped, ih]
  have hkey : ∀ finding : Finding, finding.unstamped.key = finding.key := fun _ => rfl
  rw [selectFixes, canonicalOrder, sortByKey_map hkey]
  exact hfold (canonicalOrder findings) ⟨[], []⟩

/-- What is applied to a text and what is skipped does not depend on severities. -/
theorem applyFixes_unstamped (text : String) (findings : List Finding) (strict : Bool) :
    applyFixes text (findings.map Finding.unstamped) strict = applyFixes text findings strict := by
  have hfixes : (selectFixes findings).unstamped.fixes = (selectFixes findings).fixes := by
    simp only [Selection.fixes, Selection.unstamped, List.map_map]
    rfl
  unfold applyFixes
  dsimp only
  rw [selectFixes_unstamped, hfixes]
  rfl

theorem applyFixes_congr {text : String} {findings others : List Finding}
    (h : findings.map Finding.unstamped = others.map Finding.unstamped) : applyFixes text findings = applyFixes text others := by
  rw [← applyFixes_unstamped, h, applyFixes_unstamped]

/-! ## Linting -/

/-- Results that agree under maps fail alike or succeed alike. -/
theorem both_of_map_eq {ε α β γ : Type} {f : α → γ} {g : β → γ} {x : Except ε α} {y : Except ε β} (h : x.map f = y.map g) :
    (∃ failure, x = .error failure ∧ y = .error failure) ∨ ∃ a b, x = .ok a ∧ y = .ok b ∧ f a = g b := by
  cases x with
  | error failure =>
    cases y with
    | error other => exact .inl ⟨failure, rfl, (Except.error.inj h) ▸ rfl⟩
    | ok b => cases h
  | ok a =>
    cases y with
    | error other => cases h
    | ok b => exact .inr ⟨a, b, rfl, rfl, Except.ok.inj h⟩

def Note.key : Note → SortKey
  | .own _ finding => finding.key
  | .failure finding => finding.key

theorem Note.key_stamp (rules : List ActiveRule) (note : Note) : (note.stamp rules).key = note.key := by
  cases note <;> rfl

theorem Note.unstamped_stamp {rules others : List ActiveRule} (note : Note) :
    (note.stamp rules).unstamped = (note.stamp others).unstamped := by
  cases note <;> rfl

namespace Linter

/-- The outline of a text in report order; one note about an error of the parser. -/
def outline (linter : Linter) (text : String) (path : Path) : Except RunFailure (List Note) :=
  match Source.ofBytes linter.parser path (Utf8.encode text) with
  | .ok source => .ok (sortByKey Note.key (runOutline source linter.rules))
  | .error (.parse error) => .ok [.failure (parseErrorFinding path error)]
  | .error (.noTree text) => .error (.noTree text)

/-- The findings of a text are its notes with the severities put on. -/
theorem lint_eq_stamped (linter : Linter) (text : String) (path : Path) :
    linter.lint text path = (linter.outline text path).map fun notes => notes.map (Note.stamp linter.rules) := by
  unfold lint outline
  cases Source.ofBytes linter.parser path (Utf8.encode text) with
  | error fault => cases fault <;> rfl
  | ok source =>
    dsimp only [Except.map]
    rw [runRules_eq_stamped, canonicalOrder, sortByKey_map (Note.key_stamp linter.rules)]

theorem valid_outline {linter : Linter} {text : String} {path : Path} {notes : List Note}
    (h : linter.outline text path = .ok notes) : ∀ note ∈ notes, note.Valid linter.rules := by
  unfold outline at h
  split at h
  · cases h
    intro note hnote
    exact valid_runOutline _ _ note ((sortByKey_perm Note.key _).mem_iff.1 hnote)
  · cases h
    intro note hnote
    obtain rfl := List.mem_singleton.1 hnote
    rfl
  · cases h

/-- Linters that differ in the severities of their rules, which are blind. -/
structure DifferInSeverity (first second : Linter) : Prop where
  parser : first.parser = second.parser
  fixPasses : first.fixPasses = second.fixPasses
  rules : first.rules.map ActiveRule.unstamped = second.rules.map ActiveRule.unstamped
  blind : ∀ active ∈ first.rules, active.rule.Blind

namespace DifferInSeverity

variable {first second : Linter}

/-- Both have the same rules, so those of the other one are blind as well. -/
theorem blind_second (h : DifferInSeverity first second) : ∀ active ∈ second.rules, active.rule.Blind := by
  intro active hactive
  have hmem : active.unstamped ∈ first.rules.map ActiveRule.unstamped := h.rules ▸ List.mem_map_of_mem hactive
  obtain ⟨other, hother, heq⟩ := List.mem_map.1 hmem
  have hrule : other.unstamped.rule = active.unstamped.rule := by rw [heq]
  exact (show other.rule = active.rule from hrule) ▸ h.blind other hother

theorem outline_eq (h : DifferInSeverity first second) (text : String) (path : Path) :
    first.outline text path = second.outline text path := by
  have hrun : ∀ source, runOutline source first.rules = runOutline source second.rules := by
    intro source
    rw [← runOutline_unstamped h.blind, h.rules, runOutline_unstamped h.blind_second]
  simp only [outline, h.parser, hrun]

/-- Their findings are the same up to severities. -/
theorem lint_unstamped (h : DifferInSeverity first second) (text : String) (path : Path) :
    (first.lint text path).map (List.map Finding.unstamped) = (second.lint text path).map (List.map Finding.unstamped) := by
  rw [lint_eq_stamped, lint_eq_stamped, h.outline_eq]
  cases second.outline text path with
  | error failure => rfl
  | ok notes =>
    simp only [Except.map, List.map_map]
    exact congrArg Except.ok (List.map_congr_left fun note _ => note.unstamped_stamp)

end DifferInSeverity

/-! ## Fixing -/

def FixState.unstamped (state : FixState) : FixState :=
  { state with findings := state.findings.map Finding.unstamped }

def Pass.unstamped : Pass → Pass
  | .stable conflicts => .stable conflicts
  | .discarded => .discarded
  | .accepted state => .accepted state.unstamped

namespace DifferInSeverity

variable {first second : Linter}

theorem pass_unstamped (h : DifferInSeverity first second) (path : Path) {state other : FixState}
    (hstate : state.unstamped = other.unstamped) :
    (first.pass path state).map Pass.unstamped = (second.pass path other).map Pass.unstamped := by
  obtain ⟨houtput, hfindings, -, happlied⟩ := FixState.mk.inj hstate
  unfold pass
  rw [houtput, applyFixes_congr hfindings, happlied]
  cases applyFixes other.output other.findings with
  | error failure => rfl
  | ok fixed =>
    dsimp only
    split
    · rfl
    · obtain ⟨failure, hfirst, hsecond⟩ | ⟨refreshed, others, hfirst, hsecond, hsame⟩ :=
        both_of_map_eq (h.lint_unstamped fixed.output path)
      · rw [hfirst, hsecond]
      · have hfatal : refreshed.any (·.fatal) = others.any (·.fatal) := by
          have hany : ∀ findings : List Finding,
              (findings.map Finding.unstamped).any (·.fatal) = findings.any (·.fatal) := fun _ => List.any_map
          rw [← hany, hsame, hany]
        rw [hfirst, hsecond]
        dsimp only
        rw [hfatal]
        split
        · rfl
        · simp only [Except.map, Pass.unstamped, FixState.unstamped, hsame]

/-- The passes of both stay side by side. -/
theorem passes_unstamped (h : DifferInSeverity first second) (path : Path) : ∀ (limit : Nat) {state other : FixState},
    state.unstamped = other.unstamped →
      (first.passes path limit state).map FixState.unstamped = (second.passes path limit other).map FixState.unstamped
  | 0, _, _, hstate => congrArg Except.ok hstate
  | limit + 1, state, other, hstate => by
    unfold passes
    obtain ⟨failure, hfirst, hsecond⟩ | ⟨pass, next, hfirst, hsecond, hsame⟩ :=
      both_of_map_eq (h.pass_unstamped path hstate)
    · rw [hfirst, hsecond]
    · rw [hfirst, hsecond]
      cases pass with
      | stable conflicts =>
        cases next with
        | stable others =>
          obtain rfl := Pass.stable.inj hsame
          exact congrArg Except.ok (congrArg (fun state : FixState => { state with conflicts }) hstate)
        | discarded => cases hsame
        | accepted state => cases hsame
      | discarded =>
        cases next with
        | stable others => cases hsame
        | discarded => exact congrArg Except.ok hstate
        | accepted state => cases hsame
      | accepted reached =>
        cases next with
        | stable others => cases hsame
        | discarded => cases hsame
        | accepted others => exact passes_unstamped h path limit (Pass.accepted.inj hsame)

theorem fix_unstamped (h : DifferInSeverity first second) (text : String) (path : Path) :
    (first.fix text path).map FixState.unstamped = (second.fix text path).map FixState.unstamped := by
  unfold fix
  obtain ⟨failure, hfirst, hsecond⟩ | ⟨findings, others, hfirst, hsecond, hsame⟩ :=
    both_of_map_eq (h.lint_unstamped text path)
  · rw [hfirst, hsecond]
  · rw [hfirst, hsecond, h.fixPasses]
    exact h.passes_unstamped path second.fixPasses (congrArg (FixState.mk text · [] 0) hsame)

end DifferInSeverity

/-- Findings of two linters that stand for one outline of a text: at every place a finding of the rule
there, with the severity that each has for it, or a finding about a failure, with the severity of errors. -/
def Restamped (first second : Linter) (text : String) (path : Path) (findings others : List Finding) : Prop :=
  ∃ notes, first.outline text path = .ok notes ∧ second.outline text path = .ok notes ∧
    (∀ note ∈ notes, note.Valid first.rules) ∧
    findings = notes.map (Note.stamp first.rules) ∧ others = notes.map (Note.stamp second.rules)

theorem DifferInSeverity.restamped {first second : Linter} (h : DifferInSeverity first second) {text : String} {path : Path}
    {findings others : List Finding} (hfirst : first.lint text path = .ok findings)
    (hsecond : second.lint text path = .ok others) : Restamped first second text path findings others := by
  rw [lint_eq_stamped] at hfirst hsecond
  have houtline := h.outline_eq text path
  cases hnotes : first.outline text path with
  | error failure =>
    rw [hnotes] at hfirst
    cases hfirst
  | ok notes =>
    rw [hnotes] at hfirst houtline
    rw [← houtline] at hsecond
    exact ⟨notes, hnotes, houtline.symm, valid_outline hnotes, (Except.ok.inj hfirst).symm, (Except.ok.inj hsecond).symm⟩

/-- **Severities do not influence the analysis.** Two linters with the same parser, number of passes and
rules, in the same order and with the same options, none of which looks at its severity, fail alike or find
the same in every text, up to the severities that they put on; and what they write, how much they apply and
what they leave out is the same. -/
theorem lint_fix_restamped {first second : Linter} (h : DifferInSeverity first second) (text : String) (path : Path) :
    ((∃ failure, first.lint text path = .error failure ∧ second.lint text path = .error failure) ∨
      ∃ findings others, first.lint text path = .ok findings ∧ second.lint text path = .ok others ∧
        Restamped first second text path findings others) ∧
    ((∃ failure, first.fix text path = .error failure ∧ second.fix text path = .error failure) ∨
      ∃ state other, first.fix text path = .ok state ∧ second.fix text path = .ok other ∧
        state.output = other.output ∧ state.applied = other.applied ∧ state.conflicts = other.conflicts ∧
        Restamped first second state.output path state.findings other.findings) := by
  constructor
  · rcases both_of_map_eq (h.lint_unstamped text path) with hfail | ⟨findings, others, hfirst, hsecond, -⟩
    · exact .inl hfail
    · exact .inr ⟨findings, others, hfirst, hsecond, h.restamped hfirst hsecond⟩
  · rcases both_of_map_eq (h.fix_unstamped text path) with hfail | ⟨state, other, hfirst, hsecond, hsame⟩
    · exact .inl hfail
    · obtain ⟨houtput, -, hconflicts, happlied⟩ := FixState.mk.inj hsame
      have hlint := (fix_eq_ok hsecond).1
      rw [← houtput] at hlint
      exact .inr ⟨state, other, hfirst, hsecond, houtput, happlied, hconflicts,
        h.restamped (fix_eq_ok hfirst).1 hlint⟩

/-- The shortening rule as an error. -/
def sternLinter : Linter := { shorteningLinter with rules := [⟨shortening, .error, .none⟩] }

theorem shortening_blind : shortening.Blind := by
  intro visitor hvisitor node ctx
  obtain rfl := List.mem_singleton.1 hvisitor
  exact map_unstamped_ite Iff.rfl (by simp) rfl

/-- A warning and an error shorten the same text in the same way. -/
theorem lint_fix_shortening :
    DifferInSeverity shorteningLinter sternLinter ∧
    (∃ findings others, shorteningLinter.lint "ab" (.ofString "x.js") = .ok findings ∧
      sternLinter.lint "ab" (.ofString "x.js") = .ok others ∧
      findings.map Finding.severity = [.warn] ∧ others.map Finding.severity = [.error] ∧
      Restamped shorteningLinter sternLinter "ab" (.ofString "x.js") findings others) ∧
    ∃ state other, shorteningLinter.fix "ab" (.ofString "x.js") = .ok state ∧
      sternLinter.fix "ab" (.ofString "x.js") = .ok other ∧ state.output = "a" ∧ other.output = "a" := by
  have differ : DifferInSeverity shorteningLinter sternLinter := by
    refine ⟨rfl, rfl, rfl, fun active hactive => ?_⟩
    obtain rfl := List.mem_singleton.1 hactive
    exact shortening_blind
  have hwarn : (shorteningLinter.lint "ab" (.ofString "x.js")).map (List.map Finding.severity) = .ok [.warn] := by
    decide +kernel
  have herror : (sternLinter.lint "ab" (.ofString "x.js")).map (List.map Finding.severity) = .ok [.error] := by
    decide +kernel
  have hfixed : (shorteningLinter.fix "ab" (.ofString "x.js")).map FixState.output = .ok "a" := by decide +kernel
  obtain ⟨hlint, hfix⟩ := lint_fix_restamped differ "ab" (.ofString "x.js")
  refine ⟨differ, ?_, ?_⟩
  · obtain ⟨failure, hfirst, -⟩ | ⟨findings, others, hfirst, hsecond, hsame⟩ := hlint
    · rw [hfirst] at hwarn
      cases hwarn
    · rw [hfirst] at hwarn
      rw [hsecond] at herror
      exact ⟨findings, others, hfirst, hsecond, Except.ok.inj hwarn, Except.ok.inj herror, hsame⟩
  · obtain ⟨failure, hfirst, -⟩ | ⟨state, other, hfirst, hsecond, houtput, -⟩ := hfix
    · rw [hfirst] at hfixed
      cases hfixed
    · rw [hfirst] at hfixed
      have houtput' : state.output = "a" := Except.ok.inj hfixed
      exact ⟨state, other, hfirst, hsecond, houtput', houtput ▸ houtput'⟩

end Linter

end ScriptLint
