/-
When a fix has nothing left to do.

A text determines the pass that starts from it, so there is one chain of
accepted passes to the output of a fix that adds up to its count
(`Accepts.eq_of_totalApplied_eq`). If the chain is shorter than the limit, the
loop stopped by itself. Either the output of one more pass has a fatal finding,
or the result is `Settled`: no finding has a fix, and fixing the output again
changes nothing, with any limit (`fix_settles`).
-/
import ScriptLint.Proofs.Passes

namespace ScriptLint

namespace Linter

variable {linter : Linter} {path : Path} {text last : String}

/-! ## One chain of passes -/

/-- A text determines the pass from it. -/
theorem Accepted.unique {first second : FixOutcome} (hfirst : Accepted linter path text first)
    (hsecond : Accepted linter path text second) : first = second := by
  obtain ⟨findings, hlint, happly⟩ := hfirst.applies
  obtain ⟨others, hlint', happly'⟩ := hsecond.applies
  obtain rfl : findings = others := Except.ok.inj (hlint.symm.trans hlint')
  exact Except.ok.inj (happly.symm.trans happly')

/-- Each accepted pass applies something. -/
theorem Accepts.length_le_totalApplied {accepted : List FixOutcome}
    (h : Accepts linter path text accepted last) : accepted.length ≤ totalApplied accepted := by
  induction h with
  | done => exact Nat.le_refl 0
  | pass first _ ih =>
    have hpos := List.length_pos_iff.2 first.applied_ne_nil
    simp only [List.length_cons, totalApplied]
    omega

theorem Accepts.eq_nil_of_totalApplied_eq_zero {accepted : List FixOutcome}
    (h : Accepts linter path text accepted last) (hzero : totalApplied accepted = 0) : accepted = [] := by
  have hle := h.length_le_totalApplied
  exact List.length_eq_zero_iff.1 (by omega)

/-- Of chains from one text, how much they apply tells which it is. -/
theorem Accepts.eq_of_totalApplied_eq {first second : List FixOutcome} {other : String}
    (hfirst : Accepts linter path text first last) (hsecond : Accepts linter path text second other)
    (h : totalApplied first = totalApplied second) : first = second := by
  induction hfirst generalizing second with
  | done => exact (hsecond.eq_nil_of_totalApplied_eq_zero h.symm).symm
  | @pass text last fixed rest head tail ih =>
    cases hsecond with
    | done => exact (Accepts.pass head tail).eq_nil_of_totalApplied_eq_zero h
    | pass head' tail' =>
      obtain rfl := head.unique head'
      simp only [totalApplied, Nat.add_left_cancel_iff] at h
      rw [ih tail' h]

/-! ## Settled results -/

/-- The accepted passes that a fix of a text went through. -/
structure Passed (linter : Linter) (path : Path) (text : String) (accepted : List FixOutcome)
    (result : FixState) : Prop where
  chain : Accepts linter path text accepted result.output
  count : result.applied = totalApplied accepted

theorem Passed.unique {first second : List FixOutcome} {result : FixState}
    (hfirst : Passed linter path text first result) (hsecond : Passed linter path text second result) :
    first = second :=
  hfirst.chain.eq_of_totalApplied_eq hsecond.chain (hfirst.count.symm.trans hsecond.count)

/-- One more pass would apply something, but its output has a fatal finding. -/
def Spoils (linter : Linter) (path : Path) (state : FixState) : Prop :=
  ∃ fixed refreshed, applyFixes state.output state.findings = .ok fixed ∧ fixed.applied ≠ [] ∧
    linter.lint fixed.output path = .ok refreshed ∧ ∃ finding ∈ refreshed, finding.fatal = true

/-- Nothing is left to fix, and fixing again gives the same with nothing applied. -/
structure Settled (linter : Linter) (path : Path) (state : FixState) : Prop where
  unfixable : ∀ finding ∈ state.findings, finding.fixes = []
  conflicts : state.conflicts = []
  again : ∀ limit, ({ linter with fixPasses := limit } : Linter).fix state.output path =
    .ok ⟨state.output, state.findings, [], 0⟩

/-- A state is settled when its findings are those of its output and have no fixes. -/
theorem settled_of_unfixable {state : FixState} (hlint : linter.lint state.output path = .ok state.findings)
    (unfixable : ∀ finding ∈ state.findings, finding.fixes = []) (conflicts : state.conflicts = []) :
    Settled linter path state where
  unfixable := unfixable
  conflicts := conflicts
  again limit := by
    rw [fix_of_lint hlint]
    refine passes_of_unfixable ?_ rfl limit
    exact unfixable

/-- **A fix that stops early is settled.** Fixes can be applied, and none is, just where no finding
has one. A fix went through one chain of accepted passes; if it has passes to spare after them, then
one more pass spoils the text, or the result is settled. -/
theorem fix_settles {result : FixState} (h : linter.fix text path = .ok result) :
    (∀ text findings, (∃ fixed, applyFixes text findings = .ok fixed ∧ fixed.applied = []) ↔
      ∀ finding ∈ findings, finding.fixes = []) ∧
    ∃ accepted, Passed linter path text accepted result ∧
      (∀ other, Passed linter path text other result → other = accepted) ∧
      (accepted.length < linter.fixPasses → Spoils linter path result ∨ Settled linter path result) := by
  refine ⟨fun _ _ => exists_applyFixes_eq_nil_iff, ?_⟩
  obtain ⟨hlint, accepted, -, hchain, hcount, hending⟩ := fix_eq_ok h
  have hpassed : Passed linter path text accepted result := ⟨hchain, hcount⟩
  refine ⟨accepted, hpassed, fun other hother => hother.unique hpassed, fun hspare => ?_⟩
  cases hending with
  | stable _ applies nothing conflicts =>
    exact .inr (settled_of_unfixable hlint ((applied_eq_nil_iff applies).1 nothing) conflicts)
  | discarded _ applies something lints fatal _ => exact .inl ⟨_, _, applies, something, lints, fatal⟩
  | spent full _ => omega

/-- The shortening rule is done after one of three passes. -/
theorem fix_settles_shortening :
    shorteningLinter.fix "ab" (.ofString "x.js") = .ok ⟨"a", [], [], 1⟩ ∧
      Settled shorteningLinter (.ofString "x.js") ⟨"a", [], [], 1⟩ := by
  have hfix : shorteningLinter.fix "ab" (.ofString "x.js") = .ok ⟨"a", [], [], 1⟩ := by decide +kernel
  obtain ⟨-, accepted, hpassed, -, hearly⟩ := fix_settles hfix
  have hspare : accepted.length < 3 := by
    have hle := hpassed.chain.length_le_totalApplied
    have hcount : 1 = totalApplied accepted := hpassed.count
    omega
  refine ⟨hfix, ?_⟩
  rcases hearly hspare with ⟨fixed, -, happly, hsome, -⟩ | hsettled
  · exact absurd ((applied_eq_nil_iff happly).2 (by simp)) hsome
  · exact hsettled

end Linter

end ScriptLint
