/-
Fixing a text in two goes.

A pass starts from an output and its findings and asks for nothing else, so a
loop of passes can be broken off and taken up again at any point, also after it
has stopped by itself: what stopped it stops it again (`passes_add`). A second
fix starts from the lint findings of the text it is given, and these are the
findings that the first one ended with. So two fixes go through the passes of
one with the sum of their limits (`fix_add`).
-/
import ScriptLint.Proofs.Fixing

namespace ScriptLint

namespace Linter

variable {linter : Linter} {path : Path}

/-! ## Passes look at lint results -/

section LintAlike

variable {first second : Linter} {path : Path}

/-- A pass looks at nothing but lint results. -/
theorem pass_congr (alike : ∀ text, first.lint text path = second.lint text path) (state : FixState) :
    first.pass path state = second.pass path state := by
  simp only [pass, alike]

theorem passes_congr (alike : ∀ text, first.lint text path = second.lint text path) :
    ∀ (n : Nat) (state : FixState), first.passes path n state = second.passes path n state
  | 0, _ => rfl
  | n + 1, state => by
    simp only [passes, pass_congr alike, passes_congr alike n]

theorem fix_congr (alike : ∀ text, first.lint text path = second.lint text path)
    (hpasses : first.fixPasses = second.fixPasses) (text : String) :
    first.fix text path = second.fix text path := by
  simp only [fix, alike, hpasses, passes_congr alike]

end LintAlike

/-! ## States -/

/-- A state that counts on from fixes applied before. -/
def FixState.countedFrom (applied : Nat) (state : FixState) : FixState :=
  { state with applied := applied + state.applied }

/-- A state with its conflicts left aside. -/
def FixState.withoutConflicts (state : FixState) : FixState := { state with conflicts := [] }

/-! ## Taking a loop up again -/

theorem passes_stable {state : FixState} {conflicts : List Conflict}
    (h : linter.pass path state = .ok (.stable conflicts)) (limit : Nat) :
    linter.passes path (limit + 1) state = .ok { state with conflicts } := by
  simp only [passes, h]

theorem passes_discarded {state : FixState} (h : linter.pass path state = .ok .discarded) :
    ∀ limit, linter.passes path limit state = .ok state
  | 0 => rfl
  | limit + 1 => by simp only [passes, h]

theorem passes_accepted {state next : FixState} (h : linter.pass path state = .ok (.accepted next))
    (limit : Nat) : linter.passes path (limit + 1) state = linter.passes path limit next := by
  simp only [passes, h]

theorem passes_error {state : FixState} {failure : RunFailure} (h : linter.pass path state = .error failure)
    (limit : Nat) : linter.passes path (limit + 1) state = .error failure := by
  simp only [passes, h]

/-- A loop that has stopped with nothing to apply stays as it is. -/
theorem passes_again_of_stable {state : FixState} {conflicts : List Conflict}
    (h : linter.pass path state = .ok (.stable conflicts)) :
    ∀ limit, linter.passes path limit { state with conflicts } = .ok { state with conflicts }
  | 0 => rfl
  | limit + 1 => by
    have hagain : linter.pass path { state with conflicts } = .ok (.stable conflicts) := h
    exact passes_stable hagain limit

/-- Passes go on from where a shorter loop left off. -/
theorem passes_add (m : Nat) : ∀ (n : Nat) (state : FixState),
    linter.passes path (n + m) state = (linter.passes path n state).bind (linter.passes path m)
  | 0, state => by
    rw [Nat.zero_add]
    rfl
  | n + 1, state => by
    rw [Nat.add_right_comm]
    cases hpass : linter.pass path state with
    | error failure =>
      rw [passes_error hpass, passes_error hpass]
      rfl
    | ok outcome =>
      cases outcome with
      | stable conflicts =>
        rw [passes_stable hpass, passes_stable hpass]
        exact (passes_again_of_stable hpass m).symm
      | discarded =>
        rw [passes_discarded hpass, passes_discarded hpass]
        exact (passes_discarded hpass m).symm
      | accepted next =>
        rw [passes_accepted hpass, passes_accepted hpass]
        exact passes_add m n next

/-! ## Counting on -/

/-- A pass with its count taken from fixes applied before. -/
def Pass.countedFrom (applied : Nat) : Pass → Pass
  | .stable conflicts => .stable conflicts
  | .discarded => .discarded
  | .accepted state => .accepted (state.countedFrom applied)

/-- What a pass does depends on the output and the findings alone, but for the count. -/
theorem pass_countedFrom (state : FixState) (conflicts : List Conflict) (applied : Nat) :
    linter.pass path { state.countedFrom applied with conflicts } =
      (linter.pass path state).map (Pass.countedFrom applied) := by
  simp only [pass, FixState.countedFrom]
  split
  · rfl
  split
  · rfl
  split
  · rfl
  split
  · rfl
  · simp only [Except.map, Pass.countedFrom, FixState.countedFrom, Nat.add_assoc]

/-- So it is with a loop of passes, but for the conflicts, which a discarded pass leaves alone. -/
theorem passes_countedFrom (applied : Nat) : ∀ (limit : Nat) (state : FixState) (conflicts : List Conflict),
    (linter.passes path limit { state.countedFrom applied with conflicts }).map FixState.withoutConflicts =
      (linter.passes path limit state).map fun result => (result.countedFrom applied).withoutConflicts
  | 0, _, _ => rfl
  | limit + 1, state, conflicts => by
    have hcounted : linter.pass path { state.countedFrom applied with conflicts } =
        (linter.pass path state).map (Pass.countedFrom applied) := pass_countedFrom state conflicts applied
    cases hpass : linter.pass path state with
    | error failure =>
      rw [hpass] at hcounted
      rw [passes_error hpass, passes_error hcounted]
      rfl
    | ok outcome =>
      rw [hpass] at hcounted
      cases outcome with
      | stable conflicts =>
        rw [passes_stable hpass, passes_stable hcounted]
        rfl
      | discarded =>
        rw [passes_discarded hpass, passes_discarded hcounted]
        rfl
      | accepted next =>
        rw [passes_accepted hpass, passes_accepted hcounted]
        exact passes_countedFrom applied limit next next.conflicts

/-- Passes that start afresh from the output and the findings of a state. -/
theorem passes_afresh (limit : Nat) (state : FixState) :
    (linter.passes path limit ⟨state.output, state.findings, [], 0⟩).map
        (fun result => (result.countedFrom state.applied).withoutConflicts) =
      (linter.passes path limit state).map FixState.withoutConflicts := by
  obtain ⟨output, findings, conflicts, applied⟩ := state
  rw [← passes_countedFrom applied limit ⟨output, findings, [], 0⟩ conflicts]
  rfl

/-! ## Two fixes -/

/-- A fix of a text with findings is the loop that starts from them. -/
theorem fix_of_lint {text : String} {findings : List Finding} (h : linter.lint text path = .ok findings)
    (limit : Nat) :
    ({ linter with fixPasses := limit } : Linter).fix text path =
      linter.passes path limit ⟨text, findings, [], 0⟩ := by
  have alike : ∀ text, ({ linter with fixPasses := limit } : Linter).lint text path = linter.lint text path :=
    fun _ => rfl
  simp only [fix, alike, h]
  exact passes_congr alike limit _

theorem fix_of_lint_error {text : String} {failure : RunFailure} (h : linter.lint text path = .error failure)
    (limit : Nat) : ({ linter with fixPasses := limit } : Linter).fix text path = .error failure := by
  have hlint : ({ linter with fixPasses := limit } : Linter).lint text path = .error failure := h
  simp only [fix, hlint]

/-- **Fixing composes.** Fixing a text with `n` passes and the output with `m` more gives the output
and the findings of fixing the text with `n + m` passes, and what both apply adds up; where one of
the two fails, so does the one fix, and in the same way. Conflicts are left aside: those of the
first fix are not passed on to the second. -/
theorem fix_add (linter : Linter) (n m : Nat) (text : String) (path : Path) :
    (({ linter with fixPasses := n + m } : Linter).fix text path).map FixState.withoutConflicts =
      (({ linter with fixPasses := n } : Linter).fix text path).bind fun first =>
        (({ linter with fixPasses := m } : Linter).fix first.output path).map fun second =>
          (second.countedFrom first.applied).withoutConflicts := by
  cases hlint : linter.lint text path with
  | error failure =>
    rw [fix_of_lint_error hlint, fix_of_lint_error hlint]
    rfl
  | ok findings =>
    rw [fix_of_lint hlint, fix_of_lint hlint, passes_add]
    cases hfirst : linter.passes path n ⟨text, findings, [], 0⟩ with
    | error failure => rfl
    | ok first =>
      -- The second fix lints the output again and gets the findings that the first one kept.
      have hrest : linter.lint first.output path = .ok first.findings :=
        (passes_eq_ok n ⟨text, findings, [], 0⟩ hlint hfirst).1
      simp only [Except.bind, fix_of_lint hrest, passes_afresh]

end Linter

end ScriptLint
