/-
Names found along a chain of scopes, when one binding moves inwards.

A use of a name goes up its chain to the first scope that declares the name.
Here the name is declared in `home`, and its binding moves from there to `place`,
a scope inside `home`; `around` are the scopes around `place`. A use that was
found elsewhere is found there still, unless the new place comes first
(`find?_moved`, `find?_moved_captured`); a use that was found at home is lost
just where it has neither the new place nor another scope to go to.
-/
namespace ScriptLint

namespace Scope

section Moving

/-- The scopes with a name when the binding at home has moved to another place. -/
def Moves (home place : Nat) (declared moved : Nat → Bool) : Prop :=
  ∀ scope, moved scope = true ↔ declared scope = true ∧ scope ≠ home ∨ scope = place

/-- In a chain there are fixed scopes after a scope, if that is in it. -/
def Follows (chain : List Nat) (scope : Nat) (around : List Nat) : Prop :=
  ∀ before after, chain = before ++ scope :: after → after = around

variable {home place : Nat} {declared moved : Nat → Bool} {chain around : List Nat} {scope : Nat}

theorem Follows.exists_append (follows : Follows chain scope around) (h : scope ∈ chain) :
    ∃ before, chain = before ++ scope :: around := by
  obtain ⟨before, after, hchain⟩ := List.append_of_mem h
  obtain rfl := follows before after hchain
  exact ⟨before, hchain⟩

theorem Moves.not_moved (moves : Moves home place declared moved) {other : Nat} (h : ¬ declared other = true)
    (hplace : other ≠ place) : ¬ moved other = true := by
  intro hmoved
  rcases (moves other).1 hmoved with ⟨hdeclared, -⟩ | hsame
  · exact h hdeclared
  · exact hplace hsame

/-- A use that the new place does not come before keeps its scope. -/
theorem find?_moved (moves : Moves home place declared moved) (follows : Follows chain place around)
    (hfind : chain.find? declared = some scope) (hhome : scope ≠ home)
    (free : ¬ (place ∈ chain ∧ scope ∈ place :: around)) : chain.find? moved = some scope := by
  obtain ⟨hscope, before, after, rfl, hbefore⟩ := List.find?_eq_some_iff_append.1 hfind
  refine List.find?_eq_some_iff_append.2 ⟨(moves scope).2 (.inl ⟨hscope, hhome⟩), before, after, rfl, ?_⟩
  intro other hother
  have hdeclared : ¬ declared other = true := by simpa using hbefore other hother
  have hplace : other ≠ place := by
    rintro rfl
    -- The new place in front of the scope would have that scope around it.
    obtain ⟨first, last, rfl⟩ := List.append_of_mem hother
    refine free ⟨List.mem_append_left _ hother, List.mem_cons_of_mem _ ?_⟩
    have haround : last ++ scope :: after = around := follows first _ (by simp)
    rw [← haround]
    exact List.mem_append_right _ List.mem_cons_self
  simpa using moves.not_moved hdeclared hplace

/-- A use is captured where the new place comes first. -/
theorem find?_moved_captured (moves : Moves home place declared moved) (distinct : chain.Nodup)
    (follows : Follows chain place around) (hfind : chain.find? declared = some scope)
    (hplace : place ∈ chain) (hscope : scope ∈ place :: around) : chain.find? moved = some place := by
  obtain ⟨before, rfl⟩ := follows.exists_append hplace
  have apart := (List.nodup_append.1 distinct).2.2
  have hnone : before.find? declared = none := by
    cases hbefore : before.find? declared with
    | none => rfl
    | some other =>
      rw [List.find?_append, hbefore, Option.some_or, Option.some.injEq] at hfind
      exact absurd hfind (apart other (List.mem_of_find?_eq_some hbefore) scope hscope)
  refine List.find?_eq_some_iff_append.2 ⟨(moves place).2 (.inr rfl), before, around, rfl, ?_⟩
  intro other hother
  have hdeclared := List.find?_eq_none.1 hnone other hother
  simpa using moves.not_moved hdeclared (apart other hother place List.mem_cons_self)

/-- The new place finds no use that had no scope before. -/
theorem find?_moved_eq_none (moves : Moves home place declared moved) (follows : Follows chain place around)
    (hhome : home ∈ place :: around) (hdeclared : declared home = true) (hfind : chain.find? declared = none) :
    chain.find? moved = none := by
  rw [List.find?_eq_none] at hfind ⊢
  intro other hother
  refine moves.not_moved (hfind other hother) ?_
  rintro rfl
  obtain ⟨before, rfl⟩ := follows.exists_append hother
  exact hfind home (List.mem_append_right _ hhome) hdeclared

/-- A use found elsewhere is still found. -/
theorem find?_moved_ne_none_of_ne (moves : Moves home place declared moved)
    (hfind : chain.find? declared = some scope) (hhome : scope ≠ home) : chain.find? moved ≠ none := by
  intro hnone
  have hmoved := (moves scope).2 (.inl ⟨List.find?_some hfind, hhome⟩)
  exact List.find?_eq_none.1 hnone scope (List.mem_of_find?_eq_some hfind) hmoved

/-- A use found at home is lost just where the new place is not around it and no scope around home
has the name. -/
theorem find?_moved_eq_none_iff (moves : Moves home place declared moved) (distinct : chain.Nodup)
    (follows : Follows chain home around) (hfind : chain.find? declared = some home) :
    chain.find? moved = none ↔ place ∉ chain ∧ ∀ other ∈ around, ¬ declared other = true := by
  obtain ⟨hhome, before, after, hchain, hbefore⟩ := List.find?_eq_some_iff_append.1 hfind
  obtain rfl := follows before after hchain
  subst hchain
  have later : ∀ other ∈ after, other ≠ home := by
    rintro other hother rfl
    exact (List.nodup_cons.1 (List.nodup_append.1 distinct).2.1).1 hother
  rw [List.find?_eq_none]
  constructor
  · intro hnone
    refine ⟨fun hplace => hnone place hplace ((moves place).2 (.inr rfl)), fun other hother hdeclared => ?_⟩
    refine hnone other (List.mem_append_right _ (List.mem_cons_of_mem _ hother)) ?_
    exact (moves other).2 (.inl ⟨hdeclared, later other hother⟩)
  · rintro ⟨hplace, hafter⟩ other hother hmoved
    rcases (moves other).1 hmoved with ⟨hdeclared, hne⟩ | rfl
    · rcases List.mem_append.1 hother with hother | hother
      · exact absurd hdeclared (by simpa using hbefore other hother)
      · rcases List.mem_cons.1 hother with hsame | hother
        · exact hne hsame
        · exact hafter other hother hdeclared
    · exact hplace hother

end Moving

end Scope

end ScriptLint
