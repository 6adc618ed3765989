/-
Declarations as bindings: the number of an identifier, of its scope, and the name.

Resolution depends on nothing else (`scopeFor?_eq_find?`). When the names of one
declaration go to another scope, only bindings of these names in the two scopes
differ, and a name that the first scope had from there alone leaves it
(`moves_of_single`).
-/
import ScriptLint.Proofs.Scope.Moving
import ScriptLint.Proofs.Scope.Table

namespace ScriptLint

namespace Scope

structure Binding where
  identifier : Nat
  scope : Nat
  name : String
  deriving DecidableEq, Repr

def Declaration.binding (source : Source) (declaration : Declaration) : Binding :=
  ⟨declaration.identifier.id, declaration.scope.id, source.textOf declaration.identifier⟩

/-- The identifiers bound to a name in a scope. -/
def boundIds (bindings : List Binding) (scope : Nat) (name : String) : List Nat :=
  (bindings.filter fun binding => binding.scope == scope && binding.name == name).map Binding.identifier

/-- Whether a scope has a name. -/
def declares (bindings : List Binding) (name : String) (scope : Nat) : Bool :=
  !(boundIds bindings scope name).isEmpty

theorem declares_iff {bindings : List Binding} {name : String} {scope : Nat} :
    declares bindings name scope = true ↔ boundIds bindings scope name ≠ [] := by
  simp [declares]

theorem boundIds_append (first second : List Binding) (scope : Nat) (name : String) :
    boundIds (first ++ second) scope name = boundIds first scope name ++ boundIds second scope name := by
  simp only [boundIds, List.filter_append, List.map_append]

theorem mem_boundIds {bindings : List Binding} {scope : Nat} {name : String} {id : Nat} :
    id ∈ boundIds bindings scope name ↔ ⟨id, scope, name⟩ ∈ bindings := by
  simp only [boundIds, List.mem_map, List.mem_filter, Bool.and_eq_true, beq_iff_eq]
  constructor
  · rintro ⟨⟨_, _, _⟩, ⟨hmem, rfl, rfl⟩, rfl⟩
    exact hmem
  · intro hmem
    exact ⟨_, ⟨hmem, rfl, rfl⟩, rfl⟩

theorem boundIds_map_binding (source : Source) (declarations : List Declaration) (scope : Nat) (name : String) :
    boundIds (declarations.map (Declaration.binding source)) scope name =
      (identifiersAt source declarations scope name).map Node.id := by
  simp only [boundIds, identifiersAt, List.filter_map, List.map_map]
  rfl

/-- A name is resolved by the chain of scopes around it and the bindings alone. -/
theorem scopeFor?_eq_find? (source : Source) (declarations : List Declaration) (identifier : Node)
    (name : String) :
    scopeFor? source declarations identifier name =
      (identifier.ancestors.map Node.id).find? (declares (declarations.map (Declaration.binding source)) name) := by
  unfold scopeFor?
  congr 1
  funext scope
  rw [declares, boundIds_map_binding, identifiersAt, List.isEmpty_map, List.isEmpty_map, Bool.eq_iff_iff,
    List.any_eq_true, Bool.not_eq_true', List.isEmpty_eq_false_iff, ne_eq, List.filter_eq_nil_iff]
  simp

/-! ## Names that go to another scope -/

/-- The bindings of some identifiers in one scope. -/
def bindAll (source : Source) (identifiers : List Node) (scope : Nat) : List Binding :=
  identifiers.map fun identifier => ⟨identifier.id, scope, source.textOf identifier⟩

section Moved

variable {source : Source} {identifiers : List Node} {first last : List Binding} {home place : Nat}

theorem boundIds_bindAll_of_ne {scope : Nat} (h : scope ≠ home) (name : String) :
    boundIds (bindAll source identifiers home) scope name = [] := by
  refine List.eq_nil_iff_forall_not_mem.2 fun id hid => ?_
  obtain ⟨identifier, -, hsame⟩ := List.mem_map.1 (mem_boundIds.1 hid)
  exact h (Binding.mk.inj hsame).2.1.symm

theorem boundIds_bindAll_of_not_named {name : String}
    (h : ∀ identifier ∈ identifiers, source.textOf identifier ≠ name)
    (scope : Nat) : boundIds (bindAll source identifiers home) scope name = [] := by
  refine List.eq_nil_iff_forall_not_mem.2 fun id hid => ?_
  obtain ⟨identifier, hidentifier, hsame⟩ := List.mem_map.1 (mem_boundIds.1 hid)
  exact h identifier hidentifier (Binding.mk.inj hsame).2.2

theorem mem_boundIds_bindAll {identifier : Node} (h : identifier ∈ identifiers) (scope : Nat) :
    identifier.id ∈ boundIds (bindAll source identifiers scope) scope (source.textOf identifier) :=
  mem_boundIds.2 (List.mem_map.2 ⟨identifier, h, rfl⟩)

/-- Other names do not notice. -/
theorem boundIds_moved_of_not_named {name : String}
    (h : ∀ identifier ∈ identifiers, source.textOf identifier ≠ name)
    (scope : Nat) :
    boundIds (first ++ bindAll source identifiers place ++ last) scope name =
      boundIds (first ++ bindAll source identifiers home ++ last) scope name := by
  simp only [boundIds_append, boundIds_bindAll_of_not_named h]

/-- Other scopes do not notice. -/
theorem boundIds_moved_of_ne {scope : Nat} (hhome : scope ≠ home) (hplace : scope ≠ place) (name : String) :
    boundIds (first ++ bindAll source identifiers place ++ last) scope name =
      boundIds (first ++ bindAll source identifiers home ++ last) scope name := by
  simp only [boundIds_append, boundIds_bindAll_of_ne hhome, boundIds_bindAll_of_ne hplace]

theorem mem_boundIds_moved {identifier : Node} (h : identifier ∈ identifiers) :
    identifier.id ∈
      boundIds (first ++ bindAll source identifiers place ++ last) place (source.textOf identifier) := by
  rw [boundIds_append, boundIds_append]
  exact List.mem_append_left _ (List.mem_append_right _ (mem_boundIds_bindAll h place))

/-- A name that is bound once at home, by one of the identifiers, moves. -/
theorem moves_of_single {identifier : Node} (h : identifier ∈ identifiers)
    (single : (boundIds (first ++ bindAll source identifiers home ++ last) home
      (source.textOf identifier)).length ≤ 1) :
    Moves home place (declares (first ++ bindAll source identifiers home ++ last) (source.textOf identifier))
      (declares (first ++ bindAll source identifiers place ++ last) (source.textOf identifier)) := by
  intro scope
  rw [declares_iff, declares_iff]
  by_cases hplace : scope = place
  · subst hplace
    exact iff_of_true (List.ne_nil_of_mem (mem_boundIds_moved h)) (.inr rfl)
  · by_cases hhome : scope = home
    · subst hhome
      have own : 0 < (boundIds (bindAll source identifiers scope) scope (source.textOf identifier)).length :=
        List.length_pos_of_mem (mem_boundIds_bindAll h scope)
      simp only [boundIds_append, List.length_append] at single
      have hfirst : boundIds first scope (source.textOf identifier) = [] :=
        List.eq_nil_of_length_eq_zero (by omega)
      have hlast : boundIds last scope (source.textOf identifier) = [] :=
        List.eq_nil_of_length_eq_zero (by omega)
      simp [boundIds_append, boundIds_bindAll_of_ne hplace, hfirst, hlast, hplace]
    · rw [boundIds_moved_of_ne hhome hplace]
      simp [hhome, hplace]

end Moved

end Scope

end ScriptLint
