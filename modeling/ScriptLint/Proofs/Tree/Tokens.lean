/-
Tokens between two offsets.

In a nested tree the leaves stand one after another (`Node.pairwise_leaves`), those without a
width included. So starts and ends both go up along the tokens of a file: the bisection
finds the first token that starts late enough (`drop_bisect`), the scan from there stops
at the first one that ends too late, and no token between the offsets is missed.
-/
import ScriptLint.Proofs.Tree.Nesting

namespace ScriptLint

/-! ## Ascending lists -/

section Ascending

variable {α : Type} {items : List α}

/-- A test that does not hold again once it has failed holds of a first part of the list, and of no item after it. -/
theorem exists_append_of_falling {p : α → Bool}
    (falling : items.Pairwise fun first second => p second = true → p first = true) :
    ∃ before after, items = before ++ after ∧ (∀ item ∈ before, p item = true) ∧ ∀ item ∈ after, p item = false := by
  induction items with
  | nil => exact ⟨[], [], rfl, fun _ h => absurd h List.not_mem_nil, fun _ h => absurd h List.not_mem_nil⟩
  | cons item items ih =>
    obtain ⟨hitem, hitems⟩ := List.pairwise_cons.1 falling
    by_cases hp : p item = true
    · obtain ⟨before, after, rfl, hbefore, hafter⟩ := ih hitems
      exact ⟨item :: before, after, rfl, List.forall_mem_cons.2 ⟨hp, hbefore⟩, hafter⟩
    · refine ⟨[], item :: items, rfl, fun _ h => absurd h List.not_mem_nil, List.forall_mem_cons.2 ⟨?_, ?_⟩⟩
      · exact Bool.eq_false_iff.2 hp
      · exact fun other hother => Bool.eq_false_iff.2 fun h => hp (hitem other hother h)

theorem takeWhile_eq_filter {p : α → Bool}
    (falling : items.Pairwise fun first second => p second = true → p first = true) :
    items.takeWhile p = items.filter p := by
  obtain ⟨before, after, rfl, hbefore, hafter⟩ := exists_append_of_falling falling
  have hnone : ∀ item ∈ after, ¬ p item = true := fun item hitem => Bool.eq_false_iff.1 (hafter item hitem)
  rw [List.takeWhile_append_of_pos hbefore, List.filter_append, List.filter_eq_self.2 hbefore,
    List.filter_eq_nil_iff.2 hnone]
  cases after with
  | nil => rfl
  | cons item after => rw [List.takeWhile_cons_of_neg (hnone item List.mem_cons_self)]

/-- Bisection over an ascending key finds where the items begin that reach a bound. -/
theorem drop_bisect {key : α → Nat} (ascending : items.Pairwise fun first second => key first ≤ key second)
    (bound : Nat) :
    items.drop (bisect (fun i => (items.map key).toArray.getD i 0 < bound) 0 (items.map key).toArray.size) =
      items.filter fun item => bound ≤ key item := by
  have falling : items.Pairwise fun first second =>
      decide (key second < bound) = true → decide (key first < bound) = true :=
    ascending.imp fun hle h => decide_eq_true (Nat.lt_of_le_of_lt hle (of_decide_eq_true h))
  have hget : ∀ i (h : i < items.length), (items.map key).toArray.getD i 0 = key items[i] := by
    intro i h
    simp [h]
  have hsize : (items.map key).toArray.size = items.length := by simp
  obtain ⟨before, after, rfl, hbefore, hafter⟩ := exists_append_of_falling falling
  have turning : bisect (fun i => ((before ++ after).map key).toArray.getD i 0 < bound) 0
      ((before ++ after).map key).toArray.size = before.length := by
    rw [hsize, List.length_append]
    refine bisect_eq (Nat.zero_le _) (Nat.le_add_right _ _) (fun i _ hi => ?_) (fun i hi hsome => ?_)
    · rw [hget i (by rw [List.length_append]; omega), List.getElem_append_left hi]
      exact hbefore _ (List.getElem_mem hi)
    · rw [hget i (by rw [List.length_append]; exact hsome), List.getElem_append_right hi]
      exact hafter _ (List.getElem_mem _)
  have hfirst : before.filter (fun item => bound ≤ key item) = [] :=
    List.filter_eq_nil_iff.2 fun item hitem h =>
      Nat.not_le.2 (of_decide_eq_true (hbefore item hitem)) (of_decide_eq_true h)
  have hlast : after.filter (fun item => bound ≤ key item) = after :=
    List.filter_eq_self.2 fun item hitem => decide_eq_true (Nat.not_lt.1 (of_decide_eq_false (hafter item hitem)))
  rw [turning, List.drop_left, List.filter_append, hfirst, hlast, List.nil_append]

end Ascending

/-! ## Leaves -/

namespace Node

/-- In a nested tree a leaf ends before the next one starts. -/
theorem pairwise_leaves (top : Node) : (∀ node ∈ top.walk, node.Nested) →
    (top.walk.filter isLeaf).Pairwise fun first second => first.stop ≤ second.start := by
  induction top using childInduction with
  | step top ih =>
    intro nested
    have inner : ∀ child ∈ top.children, ∀ node ∈ child.walk, node.Nested :=
      fun child hchild node hnode => nested node (mem_walk_of_mem_children hchild hnode)
    by_cases hleaf : top.isLeaf = true
    · have hchildren : top.children = [] := List.map_eq_nil_iff.2 (List.isEmpty_iff.1 hleaf)
      rw [walk_eq, hchildren, List.filter_cons_of_pos hleaf]
      exact List.pairwise_singleton _ _
    · rw [walk_eq, List.filter_cons_of_neg hleaf, List.filter_flatMap, List.pairwise_flatMap]
      refine ⟨fun child hchild => ih child hchild (inner child hchild), ?_⟩
      refine (nested top (mem_walk_self top)).apart.imp_of_mem fun hfirst hsecond hbefore leaf hleaf other hother => ?_
      -- a leaf lies inside the child that it is in, and the children stand one after another
      have hcovers := covers_iff.1 (covers_of_mem_walk (inner _ hfirst) leaf (List.mem_of_mem_filter hleaf))
      have hcovers' := covers_iff.1 (covers_of_mem_walk (inner _ hsecond) other (List.mem_of_mem_filter hother))
      omega

end Node

namespace Source

variable {source : Source}

/-- In a nested tree each token ends before the next one starts, and none before it starts itself. -/
theorem pairwise_tokens (nested : source.Nested) :
    source.tokens.Pairwise fun first second =>
      first.start ≤ first.stop ∧ first.stop ≤ second.start ∧ second.start ≤ second.stop := by
  refine (Node.pairwise_leaves source.root nested).imp_of_mem fun hfirst hsecond hbefore => ?_
  exact ⟨(nested _ (List.mem_of_mem_filter hfirst)).ordered, hbefore,
    (nested _ (List.mem_of_mem_filter hsecond)).ordered⟩

/-- **The tokens between two offsets are all tokens between them.** In a nested tree, the bisection and the scan
find exactly the tokens that start at the first offset or later and end at the second or earlier, in
order; also where tokens without a width share an offset, and where the offsets lie inside tokens. -/
theorem tokensBetween_eq_filter (nested : source.Nested) (start stop : Nat) :
    source.tokensBetween start stop =
      source.tokens.filter fun token => start ≤ token.start && token.stop ≤ stop := by
  have apart := pairwise_tokens nested
  have starts : source.tokens.Pairwise fun first second => first.start ≤ second.start :=
    apart.imp fun h => by omega
  have late : ((source.tokens.filter fun token => start ≤ token.start).Pairwise fun first second =>
      decide (second.stop ≤ stop) = true → decide (first.stop ≤ stop) = true) := by
    refine (apart.filter _).imp fun h hstop => ?_
    rw [decide_eq_true_eq] at hstop ⊢
    omega
  rw [tokensBetween]
  rw [drop_bisect starts start, takeWhile_eq_filter late, List.filter_filter, List.filter_filter]
  refine List.filter_congr fun token _ => ?_
  simp only [Bool.and_comm, Bool.and_self_left]

/-- A call with a missing argument: the tokens of `f(;)`, of which one has no width and stands where the
next one starts. -/
def missingArgument : Source where
  path := .ofString "a.js"
  bytes := Utf8.encode "f(;)"
  tree := Tree.number 0
    (.node { kind := "program", start := 0, stop := 4 }
      [.node { kind := "identifier", start := 0, stop := 1 } [],
       .node { kind := "arguments", start := 1, stop := 4 }
        [.node { kind := "(", start := 1, stop := 2, named := false } [],
         .node { kind := "identifier", start := 2, stop := 2, isMissing := true } [],
         .node { kind := ";", start := 2, stop := 3, named := false } [],
         .node { kind := ")", start := 3, stop := 4, named := false } []]])

theorem tokensBetween_eq_filter_missingArgument : missingArgument.Nested ∧
    (missingArgument.tokensBetween 2 3).map Node.kind = ["identifier", ";"] := by
  have nested : missingArgument.Nested := by decide +kernel
  refine ⟨nested, ?_⟩
  rw [tokensBetween_eq_filter nested]
  decide +kernel

end Source

end ScriptLint
