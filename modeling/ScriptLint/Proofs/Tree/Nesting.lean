/-
Nested ranges.

In the tree of a file every node covers its children, and these stand one after
another. So what is put together from the ends of a node and of its children
stays inside the node, and a leaf whose range is not empty lies in the range of a
node only if it lies in the node (`mem_ancestors_of_covers`).
-/
import ScriptLint.Proofs.Tree.Tour

namespace ScriptLint

/-- A node that does not end before it starts, with its children inside it and one after another. -/
structure Node.Nested (node : Node) : Prop where
  ordered : node.start ≤ node.stop
  inside : ∀ child ∈ node.children, node.covers child = true
  apart : node.children.Pairwise fun first second => first.stop ≤ second.start

theorem Node.nested_iff {node : Node} : node.Nested ↔ node.start ≤ node.stop ∧
    (∀ child ∈ node.children, node.covers child = true) ∧
    node.children.Pairwise fun first second => first.stop ≤ second.start :=
  ⟨fun h => ⟨h.ordered, h.inside, h.apart⟩, fun ⟨ordered, inside, apart⟩ => ⟨ordered, inside, apart⟩⟩

instance (node : Node) : Decidable node.Nested := decidable_of_iff' _ Node.nested_iff

/-- All nodes of a file are nested. -/
def Source.Nested (source : Source) : Prop := ∀ node ∈ source.root.walk, node.Nested

instance (source : Source) : Decidable source.Nested :=
  inferInstanceAs (Decidable (∀ node ∈ source.root.walk, node.Nested))

theorem Span.contains_iff {outer inner : Span} :
    outer.contains inner = true ↔ outer.start ≤ inner.start ∧ inner.stop ≤ outer.stop := by
  simp only [contains, Bool.and_eq_true, decide_eq_true_eq]

theorem Node.covers_iff {outer inner : Node} :
    outer.covers inner = true ↔ outer.start ≤ inner.start ∧ inner.stop ≤ outer.stop := by
  simp only [covers, Bool.and_eq_true, decide_eq_true_eq]

namespace Node

/-! ## Descendants -/

theorem mem_ancestors_of_mem_walk {node child inner : Node} (hchild : child ∈ node.children)
    (h : inner ∈ child.walk) : node ∈ inner.ancestors := by
  refine forall_mem_walk (motive := fun inner => node ∈ inner.ancestors) ?_ (fun outer houter next hnext => ?_) inner h
  · rw [ancestors_of_mem_children hchild]
    exact List.mem_cons_self
  · rw [ancestors_of_mem_children hnext]
    exact List.mem_cons_of_mem _ houter

theorem isLeaf_of_mem_children {node child : Node} (h : child ∈ node.children) : node.isLeaf = false := by
  obtain ⟨tree, htree, -⟩ := List.mem_map.1 h
  exact List.isEmpty_eq_false_iff_exists_mem.2 ⟨tree, htree⟩

/-- A node around another one is no leaf. -/
theorem isLeaf_of_mem_ancestors {tree : Tree} : ∀ node ∈ (root tree).walk, ∀ ancestor ∈ node.ancestors,
    ancestor.isLeaf = false := by
  refine forall_mem_walk (fun _ h => by cases h) fun node ih child hchild ancestor hancestor => ?_
  rw [ancestors_of_mem_children hchild] at hancestor
  rcases List.mem_cons.1 hancestor with rfl | hancestor
  · exact isLeaf_of_mem_children hchild
  · exact ih ancestor hancestor

/-! ## Ranges of descendants -/

variable {top : Node}

theorem covers_of_mem_walk (nested : ∀ node ∈ top.walk, node.Nested) : ∀ inner ∈ top.walk, top.covers inner = true := by
  have both : ∀ inner ∈ top.walk, inner ∈ top.walk ∧ top.covers inner = true := by
    refine forall_mem_walk ⟨mem_walk_self top, ?_⟩ fun node ⟨hnode, hcovers⟩ child hchild => ?_
    · exact covers_iff.2 ⟨Nat.le_refl _, Nat.le_refl _⟩
    · refine ⟨children_subset_walk hnode child hchild, covers_iff.2 ?_⟩
      have houter := covers_iff.1 hcovers
      have hinner := covers_iff.1 ((nested node hnode).inside child hchild)
      omega
  exact fun inner h => (both inner h).2

theorem eq_or_apart {node : Node} (h : node.Nested) {first second : Node} (hfirst : first ∈ node.children)
    (hsecond : second ∈ node.children) :
    first = second ∨ first.stop ≤ second.start ∨ second.stop ≤ first.start := by
  have apart : node.children.Pairwise fun first second =>
      first = second ∨ first.stop ≤ second.start ∨ second.stop ≤ first.start :=
    h.apart.imp fun hbefore => .inr (.inl hbefore)
  have apart' : node.children.Pairwise fun first second =>
      second = first ∨ second.stop ≤ first.start ∨ first.stop ≤ second.start :=
    h.apart.imp fun hbefore => .inr (.inr hbefore)
  exact apart.forall_of_forall_of_flip (fun child _ => .inl rfl) apart' hfirst hsecond

/-- Of two nodes of a nested tree one is around the other, or one ends before the other starts. -/
theorem around_or_apart (top : Node) : (∀ node ∈ top.walk, node.Nested) → ∀ first ∈ top.walk, ∀ second ∈ top.walk,
    first = second ∨ first ∈ second.ancestors ∨ second ∈ first.ancestors ∨
      first.stop ≤ second.start ∨ second.stop ≤ first.start := by
  induction top using childInduction with
  | step top ih =>
    intro nested first hfirst second hsecond
    have inner : ∀ child ∈ top.children, ∀ node ∈ child.walk, node.Nested :=
      fun child hchild node hnode => nested node (mem_walk_of_mem_children hchild hnode)
    rw [walk_eq, List.mem_cons, List.mem_flatMap] at hfirst hsecond
    obtain rfl | ⟨child, hchild, hfirst⟩ := hfirst
    · obtain rfl | ⟨other, hother, hsecond⟩ := hsecond
      · exact .inl rfl
      · exact .inr (.inl (mem_ancestors_of_mem_walk hother hsecond))
    · obtain rfl | ⟨other, hother, hsecond⟩ := hsecond
      · exact .inr (.inr (.inl (mem_ancestors_of_mem_walk hchild hfirst)))
      · have hcovers := covers_iff.1 (covers_of_mem_walk (inner child hchild) first hfirst)
        have hcovers' := covers_iff.1 (covers_of_mem_walk (inner other hother) second hsecond)
        -- Either both are in one child, or the children they are in stand one after another.
        rcases eq_or_apart (nested top (mem_walk_self top)) hchild hother with rfl | hbefore | hafter
        · exact ih child hchild (inner child hchild) first hfirst second hsecond
        · exact .inr (.inr (.inr (.inl (by omega))))
        · exact .inr (.inr (.inr (.inr (by omega))))

/-- A leaf with a range of its own that lies in the range of a node lies in the node. -/
theorem mem_ancestors_of_covers {tree : Tree} (nested : ∀ node ∈ (root tree).walk, node.Nested) {outer leaf : Node}
    (houter : outer ∈ (root tree).walk) (hleaf : leaf ∈ (root tree).walk) (hinner : outer.isLeaf = false)
    (hend : leaf.isLeaf = true) (hsome : leaf.start < leaf.stop) (h : outer.covers leaf = true) :
    outer ∈ leaf.ancestors := by
  have hrange := covers_iff.1 h
  rcases around_or_apart (root tree) nested outer houter leaf hleaf with rfl | hancestor | hancestor | hbefore | hafter
  · exact absurd hend (by rw [hinner]; exact Bool.false_ne_true)
  · exact hancestor
  · exact absurd hend (by rw [isLeaf_of_mem_ancestors outer houter leaf hancestor]; exact Bool.false_ne_true)
  · omega
  · omega

end Node

end ScriptLint
