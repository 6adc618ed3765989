/-
The tour of a tree: a node is entered, its children are toured from left to
right, and the node is left.

`visitsFrom` keeps the visits that are still to come on a stack; from a node
that is to be entered it makes the tour of the node and then goes on with the
rest of the stack (`visitsFrom_enter`). A tour enters the nodes in document order
(`entered_tour`) and leaves the same ones (`left_tour_perm`), and the tour of
every node in the tree is one stretch of it (`tour_eq_append`).
-/
import Mathlib.Data.List.Perm.Basic
import ScriptLint.Engine
import ScriptLint.Proofs.Tree.Walk

namespace ScriptLint

/-- The visit that leaves a node. -/
def Visit.leave (node : Node) : Visit := ⟨node, .exit⟩

namespace Node

mutual

def tourTree (above : List Tree) : Tree → List Visit
  | tree@(.node _ _ children) =>
    Visit.enter ⟨tree, above⟩ :: (tourTrees (tree :: above) children ++ [Visit.leave ⟨tree, above⟩])

def tourTrees (above : List Tree) : List Tree → List Visit
  | [] => []
  | child :: rest => tourTree above child ++ tourTrees above rest

end

def tour (node : Node) : List Visit := tourTree node.above node.tree

theorem tour_eq (node : Node) :
    node.tour = Visit.enter node :: (node.children.flatMap tour ++ [Visit.leave node]) := by
  obtain ⟨⟨id, label, children⟩, above⟩ := node
  have subtrees : ∀ (above : List Tree) (trees : List Tree),
      tourTrees above trees = (trees.map fun tree => (⟨tree, above⟩ : Node)).flatMap tour := by
    intro above trees
    induction trees with
    | nil => rfl
    | cons tree rest ih =>
      rw [tourTrees, ih]
      rfl
  rw [tour, tourTree, subtrees]
  rfl

/-! ## Induction on subtrees -/

theorem size_lt_of_mem_children {node child : Node} (h : child ∈ node.children) :
    child.tree.size < node.tree.size := by
  obtain ⟨tree, htree, rfl⟩ := List.mem_map.1 h
  have hle : ∀ trees : List Tree, tree ∈ trees → tree.size ≤ Tree.sizes trees := by
    intro trees
    induction trees with
    | nil => exact fun hmem => nomatch hmem
    | cons first rest ih =>
      intro hmem
      simp only [Tree.sizes]
      rcases List.mem_cons.1 hmem with rfl | hmem
      · omega
      · have := ih hmem
        omega
  have hsize := Visit.size_eq node.tree
  have := hle _ htree
  simp only
  omega

/-- Induction from the leaves up. -/
theorem childInduction {motive : Node → Prop}
    (step : ∀ node, (∀ child ∈ node.children, motive child) → motive node) (node : Node) : motive node := by
  generalize hsize : node.tree.size = size
  induction size using Nat.strongRecOn generalizing node with
  | _ size ih =>
    refine step node fun child hchild => ih child.tree.size ?_ child rfl
    have := size_lt_of_mem_children hchild
    omega

end Node

/-! ## The stack -/

theorem visitsFrom_nil : visitsFrom [] = [] := by
  rw [visitsFrom]

theorem visitsFrom_leave (node : Node) (stack : List Visit) :
    visitsFrom (Visit.leave node :: stack) = Visit.leave node :: visitsFrom stack := by
  rw [visitsFrom]
  rfl

/-- A node on the stack is toured before the rest of the stack. -/
theorem visitsFrom_enter (node : Node) (stack : List Visit) :
    visitsFrom (Visit.enter node :: stack) = node.tour ++ visitsFrom stack := by
  induction node using Node.childInduction generalizing stack with
  | step node ih =>
    have siblings : ∀ (nodes : List Node) (stack : List Visit), (∀ child ∈ nodes, child ∈ node.children) →
        visitsFrom (nodes.map Visit.enter ++ stack) = nodes.flatMap Node.tour ++ visitsFrom stack := by
      intro nodes stack hnodes
      induction nodes with
      | nil => rfl
      | cons child rest ihrest =>
        have hrest := ihrest fun other hother => hnodes other (List.mem_cons_of_mem _ hother)
        rw [List.map_cons, List.cons_append, ih child (hnodes child List.mem_cons_self), hrest,
          List.flatMap_cons, List.append_assoc]
    have opened : visitsFrom (Visit.enter node :: stack) =
        Visit.enter node :: visitsFrom (node.children.map Visit.enter ++ Visit.leave node :: stack) := by
      rw [visitsFrom]
      rfl
    rw [opened, siblings _ _ fun _ h => h, visitsFrom_leave, Node.tour_eq]
    simp

theorem visits_eq_tour (root : Node) : visits root = root.tour := by
  rw [visits, visitsFrom_enter, visitsFrom_nil, List.append_nil]

namespace Node

/-! ## What a tour visits -/

/-- The nodes that visits enter, or leave, one after another. -/
def visited (phase : Phase) (visits : List Visit) : List Node :=
  (visits.filter (·.phase = phase)).map Visit.node

theorem visited_flatMap {α : Type} (phase : Phase) (items : List α) (visits : α → List Visit) :
    visited phase (items.flatMap visits) = items.flatMap fun item => visited phase (visits item) := by
  simp only [visited, List.filter_flatMap, List.map_flatMap]

theorem visited_tour_enter (node : Node) :
    visited .enter node.tour = node :: node.children.flatMap fun child => visited .enter child.tour := by
  rw [← visited_flatMap, tour_eq]
  simp [visited, Visit.enter, Visit.leave]

theorem visited_tour_exit (node : Node) :
    visited .exit node.tour = (node.children.flatMap fun child => visited .exit child.tour) ++ [node] := by
  rw [← visited_flatMap, tour_eq]
  simp [visited, Visit.enter, Visit.leave]

/-- The nodes are entered in document order. -/
theorem entered_tour (node : Node) : visited .enter node.tour = node.walk := by
  induction node using childInduction with
  | step node ih =>
    rw [visited_tour_enter, walk_eq]
    congr 1
    exact List.flatMap_congr ih

/-- The nodes that are entered are left, each as often. -/
theorem left_tour_perm (node : Node) : (visited .exit node.tour).Perm node.walk := by
  induction node using childInduction with
  | step node ih =>
    rw [visited_tour_exit, walk_eq]
    have hchildren : (node.children.flatMap fun child => visited .exit child.tour).Perm
        (node.children.flatMap walk) := List.Perm.flatMap_left _ ih
    exact (List.perm_append_singleton node _).trans (hchildren.cons node)

/-- In both phases the nodes of the tree are visited, each once. -/
theorem visited_tour_perm (phase : Phase) (node : Node) : (visited phase node.tour).Perm node.walk := by
  cases phase with
  | enter => rw [entered_tour]
  | exit => exact left_tour_perm node

theorem mem_visited_tour {phase : Phase} {node inner : Node} : inner ∈ visited phase node.tour ↔ inner ∈ node.walk :=
  (visited_tour_perm phase node).mem_iff

/-- Between entering a node and leaving it come the visits to its descendants and no others. -/
theorem tour_eq_append (root : Node) :
    ∀ node ∈ root.walk, ∃ before after, root.tour = before ++ node.tour ++ after := by
  refine forall_mem_walk ⟨[], [], by simp⟩ ?_
  rintro node ⟨before, after, hroot⟩ child hchild
  obtain ⟨first, last, hchildren⟩ := List.append_of_mem hchild
  refine ⟨before ++ Visit.enter node :: first.flatMap tour,
    last.flatMap tour ++ Visit.leave node :: after, ?_⟩
  rw [hroot, tour_eq node, hchildren]
  simp

end Node

/-- The nodes that are visited are those of the tree. -/
theorem mem_walk_of_mem_visits {root : Node} {visit : Visit} (h : visit ∈ visits root) : visit.node ∈ root.walk := by
  rw [visits_eq_tour] at h
  have hvisited : visit.node ∈ Node.visited visit.phase root.tour :=
    List.mem_map_of_mem (List.mem_filter.2 ⟨h, decide_eq_true rfl⟩)
  exact Node.mem_visited_tour.1 hvisited

end ScriptLint
