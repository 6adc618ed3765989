/-
Trees of the same shape with other kinds.

`Tree.rekind` gives every node a new kind, made from its number and its old
one; numbers, spans, fields and the shape stay. Moving through a tree commutes
with it, and a search for a kind does where that kind is spared.
-/
import ScriptLint.Proofs.Tree.Walk

namespace ScriptLint

/-- A new kind for each number and old kind. -/
abbrev Rekinding := Nat → String → String

/-- No node gets or loses a kind outside a list. -/
def Rekinding.Spares (f : Rekinding) (changed : List String) : Prop :=
  ∀ kind, kind ∉ changed → ∀ id old, f id old = kind ↔ old = kind

namespace Tree

mutual

def rekind (f : Rekinding) : Tree → Tree
  | .node id label children => .node id { label with kind := f id label.kind } (rekindAll f children)

def rekindAll (f : Rekinding) : List Tree → List Tree
  | [] => []
  | child :: rest => rekind f child :: rekindAll f rest

end

theorem rekindAll_eq_map (f : Rekinding) (trees : List Tree) : rekindAll f trees = trees.map (rekind f) := by
  induction trees with
  | nil => rfl
  | cons tree rest ih => rw [rekindAll, ih, List.map_cons]

variable (f : Rekinding) (tree : Tree)

@[simp] theorem id_rekind : (tree.rekind f).id = tree.id := by
  cases tree
  rfl

theorem children_rekind : (tree.rekind f).children = tree.children.map (rekind f) := by
  cases tree
  exact rekindAll_eq_map f _

theorem label_rekind : (tree.rekind f).label = { tree.label with kind := f tree.id tree.label.kind } := by
  cases tree
  rfl

end Tree

namespace Node

def rekind (f : Rekinding) (node : Node) : Node := ⟨node.tree.rekind f, node.above.map (Tree.rekind f)⟩

section Shape

variable (f : Rekinding) (node : Node)

@[simp] theorem id_rekind : (node.rekind f).id = node.id := Tree.id_rekind f node.tree

@[simp] theorem kind_rekind : (node.rekind f).kind = f node.id node.kind := by
  simp only [kind, label, rekind, Tree.label_rekind]
  rfl

@[simp] theorem start_rekind : (node.rekind f).start = node.start := by
  simp only [start, label, rekind, Tree.label_rekind]

@[simp] theorem stop_rekind : (node.rekind f).stop = node.stop := by
  simp only [stop, label, rekind, Tree.label_rekind]

@[simp] theorem named_rekind : (node.rekind f).named = node.named := by
  simp only [named, label, rekind, Tree.label_rekind]

@[simp] theorem field_rekind : (node.rekind f).field = node.field := by
  simp only [field, label, rekind, Tree.label_rekind]

theorem children_rekind : (node.rekind f).children = node.children.map (rekind f) := by
  simp only [children, rekind, Tree.children_rekind, List.map_map]
  rfl

theorem parent?_rekind : (node.rekind f).parent? = node.parent?.map (rekind f) := by
  obtain ⟨tree, above⟩ := node
  cases above <;> rfl

theorem chain_rekind (above : List Tree) : chain (above.map (Tree.rekind f)) = (chain above).map (rekind f) := by
  induction above with
  | nil => rfl
  | cons tree above ih =>
    rw [List.map_cons, chain, chain, ih, List.map_cons]
    rfl

theorem ancestors_rekind : (node.rekind f).ancestors = node.ancestors.map (rekind f) :=
  chain_rekind f node.above

theorem ids_ancestors_rekind : (node.rekind f).ancestors.map id = node.ancestors.map id := by
  rw [ancestors_rekind, List.map_map]
  exact List.map_congr_left fun ancestor _ => id_rekind f ancestor

theorem rootOf_rekind : (node.rekind f).rootOf = node.rootOf.rekind f := by
  simp only [rootOf, ancestors_rekind, List.getLast?_map]
  cases node.ancestors.getLast? <;> rfl

mutual

theorem walkTree_rekind : ∀ (above : List Tree) (tree : Tree),
    walkTree (above.map (Tree.rekind f)) (tree.rekind f) = (walkTree above tree).map (rekind f)
  | above, .node number label children => by
    rw [Tree.rekind, walkTree, walkTree, List.map_cons, ← walkTrees_rekind _ children]
    rfl

theorem walkTrees_rekind : ∀ (above : List Tree) (trees : List Tree),
    walkTrees (above.map (Tree.rekind f)) (Tree.rekindAll f trees) = (walkTrees above trees).map (rekind f)
  | _, [] => rfl
  | above, tree :: rest => by
    rw [Tree.rekindAll, walkTrees, walkTrees, walkTree_rekind above tree, walkTrees_rekind above rest,
      List.map_append]

end

theorem walk_rekind : (node.rekind f).walk = node.walk.map (rekind f) :=
  walkTree_rekind f node.above node.tree

theorem childByField?_rekind (name : String) :
    (node.rekind f).childByField? name = (node.childByField? name).map (rekind f) := by
  simp only [childByField?, children_rekind, List.find?_map, Function.comp_def, field_rekind]

end Shape

section Spared

variable {f : Rekinding} {changed : List String}

/-- A node has a spared kind after the change just when it had it before. -/
theorem kind_rekind_eq_iff (spares : f.Spares changed) {kind : String} (h : kind ∉ changed) (node : Node) :
    (node.rekind f).kind = kind ↔ node.kind = kind := by
  rw [kind_rekind]
  exact spares kind h node.id node.kind

theorem contains_kind_rekind (spares : f.Spares changed) {kinds : List String}
    (h : ∀ kind ∈ kinds, kind ∉ changed) (node : Node) :
    kinds.contains (node.rekind f).kind = kinds.contains node.kind := by
  refine Bool.eq_iff_iff.2 ?_
  rw [List.contains_iff_mem, List.contains_iff_mem]
  constructor
  · intro hkind
    rw [(kind_rekind_eq_iff spares (h _ hkind) node).1 rfl]
    exact hkind
  · intro hkind
    rw [(kind_rekind_eq_iff spares (h _ hkind) node).2 rfl]
    exact hkind

theorem namedChildren_rekind (spares : f.Spares changed) (h : "comment" ∉ changed) (node : Node) :
    (node.rekind f).namedChildren = node.namedChildren.map (rekind f) := by
  simp only [namedChildren, children_rekind, List.filter_map, Function.comp_def, named_rekind, ne_eq,
    kind_rekind_eq_iff spares h]

theorem filter_kind_rekind (spares : f.Spares changed) {kind : String} (h : kind ∉ changed)
    (nodes : List Node) :
    (nodes.map (rekind f)).filter (·.kind = kind) = (nodes.filter (·.kind = kind)).map (rekind f) := by
  simp only [List.filter_map, Function.comp_def, kind_rekind_eq_iff spares h]

theorem enclosing_rekind (spares : f.Spares changed) {kinds : List String}
    (h : ∀ kind ∈ kinds, kind ∉ changed) (node : Node) :
    (node.rekind f).enclosing kinds = (node.enclosing kinds).rekind f := by
  simp only [enclosing, ancestors_rekind, List.find?_map, Function.comp_def, contains_kind_rekind spares h,
    rootOf_rekind]
  cases node.ancestors.find? fun ancestor => kinds.contains ancestor.kind <;> rfl

end Spared

end Node

end ScriptLint
