/-
Nodes in their place.

The walk of a tree is closed under children and ancestors, and in a numbered
tree a node is what its number says (`eq_of_same_id`). Above a node lies one
chain: from any place in it on, it is the chain of the node in that place
(`ancestors_suffix`), and it passes no number twice (`nodup_ids_ancestors`).
-/
import Mathlib.Data.List.Nodup
import ScriptLint.Source.Basic

namespace ScriptLint

namespace Node

/-! ## Parents -/

theorem parent?_of_mem_children {node child : Node} (h : child ∈ node.children) :
    child.parent? = some node := by
  obtain ⟨tree, -, rfl⟩ := List.mem_map.1 h
  rfl

theorem ancestors_of_parent? {node parent : Node} (h : node.parent? = some parent) :
    node.ancestors = parent :: parent.ancestors := by
  obtain ⟨tree, above⟩ := node
  cases above with
  | nil => cases h
  | cons first above =>
    obtain rfl := Option.some.inj h
    rfl

theorem ancestors_of_mem_children {node child : Node} (h : child ∈ node.children) :
    child.ancestors = node :: node.ancestors :=
  ancestors_of_parent? (parent?_of_mem_children h)

theorem ancestors_of_parent?_eq_none {node : Node} (h : node.parent? = none) : node.ancestors = [] := by
  obtain ⟨tree, above⟩ := node
  cases above with
  | nil => rfl
  | cons first above => cases h

/-! ## Ancestors -/

theorem chain_suffix {node : Node} {after : List Node} : ∀ {above : List Tree} {before : List Node},
    chain above = before ++ node :: after → after = node.ancestors
  | [], before, h => by cases before <;> cases h
  | tree :: above, before, h => by
    cases before with
    | nil =>
      obtain ⟨rfl, rfl⟩ := List.cons.inj h
      rfl
    | cons first before => exact chain_suffix (List.cons.inj h).2

/-- What comes after a node in a chain of ancestors are the ancestors of that node. -/
theorem ancestors_suffix {node ancestor : Node} {before after : List Node}
    (h : node.ancestors = before ++ ancestor :: after) : after = ancestor.ancestors :=
  chain_suffix h

theorem length_above_of_mem_chain {node : Node} : ∀ {above : List Tree},
    node ∈ chain above → node.above.length < above.length
  | [], h => by cases h
  | tree :: above, h => by
    rcases List.mem_cons.1 h with rfl | h
    · exact Nat.lt_succ_self _
    · exact Nat.lt_succ_of_lt (length_above_of_mem_chain h)

/-- Fewer trees lie around an ancestor. -/
theorem length_above_lt {node ancestor : Node} (h : ancestor ∈ node.ancestors) :
    ancestor.above.length < node.above.length :=
  length_above_of_mem_chain h

theorem not_mem_ancestors_self (node : Node) : node ∉ node.ancestors :=
  fun h => Nat.lt_irrefl _ (length_above_lt h)

theorem nodup_chain (above : List Tree) : (chain above).Nodup := by
  induction above with
  | nil => exact List.nodup_nil
  | cons tree above ih => exact List.nodup_cons.2 ⟨not_mem_ancestors_self ⟨tree, above⟩, ih⟩

theorem nodup_ancestors (node : Node) : node.ancestors.Nodup := nodup_chain node.above

/-! ## The walk -/

theorem walk_eq (node : Node) : node.walk = node :: node.children.flatMap walk := by
  obtain ⟨⟨id, label, children⟩, above⟩ := node
  have subtrees : ∀ (above : List Tree) (trees : List Tree),
      walkTrees above trees = (trees.map fun tree => (⟨tree, above⟩ : Node)).flatMap walk := by
    intro above trees
    induction trees with
    | nil => rfl
    | cons tree rest ih =>
      rw [walkTrees, ih]
      rfl
  rw [walk, walkTree, subtrees]
  rfl

theorem mem_walk_self (node : Node) : node ∈ node.walk := by
  rw [walk_eq]
  exact List.mem_cons_self

theorem mem_walk_of_mem_children {node child inner : Node} (hchild : child ∈ node.children)
    (h : inner ∈ child.walk) : inner ∈ node.walk := by
  rw [walk_eq]
  exact List.mem_cons_of_mem _ (List.mem_flatMap.2 ⟨child, hchild, h⟩)

mutual

/-- What holds of a node and goes from each node to its children holds of the whole walk. -/
theorem forall_mem_walkTree {motive : Node → Prop}
    (step : ∀ node, motive node → ∀ child ∈ node.children, motive child) :
    ∀ (above : List Tree) (tree : Tree), motive ⟨tree, above⟩ → ∀ node ∈ walkTree above tree, motive node
  | above, .node id label children, h, node, hnode => by
    rw [walkTree] at hnode
    rcases List.mem_cons.1 hnode with rfl | hnode
    · exact h
    · refine forall_mem_walkTrees step _ children (fun tree htree => ?_) node hnode
      exact step _ h _ (List.mem_map_of_mem htree)

theorem forall_mem_walkTrees {motive : Node → Prop}
    (step : ∀ node, motive node → ∀ child ∈ node.children, motive child) :
    ∀ (above : List Tree) (trees : List Tree), (∀ tree ∈ trees, motive ⟨tree, above⟩) →
      ∀ node ∈ walkTrees above trees, motive node
  | _, [], _, _, hnode => by cases hnode
  | above, tree :: rest, h, node, hnode => by
    rw [walkTrees] at hnode
    rcases List.mem_append.1 hnode with hnode | hnode
    · exact forall_mem_walkTree step above tree (h tree List.mem_cons_self) node hnode
    · exact forall_mem_walkTrees step above rest (fun other hother => h other (List.mem_cons_of_mem _ hother))
        node hnode

end

/-- Induction down a walk. -/
theorem forall_mem_walk {root : Node} {motive : Node → Prop} (base : motive root)
    (step : ∀ node, motive node → ∀ child ∈ node.children, motive child) :
    ∀ node ∈ root.walk, motive node :=
  forall_mem_walkTree step root.above root.tree base

/-- A walk goes through whole subtrees. -/
theorem walk_subset {root node : Node} (h : node ∈ root.walk) : ∀ inner ∈ node.walk, inner ∈ root.walk := by
  refine forall_mem_walk (motive := fun node => ∀ inner ∈ node.walk, inner ∈ root.walk)
    (fun _ h => h) (fun node ih child hchild inner hinner => ?_) node h
  exact ih inner (mem_walk_of_mem_children hchild hinner)

theorem children_subset_walk {root node : Node} (h : node ∈ root.walk) :
    ∀ child ∈ node.children, child ∈ root.walk :=
  fun child hchild => walk_subset h child (mem_walk_of_mem_children hchild (mem_walk_self child))

theorem cons_children_subset_walk {root node : Node} (h : node ∈ root.walk) :
    ∀ member ∈ node :: node.children, member ∈ root.walk :=
  List.forall_mem_cons.2 ⟨h, children_subset_walk h⟩

/-- The ancestors of a node in the walk of a tree are in that walk. -/
theorem ancestors_subset_walk {tree : Tree} : ∀ node ∈ (root tree).walk,
    ∀ ancestor ∈ node.ancestors, ancestor ∈ (root tree).walk := by
  have both : ∀ node ∈ (root tree).walk, node ∈ (root tree).walk ∧
      ∀ ancestor ∈ node.ancestors, ancestor ∈ (root tree).walk := by
    refine forall_mem_walk ⟨mem_walk_self _, fun _ h => by cases h⟩ ?_
    rintro node ⟨hnode, hancestors⟩ child hchild
    refine ⟨children_subset_walk hnode child hchild, fun ancestor h => ?_⟩
    rw [ancestors_of_mem_children hchild] at h
    rcases List.mem_cons.1 h with rfl | h
    · exact hnode
    · exact hancestors ancestor h
  exact fun node h => (both node h).2

/-! ## Numbers -/

/-- In a tree with distinct numbers a node is what its number says. -/
theorem eq_of_same_id {root first second : Node} (distinct : root.tree.ids.Nodup) (hfirst : first ∈ root.walk)
    (hsecond : second ∈ root.walk) (h : first.id = second.id) : first = second := by
  rw [← ids_walk] at distinct
  exact List.inj_on_of_nodup_map distinct hfirst hsecond h

/-- The other nodes of a walk have other numbers. -/
theorem ne_of_mem_rest {root node : Node} {before after : List Node} (distinct : root.tree.ids.Nodup)
    (hwalk : root.walk = before ++ node :: after) {other : Node} (h : other ∈ before ++ after) :
    other ∈ root.walk ∧ other.id ≠ node.id := by
  rw [← ids_walk, hwalk, List.map_append, List.map_cons, List.nodup_append] at distinct
  obtain ⟨-, hafter, hbefore⟩ := distinct
  rw [hwalk]
  rcases List.mem_append.1 h with h | h
  · refine ⟨List.mem_append_left _ h, ?_⟩
    exact hbefore other.id (List.mem_map_of_mem h) node.id List.mem_cons_self
  · refine ⟨List.mem_append_right _ (List.mem_cons_of_mem _ h), fun hsame => ?_⟩
    exact (List.nodup_cons.1 hafter).1 (hsame ▸ List.mem_map_of_mem h)

/-- A number is that of a child of one node only. -/
theorem eq_of_same_child_id {tree : Tree} (distinct : tree.ids.Nodup) {first second : Node}
    (hfirst : first ∈ (root tree).walk) (hsecond : second ∈ (root tree).walk) {child other : Node}
    (hchild : child ∈ first.children) (hother : other ∈ second.children) (h : child.id = other.id) :
    first = second := by
  obtain rfl := eq_of_same_id distinct (children_subset_walk hfirst child hchild)
    (children_subset_walk hsecond other hother) h
  exact Option.some.inj ((parent?_of_mem_children hchild).symm.trans (parent?_of_mem_children hother))

theorem nodup_ids_ancestors {tree : Tree} (distinct : tree.ids.Nodup) {node : Node}
    (h : node ∈ (root tree).walk) : (node.ancestors.map id).Nodup := by
  refine List.pairwise_map.2 (List.Pairwise.imp_of_mem ?_ (nodup_ancestors node))
  intro first second hfirst hsecond hne hid
  exact hne (eq_of_same_id distinct (ancestors_subset_walk node h first hfirst)
    (ancestors_subset_walk node h second hsecond) hid)

/-! ## Enclosing nodes -/

theorem rootOf_of_parent? {node parent : Node} (h : node.parent? = some parent) :
    node.rootOf = parent.rootOf := by
  unfold rootOf
  rw [ancestors_of_parent? h, List.getLast?_cons]
  rfl

/-- Enclosing nodes are looked for at the parent first and then from there on. -/
theorem enclosing_of_parent? {node parent : Node} (h : node.parent? = some parent) (kinds : List String) :
    node.enclosing kinds = if kinds.contains parent.kind then parent else parent.enclosing kinds := by
  unfold enclosing
  rw [ancestors_of_parent? h, rootOf_of_parent? h, List.find?_cons]
  split
  · next hkind => rw [if_pos hkind]; rfl
  · next hkind =>
    rw [if_neg (by rw [hkind]; exact Bool.false_ne_true)]

theorem enclosing_of_parent?_eq_none {node : Node} (h : node.parent? = none) (kinds : List String) :
    node.enclosing kinds = node := by
  unfold enclosing rootOf
  rw [ancestors_of_parent?_eq_none h]
  rfl

/-- Induction from the outermost node in. -/
theorem parentInduction {motive : Node → Prop} (outermost : ∀ node, node.parent? = none → motive node)
    (inner : ∀ node parent, node.parent? = some parent → motive parent → motive node) (node : Node) :
    motive node := by
  obtain ⟨tree, above⟩ := node
  induction above generalizing tree with
  | nil => exact outermost _ rfl
  | cons first above ih => exact inner _ ⟨first, above⟩ rfl (ih first)

/-- The enclosing node is an ancestor, or the node itself where there is none. -/
theorem enclosing_mem (kinds : List String) (node : Node) :
    node.enclosing kinds ∈ node :: node.ancestors := by
  induction node using parentInduction with
  | outermost node h =>
    rw [enclosing_of_parent?_eq_none h]
    exact List.mem_cons_self
  | inner node parent h ih =>
    refine List.mem_cons_of_mem _ ?_
    rw [enclosing_of_parent? h, ancestors_of_parent? h]
    split
    · exact List.mem_cons_self
    · exact ih

/-- Among more kinds the enclosing node is found earlier. -/
theorem enclosing_mem_of_subset {fewer more : List String} (h : ∀ kind ∈ fewer, kind ∈ more) (node : Node) :
    node.enclosing fewer ∈ node.enclosing more :: (node.enclosing more).ancestors := by
  induction node using parentInduction with
  | outermost node hparent =>
    rw [enclosing_of_parent?_eq_none hparent, enclosing_of_parent?_eq_none hparent]
    exact List.mem_cons_self
  | inner node parent hparent ih =>
    rw [enclosing_of_parent? hparent fewer, enclosing_of_parent? hparent more]
    by_cases hmore : more.contains parent.kind
    · rw [if_pos hmore]
      split
      · exact List.mem_cons_self
      · exact enclosing_mem fewer parent
    · have hfewer : ¬ fewer.contains parent.kind := by
        intro hkind
        exact hmore (List.contains_iff_mem.2 (h _ (List.contains_iff_mem.1 hkind)))
      rw [if_neg hmore, if_neg hfewer]
      exact ih

end Node

/-- The numbers of a parsed file are distinct. -/
theorem Source.nodup_ids_ofParsed (path : Path) (bytes : Bytes) (parsed : ParseTree) :
    (Source.ofParsed path bytes parsed).tree.ids.Nodup := by
  rw [Source.ofParsed, Tree.ids_number]
  exact List.nodup_range'

end ScriptLint
