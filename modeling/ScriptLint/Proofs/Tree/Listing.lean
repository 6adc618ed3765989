/-
Trees by their listings.

In a pre-order listing the depths say all about the shape. The parent of an entry is the
closest earlier one of smaller depth (`ParentIn`), and an entry is around all those that follow it
until one is as shallow (`Encloses`); going from parent to parent leads through the
entries around one, and through no others (`ParentIn.encloses_iff`). The nodes of a numbered tree stand in its
walk as the entries stand in its listing, and parents, children, ancestors and leaves are those that the
depths tell (`Node.parent_iff`, `Node.mem_children_iff`, `Node.mem_ancestors_iff`, `Node.ids_leaves`).
Every list whose depths begin at zero and go down one step at a time is a listing (`isPreorder_iff`).
-/
import Mathlib.Data.List.Chain
import Mathlib.Data.List.TakeWhile
import ScriptLint.Proofs.Tree.Walk

namespace ScriptLint

namespace ParseTree

/-! ## Depths -/

variable {listing : List Entry} {outer inner : Nat}

/-- The depth of an entry; what is behind the last one counts as not deep at all. -/
def depthAt (listing : List Entry) (i : Nat) : Nat := (listing[i]?.map Entry.depth).getD 0

/-- Whether an entry is the closest one of smaller depth before another. -/
structure ParentIn (listing : List Entry) (outer inner : Nat) : Prop where
  inside : inner < listing.length
  earlier : outer < inner
  shallower : depthAt listing outer < depthAt listing inner
  closest : ∀ between, outer < between → between < inner → depthAt listing inner ≤ depthAt listing between

/-- Whether an entry is around another: all entries after it are deeper, up to the other one. -/
structure Encloses (listing : List Entry) (outer inner : Nat) : Prop where
  inside : inner < listing.length
  earlier : outer < inner
  deeper : ∀ later, outer < later → later ≤ inner → depthAt listing outer < depthAt listing later

theorem ParentIn.unique {other : Nat} (h : ParentIn listing outer inner) (h' : ParentIn listing other inner) :
    outer = other := by
  rcases Nat.lt_trichotomy outer other with hlt | rfl | hlt
  · exact absurd h'.shallower (Nat.not_lt.2 (h.closest other hlt h'.earlier))
  · rfl
  · exact absurd h.shallower (Nat.not_lt.2 (h'.closest outer hlt h.earlier))

theorem ParentIn.encloses (h : ParentIn listing outer inner) : Encloses listing outer inner where
  inside := h.inside
  earlier := h.earlier
  deeper := by
    intro later hlater hle
    rcases Nat.lt_or_eq_of_le hle with hlt | rfl
    · exact Nat.lt_of_lt_of_le h.shallower (h.closest later hlater hlt)
    · exact h.shallower

/-- Around an entry are its parent and what is around that. -/
theorem ParentIn.encloses_iff (h : ParentIn listing outer inner) {other : Nat} :
    Encloses listing other inner ↔ other = outer ∨ Encloses listing other outer := by
  constructor
  · intro hother
    rcases Nat.lt_trichotomy other outer with hlt | rfl | hlt
    · refine .inr ⟨Nat.lt_trans h.earlier h.inside, hlt, fun later hlater hle => ?_⟩
      exact hother.deeper later hlater (Nat.le_trans hle (Nat.le_of_lt h.earlier))
    · exact .inl rfl
    · have hdeeper := hother.deeper inner hother.earlier (Nat.le_refl _)
      exact absurd hdeeper (Nat.not_lt.2 (h.closest other hlt hother.earlier))
  · rintro (rfl | hother)
    · exact h.encloses
    · refine ⟨h.inside, Nat.lt_trans hother.earlier h.earlier, fun later hlater hle => ?_⟩
      rcases Nat.lt_or_ge outer later with hlt | hge
      · exact Nat.lt_trans (hother.deeper outer hother.earlier (Nat.le_refl _)) (h.encloses.deeper later hlt hle)
      · exact hother.deeper later hlater hge

/-- An entry is the parent of some other if the next one is deeper. -/
theorem exists_parentIn_iff :
    (∃ inner, ParentIn listing outer inner) ↔ depthAt listing outer < depthAt listing (outer + 1) := by
  constructor
  · rintro ⟨inner, h⟩
    exact h.encloses.deeper _ (Nat.lt_succ_self _) h.earlier
  · intro h
    have hinside : outer + 1 < listing.length := by
      by_contra hbehind
      rw [depthAt, depthAt, List.getElem?_eq_none (Nat.not_lt.1 hbehind)] at h
      exact Nat.not_lt_zero _ h
    exact ⟨outer + 1, hinside, Nat.lt_succ_self _, h, by omega⟩

theorem depthAt_append_left {i : Nat} (h : i < listing.length) (rest : List Entry) :
    depthAt (listing ++ rest) i = depthAt listing i := by
  rw [depthAt, List.getElem?_append_left h, depthAt]

theorem depthAt_append_right (before : List Entry) (i : Nat) :
    depthAt (before ++ listing) (before.length + i) = depthAt listing i := by
  rw [depthAt, List.getElem?_append_right (Nat.le_add_right _ _), Nat.add_sub_cancel_left, depthAt]

theorem ParentIn.append_left (h : ParentIn listing outer inner) (rest : List Entry) :
    ParentIn (listing ++ rest) outer inner where
  inside := by rw [List.length_append]; exact Nat.lt_add_right _ h.inside
  earlier := h.earlier
  shallower := by
    rw [depthAt_append_left h.inside, depthAt_append_left (Nat.lt_trans h.earlier h.inside)]
    exact h.shallower
  closest := by
    intro between hlt hbetween
    rw [depthAt_append_left h.inside, depthAt_append_left (Nat.lt_trans hbetween h.inside)]
    exact h.closest between hlt hbetween

theorem ParentIn.append_right (h : ParentIn listing outer inner) (before : List Entry) :
    ParentIn (before ++ listing) (before.length + outer) (before.length + inner) where
  inside := by rw [List.length_append]; exact Nat.add_lt_add_left h.inside _
  earlier := Nat.add_lt_add_left h.earlier _
  shallower := by
    rw [depthAt_append_right, depthAt_append_right]
    exact h.shallower
  closest := by
    intro between hlt hbetween
    obtain ⟨between, rfl⟩ := Nat.exists_eq_add_of_le (Nat.le_of_lt (Nat.lt_of_le_of_lt (Nat.le_add_right _ _) hlt))
    rw [depthAt_append_right, depthAt_append_right]
    exact h.closest between (by omega) (by omega)

/-! ## Listings -/

mutual

theorem length_entriesAt (depth : Nat) : ∀ tree : ParseTree, (entriesAt depth tree).length = tree.size
  | .node label children => by rw [entriesAt, List.length_cons, length_entriesOfAll, size]

theorem length_entriesOfAll (depth : Nat) :
    ∀ children : List ParseTree, (entriesOfAll depth children).length = sizes children
  | [] => rfl
  | child :: rest => by rw [entriesOfAll, List.length_append, length_entriesAt, length_entriesOfAll, sizes]

end

mutual

theorem le_depth_of_mem_entriesAt (depth : Nat) : ∀ (tree : ParseTree), ∀ entry ∈ entriesAt depth tree,
    depth ≤ entry.depth
  | .node label children, entry, h => by
    rcases List.mem_cons.1 h with rfl | h
    · exact Nat.le_refl _
    · exact Nat.le_of_succ_le (le_depth_of_mem_entriesOfAll (depth + 1) children entry h)

theorem le_depth_of_mem_entriesOfAll (depth : Nat) : ∀ (children : List ParseTree),
    ∀ entry ∈ entriesOfAll depth children, depth ≤ entry.depth
  | [], _, h => absurd h List.not_mem_nil
  | child :: rest, entry, h => by
    rcases List.mem_append.1 h with h | h
    · exact le_depth_of_mem_entriesAt depth child entry h
    · exact le_depth_of_mem_entriesOfAll depth rest entry h

end

theorem le_depthAt_entriesOfAll {depth i : Nat} {children : List ParseTree} (h : i < sizes children) :
    depth ≤ depthAt (entriesOfAll depth children) i := by
  rw [← length_entriesOfAll depth] at h
  rw [depthAt, List.getElem?_eq_getElem h]
  exact le_depth_of_mem_entriesOfAll depth children _ (List.getElem_mem h)

/-- A list of entries in which the first one only is not below another, and none is more than one step deeper than
the one before it. -/
def IsPreorder : List Entry → Prop
  | [] => False
  | root :: rest => root.depth = 0 ∧ (∀ entry ∈ rest, 0 < entry.depth) ∧
    (root :: rest).IsChain fun entry next => next.depth ≤ entry.depth + 1

theorem head?_entriesOfAll {depth : Nat} {children : List ParseTree} :
    ∀ entry ∈ (entriesOfAll depth children).head?, entry.depth = depth := by
  intro entry h
  match children with
  | [] => cases h
  | .node label children :: rest =>
    cases h
    rfl

mutual

theorem isChain_entriesAt (depth : Nat) : ∀ tree : ParseTree,
    (entriesAt depth tree).IsChain fun entry next => next.depth ≤ entry.depth + 1
  | .node _ children => List.isChain_cons.2
    ⟨fun next hnext => Nat.le_of_eq (head?_entriesOfAll next hnext), isChain_entriesOfAll (depth + 1) children⟩

theorem isChain_entriesOfAll (depth : Nat) : ∀ children : List ParseTree,
    (entriesOfAll depth children).IsChain fun entry next => next.depth ≤ entry.depth + 1
  | [] => List.IsChain.nil
  | child :: rest => by
    refine List.isChain_append.2 ⟨isChain_entriesAt depth child, isChain_entriesOfAll depth rest, ?_⟩
    intro entry hentry next hnext
    have hle := le_depth_of_mem_entriesAt depth child entry (List.mem_of_getLast? hentry)
    rw [head?_entriesOfAll next hnext]
    exact Nat.le_succ_of_le hle

end

/-- A list of entries from some depth on that begins at this depth and goes down one step at a time. -/
structure Level (depth : Nat) (listing : List Entry) : Prop where
  deep : ∀ entry ∈ listing, depth ≤ entry.depth
  opening : ∀ entry ∈ listing.head?, entry.depth = depth
  steps : listing.IsChain fun entry next => next.depth ≤ entry.depth + 1

section Level

variable {first : Entry} {rest : List Entry}

theorem Level.depth_eq {depth : Nat} (h : Level depth (first :: rest)) : first.depth = depth := h.opening first rfl

/-- The entries after the first that are deeper. -/
theorem Level.inside {depth : Nat} (h : Level depth (first :: rest)) :
    Level (depth + 1) (rest.takeWhile fun entry => depth < entry.depth) := by
  obtain ⟨hnext, hrest⟩ := List.isChain_cons.1 h.steps
  have hdeeper : ∀ entry ∈ rest.takeWhile (fun entry => depth < entry.depth), depth < entry.depth := by
    intro entry hentry
    simpa using List.mem_takeWhile_imp hentry
  refine ⟨hdeeper, fun entry hentry => ?_, hrest.prefix (List.takeWhile_prefix _)⟩
  have hlower := hdeeper entry (List.mem_of_mem_head? hentry)
  rw [List.head?_takeWhile, Option.mem_filter_iff] at hentry
  have hstep := hnext entry hentry.1
  rw [h.depth_eq] at hstep
  omega

/-- The entries from the next one on that is not deeper. -/
theorem Level.behind {depth : Nat} (h : Level depth (first :: rest)) :
    Level depth (rest.dropWhile fun entry => depth < entry.depth) := by
  have hrest := (List.isChain_cons.1 h.steps).2
  have hdeep : ∀ entry ∈ rest.dropWhile (fun entry => depth < entry.depth), depth ≤ entry.depth :=
    fun entry hentry => h.deep entry (List.mem_cons_of_mem _ ((List.dropWhile_sublist _).subset hentry))
  refine ⟨hdeep, fun entry hentry => ?_, hrest.suffix (List.dropWhile_suffix _)⟩
  have hshallow := List.head?_dropWhile_not (fun entry : Entry => decide (depth < entry.depth)) rest
  rw [hentry] at hshallow
  have hupper : ¬ depth < entry.depth := of_decide_eq_false hshallow
  have hlower := hdeep entry (List.mem_of_mem_head? hentry)
  omega

/-- Such a list lists some trees. By induction on its length: what is deeper than the first entry lists its children,
and the rest the other trees. -/
theorem Level.exists_trees {depth : Nat} {listing : List Entry} (h : Level depth listing) :
    ∃ trees, entriesOfAll depth trees = listing := by
  generalize hlength : listing.length = length
  induction length using Nat.strongRecOn generalizing depth listing with
  | ind length ih =>
    match listing, h with
    | [], _ => exact ⟨[], rfl⟩
    | first :: rest, h =>
      have hsplit : rest.takeWhile (fun entry => depth < entry.depth) ++
          rest.dropWhile (fun entry => depth < entry.depth) = rest := List.takeWhile_append_dropWhile
      have hlengths := congrArg List.length hsplit
      rw [List.length_append] at hlengths
      rw [List.length_cons] at hlength
      obtain ⟨children, hchildren⟩ := ih _ (by omega) h.inside rfl
      obtain ⟨trees, htrees⟩ := ih _ (by omega) h.behind rfl
      refine ⟨.node first.label children :: trees, ?_⟩
      rw [entriesOfAll, entriesAt, hchildren, htrees, List.cons_append, hsplit, ← h.depth_eq]

end Level

/-- The lists of entries that go down one step at a time are the listings of trees. -/
theorem isPreorder_iff : IsPreorder listing ↔ ∃ tree, entries tree = listing := by
  constructor
  · intro h
    match listing, h with
    | ⟨depth, label⟩ :: rest, ⟨hroot, hbelow, hsteps⟩ =>
      obtain rfl : depth = 0 := hroot
      obtain ⟨hfirst, hrest⟩ := List.isChain_cons.1 hsteps
      have hopening : ∀ entry ∈ rest.head?, entry.depth = 1 := fun entry hentry =>
        Nat.le_antisymm (hfirst entry hentry) (hbelow entry (List.mem_of_mem_head? hentry))
      obtain ⟨children, hchildren⟩ := Level.exists_trees ⟨hbelow, hopening, hrest⟩
      exact ⟨.node label children, by rw [entries, entriesAt, hchildren]⟩
  · rintro ⟨⟨label, children⟩, rfl⟩
    exact ⟨rfl, le_depth_of_mem_entriesOfAll 1 children, isChain_entriesAt 0 (.node label children)⟩

end ParseTree

open ParseTree

namespace Node

/-! ## Nodes and entries -/

theorem length_walkTree (above : List Tree) (first : Nat) (tree : ParseTree) :
    (walkTree above (Tree.number first tree)).length = tree.size := by
  rw [← List.length_map id, ids_walkTree, Tree.ids_number, List.length_range']

theorem length_walkTrees (above : List Tree) (first : Nat) (children : List ParseTree) :
    (walkTrees above (Tree.numberAll first children)).length = sizes children := by
  rw [← List.length_map id, ids_walkTrees, Tree.idsOfAll_numberAll, List.length_range']

mutual

theorem labels_walkTree (above : List Tree) (first depth : Nat) : ∀ tree : ParseTree,
    (walkTree above (Tree.number first tree)).map label = (entriesAt depth tree).map ParseTree.Entry.label
  | .node own children => by
    rw [Tree.number, walkTree, List.map_cons, labels_walkTrees _ (first + 1) (depth + 1) children]
    rfl

theorem labels_walkTrees (above : List Tree) (first depth : Nat) : ∀ children : List ParseTree,
    (walkTrees above (Tree.numberAll first children)).map label =
      (entriesOfAll depth children).map ParseTree.Entry.label
  | [] => rfl
  | child :: rest => by
    rw [Tree.numberAll, walkTrees, entriesOfAll, List.map_append, List.map_append,
      labels_walkTree above first depth child, labels_walkTrees above _ depth rest]

end

mutual

/-- In the walk of a subtree all nodes but the first have their parents where the depths say. -/
theorem parentIn_walkTree (above : List Tree) (first depth : Nat) : ∀ (tree : ParseTree) {i : Nat} {node : Node},
    (walkTree above (Tree.number first tree))[i]? = some node →
      i = 0 ∧ node.above = above ∨
        ∃ outer, ParentIn (entriesAt depth tree) outer i ∧ node.parent?.map id = some (first + outer)
  | .node own children, 0, _, h => by
    rw [Tree.number, walkTree] at h
    cases h
    exact .inl ⟨rfl, rfl⟩
  | .node own children, i + 1, _, h => by
    rw [Tree.number, walkTree, List.getElem?_cons_succ] at h
    have hlength : i < (entriesOfAll (depth + 1) children).length := by
      rw [length_entriesOfAll, ← length_walkTrees _ (first + 1)]
      exact (List.getElem?_eq_some_iff.1 h).1
    have hlater : ∀ k, depthAt (entriesAt depth (.node own children)) (k + 1) =
        depthAt (entriesOfAll (depth + 1) children) k := fun _ => rfl
    rcases parentIn_walkTrees _ (first + 1) (depth + 1) children h with ⟨hdepth, habove⟩ | ⟨outer, hparent, hid⟩
    · refine .inr ⟨0, ⟨Nat.succ_lt_succ hlength, Nat.succ_pos i, ?_, ?_⟩, ?_⟩
      · rw [hlater, hdepth]
        exact Nat.lt_succ_self depth
      · rintro (_ | between) hpos hbetween
        · exact absurd hpos (Nat.lt_irrefl 0)
        · rw [hlater, hlater, hdepth]
          refine le_depthAt_entriesOfAll ?_
          rw [← length_entriesOfAll (depth + 1)]
          exact Nat.lt_trans (Nat.lt_of_succ_lt_succ hbetween) hlength
      · rw [parent?, habove]
        rfl
    · refine .inr ⟨1 + outer, ?_, by rw [hid, Nat.add_assoc]⟩
      have happend := hparent.append_right [⟨depth, own⟩]
      rwa [List.length_singleton, Nat.add_comm 1 i] at happend

theorem parentIn_walkTrees (above : List Tree) (first depth : Nat) :
    ∀ (children : List ParseTree) {i : Nat} {node : Node},
      (walkTrees above (Tree.numberAll first children))[i]? = some node →
        depthAt (entriesOfAll depth children) i = depth ∧ node.above = above ∨
          ∃ outer, ParentIn (entriesOfAll depth children) outer i ∧ node.parent?.map id = some (first + outer)
  | [], _, _, h => absurd h.symm (Option.some_ne_none _)
  | child :: rest, i, _, h => by
    rw [Tree.numberAll, walkTrees] at h
    have hsize := length_entriesAt depth child
    rcases Nat.lt_or_ge i child.size with hlt | hge
    · rw [List.getElem?_append_left (by rwa [length_walkTree])] at h
      rcases parentIn_walkTree above first depth child h with ⟨rfl, habove⟩ | ⟨outer, hparent, hid⟩
      · refine .inl ⟨?_, habove⟩
        rw [entriesOfAll, depthAt_append_left (by rwa [hsize])]
        cases child
        rfl
      · exact .inr ⟨outer, hparent.append_left _, hid⟩
    · obtain ⟨i, rfl⟩ := Nat.exists_eq_add_of_le hge
      rw [List.getElem?_append_right (by rw [length_walkTree]; exact hge), length_walkTree,
        Nat.add_sub_cancel_left] at h
      rw [entriesOfAll, ← hsize]
      rcases parentIn_walkTrees above (first + child.size) depth rest h with ⟨hdepth, habove⟩ | ⟨outer, hparent, hid⟩
      · exact .inl ⟨by rw [depthAt_append_right, hdepth], habove⟩
      · exact .inr ⟨_, hparent.append_right _, by rw [hid, hsize, Nat.add_assoc]⟩

end

variable {tree : ParseTree} {node : Node} {outer inner : Nat}

theorem ids_walk_number (tree : ParseTree) :
    (root (Tree.number 0 tree)).walk.map id = List.range tree.entries.length := by
  rw [ids_walk, root, Tree.ids_number, entries, length_entriesAt, List.range_eq_range']

theorem getElem?_walk_iff {i : Nat} : (root (Tree.number 0 tree)).walk[i]? = some node ↔
    node ∈ (root (Tree.number 0 tree)).walk ∧ node.id = i := by
  have number : ∀ {j}, (root (Tree.number 0 tree)).walk[j]? = some node → j = node.id := by
    intro j hj
    have hid := congrArg (fun ids => ids[j]?) (ids_walk_number tree)
    simp only [List.getElem?_map, hj, Option.map_some] at hid
    obtain ⟨hlt, hrange⟩ := List.getElem?_eq_some_iff.1 hid.symm
    rwa [List.getElem_range] at hrange
  constructor
  · exact fun h => ⟨List.mem_of_getElem? h, (number h).symm⟩
  · rintro ⟨h, rfl⟩
    obtain ⟨j, hj⟩ := List.mem_iff_getElem?.1 h
    rwa [number hj] at hj

theorem exists_of_lt_length (h : inner < tree.entries.length) :
    ∃ node ∈ (root (Tree.number 0 tree)).walk, node.id = inner := by
  have hmem := List.mem_range.2 h
  rw [← ids_walk_number] at hmem
  exact List.mem_map.1 hmem

theorem eq_of_id_eq {other : Node} (h : node ∈ (root (Tree.number 0 tree)).walk)
    (hother : other ∈ (root (Tree.number 0 tree)).walk) (hid : node.id = other.id) : node = other := by
  refine eq_of_same_id ?_ h hother hid
  rw [← ids_walk, ids_walk_number]
  exact List.nodup_range

/-- The parent of a node is the closest earlier one of smaller depth. -/
theorem parent_iff (h : node ∈ (root (Tree.number 0 tree)).walk) :
    node.parent?.map id = some outer ↔ ParentIn tree.entries outer node.id := by
  rcases parentIn_walkTree [] 0 0 tree (getElem?_walk_iff.2 ⟨h, rfl⟩) with ⟨hfirst, habove⟩ | ⟨other, hother, hid⟩
  · rw [hfirst, parent?, habove]
    constructor
    · exact fun hnone => absurd hnone.symm (Option.some_ne_none outer)
    · exact fun hparent => absurd hparent.earlier (Nat.not_lt_zero outer)
  · rw [Nat.zero_add] at hid
    rw [hid, Option.some.injEq]
    constructor
    · rintro rfl
      exact hother
    · exact hother.unique

theorem parentIn_of_mem_children {child : Node} (h : node ∈ (root (Tree.number 0 tree)).walk)
    (hchild : child ∈ node.children) : ParentIn tree.entries node.id child.id := by
  rw [← parent_iff (children_subset_walk h child hchild), parent?_of_mem_children hchild]
  rfl

theorem mem_children_of_parent? {top : Tree} {parent : Node} (h : node ∈ (root top).walk)
    (hparent : node.parent? = some parent) : node ∈ parent.children := by
  have hall : ∀ node ∈ (root top).walk, ∀ parent, node.parent? = some parent → node ∈ parent.children := by
    refine forall_mem_walk (fun _ hnone => nomatch hnone) fun node _ child hchild parent hparent => ?_
    rw [parent?_of_mem_children hchild] at hparent
    rwa [← Option.some.inj hparent]
  exact hall node h parent hparent

/-- The children of a node are those entries whose parent it is. -/
theorem mem_children_iff (h : node ∈ (root (Tree.number 0 tree)).walk) :
    inner ∈ node.children.map id ↔ ParentIn tree.entries node.id inner := by
  constructor
  · intro hinner
    obtain ⟨child, hchild, rfl⟩ := List.mem_map.1 hinner
    exact parentIn_of_mem_children h hchild
  · intro hparent
    obtain ⟨child, hchild, rfl⟩ := exists_of_lt_length hparent.inside
    obtain ⟨parent, hsome, hid⟩ := Option.map_eq_some_iff.1 ((parent_iff hchild).2 hparent)
    have hancestor : parent ∈ child.ancestors := by
      rw [ancestors_of_parent? hsome]
      exact List.mem_cons_self
    obtain rfl := eq_of_id_eq (ancestors_subset_walk child hchild parent hancestor) h hid
    exact List.mem_map_of_mem (mem_children_of_parent? hchild hsome)

theorem children_sublist_walk (node : Node) : node.children.Sublist node.walk := by
  have hflat : ∀ nodes : List Node, nodes.Sublist (nodes.flatMap walk) := by
    intro nodes
    induction nodes with
    | nil => exact List.Sublist.slnil
    | cons first rest ih =>
      rw [List.flatMap_cons, walk_eq first, List.cons_append]
      exact (ih.trans (List.sublist_append_right _ _)).cons_cons first
  rw [walk_eq]
  exact (hflat node.children).cons node

/-- Walks go down the listing. -/
theorem pairwise_ids_walk : ∀ node ∈ (root (Tree.number 0 tree)).walk, (node.walk.map id).Pairwise (· < ·) := by
  refine forall_mem_walk ?_ fun node hnode child hchild => ?_
  · rw [ids_walk_number]
    exact List.pairwise_lt_range
  · refine hnode.sublist (List.Sublist.map id ?_)
    obtain ⟨before, after, hsplit⟩ := List.append_of_mem hchild
    rw [walk_eq node, hsplit, List.flatMap_append, List.flatMap_cons]
    exact ((List.sublist_append_left _ _).trans (List.sublist_append_right _ _)).cons node

theorem pairwise_ids_children (h : node ∈ (root (Tree.number 0 tree)).walk) :
    (node.children.map id).Pairwise (· < ·) :=
  (pairwise_ids_walk node h).sublist ((children_sublist_walk node).map id)

/-- The ancestors of a node are the entries around it, the innermost first. -/
theorem mem_ancestors_iff (h : node ∈ (root (Tree.number 0 tree)).walk) :
    outer ∈ node.ancestors.map id ↔ Encloses tree.entries outer node.id := by
  refine (forall_mem_walk (motive := fun node => node ∈ (root (Tree.number 0 tree)).walk ∧
    ∀ outer, outer ∈ node.ancestors.map id ↔ Encloses tree.entries outer node.id) ?_ ?_ node h).2 outer
  · refine ⟨mem_walk_self _, fun outer => ⟨fun hnone => absurd hnone List.not_mem_nil, fun hencloses => ?_⟩⟩
    have hfirst : (root (Tree.number 0 tree)).id = 0 := by cases tree; rfl
    exact absurd (hfirst ▸ hencloses.earlier) (Nat.not_lt_zero outer)
  · rintro node ⟨hnode, ih⟩ child hchild
    refine ⟨children_subset_walk hnode child hchild, fun outer => ?_⟩
    rw [ancestors_of_mem_children hchild, List.map_cons, List.mem_cons, ih,
      (parentIn_of_mem_children hnode hchild).encloses_iff]

theorem pairwise_ids_ancestors (h : node ∈ (root (Tree.number 0 tree)).walk) :
    (node.ancestors.map id).Pairwise (· > ·) := by
  refine (forall_mem_walk (motive := fun node => node ∈ (root (Tree.number 0 tree)).walk ∧
    (node.ancestors.map id).Pairwise (· > ·)) ⟨mem_walk_self _, List.Pairwise.nil⟩ ?_ node h).2
  rintro node ⟨hnode, ih⟩ child hchild
  refine ⟨children_subset_walk hnode child hchild, ?_⟩
  rw [ancestors_of_mem_children hchild]
  exact List.pairwise_cons.2 ⟨fun outer houter => ((mem_ancestors_iff hnode).1 houter).earlier, ih⟩

/-- The leaves are the entries after which no deeper one comes. -/
theorem isLeaf_iff (h : node ∈ (root (Tree.number 0 tree)).walk) :
    node.isLeaf = true ↔ depthAt tree.entries (node.id + 1) ≤ depthAt tree.entries node.id := by
  have hchildren : node.isLeaf = true ↔ ∀ inner, inner ∉ node.children.map id := by
    rw [← List.eq_nil_iff_forall_not_mem, isLeaf, List.isEmpty_iff, children, List.map_eq_nil_iff,
      List.map_eq_nil_iff]
  rw [hchildren, ← Nat.not_lt, ← exists_parentIn_iff, not_exists]
  exact forall_congr' fun inner => not_congr (mem_children_iff h)

theorem ids_leaves (tree : ParseTree) : ((root (Tree.number 0 tree)).walk.filter isLeaf).map id =
    (List.range tree.entries.length).filter fun i => depthAt tree.entries (i + 1) ≤ depthAt tree.entries i := by
  rw [← ids_walk_number, List.filter_map]
  congr 1
  refine List.filter_congr fun node hnode => ?_
  rw [Bool.eq_iff_iff, isLeaf_iff hnode, Function.comp_apply, decide_eq_true_eq]

end Node

end ScriptLint
