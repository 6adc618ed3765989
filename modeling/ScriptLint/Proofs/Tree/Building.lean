/-
A cursor that goes through a tree builds the nodes of that tree.

A cursor that stands at some place of a tree says what is there and moves as the tree allows it
(`Cursor.Follows`). Each turn of the builder then is one of five (`turn_leaf`, `turn_inner`,
`turn_sibling`, `turn_last`, `turn_outermost`), and from the place of a node on the turns make it and
all below it, in the order of the walk, and come back to that place (`runs_tree`). So the builder ends with the
nodes of the numbered tree (`builds_tree`), and the walk with a stack and the way up from parent to
parent meet the nodes that they should (`Built.walks_walk`, `Built.climbs_ancestors`).
-/
import Mathlib.Data.List.Forall2
import Mathlib.Logic.Relation
import ScriptLint.Proofs.Tree.Listing
import ScriptLint.Proofs.Tree.Tour
import ScriptLint.Tree.Building

namespace ScriptLint

/-! ## Places -/

namespace ParseTree

/-- The subtree at a place. A place is given by the children to be taken on the way down, the last one first. -/
def at? (tree : ParseTree) : List Nat → Option ParseTree
  | [] => some tree
  | i :: place => (tree.at? place).bind fun above => above.children[i]?

def firstChild? (tree : ParseTree) (place : List Nat) : Option (List Nat) :=
  if (tree.at? (0 :: place)).isSome then some (0 :: place) else none

def nextSibling? (tree : ParseTree) : List Nat → Option (List Nat)
  | [] => none
  | i :: place => if (tree.at? ((i + 1) :: place)).isSome then some ((i + 1) :: place) else none

def placeAbove? : List Nat → Option (List Nat)
  | [] => none
  | _ :: place => some place

end ParseTree

section

variable {σ : Type}

/-- Whether a move comes out as it should: it is made if there is a place to move to, and else the cursor stays
where it is. -/
structure Cursor.Moves (standsAt : σ → List Nat → Prop) (place : List Nat) (target : Option (List Nat))
    (outcome : Bool × σ) : Prop where
  made : outcome.1 = target.isSome
  stands : standsAt outcome.2 (target.getD place)

/-- A cursor on a tree: what it says of a node and where it moves is what the tree has there. -/
structure Cursor.Follows (cursor : Cursor σ) (tree : ParseTree) (start : σ) (standsAt : σ → List Nat → Prop) :
    Prop where
  start : standsAt start []
  label : ∀ {state place found}, standsAt state place → tree.at? place = some found → cursor.label state = found.label
  firstChild : ∀ {state place}, standsAt state place →
    Moves standsAt place (tree.firstChild? place) (cursor.toFirstChild state)
  nextSibling : ∀ {state place}, standsAt state place →
    Moves standsAt place (tree.nextSibling? place) (cursor.toNextSibling state)
  parent : ∀ {state place}, standsAt state place →
    Moves standsAt place (ParseTree.placeAbove? place) (cursor.toParent state)

theorem Cursor.Moves.of_some {standsAt : σ → List Nat → Prop} {place target : List Nat} {outcome : Bool × σ}
    (h : Moves standsAt place (some target) outcome) : ∃ state, outcome = (true, state) ∧ standsAt state target :=
  ⟨outcome.2, Prod.ext h.made rfl, h.stands⟩

theorem Cursor.Moves.of_none {standsAt : σ → List Nat → Prop} {place : List Nat} {outcome : Bool × σ}
    (h : Moves standsAt place none outcome) : ∃ state, outcome = (false, state) ∧ standsAt state place :=
  ⟨outcome.2, Prod.ext h.made rfl, h.stands⟩

/-! ## Cells -/

/-- A node of a numbered tree as a cell that is complete. -/
def Node.cell (index : LineIndex) (node : Node) : Cell where
  kind := node.kind
  span := index.span node.start node.stop
  named := node.named
  field := node.field
  parent := node.parent?.map Node.id
  children := node.children.map Node.id
  closed := true

theorem Cell.attach?_append {cell : Cell} (hopen : cell.closed = false) (child : Nat) (before after : List Cell) :
    attach? child (some before.length) (before ++ cell :: after) =
      some (before ++ cell.adopt [child] :: after) := by
  simp [attach?, hopen]

theorem Cell.length_attach? {child : Nat} {parent : Option Nat} {cells more : List Cell}
    (h : attach? child parent cells = some more) : more.length = cells.length := by
  cases parent with
  | none =>
    cases h
    rfl
  | some number =>
    simp only [attach?] at h
    split at h
    · cases h
    · split at h
      · cases h
      · cases h
        exact List.length_set

theorem Cell.close_append (cell : Cell) (before after : List Cell) :
    close before.length (before ++ cell :: after) = before ++ cell.finish :: after := by
  induction before with
  | nil => rfl
  | cons first before ih => exact congrArg (first :: ·) ih

/-! ## Turns -/

namespace Builder

section

variable {cursor : Cursor σ} {tree : ParseTree} {origin : σ} {standsAt : σ → List Nat → Prop}
variable (follows : cursor.Follows tree origin standsAt) (index : LineIndex)

include follows

variable {state : σ} {place : List Nat}

/-- A node without children is made and is complete at once. -/
theorem turn_leaf {found : ParseTree} (hstands : standsAt state place) (hplace : tree.at? place = some found)
    (hleaf : found.children = []) : ∃ after, standsAt after place ∧
      ∀ stack cells more root, Cell.attach? cells.length stack.head? cells = some more →
        turn cursor index ⟨false, state, stack, cells, root⟩ =
          .next ⟨true, after, stack, more ++ [(Cell.ofLabel index found.label stack.head?).finish],
            if stack.head?.isNone then some cells.length else root⟩ := by
  have hnone : tree.firstChild? place = none := by
    rw [ParseTree.firstChild?, ParseTree.at?, hplace, Option.bind_some, hleaf]
    rfl
  have hmove := follows.firstChild hstands
  rw [hnone] at hmove
  obtain ⟨after, hmove, hafter⟩ := hmove.of_none
  refine ⟨after, hafter, fun stack cells more root hattach => ?_⟩
  simp only [turn, make, hattach, hmove, follows.label hstands hplace, Bool.false_eq_true, if_false]
  rw [← Cell.length_attach? hattach, Cell.close_append]

/-- A node with children is made and waits on the stack, and its first child is next. -/
theorem turn_inner {found : ParseTree} (hstands : standsAt state place) (hplace : tree.at? place = some found)
    (hinner : found.children ≠ []) : ∃ after, standsAt after (0 :: place) ∧
      ∀ stack cells more root, Cell.attach? cells.length stack.head? cells = some more →
        turn cursor index ⟨false, state, stack, cells, root⟩ =
          .next ⟨false, after, cells.length :: stack, more ++ [Cell.ofLabel index found.label stack.head?],
            if stack.head?.isNone then some cells.length else root⟩ := by
  have hsome : tree.firstChild? place = some (0 :: place) := by
    rw [ParseTree.firstChild?, if_pos]
    rw [ParseTree.at?, hplace, Option.bind_some, List.getElem?_eq_getElem (List.length_pos_iff.2 hinner)]
    rfl
  have hmove := follows.firstChild hstands
  rw [hsome] at hmove
  obtain ⟨after, hmove, hafter⟩ := hmove.of_some
  refine ⟨after, hafter, fun stack cells more root hattach => ?_⟩
  simp only [turn, make, hattach, hmove, follows.label hstands hplace, Bool.false_eq_true, if_false]

/-- After a complete node comes its next sibling. -/
theorem turn_sibling {i : Nat} (hstands : standsAt state (i :: place))
    (hnext : (tree.at? ((i + 1) :: place)).isSome) :
    ∃ after, standsAt after ((i + 1) :: place) ∧ ∀ stack cells root,
      turn cursor index ⟨true, state, stack, cells, root⟩ = .next ⟨false, after, stack, cells, root⟩ := by
  have hmove := follows.nextSibling hstands
  rw [ParseTree.nextSibling?, if_pos hnext] at hmove
  obtain ⟨after, hmove, hafter⟩ := hmove.of_some
  refine ⟨after, hafter, fun stack cells root => ?_⟩
  simp only [turn, climb, hmove, if_true]

/-- After the last of its children a node is complete. -/
theorem turn_last {i : Nat} (hstands : standsAt state (i :: place)) (hlast : tree.at? ((i + 1) :: place) = none) :
    ∃ after, standsAt after place ∧ ∀ number stack cells root,
      turn cursor index ⟨true, state, number :: stack, cells, root⟩ =
        .next ⟨true, after, stack, Cell.close number cells, root⟩ := by
  have hmove := follows.nextSibling hstands
  rw [ParseTree.nextSibling?, if_neg (by rw [hlast]; exact Bool.false_ne_true)] at hmove
  obtain ⟨between, hmove, hbetween⟩ := hmove.of_none
  obtain ⟨after, hmove', hafter⟩ := (follows.parent hbetween).of_some
  refine ⟨after, hafter, fun number stack cells root => ?_⟩
  simp only [turn, climb, hmove, hmove', if_true]

/-- After the outermost node there is nothing left to do. -/
theorem turn_outermost (hstands : standsAt state []) (stack : List Nat) (cells : List Cell) (number : Nat) :
    turn cursor index ⟨true, state, stack, cells, some number⟩ = .done ⟨cells, number⟩ := by
  obtain ⟨between, hmove, hbetween⟩ := (follows.nextSibling hstands).of_none
  obtain ⟨after, hmove', -⟩ := (follows.parent hbetween).of_none
  simp only [turn, climb, hmove, hmove', if_true]

end

/-! ## Runs -/

/-- Some turns, none of which ends the building. -/
def Runs (cursor : Cursor σ) (index : LineIndex) : Builder σ → Builder σ → Prop :=
  Relation.ReflTransGen fun builder next => builder.turn cursor index = .next next

end Builder

theorem Tree.id_number (first : Nat) (tree : ParseTree) : (number first tree).id = first := by
  cases tree
  rfl

theorem Node.parent?_map_id (node : Node) : node.parent?.map Node.id = node.above.head?.map Tree.id := by
  obtain ⟨tree, above⟩ := node
  cases above <;> rfl

theorem Node.ids_children (node : Node) : node.children.map Node.id = node.tree.children.map Tree.id := by
  rw [children, List.map_map]
  rfl

/-- The cells of a subtree: a new one for its root that has been given its children and closed, and then those of the
subtrees below. -/
theorem Node.cells_walkTree (index : LineIndex) (above : List Tree) (first : Nat) (label : Label)
    (children : List ParseTree) :
    (walkTree above (Tree.number first (.node label children))).map (cell index) =
      ((Cell.ofLabel index label (above.head?.map Tree.id)).adopt
        ((Tree.numberAll (first + 1) children).map Tree.id)).finish ::
      (walkTrees (Tree.number first (.node label children) :: above) (Tree.numberAll (first + 1) children)).map
        (cell index) := by
  rw [Tree.number, walkTree, List.map_cons, cell, parent?_map_id, ids_children]
  rfl

namespace Builder

section

variable {cursor : Cursor σ} {tree : ParseTree} {origin : σ} {standsAt : σ → List Nat → Prop}
variable (follows : cursor.Follows tree origin standsAt) (index : LineIndex)

include follows

mutual

/-- From the place of a node on, it and all below it are made; then the cursor is back at that place. -/
theorem runs_tree : ∀ (found : ParseTree) {state : σ} {place : List Nat}, standsAt state place →
    tree.at? place = some found →
      ∃ after, standsAt after place ∧ ∀ stack cells more root above, stack.head? = above.head?.map Tree.id →
        Cell.attach? cells.length stack.head? cells = some more →
          Runs cursor index ⟨false, state, stack, cells, root⟩
            ⟨true, after, stack,
              more ++ (Node.walkTree above (Tree.number cells.length found)).map (Node.cell index),
              if stack.head?.isNone then some cells.length else root⟩
  | .node label children, state, place, hstands, hplace => by
    by_cases hleaf : children = []
    · subst hleaf
      obtain ⟨after, hafter, hturn⟩ := turn_leaf follows index hstands hplace rfl
      refine ⟨after, hafter, fun stack cells more root above hparent hattach => ?_⟩
      rw [Node.cells_walkTree, ← hparent]
      exact .single (hturn stack cells more root hattach)
    · obtain ⟨down, hdown, hfirst⟩ := turn_inner follows index hstands hplace hleaf
      have hplaces : ∀ k, tree.at? ((0 + k) :: place) = children[k]? := by
        intro k
        rw [Nat.zero_add, ParseTree.at?, hplace]
        rfl
      obtain ⟨low, last, hlow, hlast, hruns⟩ := runs_trees children hleaf hdown hplaces
      obtain ⟨after, hafter, hup⟩ := turn_last follows index hlow hlast
      refine ⟨after, hafter, fun stack cells more root above hparent hattach => ?_⟩
      have hlength := Cell.length_attach? hattach
      have hbelow := hruns more [] (Cell.ofLabel index label stack.head?) stack
        (if stack.head?.isNone then some cells.length else root)
        (Tree.number cells.length (.node label children) :: above) rfl (hlength ▸ rfl)
      rw [hlength, List.length_append, hlength] at hbelow
      refine .head (hfirst stack cells more root hattach) (hbelow.tail ((hup _ _ _ _).trans ?_))
      rw [Node.cells_walkTree, ← hparent, ← hlength, Cell.close_append]
      rfl

/-- From the place of a child on, it and the children after it are made, and given to the node that waits for them. -/
theorem runs_trees : ∀ (children : List ParseTree) {state : σ} {i : Nat} {place : List Nat}, children ≠ [] →
    standsAt state (i :: place) → (∀ k, tree.at? ((i + k) :: place) = children[k]?) →
      ∃ low last, standsAt low (last :: place) ∧ tree.at? ((last + 1) :: place) = none ∧
        ∀ before after cell stack root above, cell.closed = false → above.head?.map Tree.id = some before.length →
          Runs cursor index ⟨false, state, before.length :: stack, before ++ cell :: after, root⟩
            ⟨true, low, before.length :: stack,
              before ++ cell.adopt ((Tree.numberAll (before ++ cell :: after).length children).map Tree.id) ::
              (after ++ (Node.walkTrees above (Tree.numberAll (before ++ cell :: after).length children)).map
                (Node.cell index)), root⟩
  | [], _, _, _, hne, _, _ => absurd rfl hne
  | child :: rest, state, i, place, _, hstands, hplaces => by
    obtain ⟨back, hback, hruns⟩ := runs_tree child hstands (hplaces 0)
    -- The first child is given to the node that waits, which is still open and has all its earlier children.
    have hchild : ∀ before after cell stack root above first, cell.closed = false →
        above.head?.map Tree.id = some before.length → (before ++ cell :: after).length = first →
          Runs cursor index ⟨false, state, before.length :: stack, before ++ cell :: after, root⟩
            ⟨true, back, before.length :: stack, before ++ cell.adopt [first] ::
              (after ++ (Node.walkTree above (Tree.number first child)).map (Node.cell index)), root⟩ := by
      intro before after cell stack root above first hopen habove hfirst
      have h := hruns (before.length :: stack) (before ++ cell :: after) _ root above habove.symm
        (Cell.attach?_append hopen _ before after)
      rwa [hfirst, List.append_assoc, List.cons_append] at h
    by_cases hrest : rest = []
    · subst hrest
      refine ⟨back, i, hback, hplaces 1, fun before after cell stack root above hopen habove => ?_⟩
      rw [Tree.numberAll, Tree.numberAll, Node.walkTrees, Node.walkTrees, List.append_nil, List.map_singleton,
        Tree.id_number]
      exact hchild before after cell stack root above _ hopen habove rfl
    · have hnext : (tree.at? ((i + 1) :: place)).isSome := by
        rw [hplaces 1, List.getElem?_cons_succ, List.getElem?_eq_getElem (List.length_pos_iff.2 hrest)]
        rfl
      have hplaces' : ∀ k, tree.at? ((i + 1 + k) :: place) = rest[k]? := by
        intro k
        rw [Nat.add_right_comm, Nat.add_assoc]
        exact hplaces (k + 1)
      obtain ⟨beside, hbeside, hturn⟩ := turn_sibling follows index hback hnext
      obtain ⟨low, last, hlow, hlast, hlater⟩ := runs_trees rest hrest hbeside hplaces'
      refine ⟨low, last, hlow, hlast, fun before after cell stack root above hopen habove => ?_⟩
      obtain ⟨first, hfirst⟩ : ∃ first, (before ++ cell :: after).length = first := ⟨_, rfl⟩
      have hmade := hchild before after cell stack root above first hopen habove hfirst
      have hsize : ((Node.walkTree above (Tree.number first child)).map (Node.cell index)).length = child.size := by
        rw [List.length_map, Node.length_walkTree]
      rw [hfirst, Tree.numberAll, Node.walkTrees, List.map_cons, Tree.id_number, List.map_append]
      generalize (Node.walkTree above (Tree.number first child)).map (Node.cell index) = made at hmade hsize ⊢
      have hlength : (before ++ cell.adopt [first] :: (after ++ made)).length = first + child.size := by
        simp only [← hfirst, ← hsize, List.length_append, List.length_cons]
        omega
      have hadopt : ∀ later, (cell.adopt [first]).adopt later = cell.adopt (first :: later) := by simp [Cell.adopt]
      have hmore := hlater before (after ++ made) (cell.adopt [first]) stack root above hopen habove
      rw [hlength, hadopt, List.append_assoc] at hmore
      exact (hmade.tail (hturn _ _ _)).trans hmore

end

end

end Builder

/-! ## What is built -/

open ParseTree

section

variable {index : LineIndex} {tree : ParseTree} {node : Node}

/-- The nodes of a numbered tree as cells. -/
def Built.ofTree (index : LineIndex) (tree : ParseTree) : Built where
  cells := (Node.root (Tree.number 0 tree)).walk.map (Node.cell index)
  root := 0

namespace Built

theorem Walks.unique {built : Built} {stack nodes others : List Nat} (h : built.Walks stack nodes)
    (h' : built.Walks stack others) : nodes = others := by
  induction h generalizing others with
  | done =>
    cases h'
    rfl
  | take here _ ih =>
    cases h' with
    | take here' later' =>
      obtain rfl := Option.some.inj (here.symm.trans here')
      rw [ih later']

theorem Climbs.unique {built : Built} {start : Option Nat} {nodes others : List Nat} (h : built.Climbs start nodes)
    (h' : built.Climbs start others) : nodes = others := by
  induction h generalizing others with
  | done =>
    cases h'
    rfl
  | up here _ ih =>
    cases h' with
    | up here' later' =>
      obtain rfl := Option.some.inj (here.symm.trans here')
      rw [ih later']

theorem getElem?_ofTree {i : Nat} {cell : Cell} : (ofTree index tree).cells[i]? = some cell ↔
    ∃ node ∈ (Node.root (Tree.number 0 tree)).walk, node.id = i ∧ node.cell index = cell := by
  rw [ofTree, List.getElem?_map, Option.map_eq_some_iff]
  simp only [Node.getElem?_walk_iff, and_assoc]

theorem cell_of_mem_walk (h : node ∈ (Node.root (Tree.number 0 tree)).walk) :
    (ofTree index tree).cells[node.id]? = some (node.cell index) :=
  getElem?_ofTree.2 ⟨node, h, rfl, rfl⟩

/-- From a node on the stack its subtree is walked before the rest of the stack. -/
theorem walks_walk (h : node ∈ (Node.root (Tree.number 0 tree)).walk) {stack nodes : List Nat}
    (later : (ofTree index tree).Walks stack nodes) :
    (ofTree index tree).Walks (node.id :: stack) (node.walk.map Node.id ++ nodes) := by
  induction node using Node.childInduction generalizing stack nodes with
  | step node ih =>
    have hchildren : ∀ children : List Node, (∀ child ∈ children, child ∈ node.children) →
        (ofTree index tree).Walks (children.map Node.id ++ stack)
          ((children.flatMap Node.walk).map Node.id ++ nodes) := by
      intro children hsub
      induction children with
      | nil => exact later
      | cons child rest ihrest =>
        have hchild := hsub child List.mem_cons_self
        rw [List.flatMap_cons, List.map_append, List.append_assoc]
        exact ih child hchild (Node.children_subset_walk h child hchild)
          (ihrest fun other hother => hsub other (List.mem_cons_of_mem _ hother))
    rw [Node.walk_eq]
    exact .take (cell_of_mem_walk h) (hchildren node.children fun _ hchild => hchild)

theorem walks_root : (ofTree index tree).Walks [0] ((Node.root (Tree.number 0 tree)).walk.map Node.id) := by
  have hnone : (ofTree index tree).Walks [] [] := .done
  have h := walks_walk (Node.mem_walk_self (Node.root (Tree.number 0 tree))) hnone
  rwa [List.append_nil, show (Node.root (Tree.number 0 tree)).id = 0 from Tree.id_number 0 tree] at h

/-- From the parent of a node on its ancestors are met. -/
theorem climbs_ancestors (h : node ∈ (Node.root (Tree.number 0 tree)).walk) :
    (ofTree index tree).Climbs (node.parent?.map Node.id) (node.ancestors.map Node.id) := by
  refine (Node.forall_mem_walk (motive := fun node => node ∈ (Node.root (Tree.number 0 tree)).walk ∧
    (ofTree index tree).Climbs (node.parent?.map Node.id) (node.ancestors.map Node.id))
    ⟨Node.mem_walk_self _, .done⟩ ?_ node h).2
  rintro node ⟨hnode, ih⟩ child hchild
  refine ⟨Node.children_subset_walk hnode child hchild, ?_⟩
  rw [Node.parent?_of_mem_children hchild, Node.ancestors_of_mem_children hchild]
  exact .up (cell_of_mem_walk hnode) ih

theorem isLeaf_ofTree (h : node ∈ (Node.root (Tree.number 0 tree)).walk) :
    (ofTree index tree).isLeaf node.id = node.isLeaf := by
  rw [isLeaf, cell_of_mem_walk h, Node.cell, Node.ids_children, Node.isLeaf]
  exact List.isEmpty_map

theorem leaves_ofTree : ((Node.root (Tree.number 0 tree)).walk.map Node.id).filter (ofTree index tree).isLeaf =
    ((Node.root (Tree.number 0 tree)).walk.filter Node.isLeaf).map Node.id := by
  rw [List.filter_map]
  exact congrArg _ (List.filter_congr fun node hnode => isLeaf_ofTree hnode)

/-- Nodes that are those of a listing. Each knows what its entry says, and all else follows from the depths: the
parent is the closest earlier entry of smaller depth, and the children are in order the entries whose parent it
is. The walk from the root goes through the nodes in the order of the listing, the way up from a node through
the entries around it, and the nodes without children are the entries after which no deeper one comes. -/
structure Lists (built : Built) (index : LineIndex) (listing : List ParseTree.Entry) : Prop where
  cells : List.Forall₂ (fun cell entry => cell.kind = entry.label.kind ∧
    cell.span = index.span entry.label.start entry.label.stop ∧ cell.named = entry.label.named ∧
    cell.field = entry.label.field) built.cells listing
  walk : ∀ nodes, built.Walks [built.root] nodes ↔ nodes = List.range listing.length
  parent : ∀ inner cell, built.cells[inner]? = some cell →
    ∀ outer, cell.parent = some outer ↔ ParentIn listing outer inner
  children : ∀ outer cell, built.cells[outer]? = some cell →
    cell.closed = true ∧ cell.children.Pairwise (· < ·) ∧
      ∀ inner, inner ∈ cell.children ↔ ParentIn listing outer inner
  ancestors : ∀ inner cell, built.cells[inner]? = some cell →
    ∃ around, (∀ nodes, built.Climbs cell.parent nodes ↔ nodes = around) ∧ around.Pairwise (· > ·) ∧
      ∀ outer, outer ∈ around ↔ Encloses listing outer inner
  tokens : ∀ nodes, built.Walks [built.root] nodes → nodes.filter built.isLeaf =
    (List.range listing.length).filter fun i => depthAt listing (i + 1) ≤ depthAt listing i
  nodeCount : ∀ nodes, built.Walks [built.root] nodes → nodes.length = listing.length

/-- Nodes that are those of the tree of a file, by their numbers. -/
structure Mirrors (built : Built) (source : Source) : Prop where
  cells : ∀ node ∈ source.root.walk, built.cells[node.id]? = some (node.cell source.index)
  walk : built.Walks [built.root] (source.root.walk.map Node.id)
  ancestors : ∀ node ∈ source.root.walk, built.Climbs (node.parent?.map Node.id) (node.ancestors.map Node.id)
  tokens : (source.root.walk.map Node.id).filter built.isLeaf = source.tokens.map Node.id
  nodeCount : built.cells.length = source.nodeCount

theorem mirrors_ofTree (path : Path) (bytes : Bytes) (tree : ParseTree) :
    (ofTree (LineIndex.ofBytes bytes) tree).Mirrors (Source.ofParsed path bytes tree) where
  cells := fun _ => cell_of_mem_walk
  walk := walks_root
  ancestors := fun _ => climbs_ancestors
  tokens := leaves_ofTree
  nodeCount := List.length_map _

theorem lists_ofTree (index : LineIndex) (tree : ParseTree) : (ofTree index tree).Lists index tree.entries where
  cells := by
    have hlabels : List.Forall₂ (fun node entry => node.label = entry.label) (Node.root (Tree.number 0 tree)).walk
        tree.entries := by
      refine List.forall₂_map_left_iff.1 (List.forall₂_map_right_iff.1 ?_)
      rw [List.forall₂_eq_eq_eq]
      exact Node.labels_walkTree [] 0 0 tree
    refine List.forall₂_map_left_iff.2 (hlabels.imp fun node entry h => ?_)
    rw [← h]
    exact ⟨rfl, rfl, rfl, rfl⟩
  walk := by
    intro nodes
    rw [← Node.ids_walk_number]
    exact ⟨fun h => h.unique walks_root, fun h => h ▸ walks_root⟩
  parent := by
    intro inner cell hcell outer
    obtain ⟨node, hnode, rfl, rfl⟩ := getElem?_ofTree.1 hcell
    exact Node.parent_iff hnode
  children := by
    intro outer cell hcell
    obtain ⟨node, hnode, rfl, rfl⟩ := getElem?_ofTree.1 hcell
    exact ⟨rfl, Node.pairwise_ids_children hnode, fun inner => Node.mem_children_iff hnode⟩
  ancestors := by
    intro inner cell hcell
    obtain ⟨node, hnode, rfl, rfl⟩ := getElem?_ofTree.1 hcell
    have hclimbs : (ofTree index tree).Climbs (node.parent?.map Node.id) (node.ancestors.map Node.id) :=
      climbs_ancestors hnode
    exact ⟨_, fun nodes => ⟨fun h => h.unique hclimbs, fun h => h ▸ hclimbs⟩, Node.pairwise_ids_ancestors hnode,
      fun outer => Node.mem_ancestors_iff hnode⟩
  tokens := by
    intro nodes h
    obtain rfl := h.unique walks_root
    rw [leaves_ofTree, Node.ids_leaves]
  nodeCount := by
    intro nodes h
    obtain rfl := h.unique walks_root
    rw [Node.ids_walk_number, List.length_range]

end Built

end

/-- **The loop builds the tree that the cursor goes through.** Whatever the shape of the tree, it comes to its end and
never asks for what is not there. What it has built are the nodes of the pre-order listing, each with parent,
children and ancestors as the depths tell, and the tokens are the entries after which no deeper one comes; they
are the nodes of the tree that the rules of a file are run on. The listings of trees are all lists of
entries that go down one step at a time. -/
theorem Builder.builds_tree {cursor : Cursor σ} {tree : ParseTree} {origin : σ} {standsAt : σ → List Nat → Prop}
    (follows : cursor.Follows tree origin standsAt) (path : Path) (bytes : Bytes) :
    (∃ last built, Runs cursor (LineIndex.ofBytes bytes) (start origin) last ∧
      last.turn cursor (LineIndex.ofBytes bytes) = .done built ∧
      built.Lists (LineIndex.ofBytes bytes) tree.entries ∧ built.Mirrors (Source.ofParsed path bytes tree)) ∧
    ∀ listing, IsPreorder listing ↔ ∃ tree, ParseTree.entries tree = listing := by
  obtain ⟨last, hlast, hruns⟩ := runs_tree follows (LineIndex.ofBytes bytes) tree follows.start rfl
  refine ⟨⟨_, Built.ofTree (LineIndex.ofBytes bytes) tree, hruns [] [] [] none [] rfl rfl,
    turn_outermost follows _ hlast _ _ _, ?_, ?_⟩, ?_⟩
  · exact Built.lists_ofTree _ tree
  · exact Built.mirrors_ofTree path bytes tree
  · exact fun listing => isPreorder_iff

end

/-! ## Cursors -/

/-- The cursor that knows its place. -/
def ParseTree.cursor (tree : ParseTree) : Cursor (List Nat) where
  label place := ((tree.at? place).getD tree).label
  toFirstChild place := ((tree.firstChild? place).isSome, (tree.firstChild? place).getD place)
  toNextSibling place := ((tree.nextSibling? place).isSome, (tree.nextSibling? place).getD place)
  toParent place := ((placeAbove? place).isSome, (placeAbove? place).getD place)

theorem ParseTree.cursor_follows (tree : ParseTree) : tree.cursor.Follows tree [] Eq where
  start := rfl
  label := by
    rintro state place found rfl hfound
    simp only [cursor, hfound, Option.getD_some]
  firstChild := by
    rintro state place rfl
    exact ⟨rfl, rfl⟩
  nextSibling := by
    rintro state place rfl
    exact ⟨rfl, rfl⟩
  parent := by
    rintro state place rfl
    exact ⟨rfl, rfl⟩

/-- The tree of `a == b;`. -/
def comparisonTree : ParseTree :=
  .node { kind := "program", start := 0, stop := 7 }
    [.node { kind := "expression_statement", start := 0, stop := 7 }
      [.node { kind := "binary_expression", start := 0, stop := 6 }
        [.node { kind := "identifier", start := 0, stop := 1, field := some "left" } [],
          .node { kind := "==", start := 2, stop := 4, named := false, field := some "operator" } [],
          .node { kind := "identifier", start := 5, stop := 6, field := some "right" } []],
        .node { kind := ";", start := 6, stop := 7, named := false } []]]

theorem Builder.builds_tree_comparison : ∃ last built,
    Runs comparisonTree.cursor (LineIndex.ofBytes (Utf8.encode "a == b;")) (start []) last ∧
      last.turn comparisonTree.cursor (LineIndex.ofBytes (Utf8.encode "a == b;")) = .done built ∧
      built.Walks [built.root] [0, 1, 2, 3, 4, 5, 6] ∧
      [0, 1, 2, 3, 4, 5, 6].filter built.isLeaf = [3, 4, 5, 6] := by
  obtain ⟨⟨last, built, hruns, hdone, hlists, -⟩, -⟩ :=
    builds_tree comparisonTree.cursor_follows (.ofString "a.js") (Utf8.encode "a == b;")
  have hwalk : built.Walks [built.root] [0, 1, 2, 3, 4, 5, 6] := (hlists.walk _).2 (by decide)
  exact ⟨last, built, hruns, hdone, hwalk, (hlists.tokens _ hwalk).trans (by decide)⟩

end ScriptLint
