/-
Syntax trees with numbered nodes, and nodes in their place.

A tree is numbered in pre-order from zero, so a number names one node of it
(`ids_number`). A `Node` is a subtree together with the trees around it, from
the innermost out: parent, ancestors, children and descendants all follow from
these two.
-/
import ScriptLint.Tree.Parsed

namespace ScriptLint

inductive Tree where
  | node (id : Nat) (label : Label) (children : List Tree)
  deriving Repr

namespace Tree

def id : Tree → Nat
  | .node id _ _ => id

def label : Tree → Label
  | .node _ label _ => label

def children : Tree → List Tree
  | .node _ _ children => children

mutual

def size : Tree → Nat
  | .node _ _ children => sizes children + 1

def sizes : List Tree → Nat
  | [] => 0
  | child :: rest => size child + sizes rest

end

mutual

/-- The numbers of all nodes in document order. -/
def ids : Tree → List Nat
  | .node id _ children => id :: idsOfAll children

def idsOfAll : List Tree → List Nat
  | [] => []
  | child :: rest => ids child ++ idsOfAll rest

end

mutual

/-- Numbers the nodes of a parse tree in pre-order from a number on. -/
def number (first : Nat) : ParseTree → Tree
  | .node label children => .node first label (numberAll (first + 1) children)

def numberAll (first : Nat) : List ParseTree → List Tree
  | [] => []
  | child :: rest => number first child :: numberAll (first + child.size) rest

end

mutual

theorem ids_number (first : Nat) :
    ∀ tree : ParseTree, (number first tree).ids = List.range' first tree.size
  | .node label children => by
    simp only [number, ids, idsOfAll_numberAll, ParseTree.size]
    rw [List.range'_succ]

theorem idsOfAll_numberAll (first : Nat) :
    ∀ children : List ParseTree,
      idsOfAll (numberAll first children) = List.range' first (ParseTree.sizes children)
  | [] => by simp [numberAll, idsOfAll, ParseTree.sizes]
  | child :: rest => by
    simp only [numberAll, idsOfAll, ids_number first child,
      idsOfAll_numberAll (first + child.size) rest, ParseTree.sizes]
    rw [← List.range'_append]
    simp

end

end Tree

/-- A subtree and the trees around it, the innermost first. -/
structure Node where
  tree : Tree
  above : List Tree
  deriving Repr

namespace Node

def id (node : Node) : Nat := node.tree.id
def label (node : Node) : Label := node.tree.label
def kind (node : Node) : String := node.label.kind
def start (node : Node) : Nat := node.label.start
def stop (node : Node) : Nat := node.label.stop
def named (node : Node) : Bool := node.label.named
def field (node : Node) : Option String := node.label.field

def root (tree : Tree) : Node := ⟨tree, []⟩

def isLeaf (node : Node) : Bool := node.tree.children.isEmpty

def children (node : Node) : List Node :=
  node.tree.children.map fun child => ⟨child, node.tree :: node.above⟩

/-- The named children, comments left out. -/
def namedChildren (node : Node) : List Node :=
  node.children.filter fun child => child.named && child.kind ≠ "comment"

def childByField? (node : Node) (name : String) : Option Node :=
  node.children.find? fun child => child.field = some name

def childOfKind? (node : Node) (kind : String) : Option Node :=
  node.children.find? fun child => child.kind = kind

def parent? (node : Node) : Option Node :=
  match node.above with
  | [] => none
  | tree :: above => some ⟨tree, above⟩

def chain : List Tree → List Node
  | [] => []
  | tree :: above => ⟨tree, above⟩ :: chain above

/-- The nodes around a node, from its parent to the root. -/
def ancestors (node : Node) : List Node := chain node.above

/-- The outermost node around a node, or the node itself. -/
def rootOf (node : Node) : Node := node.ancestors.getLast?.getD node

mutual

def walkTree (above : List Tree) : Tree → List Node
  | tree@(.node _ _ children) => ⟨tree, above⟩ :: walkTrees (tree :: above) children

def walkTrees (above : List Tree) : List Tree → List Node
  | [] => []
  | child :: rest => walkTree above child ++ walkTrees above rest

end

/-- A node and its descendants in document order. -/
def walk (node : Node) : List Node := walkTree node.above node.tree

/-- Nearest strict ancestor of one of the kinds, or the root. -/
def enclosing (kinds : List String) (node : Node) : Node :=
  (node.ancestors.find? fun ancestor => kinds.contains ancestor.kind).getD node.rootOf

/-- Whether the byte range of one node holds that of another. -/
def covers (outer inner : Node) : Bool :=
  outer.start ≤ inner.start && inner.stop ≤ outer.stop

mutual

theorem ids_walkTree (above : List Tree) :
    ∀ tree : Tree, (walkTree above tree).map id = tree.ids
  | .node number label children => by
    simp only [walkTree, Tree.ids, List.map_cons, ids_walkTrees _ children]
    rfl

theorem ids_walkTrees (above : List Tree) :
    ∀ children : List Tree, (walkTrees above children).map id = Tree.idsOfAll children
  | [] => by simp [walkTrees, Tree.idsOfAll]
  | child :: rest => by
    simp [walkTrees, Tree.idsOfAll, ids_walkTree above child, ids_walkTrees above rest]

end

theorem ids_walk (node : Node) : node.walk.map id = node.tree.ids :=
  ids_walkTree node.above node.tree

end Node

end ScriptLint
