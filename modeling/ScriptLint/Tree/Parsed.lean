/-
Parse trees as a parser delivers them, and the pre-order listing of one.

In a listing every node has a depth, and its parent is the closest earlier node
of smaller depth. `ParseTree.ofEntries?` rebuilds the tree from the listing;
`ofEntries?_entries` says that listing a tree and rebuilding it gives it back.
-/
namespace ScriptLint

/-- What is known about one node: its grammar kind, its byte range, whether it is named, the
field it fills in its parent, and the parser's marks of trouble. -/
structure Label where
  kind : String
  start : Nat
  stop : Nat
  named : Bool := true
  field : Option String := none
  isMissing : Bool := false
  isError : Bool := false
  hasError : Bool := false
  deriving Repr, DecidableEq

inductive ParseTree where
  | node (label : Label) (children : List ParseTree)
  deriving Repr

namespace ParseTree

def label : ParseTree → Label
  | .node label _ => label

def children : ParseTree → List ParseTree
  | .node _ children => children

mutual

def size : ParseTree → Nat
  | .node _ children => sizes children + 1

def sizes : List ParseTree → Nat
  | [] => 0
  | child :: rest => size child + sizes rest

end

/-- One line of a pre-order listing. -/
structure Entry where
  depth : Nat
  label : Label
  deriving Repr, DecidableEq

mutual

/-- The listing of a tree whose root stands at a depth. -/
def entriesAt (depth : Nat) : ParseTree → List Entry
  | .node label children => ⟨depth, label⟩ :: entriesOfAll (depth + 1) children

def entriesOfAll (depth : Nat) : List ParseTree → List Entry
  | [] => []
  | child :: rest => entriesAt depth child ++ entriesOfAll depth rest

end

def entries (tree : ParseTree) : List Entry := entriesAt 0 tree

/-- Puts a node before the trees that follow it in the listing: the deeper ones among the first
of them become its children. -/
def adopt (entry : Entry) (later : List (Nat × ParseTree)) : List (Nat × ParseTree) :=
  let deeper := fun (other : Nat × ParseTree) => decide (entry.depth < other.1)
  (entry.depth, .node entry.label ((later.takeWhile deeper).map Prod.snd)) ::
    later.dropWhile deeper

/-- The trees of a listing, each with the depth of its root. -/
def forest (listing : List Entry) : List (Nat × ParseTree) := listing.foldr adopt []

/-- The tree of a listing with one root. -/
def ofEntries? (listing : List Entry) : Option ParseTree :=
  match forest listing with
  | [(_, tree)] => some tree
  | _ => none

/-- The trees of a listing that does not go on with deeper nodes. -/
def ShallowAfter (depth : Nat) (rest : List Entry) : Prop :=
  ∀ other ∈ (forest rest).head?, other.1 ≤ depth

theorem none_adopted {depth : Nat} {trees : List (Nat × ParseTree)}
    (shallow : ∀ other ∈ trees.head?, other.1 ≤ depth) :
    trees.takeWhile (fun other => decide (depth < other.1)) = [] ∧
      trees.dropWhile (fun other => decide (depth < other.1)) = trees := by
  cases trees with
  | nil => simp
  | cons first rest =>
    have : ¬ depth < first.1 := by have := shallow first (by simp); omega
    simp [this]

mutual

theorem forest_entriesAt (depth : Nat) :
    ∀ (tree : ParseTree) (rest : List Entry), ShallowAfter depth rest →
      forest (entriesAt depth tree ++ rest) = (depth, tree) :: forest rest
  | .node label children, rest, shallow => by
    have inside := forest_entriesOfAll (depth + 1) children rest
      fun other member => Nat.le_succ_of_le (shallow other member)
    obtain ⟨taken, dropped⟩ := none_adopted shallow
    have deeper : ∀ child ∈ children.map (fun child => (depth + 1, child)),
        (decide (depth < child.1)) = true := by
      intro child member
      simp only [List.mem_map] at member
      obtain ⟨c, _, rfl⟩ := member
      simp
    simp only [forest] at inside taken dropped
    simp only [entriesAt, List.cons_append, forest, List.foldr_cons]
    rw [inside]
    simp only [adopt]
    rw [List.takeWhile_append_of_pos deeper, List.dropWhile_append_of_pos deeper, taken, dropped]
    simp [List.map_map, Function.comp_def]

theorem forest_entriesOfAll (depth : Nat) :
    ∀ (children : List ParseTree) (rest : List Entry), ShallowAfter depth rest →
      forest (entriesOfAll depth children ++ rest) =
        children.map (fun child => (depth, child)) ++ forest rest
  | [], rest, _ => by simp [entriesOfAll]
  | child :: siblings, rest, shallow => by
    have later := forest_entriesOfAll depth siblings rest shallow
    have first := forest_entriesAt depth child (entriesOfAll depth siblings ++ rest) (by
      intro other member
      rw [later] at member
      cases siblings with
      | nil => exact shallow other (by simpa using member)
      | cons sibling siblings =>
        simp at member
        simp [← member])
    simp only [entriesOfAll, List.append_assoc, List.map_cons, List.cons_append]
    rw [first, later]

end

theorem ofEntries?_entries (tree : ParseTree) : ofEntries? (entries tree) = some tree := by
  have h := forest_entriesAt 0 tree [] (by simp [ShallowAfter, forest])
  have none_left : forest [] = [] := rfl
  simp only [List.append_nil, none_left] at h
  simp [ofEntries?, entries, h]

end ParseTree

end ScriptLint
