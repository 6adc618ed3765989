/-
Building the nodes of a file with a cursor.

A parser hands out a cursor, which stands on a node of its tree and moves to the first child, to the
next sibling and to the parent. The builder makes a node at every place that it comes to for the first
time and gives it to its parent as a child. Nodes are known by the order in which they are made. A
node that has children waits for them on a stack; when the cursor has come back up to it, it
is closed and takes no more of them, as is a node without children at once.

The nodes are then followed from one to the next: down with a stack (`Built.Walks`) and up from parent
to parent (`Built.Climbs`).
-/
import ScriptLint.Source.Basic

namespace ScriptLint

/-- A cursor of a parser: what it says of the node it stands on, and its moves. A move says whether
it was made, and where the cursor stands then. -/
structure Cursor (σ : Type) where
  label : σ → Label
  toFirstChild : σ → Bool × σ
  toNextSibling : σ → Bool × σ
  toParent : σ → Bool × σ

def LineIndex.span (index : LineIndex) (start stop : Nat) : Span :=
  let first := index.position start
  let last := index.position stop
  { start, stop
    line := first.line, column := first.column
    endLine := some last.line, endColumn := some last.column }

/-- A node as it is kept while others are made. Parent and children are the numbers of nodes. -/
structure Cell where
  kind : String
  span : Span
  named : Bool
  field : Option String
  parent : Option Nat
  children : List Nat
  closed : Bool
  deriving Repr, DecidableEq

namespace Cell

/-- A new node, which has no children yet. -/
def ofLabel (index : LineIndex) (label : Label) (parent : Option Nat) : Cell where
  kind := label.kind
  span := index.span label.start label.stop
  named := label.named
  field := label.field
  parent := parent
  children := []
  closed := false

def adopt (children : List Nat) (cell : Cell) : Cell := { cell with children := cell.children ++ children }

def finish (cell : Cell) : Cell := { cell with closed := true }

/-- Gives a node one more child, if it still takes some. A node without a parent is given to none. -/
def attach? (child : Nat) (parent : Option Nat) (cells : List Cell) : Option (List Cell) :=
  match parent with
  | none => some cells
  | some number =>
    match cells[number]? with
    | none => none
    | some cell =>
      if cell.closed then none else some (cells.set number (cell.adopt [child]))

def close (number : Nat) (cells : List Cell) : List Cell := cells.modify number finish

end Cell

/-- All nodes in the order in which they were made, and the number of the outermost. -/
structure Built where
  cells : List Cell
  root : Nat
  deriving Repr, DecidableEq

/-- How far the building has come. Either a node is to be made at the place of the cursor, or what is at and
below that place is complete and the cursor is to move on. -/
structure Builder (σ : Type) where
  complete : Bool
  place : σ
  /-- The nodes that wait for their children, the innermost first. -/
  stack : List Nat
  cells : List Cell
  root : Option Nat

namespace Builder

variable {σ : Type}

def start (place : σ) : Builder σ := ⟨false, place, [], [], none⟩

/-- What a turn leads to. It breaks off if it asks for what is not there: a child of a closed node, a node
on an empty stack, or an outermost node when none has been made. -/
inductive Turn (σ : Type) where
  | next (builder : Builder σ)
  | done (built : Built)
  | broken

/-- Makes a node, and moves to its first child if it has one. -/
def make (cursor : Cursor σ) (index : LineIndex) (builder : Builder σ) : Turn σ :=
  let number := builder.cells.length
  let parent := builder.stack.head?
  match Cell.attach? number parent builder.cells with
  | none => .broken
  | some cells =>
    let cells := cells ++ [Cell.ofLabel index (cursor.label builder.place) parent]
    let root := if parent.isNone then some number else builder.root
    match cursor.toFirstChild builder.place with
    | (true, place) => .next ⟨false, place, number :: builder.stack, cells, root⟩
    | (false, place) => .next ⟨true, place, builder.stack, Cell.close number cells, root⟩

/-- Moves to the next sibling or else to the parent, which is complete then. -/
def climb (cursor : Cursor σ) (builder : Builder σ) : Turn σ :=
  match cursor.toNextSibling builder.place with
  | (true, place) => .next { builder with complete := false, place }
  | (false, place) =>
    match cursor.toParent place with
    | (true, place) =>
      match builder.stack with
      | [] => .broken
      | number :: stack => .next ⟨true, place, stack, Cell.close number builder.cells, builder.root⟩
    | (false, _) =>
      match builder.root with
      | none => .broken
      | some root => .done ⟨builder.cells, root⟩

def turn (cursor : Cursor σ) (index : LineIndex) (builder : Builder σ) : Turn σ :=
  if builder.complete then builder.climb cursor else builder.make cursor index

end Builder

namespace Built

/-- The nodes that are met when those on a stack are taken from it one after another, and the children of each are
put in its place. -/
inductive Walks (built : Built) : List Nat → List Nat → Prop where
  | done : Walks built [] []
  | take {number : Nat} {stack rest : List Nat} {cell : Cell} (here : built.cells[number]? = some cell)
    (later : Walks built (cell.children ++ stack) rest) : Walks built (number :: stack) (number :: rest)

/-- The nodes that are met on the way up from parent to parent. -/
inductive Climbs (built : Built) : Option Nat → List Nat → Prop where
  | done : Climbs built none []
  | up {number : Nat} {rest : List Nat} {cell : Cell} (here : built.cells[number]? = some cell)
    (later : Climbs built cell.parent rest) : Climbs built (some number) (number :: rest)

def isLeaf (built : Built) (number : Nat) : Bool :=
  match built.cells[number]? with
  | some cell => cell.children.isEmpty
  | none => false

end Built

end ScriptLint
