/-
The engine: one walk over a tree that gives each node, on the way in and on the
way out, to the handlers of every active rule.

Handlers are looked up by trigger in a table that is built once per file. At one
visit they run in the order in which the rules were registered, of one rule the
handler for the kind before the one for all kinds. A call that fails adds one
finding about the failure, nothing of what it had produced, and switches its
rule off for the rest of the file.
-/
import ScriptLint.Rule.Basic

namespace ScriptLint

structure Visit where
  node : Node
  phase : Phase

namespace Visit

/-- Twice the size of what is left to enter; one for a node that is left. -/
def weight (visit : Visit) : Nat :=
  match visit.phase with
  | .enter => 2 * visit.node.tree.size
  | .exit => 1

def weights (visits : List Visit) : Nat := visits.foldr (fun visit rest => visit.weight + rest) 0

theorem weights_cons (visit : Visit) (rest : List Visit) :
    weights (visit :: rest) = visit.weight + weights rest := rfl

theorem weights_append (first second : List Visit) :
    weights (first ++ second) = weights first + weights second := by
  induction first with
  | nil => simp [weights]
  | cons visit rest ih => rw [List.cons_append, weights_cons, weights_cons, ih, Nat.add_assoc]

def enter (node : Node) : Visit := ⟨node, .enter⟩

theorem weights_children (node : Node) :
    weights (node.children.map enter) = 2 * Tree.sizes node.tree.children := by
  simp only [Node.children]
  induction node.tree.children with
  | nil => rfl
  | cons child rest ih =>
    simp only [List.map_cons, weights_cons, Tree.sizes] at ih ⊢
    rw [ih]
    simp only [weight, enter]
    omega

theorem size_eq (tree : Tree) : tree.size = Tree.sizes tree.children + 1 := by
  cases tree; rfl

end Visit

/-- The visits that a stack of pending ones leads to: entering a node puts its children and then
its exit on the stack. -/
def visitsFrom : List Visit → List Visit
  | [] => []
  | visit :: stack =>
    match _entered : visit.phase with
    | .exit => visit :: visitsFrom stack
    | .enter =>
      visit :: visitsFrom (visit.node.children.map Visit.enter ++ ⟨visit.node, .exit⟩ :: stack)
termination_by stack => Visit.weights stack
decreasing_by
  · simp [Visit.weights_cons, Visit.weight, _entered]
  · have children := Visit.weights_children visit.node
    have whole := Visit.size_eq visit.node.tree
    simp only [Visit.weights_append, Visit.weights_cons, children]
    simp only [Visit.weight, _entered]
    omega

/-- All visits to a tree. -/
def visits (root : Node) : List Visit := visitsFrom [Visit.enter root]

/-- A handler in the table, with its context and the place of its rule. -/
structure Slot where
  order : Nat
  context : Context
  handler : Handler

/-- The handlers of all rules with their triggers, in rule order. -/
structure Dispatch where
  slots : List (Trigger × Slot)

namespace Dispatch

def contextFor (source : Source) (scopes : Except Failure Scope.Table) (active : ActiveRule) :
    Context :=
  ⟨source, scopes, active.id, active.severity, active.options⟩

def build (source : Source) (rules : List ActiveRule) : Dispatch :=
  let scopes := Scope.analyze source
  ⟨rules.zipIdx.flatMap fun (active, order) =>
    active.rule.visitors.map fun (trigger, handler) =>
      (trigger, ⟨order, contextFor source scopes active, handler⟩)⟩

def lookup (dispatch : Dispatch) (trigger : Trigger) : List Slot :=
  (dispatch.slots.filter (·.1 = trigger)).map Prod.snd

/-- The handlers for a visit: those for the kind, with those for all kinds merged in. -/
def handlersFor (dispatch : Dispatch) (visit : Visit) : List Slot :=
  let special := dispatch.lookup ⟨some visit.node.kind, visit.phase⟩
  let general := dispatch.lookup ⟨none, visit.phase⟩
  if general.isEmpty then special
  else (special ++ general).mergeSort fun a b => a.order ≤ b.order

end Dispatch

/-- The findings so far and the rules that have failed. -/
structure Progress where
  findings : List Finding
  failed : List Nat

/-- The findings of one call, all with the severity configured for the rule, or its first
failure. -/
def collect (severity : Severity) : List Emission → Except Failure (List Finding)
  | [] => .ok []
  | .failed failure :: _ => .error failure
  | .finding finding :: rest =>
    match collect severity rest with
    | .error failure => .error failure
    | .ok later => .ok ({ finding with severity } :: later)

/-- The finding that tells of a failed call. -/
def failureFinding (ctx : Context) (node : Node) (failure : Failure) : Finding :=
  { rule := ctx.rule
    severity := .error
    message := s!"Rule '{ctx.rule}' failed on {node.kind} node: {failure.text}"
    path := ctx.source.path
    span := ctx.source.spanOf node
    nodeKind := some node.kind }

def callSlot (node : Node) (progress : Progress) (slot : Slot) : Progress :=
  if progress.failed.contains slot.order then progress
  else
    match collect slot.context.severity (slot.handler node slot.context) with
    | .ok findings => { progress with findings := progress.findings ++ findings }
    | .error failure =>
      ⟨progress.findings ++ [failureFinding slot.context node failure],
       slot.order :: progress.failed⟩

def serve (dispatch : Dispatch) (progress : Progress) (visit : Visit) : Progress :=
  (dispatch.handlersFor visit).foldl (callSlot visit.node) progress

/-- Runs rules over a parsed file; findings come in the order of the visits. -/
def runRules (source : Source) (rules : List ActiveRule) : List Finding :=
  ((visits source.root).foldl (serve (Dispatch.build source rules)) ⟨[], []⟩).findings

end ScriptLint
