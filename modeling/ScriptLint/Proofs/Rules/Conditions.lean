/-
Which assignments a test has.

Where every assignment in a test is refused, the search goes down the test and
stops at functions and classes inside it, but looks into the test itself whatever
its kind. So it finds, in document order, the assignments with no boundary on the
way up to the test (`assignmentsIn_eq`).
-/
import Mathlib.Data.List.Basic
import ScriptLint.Proofs.Tree.Tour
import ScriptLint.Rules.Conditions

namespace ScriptLint

namespace Node

/-! ## The way up -/

/-- The nodes from a node up that are deeper than another node: where that one is around it, the way up to it. -/
def wayUpTo (top node : Node) : List Node :=
  (node :: node.ancestors).takeWhile fun other => top.above.length < other.above.length

/-- Above a node of a walk comes the way up to the top of the walk, then the top. -/
theorem cons_ancestors_eq (top : Node) :
    ∀ node ∈ top.walk, node :: node.ancestors = wayUpTo top node ++ top :: top.ancestors := by
  have both : ∀ node ∈ top.walk, top.above.length ≤ node.above.length ∧
      node :: node.ancestors = wayUpTo top node ++ top :: top.ancestors := by
    refine forall_mem_walk ⟨Nat.le_refl _, ?_⟩ fun node ⟨hdeep, hway⟩ child hchild => ?_
    · rw [wayUpTo, List.takeWhile_cons_of_neg (by simp), List.nil_append]
    · have hdeeper : child.above.length = node.above.length + 1 := by
        obtain ⟨tree, -, rfl⟩ := List.mem_map.1 hchild
        rfl
      refine ⟨by omega, ?_⟩
      rw [wayUpTo, List.takeWhile_cons_of_pos (by simp; omega), ancestors_of_mem_children hchild, List.cons_append]
      exact congrArg (child :: ·) hway
  exact fun node h => (both node h).2

theorem wayUpTo_self (node : Node) : wayUpTo node node = [] :=
  List.takeWhile_cons_of_neg (by simp)

/-- The way up passes through the child that the node lies in. -/
theorem wayUpTo_of_mem_children {top child node : Node} (hchild : child ∈ top.children) (h : node ∈ child.walk) :
    wayUpTo top node = wayUpTo child node ++ [child] := by
  have htop := cons_ancestors_eq top node (mem_walk_of_mem_children hchild h)
  rw [cons_ancestors_eq child node h, ancestors_of_mem_children hchild, List.append_cons] at htop
  exact (List.append_cancel_right htop).symm

end Node

namespace Rules

/-! ## The search -/

/-- The assignments in a test with no node of some kinds on the way up to the test. -/
def assignmentsOutside (kinds : List String) (test : Node) : List Node :=
  test.walk.filter fun node => isAssignment node.kind &&
    (Node.wayUpTo test node).all fun inner => !kinds.contains inner.kind

theorem not_boundary_of_isAssignment {kind : String} (h : isAssignment kind = true) :
    testBoundaries.contains kind = false := by
  rw [isAssignment, Bool.or_eq_true, decide_eq_true_eq, decide_eq_true_eq] at h
  rcases h with rfl | rfl <;> decide

theorem assignmentsUnderAll_eq (above : List Tree) (trees : List Tree) :
    assignmentsUnderAll above trees = (trees.map fun tree => (⟨tree, above⟩ : Node)).flatMap fun child =>
      assignmentsUnder child.above child.tree := by
  induction trees with
  | nil => rfl
  | cons tree rest ih =>
    rw [assignmentsUnderAll, ih]
    rfl

theorem assignmentsUnder_eq (node : Node) :
    assignmentsUnder node.above node.tree = (if isAssignment node.kind then [node] else []) ++
      if testBoundaries.contains node.kind then []
      else node.children.flatMap fun child => assignmentsUnder child.above child.tree := by
  obtain ⟨⟨id, label, children⟩, above⟩ := node
  rw [assignmentsUnder, assignmentsUnderAll_eq]
  rfl

/-- Below a boundary nothing is found; elsewhere what is found are the assignments below no further boundary. -/
theorem assignmentsUnder_eq_filter (node : Node) :
    assignmentsUnder node.above node.tree = node.walk.filter fun inner => isAssignment inner.kind &&
      (Node.wayUpTo node inner ++ [node]).all fun outer => !testBoundaries.contains outer.kind := by
  induction node using Node.childInduction with
  | step node ih =>
    rw [assignmentsUnder_eq, Node.walk_eq]
    cases hboundary : testBoundaries.contains node.kind with
    | true =>
      have hplain : isAssignment node.kind = false := by
        by_contra hassignment
        rw [not_boundary_of_isAssignment (Bool.not_eq_false _ ▸ hassignment)] at hboundary
        cases hboundary
      have hnone : ∀ inner ∈ node :: node.children.flatMap Node.walk, ¬ (isAssignment inner.kind &&
          (Node.wayUpTo node inner ++ [node]).all fun outer => !testBoundaries.contains outer.kind) = true := by
        intro inner _
        simp only [List.all_append, List.all_cons, hboundary, Bool.not_true, Bool.false_and, Bool.and_false]
        exact Bool.false_ne_true
      rw [List.filter_eq_nil_iff.2 hnone, hplain]
      rfl
    | false =>
      have hchildren : ∀ child ∈ node.children, assignmentsUnder child.above child.tree =
          child.walk.filter fun inner => isAssignment inner.kind &&
            (Node.wayUpTo node inner ++ [node]).all fun outer => !testBoundaries.contains outer.kind := by
        intro child hchild
        rw [ih child hchild]
        refine List.filter_congr fun inner hinner => ?_
        rw [Node.wayUpTo_of_mem_children hchild hinner]
        simp only [List.all_append, List.all_cons, List.all_nil, hboundary, Bool.not_false, Bool.and_true]
      rw [List.filter_cons, List.filter_flatMap, ← List.flatMap_congr hchildren, Node.wayUpTo_self]
      simp only [List.nil_append, List.all_cons, List.all_nil, hboundary, Bool.not_false, Bool.and_true,
        Bool.false_eq_true, if_false]
      split <;> rfl

/-- The search finds the assignments with no boundary between them and the test. -/
theorem assignmentsIn_eq (test : Node) : assignmentsIn test = assignmentsOutside testBoundaries test := by
  have hchildren : ∀ child ∈ test.children, assignmentsUnder child.above child.tree =
      child.walk.filter fun inner => isAssignment inner.kind &&
        (Node.wayUpTo test inner).all fun outer => !testBoundaries.contains outer.kind := by
    intro child hchild
    rw [assignmentsUnder_eq_filter]
    exact List.filter_congr fun inner hinner => by rw [Node.wayUpTo_of_mem_children hchild hinner]
  rw [assignmentsIn, assignmentsUnderAll_eq, assignmentsOutside, Node.walk_eq, List.filter_cons, List.filter_flatMap,
    ← List.flatMap_congr hchildren, Node.wayUpTo_self]
  simp only [List.all_nil, Bool.and_true]
  split <;> rfl

theorem assignmentsOutside_sublist {fewer more : List String} (h : ∀ kind ∈ fewer, kind ∈ more) (test : Node) :
    (assignmentsOutside more test).Sublist (assignmentsOutside fewer test) := by
  refine List.monotone_filter_right _ fun node hnode => ?_
  rw [Bool.and_eq_true, List.all_eq_true] at hnode ⊢
  refine ⟨hnode.1, fun inner hinner => ?_⟩
  have hmore := hnode.2 inner hinner
  rw [Bool.not_eq_true', ← Bool.not_eq_true, List.contains_iff_mem] at hmore ⊢
  exact fun hfewer => hmore (h _ hfewer)

/-! ## Findings -/

/-- The kinds of functions, methods and generators among them, and of classes. -/
def codeKinds : List String := Scope.functionKinds ++ ["class", "class_declaration"]

/-- **Where all assignments in a test are refused, functions inside it are not entered.** The rule
reports assignments of the test in document order, each once: all those with no function and no class
between them and the test, and none with a function expression, an arrow function, a function
declaration or a class between. The test itself may be of any kind. -/
theorem checkCondition_always {node test : Node} {ctx : Context} {handler : Handler}
    (hvisitor : (Trigger.entering node.kind, handler) ∈ noCondAssign.visitors) (htest : testOf? node = some test)
    (hmode : assignmentMode ctx.options = .always) :
    ∃ place found, (node.kind, place) ∈ conditionals ∧
      handler node ctx = found.map (fun assignment =>
        ctx.report assignment s!"Unexpected assignment within {place}.") ∧
      (assignmentsOutside codeKinds test).Sublist found ∧ found.Sublist (assignmentsOutside testBoundaries test) := by
  obtain ⟨⟨kind, place⟩, hplace, heq⟩ := List.mem_map.1 hvisitor
  obtain ⟨htrigger, rfl⟩ := Prod.mk.inj heq
  have hkind : kind = node.kind := Option.some.inj (Trigger.mk.inj htrigger).1
  have hfound : checkCondition place node ctx = (assignmentsIn test).map fun assignment =>
      ctx.report assignment s!"Unexpected assignment within {place}." := by
    simp only [checkCondition, htest, hmode]
  refine ⟨place, assignmentsIn test, hkind ▸ hplace, hfound, ?_, ?_⟩
  · rw [assignmentsIn_eq]
    exact assignmentsOutside_sublist (by decide) test
  · rw [assignmentsIn_eq]

/-- A conditional expression whose test is a function, with an assignment in it and one in an arrow function. -/
def functionTestSource : Source :=
  .ofParsed (.ofString "x.js") (Utf8.encode "v=function()\x7ba=b;()=>c=d\x7d?1:2")
    (.node { kind := "program", start := 0, stop := 29 }
      [.node { kind := "expression_statement", start := 0, stop := 29 }
        [.node { kind := "assignment_expression", start := 0, stop := 29 }
          [.node { kind := "identifier", start := 0, stop := 1, field := some "left" } [],
           .node { kind := "ternary_expression", start := 2, stop := 29, field := some "right" }
            [.node { kind := "function_expression", start := 2, stop := 25, field := some "condition" }
              [.node { kind := "formal_parameters", start := 10, stop := 12, field := some "parameters" } [],
               .node { kind := "statement_block", start := 12, stop := 25, field := some "body" }
                [.node { kind := "expression_statement", start := 13, stop := 17 }
                  [.node { kind := "assignment_expression", start := 13, stop := 16 } []],
                 .node { kind := "expression_statement", start := 17, stop := 24 }
                  [.node { kind := "arrow_function", start := 17, stop := 24 }
                    [.node { kind := "assignment_expression", start := 21, stop := 24, field := some "body" } []]]]],
             .node { kind := "number", start := 26, stop := 27, field := some "consequence" } [],
             .node { kind := "number", start := 28, stop := 29, field := some "alternative" } []]]]])

def functionTestContext : Context :=
  ⟨functionTestSource, Scope.analyze functionTestSource, noCondAssign.id, .error, .assignment .always⟩

/-- The first conditional expression of a file, or its root. -/
def firstTernary (source : Source) : Node :=
  (source.root.walk.find? (·.kind = "ternary_expression")).getD source.root

theorem kind_functionTest : (firstTernary functionTestSource).kind = "ternary_expression" := by decide +kernel

theorem visitor_functionTest : (Trigger.entering (firstTernary functionTestSource).kind,
    checkCondition "a conditional expression") ∈ noCondAssign.visitors := by
  rw [kind_functionTest]
  exact List.mem_map.2 ⟨("ternary_expression", "a conditional expression"), by decide, rfl⟩

theorem checkCondition_always_functionTest : ∃ found : List Node, found.map Node.start = [13] ∧
    checkCondition "a conditional expression" (firstTernary functionTestSource) functionTestContext =
      found.map fun assignment =>
        functionTestContext.report assignment "Unexpected assignment within a conditional expression." := by
  obtain ⟨test, htest, hfacts⟩ := (Option.any_eq_true (fun test =>
    (assignmentsOutside codeKinds test).map Node.start = [13] ∧
      (assignmentsOutside testBoundaries test).map Node.start = [13]) (testOf? (firstTernary functionTestSource))).1
    (by decide +kernel)
  obtain ⟨hfewest, hmost⟩ := of_decide_eq_true hfacts
  have hmode : assignmentMode functionTestContext.options = .always := rfl
  obtain ⟨place, found, hplace, hfound, hin, hout⟩ := checkCondition_always visitor_functionTest htest hmode
  obtain rfl : place = "a conditional expression" := by
    rw [kind_functionTest] at hplace
    simpa [conditionals] using hplace
  refine ⟨found, List.Sublist.antisymm ?_ ?_, hfound⟩
  · exact hmost ▸ hout.map Node.start
  · exact hfewest ▸ hin.map Node.start

/-- A test that is a function itself is looked into: the assignments found are not just those with no function
and no class on the way up to the test, the test included. -/
theorem not_outside_test : ¬ ∀ (node test : Node) (ctx : Context) (handler : Handler),
    (Trigger.entering node.kind, handler) ∈ noCondAssign.visitors → testOf? node = some test →
    assignmentMode ctx.options = .always →
    ∃ place : String, handler node ctx = (test.walk.filter fun inner => isAssignment inner.kind &&
      (Node.wayUpTo test inner ++ [test]).all fun outer => !codeKinds.contains outer.kind).map fun assignment =>
        ctx.report assignment s!"Unexpected assignment within {place}." := by
  intro hclaim
  obtain ⟨test, htest, hnone⟩ := (Option.any_eq_true (fun test : Node =>
    (test.walk.filter fun inner => isAssignment inner.kind &&
      (Node.wayUpTo test inner ++ [test]).all fun outer => !codeKinds.contains outer.kind).length = 0)
    (testOf? (firstTernary functionTestSource))).1 (by decide +kernel)
  obtain ⟨place, hreported⟩ := hclaim _ test functionTestContext _ visitor_functionTest htest rfl
  have hone : (checkCondition "a conditional expression" (firstTernary functionTestSource)
      functionTestContext).length = 1 := by decide +kernel
  rw [hreported, List.length_map, of_decide_eq_true hnone] at hone
  cases hone

end Rules

end ScriptLint
