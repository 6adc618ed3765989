/-
The first problem of a tree.

The search for one goes only below nodes that are marked as holding an error, stops at
each problem it meets, and takes of these the one that starts first. Where the marks
are exact the first problem met is the first of all in pre-order (`head?_problems`),
and where starts do not decrease no later one is taken for it
(`firstSyntaxError?_eq_find?`). So a file opens just when its tree has no problem
anywhere.
-/
import ScriptLint.Proofs.Text.Utf8
import ScriptLint.Run

namespace ScriptLint

namespace ParseTree

mutual

/-- The nodes of a tree in pre-order, each with all that is below it. -/
def nodes : ParseTree → List ParseTree
  | .node label children => .node label children :: nodesOfAll children

def nodesOfAll : List ParseTree → List ParseTree
  | [] => []
  | child :: rest => nodes child ++ nodesOfAll rest

end

/-- An error node or a missing one. -/
def isProblem (tree : ParseTree) : Bool := tree.label.isError || tree.label.isMissing

/-- A node is marked as holding an error just when there is a problem among the nodes of its subtree. -/
def Exact (tree : ParseTree) : Prop := tree.label.hasError = tree.nodes.any isProblem

instance (tree : ParseTree) : Decidable tree.Exact :=
  inferInstanceAs (Decidable (tree.label.hasError = tree.nodes.any isProblem))

/-- A tree with exact marks throughout. -/
def MarksExact (tree : ParseTree) : Prop := ∀ node ∈ tree.nodes, node.Exact

instance (tree : ParseTree) : Decidable tree.MarksExact :=
  inferInstanceAs (Decidable (∀ node ∈ tree.nodes, node.Exact))

/-- A tree in which starts do not decrease in pre-order. -/
def Ascending (tree : ParseTree) : Prop :=
  tree.nodes.Pairwise fun earlier later => earlier.label.start ≤ later.label.start

instance (tree : ParseTree) : Decidable tree.Ascending :=
  inferInstanceAs (Decidable (tree.nodes.Pairwise _))

theorem self_mem_nodes (tree : ParseTree) : tree ∈ tree.nodes := by
  cases tree with
  | node label children => exact List.mem_cons_self

/-! ## The search -/

mutual

/-- Problems are found in pre-order. -/
theorem problems_sublist : ∀ tree : ParseTree, (problems tree).Sublist tree.nodes
  | .node label children => by
    rw [problems, nodes]
    split
    · exact List.nil_sublist _
    split
    · exact (List.nil_sublist _).cons_cons _
    · exact (problemsOfAll_sublist children).cons _

theorem problemsOfAll_sublist : ∀ trees : List ParseTree, (problemsOfAll trees).Sublist (nodesOfAll trees)
  | [] => List.Sublist.refl _
  | child :: rest => (problems_sublist child).append (problemsOfAll_sublist rest)

end

mutual

/-- With exact marks nothing is skipped before the first problem. -/
theorem head?_problems : ∀ tree : ParseTree, tree.MarksExact → (problems tree).head? = tree.nodes.find? isProblem
  | .node label children, exact => by
    have here : label.hasError = (nodes (.node label children)).any isProblem := exact _ (self_mem_nodes _)
    rw [problems]
    split
    · next unmarked =>
      -- nothing below an unmarked node is a problem
      rw [Bool.and_eq_true, Bool.not_eq_true', here] at unmarked
      rw [List.head?_nil, eq_comm, List.find?_eq_none]
      exact fun node hnode => Bool.not_eq_true _ ▸ List.any_eq_false.1 unmarked.1 node hnode
    split
    · next hproblem =>
      have hproblem : isProblem (.node label children) = true := hproblem
      rw [nodes, List.find?_cons_of_pos hproblem, List.head?_cons]
    · next hproblem =>
      have hproblem : ¬ isProblem (.node label children) = true := hproblem
      rw [nodes, List.find?_cons_of_neg hproblem]
      refine head?_problemsOfAll children fun node hnode => exact node ?_
      rw [nodes]
      exact List.mem_cons_of_mem _ hnode

theorem head?_problemsOfAll : ∀ trees : List ParseTree, (∀ node ∈ nodesOfAll trees, node.Exact) →
    (problemsOfAll trees).head? = (nodesOfAll trees).find? isProblem
  | [], _ => rfl
  | child :: rest, exact => by
    have first := head?_problems child fun node hnode => exact node (List.mem_append_left _ hnode)
    have later := head?_problemsOfAll rest fun node hnode => exact node (List.mem_append_right _ hnode)
    rw [problemsOfAll, nodesOfAll, List.head?_append, List.find?_append, first, later]

end

/-- A tree that starts no later than the others is the earliest. -/
theorem earliest_eq {first : ParseTree} {rest : List ParseTree}
    (h : ∀ tree ∈ rest, first.label.start ≤ tree.label.start) : earliest first rest = first := by
  induction rest with
  | nil => rfl
  | cons next rest ih =>
    have hnext : ¬ next.label.start < first.label.start := Nat.not_lt.2 (h next List.mem_cons_self)
    rw [earliest, List.foldl_cons, if_neg hnext]
    exact ih fun tree htree => h tree (List.mem_cons_of_mem _ htree)

/-! ## The first problem -/

variable {tree : ParseTree}

/-- With exact marks there is a syntax error just when there is a problem. -/
theorem firstSyntaxError?_eq_none_iff (exact : tree.MarksExact) :
    tree.firstSyntaxError? = none ↔ ∀ node ∈ tree.nodes, node.isProblem = false := by
  have here : tree.label.hasError = tree.nodes.any isProblem := exact tree (self_mem_nodes tree)
  have hnone : (∀ node ∈ tree.nodes, node.isProblem = false) ↔ tree.label.hasError = false := by
    rw [here, List.any_eq_false]
    simp only [Bool.not_eq_true]
  rw [hnone, firstSyntaxError?]
  split
  · next marked =>
    refine iff_of_false (fun h => ?_) (by rw [marked]; nofun)
    split at h <;> cases h
  · next unmarked => exact iff_of_true rfl (Bool.eq_false_iff.2 unmarked)

theorem firstSyntaxError?_eq_find? (exact : tree.MarksExact) (ascending : tree.Ascending) :
    tree.firstSyntaxError? = tree.nodes.find? isProblem := by
  have head := head?_problems tree exact
  cases hproblems : problems tree with
  | nil =>
    rw [hproblems, List.head?_nil] at head
    rw [← head, firstSyntaxError?_eq_none_iff exact]
    exact fun node hnode => Bool.eq_false_iff.2 (List.find?_eq_none.1 head.symm node hnode)
  | cons first rest =>
    have hmem : first ∈ tree.nodes := (problems_sublist tree).subset (hproblems ▸ List.mem_cons_self)
    rw [hproblems, List.head?_cons] at head
    have marked : tree.label.hasError = true := by
      rw [exact tree (self_mem_nodes tree)]
      exact List.any_eq_true.2 ⟨first, hmem, List.find?_some head.symm⟩
    have found : ((first :: rest).Pairwise fun earlier later => earlier.label.start ≤ later.label.start) :=
      hproblems ▸ ascending.sublist (problems_sublist tree)
    rw [firstSyntaxError?, if_pos marked, hproblems, ← head]
    exact congrArg some (earliest_eq (List.pairwise_cons.1 found).1)

/-! ## Opening a file -/

/-- **The syntax check is complete and finds the first problem.** In a tree with exact marks, whose nodes
start in pre-order, the syntax error is the first error node or missing node in pre-order, and there is none
just when the tree has no such node. So a file that can be read and decoded opens just when its
tree has no error node and no missing node anywhere. -/
theorem firstSyntaxError?_complete (exact : tree.MarksExact) (ascending : tree.Ascending) :
    tree.firstSyntaxError? = tree.nodes.find? isProblem ∧
    (tree.firstSyntaxError? = none ↔ ∀ node ∈ tree.nodes, node.isProblem = false) ∧
    ∀ (parser : Parser) (disk : Disk) (path : Path) (bytes : Bytes) (text : String),
      disk.read path = .ok bytes → Utf8.decode? bytes = some text → parser text = some tree →
      ((∃ source, Source.ofFile parser disk path = .ok source) ↔ ∀ node ∈ tree.nodes, node.isProblem = false) := by
  refine ⟨firstSyntaxError?_eq_find? exact ascending, firstSyntaxError?_eq_none_iff exact, ?_⟩
  intro parser disk path bytes text hread hdecode hparse
  rw [← firstSyntaxError?_eq_none_iff exact]
  simp only [Source.ofFile, hread, Source.ofBytes, hdecode, hparse, syntaxError?]
  cases tree.firstSyntaxError? with
  | none => exact iff_of_true ⟨_, rfl⟩ rfl
  | some problem => exact iff_of_false (fun ⟨source, h⟩ => nomatch h) nofun

/-- A call that breaks off: its bracket is missing, the file goes on with a word that fits nowhere, and
both problems start where the text of the call ends. -/
def brokenCall : ParseTree :=
  .node { kind := "program", start := 0, stop := 3, hasError := true }
    [.node { kind := "call_expression", start := 0, stop := 2, hasError := true }
      [.node { kind := "identifier", start := 0, stop := 1 } [],
       .node { kind := "arguments", start := 1, stop := 2, hasError := true }
        [.node { kind := "(", start := 1, stop := 2, named := false } [],
         .node { kind := ")", start := 2, stop := 2, named := false, isMissing := true, hasError := true } []]],
     .node { kind := "ERROR", start := 2, stop := 3, isError := true, hasError := true }
      [.node { kind := "identifier", start := 2, stop := 3 } []]]

/-- A disk with this call in a file. -/
def brokenDisk : Disk := ⟨[], [(["a.js"], .file (Utf8.encode "f(x"))]⟩

theorem firstSyntaxError?_brokenCall :
    brokenCall.MarksExact ∧ brokenCall.Ascending ∧
      brokenCall.firstSyntaxError?.map (fun problem => problem.label.kind) = some ")" ∧
      ¬ ∃ source, Source.ofFile (fun _ => some brokenCall) brokenDisk (.ofString "a.js") = .ok source := by
  have exact : brokenCall.MarksExact := by decide
  have ascending : brokenCall.Ascending := by decide
  have hread : brokenDisk.read (.ofString "a.js") = .ok (Utf8.encode "f(x") := by cbv
  obtain ⟨hfirst, -, hopens⟩ := firstSyntaxError?_complete exact ascending
  refine ⟨exact, ascending, by rw [hfirst]; rfl, ?_⟩
  rw [hopens _ brokenDisk (.ofString "a.js") _ "f(x" hread (Utf8.decode?_encode _) rfl]
  decide

end ParseTree

end ScriptLint
