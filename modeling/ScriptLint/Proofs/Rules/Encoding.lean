/-
Built-in fixes keep a text a text.

The trees of a parser fit a text when their nodes are nested, start and stop
between its characters, and have object, dot and property of a member expression
in this order. Then every edit that a built-in rule offers cuts the text between
characters (`Edit.cuts`), every pass can be applied, and fixing returns, however
many passes there are (`fix_builtin`).
-/
import ScriptLint.Proofs.Fixing
import ScriptLint.Proofs.Rules.Reports
import ScriptLint.Proofs.Splicing
import ScriptLint.Proofs.Tree.Nesting

namespace ScriptLint

/-- A tree whose nodes are nested and take in whole characters of a text, with object, dot and
property of member expressions one after another. -/
structure Node.Fits (root : Node) (text : String) : Prop where
  nested : ∀ node ∈ root.walk, node.Nested
  boundaries : ∀ node ∈ root.walk, Utf8.Boundary text node.start ∧ Utf8.Boundary text node.stop
  members : ∀ node ∈ root.walk, node.kind = "member_expression" → ∀ object dot property,
    node.childByField? "object" = some object → node.childByField? "property" = some property →
    node.children.find? (fun child => Rules.dotKinds.contains child.kind) = some dot →
    object.stop ≤ dot.start ∧ dot.stop ≤ property.start

/-- A parser with a tree for every text, which fits it. -/
def Parser.Fits (parser : Parser) : Prop :=
  ∀ text, ∃ tree, parser text = some tree ∧ (Node.root (Tree.number 0 tree)).Fits text

/-- A text is opened with its own bytes, and with a tree that fits it. -/
theorem Parser.Fits.of_ofBytes {parser : Parser} (fits : parser.Fits) {path : Path} {text : String} {source : Source}
    (h : Source.ofBytes parser path (Utf8.encode text) = .ok source) :
    source.bytes = Utf8.encode text ∧ source.root.Fits text := by
  obtain ⟨tree, htree, hfits⟩ := fits text
  simp only [Source.ofBytes, Utf8.decode?_encode, htree] at h
  split at h
  · cases h
  · cases h
    exact ⟨rfl, hfits⟩

/-- A node cuts a text where it starts and where it stops. -/
theorem Node.Fits.cuts {root node : Node} {text : String} (fits : root.Fits text) (hnode : node ∈ root.walk)
    (source : Source) (replacement : String) : Fix.Cuts text ⟨source.spanOf node, replacement⟩ :=
  ⟨(fits.nested node hnode).ordered, (fits.boundaries node hnode).1, (fits.boundaries node hnode).2⟩

/-- Object, dot and property of a member expression are nodes of the tree that stand one after another. -/
theorem Node.Fits.member {root node object dot property : Node} {text : String} (fits : root.Fits text)
    (hnode : node ∈ root.walk) (hkind : node.kind = "member_expression")
    (hobject : node.childByField? "object" = some object) (hproperty : node.childByField? "property" = some property)
    (hdot : node.children.find? (fun child => Rules.dotKinds.contains child.kind) = some dot) :
    (object ∈ root.walk ∧ dot ∈ root.walk ∧ property ∈ root.walk) ∧
      object.stop ≤ dot.start ∧ dot.start ≤ dot.stop ∧ dot.stop ≤ property.start := by
  have inside : ∀ {child}, child ∈ node.children → child ∈ root.walk := fun hchild =>
    Node.children_subset_walk hnode _ hchild
  have hdot' := inside (List.mem_of_find?_eq_some hdot)
  obtain ⟨hbefore, hafter⟩ := fits.members node hnode hkind object dot property hobject hproperty hdot
  exact ⟨⟨inside (Node.mem_children_of_childByField? hobject), hdot',
    inside (Node.mem_children_of_childByField? hproperty)⟩, hbefore, (fits.nested dot hdot').ordered, hafter⟩

namespace Rules

variable {ctx : Context} {trigger : Trigger} {node target : Node} {fix : Fix} {text : String}

theorem Edit.cuts (h : Edit ctx trigger node target fix) (fits : ctx.source.root.Fits text)
    (hkind : ∀ kind, trigger.kind = some kind → node.kind = kind) (htarget : target ∈ ctx.source.root.walk) :
    fix.Cuts text := by
  cases h with
  | whole replacement => exact fits.cuts htarget ctx.source replacement
  | child hchild replacement =>
    exact fits.cuts (Node.children_subset_walk htarget _ hchild) ctx.source replacement
  | behind =>
    have hstop := (fits.boundaries target htarget).2
    exact ⟨Nat.le_refl _, hstop, hstop⟩
  | @between object property dot kind hobject hproperty hdot =>
    obtain ⟨⟨hobject', -, hproperty'⟩, hbefore, hordered, hafter⟩ :=
      fits.member htarget (hkind _ kind) hobject hproperty hdot
    exact ⟨Nat.le_trans hbefore (Nat.le_trans hordered hafter), (fits.boundaries object hobject').2,
      (fits.boundaries property hproperty').1⟩

end Rules

namespace Linter

variable {linter : Linter} {path : Path}

theorem exists_lint (fits : linter.parser.Fits) (text : String) (path : Path) :
    ∃ findings, linter.lint text path = .ok findings := by
  obtain ⟨tree, htree, -⟩ := fits text
  cases herror : tree.syntaxError? (Utf8.encode text) with
  | some error => exact ⟨_, lint_of_syntaxError htree herror⟩
  | none =>
    simp only [lint, Source.ofBytes, Utf8.decode?_encode, htree, herror]
    exact ⟨_, rfl⟩

/-- Fixes of built-in rules cut between the characters of the text that is linted. -/
theorem cuts_of_lint (builtin : ∀ active ∈ linter.rules, active.rule ∈ Rules.builtin) (fits : linter.parser.Fits)
    {text : String} {findings : List Finding} (h : linter.lint text path = .ok findings) :
    ∀ finding ∈ findings, ∀ fix ∈ finding.fixes, fix.Cuts text := by
  intro finding hfinding fix hfix
  rcases lint_eq_ok h with ⟨source, hsource, rfl⟩ | ⟨error, -, rfl⟩
  · obtain ⟨ctx, trigger, node, target, rfl, hkind, -, htarget, -, hedit⟩ :=
      Rules.exists_edit_of_mem_runRules builtin (List.mem_mergeSort.1 hfinding) hfix
    exact hedit.cuts (fits.of_ofBytes hsource).2 hkind htarget
  · obtain rfl := List.mem_singleton.1 hfinding
    cases hfix

/-- A pass that starts from the findings of its text returns. -/
theorem exists_pass (builtin : ∀ active ∈ linter.rules, active.rule ∈ Rules.builtin) (fits : linter.parser.Fits)
    {state : FixState} (h : linter.lint state.output path = .ok state.findings) :
    ∃ outcome, linter.pass path state = .ok outcome := by
  obtain ⟨fixed, happly⟩ := applyFixes_of_cuts (cuts_of_lint builtin fits h)
  obtain ⟨refreshed, hlint⟩ := exists_lint fits fixed.output path
  unfold pass
  rw [happly]
  dsimp only
  split
  · exact ⟨_, rfl⟩
  · rw [hlint]
    dsimp only
    split <;> exact ⟨_, rfl⟩

/-- An accepted pass leads to findings of its text again, so that passes return however many there are. -/
theorem exists_passes (builtin : ∀ active ∈ linter.rules, active.rule ∈ Rules.builtin) (fits : linter.parser.Fits) :
    ∀ (limit : Nat) (state : FixState), linter.lint state.output path = .ok state.findings →
      ∃ result, linter.passes path limit state = .ok result
  | 0, state, _ => ⟨state, rfl⟩
  | limit + 1, state, h => by
    obtain ⟨outcome, hpass⟩ := exists_pass builtin fits h
    unfold passes
    rw [hpass]
    cases outcome with
    | stable conflicts => exact ⟨_, rfl⟩
    | discarded => exact ⟨_, rfl⟩
    | accepted next =>
      refine exists_passes builtin fits limit next ?_
      obtain ⟨fixed, -, ⟨-, hstable⟩ | ⟨-, refreshed, hlint, ⟨-, hdiscarded⟩ | ⟨-, haccepted⟩⟩⟩ := pass_eq_ok hpass
      · cases hstable
      · cases hdiscarded
      · obtain rfl := Pass.accepted.inj haccepted
        exact hlint

/-- What a pass makes of a text and its findings is the bytes of a text. -/
theorem exists_decode?_of_lint (builtin : ∀ active ∈ linter.rules, active.rule ∈ Rules.builtin)
    (fits : linter.parser.Fits) (text : String) :
    ∃ findings, linter.lint text path = .ok findings ∧
      ∃ output, Utf8.decode? (editedBytes text (selectFixes findings).fixes) = some output := by
  obtain ⟨findings, hlint⟩ := exists_lint fits text path
  obtain ⟨fixed, happly⟩ := applyFixes_of_cuts (cuts_of_lint builtin fits hlint)
  exact ⟨findings, hlint, fixed.output, (applyFixes_eq_ok_iff.1 happly).1⟩

/-- **Built-in fixes keep a text a text.** With a parser whose trees fit their texts, fixing with
built-in rules returns, and after any accepted passes the next one makes the bytes of a text. -/
theorem fix_builtin (linter : Linter) (path : Path)
    (builtin : ∀ active ∈ linter.rules, active.rule ∈ Rules.builtin) (fits : linter.parser.Fits) (text : String) :
    (∃ result, linter.fix text path = .ok result) ∧
    ∀ accepted last, Accepts linter path text accepted last → ∃ findings, linter.lint last path = .ok findings ∧
      ∃ output, Utf8.decode? (editedBytes last (selectFixes findings).fixes) = some output := by
  refine ⟨?_, fun accepted last _ => exists_decode?_of_lint builtin fits last⟩
  obtain ⟨findings, hlint⟩ := exists_lint fits text path
  obtain ⟨result, hresult⟩ := exists_passes builtin fits linter.fixPasses ⟨text, findings, [], 0⟩ hlint
  refine ⟨result, ?_⟩
  unfold fix
  rw [hlint]
  exact hresult

/-- A parser that sees one constructor call in every text, with arguments if the text ends in a
parenthesis. -/
def constructorParser : Parser := fun text =>
  let size := (Utf8.encode text).length
  let arguments : ParseTree := .node { kind := "arguments", start := size, stop := size, field := some "arguments" } []
  some (.node { kind := "program", start := 0, stop := size }
    [.node { kind := "new_expression", start := 0, stop := size }
      (if text.toList.getLast? = some ')' then [arguments] else [])])

def constructorLinter : Linter := ⟨constructorParser, [⟨Rules.newParens, .warn, .none⟩], 2⟩

theorem constructorParser_fits : constructorParser.Fits := by
  intro text
  refine ⟨_, rfl, ?_⟩
  have hstart := Utf8.boundary_zero text
  have hstop := Utf8.boundary_length text
  split <;>
  · constructor <;>
      simp [Node.root, Tree.number, Tree.numberAll, Node.walk, Node.walkTree, Node.walkTrees, Node.nested_iff,
        Node.children, Tree.children, Node.start, Node.stop, Node.label, Tree.label, Node.covers, Node.kind,
        hstart, hstop]

theorem fix_builtin_constructor :
    (∀ text, ∃ result, constructorLinter.fix text (.ofString "x.js") = .ok result) ∧
      constructorLinter.fix "new Café" (.ofString "x.js") = .ok ⟨"new Café()", [], [], 1⟩ := by
  have builtin : ∀ active ∈ constructorLinter.rules, active.rule ∈ Rules.builtin := by
    simp [constructorLinter, Rules.builtin]
  refine ⟨fun text => (fix_builtin constructorLinter _ builtin constructorParser_fits text).1, ?_⟩
  decide +kernel

end Linter

end ScriptLint
