/-
What the result of one file holds.

A rule that builds its findings with `Context.report` reports about the file it
is given (`Rule.EmitsInPlace`). With such rules the findings of a result and its
conflicts are all about its file, and both are in report order
(`inOrder_examine`).
-/
import ScriptLint.Proofs.Fixing
import ScriptLint.Proofs.Run.Saving

namespace ScriptLint

/-- A rule whose handlers emit findings about the file that they look at. -/
def Rule.EmitsInPlace (rule : Rule) : Prop :=
  ∀ visitor ∈ rule.visitors, ∀ (node : Node) (ctx : Context) (finding : Finding),
    Emission.finding finding ∈ visitor.2 node ctx → finding.path = ctx.source.path

theorem path_of_mem_runRules {source : Source} {rules : List ActiveRule}
    (h : ∀ active ∈ rules, active.rule.EmitsInPlace) :
    ∀ finding ∈ runRules source rules, finding.path = source.path := by
  intro finding hfinding
  obtain ⟨active, hactive, visitor, hvisitor, node, ⟨emitted, hemitted, rfl⟩ | ⟨failure, rfl⟩⟩ :=
    mem_runRules hfinding
  · exact h active hactive visitor hvisitor node _ emitted hemitted
  · rfl

theorem Source.path_of_ofBytes {parser : Parser} {path : Path} {bytes : Bytes} {source : Source}
    (h : Source.ofBytes parser path bytes = .ok source) : source.path = path := by
  unfold Source.ofBytes at h
  split at h
  · cases h
  split at h
  · cases h
  split at h
  · cases h
  · cases h
    rfl

namespace Linter

variable {linter : Linter} {path : Path}

/-! ## One text -/

/-- Items about one file, in report order. -/
structure InOrder {α : Type} (key : α → SortKey) (place : α → Path) (path : Path) (items : List α) : Prop where
  sorted : SortedBy key items
  inPlace : ∀ item ∈ items, place item = path

theorem inOrder_nil {α : Type} (key : α → SortKey) (place : α → Path) (path : Path) :
    InOrder key place path [] := ⟨.nil, nofun⟩

theorem inOrder_parseError (path : Path) (error : ParseError) :
    InOrder Finding.key Finding.path path [parseErrorFinding path error] where
  sorted := List.pairwise_singleton _ _
  inPlace finding hfinding := by
    obtain rfl := List.mem_singleton.1 hfinding
    rfl

section InPlace

variable (inPlace : ∀ active ∈ linter.rules, active.rule.EmitsInPlace)

include inPlace

theorem inOrder_lint {text : String} {findings : List Finding} (h : linter.lint text path = .ok findings) :
    InOrder Finding.key Finding.path path findings := by
  rcases lint_eq_ok h with ⟨source, hsource, rfl⟩ | ⟨error, -, rfl⟩
  · refine ⟨sortedBy_sortByKey _, fun finding hfinding => ?_⟩
    rw [path_of_mem_runRules inPlace finding (List.mem_mergeSort.1 hfinding), Source.path_of_ofBytes hsource]
  · exact inOrder_parseError path error

/-- What a pass skips is about the file that its findings are about. -/
theorem inOrder_skipped {text : String} {fixed : FixOutcome} (h : Accepted linter path text fixed) :
    InOrder Conflict.key Conflict.path path fixed.skipped := by
  obtain ⟨findings, hlint, happly⟩ := h.applies
  rw [(applyFixes_eq_ok_iff.1 happly).2.2]
  refine ⟨sortedBy_conflicts findings, fun conflict hconflict => ?_⟩
  obtain ⟨finding, hfinding, hpath⟩ := path_of_mem_conflicts hconflict
  rw [← hpath]
  exact (inOrder_lint inPlace hlint).inPlace finding hfinding

theorem inOrder_lastSkipped {text last : String} {accepted : List FixOutcome} {before : List Conflict}
    (h : Accepts linter path text accepted last) (hbefore : InOrder Conflict.key Conflict.path path before) :
    InOrder Conflict.key Conflict.path path (lastSkipped before accepted) := by
  induction h generalizing before with
  | done text => exact hbefore
  | pass first _ ih => exact ih (inOrder_skipped inPlace first)

theorem inOrder_fix {text : String} {state : FixState} (h : linter.fix text path = .ok state) :
    InOrder Finding.key Finding.path path state.findings ∧
      InOrder Conflict.key Conflict.path path state.conflicts := by
  have hnil := inOrder_nil Conflict.key Conflict.path path
  obtain ⟨hresult, accepted, -, hchain, -, hending⟩ := fix_eq_ok h
  refine ⟨inOrder_lint inPlace hresult, ?_⟩
  cases hending with
  | stable _ _ _ conflicts =>
    rw [conflicts]
    exact hnil
  | discarded _ _ _ _ _ conflicts =>
    rw [conflicts]
    exact inOrder_lastSkipped inPlace hchain hnil
  | spent _ conflicts =>
    rw [conflicts]
    exact inOrder_lastSkipped inPlace hchain hnil

/-! ## One file -/

/-- The findings and the conflicts of a result are about its file, and in report order. -/
theorem inOrder_examine {fixing : Bool} {disk : Disk} {result : FileResult}
    (h : linter.examine fixing disk path = .ok result) :
    InOrder Finding.key Finding.path path result.findings ∧
      InOrder Conflict.key Conflict.path path result.conflicts := by
  obtain ⟨error, -, rfl⟩ | ⟨text, -, ⟨-, state, hfix, rfl⟩ | ⟨-, findings, hlint, rfl⟩⟩ := examine_eq_ok h
  · exact ⟨inOrder_parseError path error, inOrder_nil _ _ _⟩
  · exact inOrder_fix inPlace hfix
  · exact ⟨inOrder_lint inPlace hlint, inOrder_nil _ _ _⟩

end InPlace

/-! ## Three files -/

/-- A disk with a file that the shortening rule shortens and one that does not parse. -/
def mixedDisk : Disk := ⟨[], [(["a.js"], .file (Utf8.encode "ab")), (["b.js"], .file (Utf8.encode "("))]⟩

/-- Both files, after one that is missing. -/
def mixedPaths : List Path := ["c.js", "b.js", "a.js"].map .ofString

/-- What fixing them comes to. -/
def mixedResults : List FileResult :=
  [{ path := .ofString "c.js"
     findings := [parseErrorFinding (.ofString "c.js") { cause := .unreadable .noSuchFile }] },
   { path := .ofString "b.js"
     findings := [parseErrorFinding (.ofString "b.js") { cause := .unexpectedToken "(" }]
     source := some "(", output := some "(" },
   { path := .ofString "a.js", findings := [], source := some "ab", output := some "a", applied := 1 }]

theorem read_mixedDisk :
    mixedDisk.read (.ofString "a.js") = .ok (Utf8.encode "ab") ∧
    mixedDisk.read (.ofString "b.js") = .ok (Utf8.encode "(") ∧
    mixedDisk.read (.ofString "c.js") = .error .noSuchFile := by
  refine ⟨?_, ?_, ?_⟩ <;> cbv

theorem examines_mixedDisk : shorteningLinter.Examines true mixedDisk mixedPaths mixedResults := by
  obtain ⟨ha, hb, hc⟩ := read_mixedDisk
  have hfixA : shorteningLinter.fix "ab" (.ofString "a.js") = .ok ⟨"a", [], [], 1⟩ := by decide +kernel
  have hfixB : shorteningLinter.fix "(" (.ofString "b.js") =
      .ok ⟨"(", [parseErrorFinding (.ofString "b.js") { cause := .unexpectedToken "(" }], [], 0⟩ := by decide +kernel
  refine .cons ?_ (.cons ?_ (.cons ?_ .nil))
  · simp only [examine, textOf, hc]
  · simp only [examine, textOf, hb, Utf8.decode?_encode, hfixB, if_true, Except.map]
  · simp only [examine, textOf, ha, Utf8.decode?_encode, hfixA, if_true, Except.map]

/-- They are different files. -/
theorem apart_mixedDisk : mixedDisk.Apart mixedPaths := by
  have places : mixedDisk.locate (.ofString "a.js") = .ok ["a.js"] ∧ mixedDisk.locate (.ofString "b.js") = .ok ["b.js"] ∧
      mixedDisk.locate (.ofString "c.js") = .error .noSuchFile := by
    refine ⟨?_, ?_, ?_⟩ <;> cbv
  obtain ⟨ha, hb, hc⟩ := places
  intro first hfirst second hsecond _ hsame
  simp only [mixedPaths, List.map_cons, List.map_nil, List.mem_cons, List.not_mem_nil, or_false] at hfirst hsecond
  rcases hfirst with rfl | rfl | rfl <;> rcases hsecond with rfl | rfl | rfl <;>
    first
    | rfl
    | simp [ha, hb, hc] at hsame

/-- The run over them, with a report on all three. -/
theorem run_mixedDisk : shorteningLinter.run true none mixedDisk mixedPaths =
    (saveAll mixedDisk mixedResults, .ok (aggregate (harvest mixedResults false))) := by
  have distinct : mixedPaths.eraseDups = mixedPaths := by decide +kernel
  rw [run_eq_ok_iff_completes apart_mixedDisk, distinct]
  exact ⟨mixedResults, examines_mixedDisk, rfl, rfl⟩

theorem shortening_emitsInPlace : shortening.EmitsInPlace := by
  intro visitor hvisitor node ctx finding hfinding
  obtain rfl := List.mem_singleton.1 hvisitor
  simp only [] at hfinding
  split at hfinding
  · exact (Context.labels_of_report (List.mem_singleton.1 hfinding).symm).path
  · cases hfinding

end Linter

end ScriptLint
