/-
Choosing fixes goes from the first finding on, and what is chosen stays chosen.
So a selection is empty only where there was nothing to choose from, and then
nothing was blocked either (`selectFixes_choices_eq_nil_iff`,
`conflicts_eq_nil_of_choices_eq_nil`). Each choice keeps clear of those before it,
so no two selected fixes overlap (`pairwise_fixes_selectFixes`).
-/
import ScriptLint.Fixing.Apply
import ScriptLint.Proofs.Sorting
import ScriptLint.Proofs.Text.Utf8

namespace ScriptLint

/-- Without an earlier choice the first candidate is taken. -/
theorem judge_nil (candidate : Fix) (rest : List Fix) : judge [] (candidate :: rest) = .chosen candidate := by
  unfold judge
  rfl

/-- A finding never takes a choice back. -/
theorem length_choices_le_selectStep (selection : Selection) (finding : Finding) :
    selection.choices.length ≤ (selectStep selection finding).choices.length := by
  unfold selectStep
  split
  · simp
  · exact Nat.le_refl _
  · exact Nat.le_refl _

theorem length_choices_le_foldl : ∀ (findings : List Finding) (selection : Selection),
    selection.choices.length ≤ (findings.foldl selectStep selection).choices.length
  | [], _ => Nat.le_refl _
  | finding :: rest, selection =>
    Nat.le_trans (length_choices_le_selectStep selection finding)
      (length_choices_le_foldl rest (selectStep selection finding))

/-- While nothing is chosen a finding without candidates is passed over, any other one is chosen. -/
theorem selectStep_empty (finding : Finding) :
    (finding.fixes = [] ∧ selectStep ⟨[], []⟩ finding = ⟨[], []⟩) ∨
      (finding.fixes ≠ [] ∧ (selectStep ⟨[], []⟩ finding).choices.length = 1) := by
  unfold selectStep
  cases hfixes : finding.fixes with
  | nil => exact .inl ⟨rfl, rfl⟩
  | cons candidate rest =>
    right
    refine ⟨by simp, ?_⟩
    rw [judge_nil]
    rfl

theorem foldl_selectStep_empty : ∀ findings : List Finding,
    (∀ finding ∈ findings, finding.fixes = []) ∧ findings.foldl selectStep ⟨[], []⟩ = ⟨[], []⟩ ∨
      (∃ finding ∈ findings, finding.fixes ≠ []) ∧
        0 < (findings.foldl selectStep ⟨[], []⟩).choices.length
  | [] => .inl ⟨by simp, rfl⟩
  | finding :: rest => by
    rw [List.foldl_cons]
    rcases selectStep_empty finding with ⟨hnone, hstep⟩ | ⟨hsome, hlength⟩
    · rw [hstep]
      rcases foldl_selectStep_empty rest with ⟨hall, hfold⟩ | ⟨⟨other, hother, hfixes⟩, hpos⟩
      · exact .inl ⟨List.forall_mem_cons.2 ⟨hnone, hall⟩, hfold⟩
      · exact .inr ⟨⟨other, List.mem_cons_of_mem _ hother, hfixes⟩, hpos⟩
    · have hle := length_choices_le_foldl rest (selectStep ⟨[], []⟩ finding)
      exact .inr ⟨⟨finding, by simp, hsome⟩, by omega⟩

/-- Something is chosen as soon as one finding has a fix. -/
theorem selectFixes_choices_eq_nil_iff {findings : List Finding} :
    (selectFixes findings).choices = [] ↔ ∀ finding ∈ findings, finding.fixes = [] := by
  have hmem : ∀ finding, finding ∈ canonicalOrder findings ↔ finding ∈ findings := fun _ => List.mem_mergeSort
  unfold selectFixes
  rcases foldl_selectStep_empty (canonicalOrder findings) with ⟨hall, hfold⟩ | ⟨⟨finding, hfinding, hsome⟩, hpos⟩
  · rw [hfold]
    exact ⟨fun _ finding h => hall finding ((hmem finding).2 h), fun _ => rfl⟩
  · constructor
    · intro hnil
      rw [hnil] at hpos
      exact absurd hpos (Nat.lt_irrefl 0)
    · intro hnone
      exact absurd (hnone finding ((hmem finding).1 hfinding)) hsome

/-- Where nothing is chosen nothing is in the way. -/
theorem conflicts_eq_nil_of_choices_eq_nil {findings : List Finding}
    (h : (selectFixes findings).choices = []) : (selectFixes findings).conflicts = [] := by
  unfold selectFixes at h ⊢
  rcases foldl_selectStep_empty (canonicalOrder findings) with ⟨-, hfold⟩ | ⟨-, hpos⟩
  · rw [hfold]
  · rw [h] at hpos
    exact absurd hpos (Nat.lt_irrefl 0)

/-- What applying fixes returns: the choices, the conflicts and the decoded text. -/
theorem applyFixes_eq_ok_iff {text : String} {findings : List Finding} {fixed : FixOutcome} :
    applyFixes text findings = .ok fixed ↔
      Utf8.decode? (editedBytes text (selectFixes findings).fixes) = some fixed.output ∧
      fixed.applied = (selectFixes findings).fixes ∧ fixed.skipped = (selectFixes findings).conflicts := by
  obtain ⟨output, applied, skipped⟩ := fixed
  simp only [applyFixes, Bool.false_and, Bool.false_eq_true, if_false]
  split
  · next decoded hdecoded =>
    rw [hdecoded]
    simp only [Except.ok.injEq, FixOutcome.mk.injEq, Option.some.injEq, eq_comm]
  · next hnone => simp [hnone]

/-- Strictness may refuse fixes, but does not change what is applied. -/
theorem applyFixes_of_strict {text : String} {findings : List Finding} {strict : Bool} {fixed : FixOutcome}
    (h : applyFixes text findings strict = .ok fixed) : applyFixes text findings = .ok fixed := by
  simp only [applyFixes, Bool.false_and, Bool.false_eq_true, if_false] at h ⊢
  split at h
  · cases h
  · exact h

/-- Applying fixes applies nothing only where no finding has a fix, and then skips nothing. -/
theorem applied_eq_nil_iff {text : String} {findings : List Finding} {fixed : FixOutcome}
    (h : applyFixes text findings = .ok fixed) :
    fixed.applied = [] ↔ ∀ finding ∈ findings, finding.fixes = [] := by
  rw [(applyFixes_eq_ok_iff.1 h).2.1, ← selectFixes_choices_eq_nil_iff]
  simp [Selection.fixes]

theorem skipped_eq_nil_of_applied_eq_nil {text : String} {findings : List Finding} {fixed : FixOutcome}
    (h : applyFixes text findings = .ok fixed) (hnone : fixed.applied = []) : fixed.skipped = [] := by
  rw [(applyFixes_eq_ok_iff.1 h).2.2]
  refine conflicts_eq_nil_of_choices_eq_nil (selectFixes_choices_eq_nil_iff.2 ?_)
  exact (applied_eq_nil_iff h).1 hnone

/-- Where no finding has a fix, applying fixes leaves the text as it is. -/
theorem applyFixes_of_unfixable {text : String} {findings : List Finding}
    (h : ∀ finding ∈ findings, finding.fixes = []) : applyFixes text findings = .ok ⟨text, [], []⟩ := by
  have hchoices := selectFixes_choices_eq_nil_iff.2 h
  have hfixes : (selectFixes findings).fixes = [] := by rw [Selection.fixes, hchoices, List.map_nil]
  refine applyFixes_eq_ok_iff.2 ⟨?_, hfixes.symm, (conflicts_eq_nil_of_choices_eq_nil hchoices).symm⟩
  rw [hfixes, editedBytes, lastFirst, List.mergeSort_nil, List.foldl_nil, Utf8.decode?_encode]

/-- Fixes can be applied, and nothing is, just where no finding has one. -/
theorem exists_applyFixes_eq_nil_iff {text : String} {findings : List Finding} :
    (∃ fixed, applyFixes text findings = .ok fixed ∧ fixed.applied = []) ↔
      ∀ finding ∈ findings, finding.fixes = [] := by
  constructor
  · rintro ⟨fixed, happly, hnone⟩
    exact (applied_eq_nil_iff happly).1 hnone
  · intro h
    exact ⟨_, applyFixes_of_unfixable h, rfl⟩

/-! ## Choices -/

/-- What is chosen is one of the candidates, and overlaps nothing that was chosen before. -/
theorem judge_eq_chosen {choices : List Choice} {fix : Fix} : ∀ {candidates : List Fix},
    judge choices candidates = .chosen fix →
      fix ∈ candidates ∧ ∀ choice ∈ choices, choice.fix.span.overlaps fix.span = false
  | [], h => by cases h
  | candidate :: rest, h => by
    unfold judge at h
    split at h
    · next hfree =>
      obtain rfl := Verdict.chosen.inj h
      refine ⟨List.mem_cons_self, fun choice hchoice => ?_⟩
      have hnone := List.find?_eq_none.1 (Option.map_eq_none_iff.1 hfree) choice hchoice
      exact Bool.eq_false_iff.2 hnone
    · split at h
      · cases h
      · obtain ⟨hmem, hapart⟩ := judge_eq_chosen h
        exact ⟨List.mem_cons_of_mem _ hmem, hapart⟩

/-- Choices from candidates of some findings, no two of which overlap. -/
structure Selection.Sound (findings : List Finding) (selection : Selection) : Prop where
  offered : ∀ choice ∈ selection.choices, choice.owner ∈ findings ∧ choice.fix ∈ choice.owner.fixes
  apart : selection.choices.Pairwise fun first second => first.fix.span.overlaps second.fix.span = false

theorem Selection.Sound.selectStep {findings : List Finding} {selection : Selection} (h : selection.Sound findings)
    {finding : Finding} (hfinding : finding ∈ findings) : (selectStep selection finding).Sound findings := by
  unfold ScriptLint.selectStep
  split
  · next fix hjudge =>
    obtain ⟨hfix, hapart⟩ := judge_eq_chosen hjudge
    constructor
    · intro choice hchoice
      rcases List.mem_append.1 hchoice with hchoice | hchoice
      · exact h.offered choice hchoice
      · obtain rfl := List.mem_singleton.1 hchoice
        exact ⟨hfinding, hfix⟩
    · refine List.pairwise_append.2 ⟨h.apart, List.pairwise_singleton _ _, fun choice hchoice other hother => ?_⟩
      obtain rfl := List.mem_singleton.1 hother
      exact hapart choice hchoice
  · exact ⟨h.offered, h.apart⟩
  · exact h

theorem Selection.Sound.foldl {findings : List Finding} : ∀ (rest : List Finding) {selection : Selection},
    (∀ finding ∈ rest, finding ∈ findings) → selection.Sound findings →
      (rest.foldl ScriptLint.selectStep selection).Sound findings
  | [], _, _, h => h
  | finding :: rest, _, hrest, h =>
    foldl rest (fun other hother => hrest other (List.mem_cons_of_mem _ hother))
      (h.selectStep (hrest finding List.mem_cons_self))

theorem sound_selectFixes (findings : List Finding) : (selectFixes findings).Sound findings :=
  Selection.Sound.foldl (canonicalOrder findings) (fun _ hfinding => List.mem_mergeSort.1 hfinding)
    ⟨fun _ hchoice => absurd hchoice List.not_mem_nil, .nil⟩

/-- A selected fix is a candidate of one of the findings. -/
theorem exists_of_mem_fixes_selectFixes {findings : List Finding} {fix : Fix} (h : fix ∈ (selectFixes findings).fixes) :
    ∃ finding ∈ findings, fix ∈ finding.fixes := by
  obtain ⟨choice, hchoice, rfl⟩ := List.mem_map.1 h
  obtain ⟨howner, hfix⟩ := (sound_selectFixes findings).offered choice hchoice
  exact ⟨choice.owner, howner, hfix⟩

/-- No two selected fixes overlap. -/
theorem pairwise_fixes_selectFixes (findings : List Finding) :
    (selectFixes findings).fixes.Pairwise fun first second => first.span.overlaps second.span = false :=
  List.pairwise_map.2 (sound_selectFixes findings).apart

/-! ## Conflicts -/

/-- A finding adds one conflict about itself, or none. -/
theorem conflicts_selectStep (selection : Selection) (finding : Finding) :
    (selectStep selection finding).conflicts = selection.conflicts ∨
      ∃ owner, (selectStep selection finding).conflicts = selection.conflicts ++ [conflictOf finding owner] := by
  unfold selectStep
  split
  · exact .inl rfl
  · next owner _ => exact .inr ⟨owner, rfl⟩
  · exact .inl rfl

/-- The conflicts that are added stand in the order of the findings that they are about. -/
theorem conflicts_foldl_selectStep : ∀ (findings : List Finding) (selection : Selection),
    ∃ added, (findings.foldl selectStep selection).conflicts = selection.conflicts ++ added ∧
      (added.map fun conflict => (conflict.key, conflict.path)).Sublist
        (findings.map fun finding => (finding.key, finding.path))
  | [], selection => ⟨[], (List.append_nil _).symm, .slnil⟩
  | finding :: rest, selection => by
    obtain ⟨added, hadded, hsublist⟩ := conflicts_foldl_selectStep rest (selectStep selection finding)
    rw [List.foldl_cons, hadded]
    obtain hsame | ⟨owner, hblocked⟩ := conflicts_selectStep selection finding
    · rw [hsame]
      exact ⟨added, rfl, hsublist.cons _⟩
    · rw [hblocked, List.append_assoc]
      exact ⟨conflictOf finding owner :: added, rfl, hsublist.cons_cons _⟩

theorem conflicts_selectFixes (findings : List Finding) :
    ((selectFixes findings).conflicts.map fun conflict => (conflict.key, conflict.path)).Sublist
      ((canonicalOrder findings).map fun finding => (finding.key, finding.path)) := by
  obtain ⟨added, hadded, hsublist⟩ := conflicts_foldl_selectStep (canonicalOrder findings) ⟨[], []⟩
  rw [selectFixes, hadded, List.nil_append]
  exact hsublist

/-- Conflicts are in report order. -/
theorem sortedBy_conflicts (findings : List Finding) : SortedBy Conflict.key (selectFixes findings).conflicts := by
  have sorted : ((canonicalOrder findings).map Finding.key).Pairwise fun a b => a.le b = true :=
    List.pairwise_map.2 (sortedBy_sortByKey findings)
  have hsublist := (conflicts_selectFixes findings).map Prod.fst
  rw [List.map_map, List.map_map] at hsublist
  exact List.pairwise_map.1 (sorted.sublist hsublist)

/-- A conflict is about the file of some finding. -/
theorem path_of_mem_conflicts {findings : List Finding} {conflict : Conflict}
    (h : conflict ∈ (selectFixes findings).conflicts) : ∃ finding ∈ findings, finding.path = conflict.path := by
  have hpair := (conflicts_selectFixes findings).subset (List.mem_map_of_mem h)
  obtain ⟨finding, hfinding, hsame⟩ := List.mem_map.1 hpair
  exact ⟨finding, List.mem_mergeSort.1 hfinding, (Prod.mk.inj hsame).2⟩

end ScriptLint
