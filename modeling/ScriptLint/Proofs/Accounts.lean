/-
What becomes of the candidates of each finding.

Findings are judged one after another, each against the choices made for those
before it. The selection can be read off these verdicts (`foldl_selectStep`): an
account says of a finding what was decided, and `Treated` what the decision
rests on. A finding with candidates is in the selection once, with its first
candidate that is free or with a conflict that names who holds the last one
(`selectFixes_accounts`).
-/
import Mathlib.Data.List.Basic
import ScriptLint.Proofs.Distinct
import ScriptLint.Proofs.Selection

namespace ScriptLint

/-- A finding with what became of its candidates. -/
structure Account where
  finding : Finding
  verdict : Verdict

namespace Account

def choice? (account : Account) : Option Choice :=
  match account.verdict with
  | .chosen fix => some ⟨fix, account.finding⟩
  | _ => none

def conflict? (account : Account) : Option Conflict :=
  match account.verdict with
  | .blocked owner => some (conflictOf account.finding owner)
  | _ => none

end Account

/-- The verdicts on findings in turn, each after the choices that were made before it. -/
def accountsFrom (choices : List Choice) : List Finding → List Account
  | [] => []
  | finding :: rest =>
    let account : Account := ⟨finding, judge choices finding.fixes⟩
    account :: accountsFrom (choices ++ account.choice?.toList) rest

theorem map_finding_accountsFrom : ∀ (choices : List Choice) (findings : List Finding),
    (accountsFrom choices findings).map Account.finding = findings
  | _, [] => rfl
  | _, finding :: rest => congrArg (finding :: ·) (map_finding_accountsFrom _ rest)

theorem selectStep_eq (selection : Selection) (finding : Finding) :
    let account : Account := ⟨finding, judge selection.choices finding.fixes⟩
    selectStep selection finding =
      ⟨selection.choices ++ account.choice?.toList, selection.conflicts ++ account.conflict?.toList⟩ := by
  unfold selectStep
  cases hjudge : judge selection.choices finding.fixes <;> simp [Account.choice?, Account.conflict?]

/-- A selection is what the accounts say. -/
theorem foldl_selectStep : ∀ (findings : List Finding) (selection : Selection),
    findings.foldl selectStep selection =
      ⟨selection.choices ++ (accountsFrom selection.choices findings).filterMap Account.choice?,
        selection.conflicts ++ (accountsFrom selection.choices findings).filterMap Account.conflict?⟩
  | [], _ => by simp [accountsFrom]
  | finding :: rest, selection => by
    rw [List.foldl_cons, foldl_selectStep rest, selectStep_eq, accountsFrom]
    simp only [List.filterMap_eq_flatMap_toList, List.flatMap_cons, List.append_assoc]

/-! ## Verdicts -/

/-- Some earlier choice overlaps the candidate. -/
def Fix.Taken (earlier : List Choice) (candidate : Fix) : Prop :=
  ∃ choice ∈ earlier, choice.fix.span.overlaps candidate.span = true

/-- What a verdict on a finding says of its candidates and the choices made before. -/
inductive Treated (earlier : List Choice) (finding : Finding) : Verdict → Prop
  /-- The first candidate that is not taken is chosen. -/
  | chosen (before after : List Fix) (fix : Fix) (candidates : finding.fixes = before ++ fix :: after)
      (taken : ∀ candidate ∈ before, candidate.Taken earlier) (free : ¬ fix.Taken earlier) :
      Treated earlier finding (.chosen fix)
  /-- All candidates are taken; who is blamed has a choice that overlaps the last one. -/
  | blocked (before : List Fix) (last : Fix) (candidates : finding.fixes = before ++ [last])
      (taken : ∀ candidate ∈ finding.fixes, candidate.Taken earlier) (choice : Choice) (mem : choice ∈ earlier)
      (overlaps : choice.fix.span.overlaps last.span = true) : Treated earlier finding (.blocked choice.owner)
  | unfixable (candidates : finding.fixes = []) : Treated earlier finding .unfixable

theorem not_taken_of_blocker?_eq_none {choices : List Choice} {candidate : Fix}
    (h : blocker? choices candidate = none) : ¬ candidate.Taken choices := by
  rintro ⟨choice, hchoice, hoverlaps⟩
  exact List.find?_eq_none.1 (Option.map_eq_none_iff.1 h) choice hchoice hoverlaps

theorem exists_of_blocker?_eq_some {choices : List Choice} {candidate : Fix} {owner : Finding}
    (h : blocker? choices candidate = some owner) :
    ∃ choice ∈ choices, choice.owner = owner ∧ choice.fix.span.overlaps candidate.span = true := by
  obtain ⟨choice, hfind, howner⟩ := Option.map_eq_some_iff.1 h
  exact ⟨choice, List.mem_of_find?_eq_some hfind, howner, List.find?_some (p := fun choice : Choice =>
    choice.fix.span.overlaps candidate.span) hfind⟩

/-- Where the candidates up to some point are taken, judging those that are left is judging all. -/
theorem treated_judge {earlier : List Choice} {finding : Finding} : ∀ {before candidates : List Fix},
    finding.fixes = before ++ candidates → (∀ candidate ∈ before, candidate.Taken earlier) →
      (candidates = [] → before = []) → Treated earlier finding (judge earlier candidates)
  | before, [], hfixes, _, hnone => by
    rw [judge]
    exact .unfixable (by rw [hfixes, hnone rfl, List.nil_append])
  | before, candidate :: rest, hfixes, taken, _ => by
    rw [judge]
    split
    · next hfree => exact .chosen before rest candidate hfixes taken (not_taken_of_blocker?_eq_none hfree)
    · next owner hblocker =>
      obtain ⟨choice, hchoice, rfl, hoverlaps⟩ := exists_of_blocker?_eq_some hblocker
      have taken : ∀ other ∈ before ++ [candidate], other.Taken earlier := by
        intro other hother
        rcases List.mem_append.1 hother with hother | hother
        · exact taken other hother
        · rw [List.mem_singleton.1 hother]
          exact ⟨choice, hchoice, hoverlaps⟩
      split
      · exact .blocked before candidate hfixes (hfixes ▸ taken) choice hchoice hoverlaps
      · next hmore =>
        have hfixes : finding.fixes = (before ++ [candidate]) ++ rest := by rw [hfixes, List.append_cons]
        exact treated_judge hfixes taken fun h => absurd h hmore

/-- A verdict rests on the choices of the accounts before it. -/
theorem treated_accountsFrom : ∀ {findings : List Finding} {choices : List Choice} {before after : List Account}
    {account : Account}, accountsFrom choices findings = before ++ account :: after →
      Treated (choices ++ before.filterMap Account.choice?) account.finding account.verdict := by
  intro findings
  induction findings with
  | nil =>
    intro choices before after account h
    exact absurd h.symm (List.append_ne_nil_of_right_ne_nil _ (List.cons_ne_nil _ _))
  | cons finding rest ih =>
    intro choices before after account h
    rw [accountsFrom] at h
    cases before with
    | nil =>
      obtain ⟨rfl, -⟩ := List.cons.inj h
      rw [List.filterMap_nil, List.append_nil]
      exact treated_judge rfl (fun _ hnone => absurd hnone List.not_mem_nil) fun _ => rfl
    | cons first before =>
      obtain ⟨rfl, hrest⟩ := List.cons.inj h
      rw [List.filterMap_eq_flatMap_toList, List.flatMap_cons, ← List.filterMap_eq_flatMap_toList,
        ← List.append_assoc]
      exact ih hrest

/-- What a selection holds of a finding: a choice or a conflict if it has candidates, else nothing. -/
theorem Treated.length_add_length {earlier : List Choice} {account : Account}
    (h : Treated earlier account.finding account.verdict) :
    account.choice?.toList.length + account.conflict?.toList.length = if account.finding.fixable then 1 else 0 := by
  obtain ⟨finding, verdict⟩ := account
  cases h with
  | chosen before after fix candidates =>
    have hsome : finding.fixes ≠ [] := candidates ▸ by simp
    simp [Account.choice?, Account.conflict?, Finding.fixable, hsome]
  | blocked before last candidates =>
    have hsome : finding.fixes ≠ [] := candidates ▸ by simp
    simp [Account.choice?, Account.conflict?, Finding.fixable, hsome]
  | unfixable candidates =>
    have hnone : finding.fixes = [] := candidates
    simp [Account.choice?, Account.conflict?, Finding.fixable, hnone]

/-! ## Selections -/

/-- Accounts of all findings in report order, from which a selection can be read off. -/
structure Selection.Accounted (findings : List Finding) (accounts : List Account) (selection : Selection) : Prop where
  findings : accounts.map Account.finding = canonicalOrder findings
  choices : selection.choices = accounts.filterMap Account.choice?
  conflicts : selection.conflicts = accounts.filterMap Account.conflict?
  treated : ∀ before account after, accounts = before ++ account :: after →
    Treated (before.filterMap Account.choice?) account.finding account.verdict

theorem accounted_selectFixes (findings : List Finding) :
    (selectFixes findings).Accounted findings (accountsFrom [] (canonicalOrder findings)) where
  findings := map_finding_accountsFrom _ _
  choices := by
    rw [selectFixes, foldl_selectStep]
    rfl
  conflicts := by
    rw [selectFixes, foldl_selectStep]
    rfl
  treated _ _ _ h := treated_accountsFrom h

/-- Choices and conflicts together are as many as the findings with candidates. -/
theorem Selection.Accounted.length_add_length {findings : List Finding} {accounts : List Account}
    {selection : Selection} (h : selection.Accounted findings accounts) :
    selection.choices.length + selection.conflicts.length = findings.countP (·.fixable) := by
  have hentries : ∀ account ∈ accounts, account.choice?.toList.length + account.conflict?.toList.length =
      if account.finding.fixable then 1 else 0 := by
    intro account haccount
    obtain ⟨before, after, hsplit⟩ := List.append_of_mem haccount
    exact (h.treated before account after hsplit).length_add_length
  have hsum : ∀ accounts : List Account, (∀ account ∈ accounts,
      account.choice?.toList.length + account.conflict?.toList.length = if account.finding.fixable then 1 else 0) →
      (accounts.filterMap Account.choice?).length + (accounts.filterMap Account.conflict?).length =
        (accounts.map Account.finding).countP (·.fixable) := by
    intro accounts hall
    induction accounts with
    | nil => rfl
    | cons account rest ih =>
      obtain ⟨hone, hrest⟩ := List.forall_mem_cons.1 hall
      have hrest := ih hrest
      rw [List.filterMap_eq_flatMap_toList, List.filterMap_eq_flatMap_toList] at hrest ⊢
      rw [List.flatMap_cons, List.flatMap_cons, List.length_append, List.length_append, List.map_cons,
        List.countP_cons]
      omega
  rw [h.choices, h.conflicts, hsum accounts hentries, h.findings]
  exact (canonicalOrder_perm findings).countP_eq _

/-- Findings of one key are judged in the order in which they come; how those of different keys are
mixed is of no account. -/
theorem selectFixes_congr {findings other : List Finding}
    (h : ∀ key, other.filter (fun finding => finding.key = key) = findings.filter (fun finding => finding.key = key)) :
    selectFixes other = selectFixes findings := by
  rw [selectFixes, selectFixes, canonicalOrder, canonicalOrder, sortByKey_congr h]

/-! ## Strictness -/

/-- Conflicts are no failure unless they are asked to be. -/
theorem applyFixes_ne_conflicts (text : String) (findings : List Finding) (skipped : List Conflict) :
    applyFixes text findings ≠ .error (.conflicts skipped) := by
  simp only [applyFixes, Bool.false_and, Bool.false_eq_true, if_false]
  split <;> simp

theorem applyFixes_strict (text : String) (findings : List Finding) : applyFixes text findings true =
    if (selectFixes findings).conflicts = [] then applyFixes text findings
    else .error (.conflicts (selectFixes findings).conflicts) := by
  by_cases hnone : (selectFixes findings).conflicts = []
  · simp [applyFixes, hnone]
  · simp [applyFixes, hnone]

theorem applyFixes_strict_eq_conflicts_iff {text : String} {findings : List Finding} {skipped : List Conflict} :
    applyFixes text findings true = .error (.conflicts skipped) ↔
      (selectFixes findings).conflicts = skipped ∧ skipped ≠ [] := by
  rw [applyFixes_strict]
  split
  · next hnone =>
    rw [hnone]
    exact ⟨fun h => absurd h (applyFixes_ne_conflicts text findings skipped), fun h => absurd h.1.symm h.2⟩
  · next hsome =>
    constructor
    · intro h
      obtain rfl := FixFailure.conflicts.inj (Except.error.inj h)
      exact ⟨rfl, hsome⟩
    · rintro ⟨rfl, -⟩
      rfl

/-- **Each finding is accounted for.** In report order every finding with candidates gets one choice or
one conflict: its first candidate that overlaps no choice made before or, where all of them do,
a conflict that names the owner of an earlier choice that overlaps the last one. So what is
applied and what is skipped are together the findings with candidates, and what is applied
does not overlap. Only the order among findings of one key matters. Applying strictly fails
just where there are conflicts, with these, and is applying otherwise. -/
theorem selectFixes_accounts (findings : List Finding) :
    (∃ accounts, (selectFixes findings).Accounted findings accounts) ∧
    (∀ text strict fixed, applyFixes text findings strict = .ok fixed →
      fixed.applied.length + fixed.skipped.length = findings.countP (·.fixable)) ∧
    (selectFixes findings).choices.length + (selectFixes findings).conflicts.length = findings.countP (·.fixable) ∧
    (selectFixes findings).fixes.Pairwise (fun first second => first.span.overlaps second.span = false) ∧
    (∀ other : List Finding, (∀ key, other.filter (fun finding => finding.key = key) =
        findings.filter (fun finding => finding.key = key)) → selectFixes other = selectFixes findings) ∧
    ∀ text, (∀ skipped, applyFixes text findings true = .error (.conflicts skipped) ↔
        (selectFixes findings).conflicts = skipped ∧ skipped ≠ []) ∧
      ((selectFixes findings).conflicts = [] → applyFixes text findings true = applyFixes text findings) := by
  have accounted := accounted_selectFixes findings
  have hlength := accounted.length_add_length
  have hcalm : ∀ text, (selectFixes findings).conflicts = [] →
      applyFixes text findings true = applyFixes text findings := by
    intro text hnone
    rw [applyFixes_strict, if_pos hnone]
  refine ⟨⟨_, accounted⟩, fun text strict fixed h => ?_, hlength, pairwise_fixes_selectFixes findings,
    fun other => selectFixes_congr, fun text => ⟨fun skipped => applyFixes_strict_eq_conflicts_iff, hcalm text⟩⟩
  obtain ⟨-, happlied, hskipped⟩ := applyFixes_eq_ok_iff.1 (applyFixes_of_strict h)
  rw [happlied, hskipped, Selection.fixes, List.length_map, hlength]

/-- A finding whose fix is chosen at once, one with a second candidate that is free, and one that is
in the way of both. -/
def crowdedFindings : List Finding :=
  [("outer", 0, [(0, 10)]), ("inner", 2, [(2, 4), (12, 14)]), ("late", 5, [(5, 6), (13, 15)]), ("plain", 6, [])].map
    fun (rule, start, ranges) =>
      { rule, severity := .warn, message := rule, path := .ofString "x.js"
        span := ⟨start, 20, 1, start + 1, none, none⟩
        fixes := ranges.map fun (first, last) => ⟨⟨first, last, 1, first + 1, none, none⟩, rule⟩ }

theorem selectFixes_accounts_crowded :
    let found := selectFixes crowdedFindings.reverse
    found.choices.map (fun choice => (choice.owner.rule, choice.fix.span.start)) = [("outer", 0), ("inner", 12)] ∧
    found.conflicts.map (fun conflict => (conflict.rule, conflict.blockedBy, conflict.blockedSpan.start)) =
      [("late", "inner", 2)] ∧
    applyFixes "var a = 1, b = 2;" crowdedFindings true = .error (.conflicts found.conflicts) := by
  have sorted : SortedBy Finding.key crowdedFindings := by
    rw [SortedBy]
    decide +kernel
  have hkeys : ∀ key, crowdedFindings.reverse.filter (fun finding => finding.key = key) =
      crowdedFindings.filter (fun finding => finding.key = key) := by
    intro key
    have distinct : (crowdedFindings.map Finding.key).Nodup := by decide +kernel
    exact (filter_key_perm distinct crowdedFindings.reverse_perm.symm key).symm
  obtain ⟨-, -, -, -, hsame, hstrict⟩ := selectFixes_accounts crowdedFindings
  intro found
  have hfound : found = crowdedFindings.foldl selectStep ⟨[], []⟩ := by
    rw [show found = selectFixes crowdedFindings from hsame _ hkeys, selectFixes, canonicalOrder,
      sortByKey_of_sortedBy sorted]
  refine ⟨?_, ?_, ((hstrict _).1 _).2 ⟨(congrArg Selection.conflicts (hsame _ hkeys)).symm, ?_⟩⟩
  · rw [hfound]
    decide +kernel
  · rw [hfound]
    decide +kernel
  · rw [hfound]
    decide +kernel

end ScriptLint
