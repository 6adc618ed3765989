/-
A run that fixes files reports on the disk that it leaves behind.

The findings of a fixed file are those of its output, and the output is what is
read when the file is linted again (`examine_again`). Files that were not
changed are not written, and a file with a fatal finding is never changed
(`unchanged_of_fatal`).
-/
import ScriptLint.Proofs.Fixing
import ScriptLint.Proofs.Run.Pool
import ScriptLint.Proofs.Run.Results

namespace ScriptLint

namespace Linter

variable {linter : Linter} {fixing : Bool} {disk after : Disk} {path : Path} {paths : List Path}
  {result : FileResult} {results : List FileResult} {report : Report}

/-! ## Runs of either kind -/

/-- A run that ends with a report, over one file after another or by tasks that take turns. -/
inductive Runs (linter : Linter) (fixing : Bool) (disk : Disk) (paths : List Path) (after : Disk)
    (report : Report) : Prop where
  | sequential (budget : Option Nat) (h : linter.run fixing budget disk paths = (after, .ok report)) :
      Runs linter fixing disk paths after report
  | parallel (moves : List Move) (h : linter.runPool fixing moves disk paths = (after, some report)) :
      Runs linter fixing disk paths after report

/-- A run that was not cancelled has gone through all its files. -/
theorem Runs.completes (apart : disk.Apart paths) (h : linter.Runs fixing disk paths after report)
    (uncancelled : report.cancelled = false) : linter.Completes fixing disk paths.eraseDups after report := by
  have hdone : ∃ done results, done.Sublist paths.eraseDups ∧ linter.Examines fixing disk done results ∧
      after = saveAll disk results ∧
      report = aggregate (harvest results (results.length < paths.eraseDups.length)) := by
    cases h with
    | sequential budget h =>
      obtain ⟨results, hexamines, hafter, hreport⟩ := (run_eq_ok_iff apart).1 h
      exact ⟨_, results, withinBudget_sublist budget _, hexamines, hafter, hreport⟩
    | parallel moves h => exact runPool_eq_some apart h
  obtain ⟨done, results, hdone, hexamines, rfl, rfl⟩ := hdone
  have hlength := length_of_uncancelled uncancelled
  have hall := hlength
  rw [← List.Forall₂.length_eq hexamines] at hall
  rw [hdone.eq_of_length_le hall] at hexamines
  exact ⟨results, hexamines, rfl, by rw [decide_eq_false (Nat.not_lt.2 hlength)]⟩

/-! ## One file -/

/-- A file with a fatal finding is not changed: an output with one would not have been accepted. -/
theorem unchanged_of_fatal (h : linter.examine fixing disk path = .ok result)
    (hfatal : ∃ finding ∈ result.findings, finding.fatal = true) : result.changed = false := by
  obtain ⟨error, -, rfl⟩ | ⟨text, -, ⟨-, state, hfix, rfl⟩ | ⟨-, findings, -, rfl⟩⟩ := examine_eq_ok h
  · rfl
  · obtain ⟨hlint, accepted, -, hchain, -⟩ := fix_eq_ok hfix
    cases accepted with
    | nil =>
      cases hchain with
      | done => simp [FileResult.changed]
    | cons fixed rest =>
      obtain ⟨findings, hfindings, hclean⟩ := hchain.clean
      obtain rfl := Except.ok.inj (hlint.symm.trans hfindings)
      obtain ⟨finding, hfinding, hfatal⟩ := hfatal
      rw [hclean finding hfinding] at hfatal
      cases hfatal
  · rfl

theorem textOf_congr {first second : Disk} (h : first.read path = second.read path) :
    textOf first path = textOf second path := by
  simp only [textOf, h]

theorem textOf_of_read {text : String} (h : disk.read path = .ok (Utf8.encode text)) :
    textOf disk path = .ok text := by
  simp only [textOf, h, Utf8.decode?_encode]

/-- A fixed file that is linted again, with what the fix left in it, has the findings that it had. -/
theorem examine_again (h : linter.examine true disk path = .ok result)
    (hkept : result.changed = false → after.read path = disk.read path)
    (hwritten : ∀ output, result.changed = true → result.output = some output →
      after.read path = .ok (Utf8.encode output)) :
    ∃ again, linter.examine false after path = .ok again ∧ again.findings = result.findings ∧
      again.changed = false := by
  obtain ⟨error, htext, rfl⟩ | ⟨text, htext, ⟨-, state, hfix, rfl⟩ | ⟨hfixing, -⟩⟩ := examine_eq_ok h
  · refine ⟨_, ?_, rfl, rfl⟩
    rw [← textOf_congr (hkept rfl)] at htext
    simp only [examine, htext]
  · obtain ⟨hlint, -⟩ := fix_eq_ok hfix
    have houtput : textOf after path = .ok state.output := by
      by_cases hsame : state.output = text
      · rw [textOf_congr (hkept (by simp [FileResult.changed, hsame])), htext, hsame]
      · exact textOf_of_read (hwritten state.output (by simp [FileResult.changed, hsame]) rfl)
    refine ⟨{ path, findings := state.findings, source := some state.output }, ?_, rfl, rfl⟩
    simp only [examine, houtput, hlint]
    rfl
  · cases hfixing

/-! ## All files -/

/-- Linting the files of a run again, with what the run left in them. -/
theorem exists_examines_again (h : linter.Examines true disk paths results)
    (hagain : ∀ result ∈ results, ∃ again, linter.examine false after result.path = .ok again ∧
      again.findings = result.findings ∧ again.changed = false) :
    ∃ again, linter.Examines false after paths again ∧
      again.map FileResult.findings = results.map FileResult.findings ∧
      ∀ result ∈ again, result.changed = false := by
  induction h with
  | nil => exact ⟨[], .nil, rfl, nofun⟩
  | cons hfirst _ ih =>
    obtain ⟨again, hexamines, hfindings, hunchanged⟩ := ih fun result hresult =>
      hagain result (List.mem_cons_of_mem _ hresult)
    obtain ⟨first, hexamine, hfirstFindings, hfirstUnchanged⟩ := hagain _ List.mem_cons_self
    rw [path_of_examine hfirst] at hexamine
    refine ⟨first :: again, .cons hexamine hexamines, ?_, List.forall_mem_cons.2 ⟨hfirstUnchanged, hunchanged⟩⟩
    rw [List.map_cons, List.map_cons, hfirstFindings, hfindings]

/-- What fixing files comes to, linting them again comes to as well, and then leaves the disk alone. -/
theorem Completes.again (apart : disk.Apart paths) (distinct : paths.Nodup)
    (h : linter.Completes true disk paths after report) :
    ∃ again, linter.Completes false after paths after again ∧ again.findings = report.findings ∧
      again.summary = report.summary ∧ again.files = report.files := by
  obtain ⟨results, hexamines, rfl, rfl⟩ := h
  have separate := hexamines.separate apart distinct
  obtain ⟨again, hagain, hfindings, hunchanged⟩ := exists_examines_again hexamines fun result hresult =>
    examine_again (hexamines.examine_of_mem hresult).2 (hexamines.read_saveAll apart distinct hresult)
      fun _ => read_saveAll_self separate hresult
  refine ⟨_, ⟨again, hagain, (saveAll_of_unchanged hunchanged).symm, rfl⟩, ?_⟩
  simp only [aggregate, harvest, hfindings, hagain.map_path, hexamines.map_path, and_self]

theorem Completes.unique {left : Disk} {other : Report} (h : linter.Completes fixing disk paths after report)
    (h' : linter.Completes fixing disk paths left other) : left = after ∧ other = report := by
  obtain ⟨results, hexamines, rfl, rfl⟩ := h
  obtain ⟨others, hothers, rfl, rfl⟩ := h'
  obtain rfl := hexamines.unique hothers
  exact ⟨rfl, rfl⟩

theorem Completes.uncancelled (h : linter.Completes fixing disk paths after report) : report.cancelled = false := by
  obtain ⟨results, -, -, rfl⟩ := h
  rfl

/-- **A run that fixes files reports on the disk that it leaves behind.** Linting the same files on
that disk again goes through all of them, and any run that does so without being cancelled leaves the
disk alone and has the findings, the summary, the files and the exit code of the first report. A file whose result
is not one of a change, such as any with a fatal finding, holds what it held before. -/
theorem run_again (linter : Linter) {disk after : Disk} {paths : List Path} {report : Report}
    (apart : disk.Apart paths) (h : linter.Runs true disk paths after report)
    (uncancelled : report.cancelled = false) :
    (∃ again, linter.run false none after paths = (after, .ok again) ∧ again.cancelled = false) ∧
    (∀ left again, linter.Runs false after paths left again → again.cancelled = false →
      left = after ∧ again.findings = report.findings ∧ again.summary = report.summary ∧
        again.files = report.files ∧ again.exitCode = report.exitCode) ∧
    ∃ results, linter.Examines true disk paths.eraseDups results ∧ report = aggregate (harvest results false) ∧
      ∀ result ∈ results, ((∃ finding ∈ result.findings, finding.fatal = true) → result.changed = false) ∧
        (result.changed = false → after.read result.path = disk.read result.path) := by
  have unique : ∀ path ∈ paths.eraseDups, path ∈ paths := fun _ => List.mem_eraseDups.1
  have uniqueApart := apart.of_subset unique
  have distinct := nodup_eraseDups paths
  have hcompletes := h.completes apart uncancelled
  obtain ⟨again, hagain, hfindings, hsummary, hfiles⟩ := hcompletes.again uniqueApart distinct
  obtain ⟨results, hexamines, hafter, hreport⟩ := hcompletes
  have afterApart : after.Apart paths := by
    rw [hafter]
    exact apart.of_sameLayout (sameLayout_saveAll (hexamines.separate uniqueApart distinct))
  have hrun := (run_eq_ok_iff_completes afterApart).2 hagain
  refine ⟨⟨again, hrun, hagain.uncancelled⟩, fun left other hother hfull => ?_, results, hexamines, hreport,
    fun result hresult => ⟨?_, fun hunchanged => ?_⟩⟩
  · obtain ⟨rfl, rfl⟩ := hagain.unique (hother.completes afterApart hfull)
    exact ⟨rfl, hfindings, hsummary, hfiles, by rw [Report.exitCode, Report.exitCode, hsummary]⟩
  · exact unchanged_of_fatal (hexamines.examine_of_mem hresult).2
  · rw [hafter]
    exact hexamines.read_saveAll uniqueApart distinct hresult hunchanged

theorem run_again_mixedDisk :
    ∃ after report again, shorteningLinter.run true none mixedDisk mixedPaths = (after, .ok report) ∧
      report.summary.errors = 2 ∧ after.read (.ofString "a.js") = .ok (Utf8.encode "a") ∧
      after.read (.ofString "b.js") = .ok (Utf8.encode "(") ∧
      shorteningLinter.run false none after mixedPaths = (after, .ok again) ∧ again.findings = report.findings ∧
      again.summary = report.summary ∧ again.files = report.files ∧ again.exitCode = report.exitCode := by
  obtain ⟨⟨again, hagain, hfull⟩, hsame, results, hexamines, -, hkept⟩ :=
    run_again shorteningLinter apart_mixedDisk (.sequential none run_mixedDisk) rfl
  have distinct : mixedPaths.eraseDups = mixedPaths := by decide +kernel
  rw [distinct] at hexamines
  obtain rfl := hexamines.unique examines_mixedDisk
  obtain ⟨-, hreport⟩ := hsame _ _ (.sequential none hagain) hfull
  have herrors : (aggregate (harvest mixedResults false)).summary.errors = 2 :=
    (findings_aggregate_perm (harvest mixedResults false)).countP_eq _
  refine ⟨_, _, again, run_mixedDisk, herrors, ?_, ?_, hagain, hreport⟩
  · have separate := examines_mixedDisk.separate apart_mixedDisk (by decide +kernel)
    have fixed : mixedResults[2] ∈ mixedResults := List.getElem_mem _
    exact read_saveAll_self separate fixed (by decide +kernel) rfl
  · have broken : mixedResults[1] ∈ mixedResults := List.getElem_mem _
    obtain ⟨hfatal, hunchanged⟩ := hkept _ broken
    rw [← read_mixedDisk.2.1]
    exact hunchanged (hfatal ⟨_, List.mem_singleton_self _, rfl⟩)

end Linter

end ScriptLint
