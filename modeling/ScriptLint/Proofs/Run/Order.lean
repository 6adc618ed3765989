/-
The order in which files are worked on does not show.

All that a report holds is sorted by the texts of paths first, and the items
with one such text come from one file (`sortByKey_flatMap_perm`). So a report
keeps apart what its files came to (`filter_sortByKey_flatMap`), and it does
not tell in which order they were given. Nor does the disk, since no file is
written by the task of another. For reports this takes rules that report about
the file they are given; `not_run_alone` has one that does not.
-/
import Mathlib.Data.List.Perm.Basic
import ScriptLint.Proofs.Report
import ScriptLint.Proofs.Run.Pool
import ScriptLint.Proofs.Run.Results

namespace ScriptLint

namespace Linter

variable {linter : Linter} {fixing : Bool} {disk after : Disk} {paths shuffled : List Path}
  {results others : List FileResult} {report : Report}

/-! ## Items of several files -/

/-- What a result holds about its file, when it is sorted in among those of other files. -/
structure Holds {α : Type} (key : α → SortKey) (place : α → Path) (items : FileResult → List α)
    (results : List FileResult) : Prop where
  keyed : ∀ item, (key item).path = (place item).toString
  inOrder : ∀ result ∈ results, InOrder key place result.path (items result)

section Holds

variable {α : Type} {key : α → SortKey} {place : α → Path} {items : FileResult → List α}

/-- Results in another order sort to the same list. -/
theorem sortByKey_flatMap_perm (h : Holds key place items results)
    (distinct : (results.map fun result => result.path.toString).Nodup) (perm : results.Perm others) :
    sortByKey key (results.flatMap items) = sortByKey key (others.flatMap items) := by
  refine sortByKey_congr fun k => ?_
  have elsewhere : ∀ result ∈ results, result.path.toString ≠ k.path →
      (items result).filter (fun item => key item = k) = [] := by
    intro result hresult hne
    refine List.filter_eq_nil_iff.2 fun item hitem hkey => hne ?_
    rw [← (h.inOrder result hresult).inPlace item hitem, ← h.keyed, of_decide_eq_true hkey]
  have elsewhere' : ∀ result ∈ others, result.path.toString ≠ k.path →
      (items result).filter (fun item => key item = k) = [] :=
    fun result hresult => elsewhere result (perm.mem_iff.2 hresult)
  rw [List.filter_flatMap, List.filter_flatMap, flatMap_eq_flatMap_filter k.path elsewhere,
    flatMap_eq_flatMap_filter k.path elsewhere', filter_key_perm distinct perm]

/-- The sorted list holds for each file what its result holds. -/
theorem filter_sortByKey_flatMap (h : Holds key place items results)
    (distinct : (results.map FileResult.path).Nodup) {result : FileResult} (hresult : result ∈ results) :
    (sortByKey key (results.flatMap items)).filter (fun item => place item = result.path) = items result := by
  have own : (items result).filter (fun item => place item = result.path) = items result :=
    List.filter_eq_self.2 fun item hitem => decide_eq_true ((h.inOrder result hresult).inPlace item hitem)
  have elsewhere : ∀ other ∈ results, other.path ≠ result.path →
      (items other).filter (fun item => place item = result.path) = [] := by
    intro other hother hne
    refine List.filter_eq_nil_iff.2 fun item hitem hplace => hne ?_
    rw [← (h.inOrder other hother).inPlace item hitem, of_decide_eq_true hplace]
  rw [filter_sortByKey_comm, List.filter_flatMap, flatMap_key_eq distinct hresult elsewhere, own,
    sortByKey_of_sortedBy (h.inOrder result hresult).sorted]

end Holds

/-! ## Reports -/

section Examined

variable (inPlace : ∀ active ∈ linter.rules, active.rule.EmitsInPlace)
  (h : linter.Examines fixing disk paths results)

include inPlace h

theorem holds_findings : Holds Finding.key Finding.path FileResult.findings results where
  keyed _ := rfl
  inOrder _ hresult := (inOrder_examine inPlace (h.examine_of_mem hresult).2).1

theorem holds_conflicts : Holds Conflict.key Conflict.path FileResult.conflicts results where
  keyed _ := rfl
  inOrder _ hresult := (inOrder_examine inPlace (h.examine_of_mem hresult).2).2

/-- A report shows the findings and the conflicts of each file as its result has them. -/
theorem filter_aggregate (distinct : paths.Nodup) {result : FileResult} (hresult : result ∈ results) :
    (aggregate (harvest results false)).findings.filter (·.path = result.path) = result.findings ∧
      (aggregate (harvest results false)).conflicts.filter (·.path = result.path) = result.conflicts := by
  rw [← h.map_path] at distinct
  exact ⟨filter_sortByKey_flatMap (holds_findings inPlace h) distinct hresult,
    filter_sortByKey_flatMap (holds_conflicts inPlace h) distinct hresult⟩

end Examined

/-- Texts of distinct paths in normal form are distinct. -/
theorem nodup_texts (distinct : paths.Nodup) (normal : ∀ path ∈ paths, path.Normal) :
    (paths.map Path.toString).Nodup := by
  rw [List.Nodup, List.pairwise_map]
  exact distinct.imp_of_mem fun hfirst hsecond hne hsame =>
    hne ((Path.toString_inj (normal _ hfirst) (normal _ hsecond)).1 hsame)

/-- Paths in another order sort to the same list. -/
theorem mergeSort_text_perm (normal : ∀ path ∈ paths, path.Normal) (perm : paths.Perm shuffled) :
    paths.mergeSort (fun a b => a.toString ≤ b.toString) = shuffled.mergeSort fun a b => a.toString ≤ b.toString := by
  have permuted : (paths.mergeSort fun a b => a.toString ≤ b.toString).Perm
      (shuffled.mergeSort fun a b => a.toString ≤ b.toString) :=
    (List.mergeSort_perm paths _).trans (perm.trans (List.mergeSort_perm shuffled _).symm)
  refine permuted.eq_of_pairwise (fun first second hfirst hsecond hle hge => ?_) (arrangedBy_text paths).ordered
    (arrangedBy_text shuffled).ordered
  have htexts := String.le_antisymm (of_decide_eq_true hle) (of_decide_eq_true hge)
  have hnormal := normal _ (perm.mem_iff.2 (List.mem_mergeSort.1 hsecond))
  exact (Path.toString_inj (normal _ (List.mem_mergeSort.1 hfirst)) hnormal).1 htexts

/-- Results in another order make the same report. -/
theorem aggregate_perm (inPlace : ∀ active ∈ linter.rules, active.rule.EmitsInPlace)
    (h : linter.Examines fixing disk paths results) (distinct : paths.Nodup)
    (normal : ∀ path ∈ paths, path.Normal) (perm : results.Perm others) :
    aggregate (harvest results false) = aggregate (harvest others false) := by
  have htexts : (results.map fun result => result.path.toString).Nodup := by
    have hnodup := nodup_texts distinct normal
    rwa [← h.map_path, List.map_map] at hnodup
  have hfindings := sortByKey_flatMap_perm (holds_findings inPlace h) htexts perm
  have hconflicts := sortByKey_flatMap_perm (holds_conflicts inPlace h) htexts perm
  have hfiles := mergeSort_text_perm (by rwa [h.map_path]) (perm.map FileResult.path)
  have hfixed : results.foldr (fun result rest => result.applied + rest) 0 =
      others.foldr (fun result rest => result.applied + rest) 0 :=
    perm.foldr_eq' (fun first _ second _ rest => Nat.add_left_comm second.applied first.applied rest) 0
  simp only [aggregate, harvest, canonicalOrder, ← List.flatMap_def, hfindings, hconflicts, hfiles, hfixed]

/-! ## Runs -/

/-- Files come to the same in any order. -/
theorem Completes.perm (inPlace : ∀ active ∈ linter.rules, active.rule.EmitsInPlace) (apart : disk.Apart paths)
    (distinct : paths.Nodup) (normal : ∀ path ∈ paths, path.Normal) (perm : paths.Perm shuffled)
    (h : linter.Completes fixing disk paths after report) : linter.Completes fixing disk shuffled after report := by
  obtain ⟨results, hexamines, rfl, rfl⟩ := h
  obtain ⟨others, hothers, hperm⟩ := List.perm_comp_forall₂ perm.symm hexamines
  have separate := hexamines.separate apart distinct
  exact ⟨others, hothers, saveAll_perm hperm.symm separate,
    aggregate_perm inPlace hexamines distinct normal hperm.symm⟩

/-- Runs over the same files in two orders come to the same. -/
theorem run_perm (inPlace : ∀ active ∈ linter.rules, active.rule.EmitsInPlace) (apart : disk.Apart paths)
    (normal : ∀ path ∈ paths, path.Normal) (perm : paths.Perm shuffled) :
    linter.run fixing none disk shuffled = (after, .ok report) ↔
      linter.run fixing none disk paths = (after, .ok report) := by
  have forth : ∀ {paths shuffled : List Path}, disk.Apart paths → (∀ path ∈ paths, path.Normal) →
      paths.Perm shuffled → linter.Completes fixing disk paths.eraseDups after report →
        linter.Completes fixing disk shuffled.eraseDups after report := by
    intro paths shuffled apart normal perm
    have unique : ∀ path ∈ paths.eraseDups, path ∈ paths := fun _ => List.mem_eraseDups.1
    exact Completes.perm inPlace (apart.of_subset unique) (nodup_eraseDups paths)
      (fun path hpath => normal path (unique path hpath)) (eraseDups_perm perm)
  have apart' : disk.Apart shuffled := apart.of_subset fun path => perm.mem_iff.2
  rw [run_eq_ok_iff_completes apart, run_eq_ok_iff_completes apart']
  exact ⟨forth apart' (fun path hpath => normal path (perm.mem_iff.2 hpath)) perm.symm, forth apart normal perm⟩

/-- **Runs in parallel come to what the run over one file after another comes to.** The paths lead to
different files and the tasks take their steps in any order, as long as each gets its turns: the disk
and the report are those of the sequential run, and there is no report only where that run fails too.
If rules report about the file that they are given, as those of a configuration do, then neither shows
the order of the paths, and what is reported about a path is what examining its file by itself comes
to. -/
theorem runPool_eq_run (linter : Linter) (fixing : Bool) (disk : Disk) {paths shuffled : List Path}
    (normal : ∀ path ∈ paths, path.Normal) (apart : disk.Apart paths) (perm : paths.Perm shuffled)
    {moves : List Move} (uncancelled : Move.cancel ∉ moves)
    (fair : ∀ place < shuffled.eraseDups.length, 3 ≤ moves.count (.turn place)) (after : Disk) (report : Report) :
    (linter.runPool fixing moves disk shuffled = (after, some report) ↔
      linter.run fixing none disk shuffled = (after, .ok report)) ∧
    ((∀ active ∈ linter.rules, active.rule.EmitsInPlace) →
      (linter.run fixing none disk shuffled = (after, .ok report) ↔
        linter.run fixing none disk paths = (after, .ok report)) ∧
      (linter.run fixing none disk paths = (after, .ok report) → ∀ path ∈ paths,
        ∃ result, linter.examine fixing disk path = .ok result ∧
          report.findings.filter (·.path = path) = result.findings ∧
          report.conflicts.filter (·.path = path) = result.conflicts)) := by
  have apart' : disk.Apart shuffled := apart.of_subset fun path => perm.mem_iff.2
  refine ⟨?_, fun inPlace => ⟨run_perm inPlace apart normal perm, fun hrun path hpath => ?_⟩⟩
  · rw [runPool_eq_some_iff_completes apart' uncancelled fair, run_eq_ok_iff_completes apart']
  · obtain ⟨results, hexamines, -, rfl⟩ := (run_eq_ok_iff_completes apart).1 hrun
    obtain ⟨result, hresult, rfl⟩ : ∃ result ∈ results, result.path = path := by
      rw [← List.mem_map, hexamines.map_path, List.mem_eraseDups]
      exact hpath
    exact ⟨result, (hexamines.examine_of_mem hresult).2,
      filter_aggregate inPlace hexamines (nodup_eraseDups paths) hresult⟩

/-- Three tasks that take turns, none of them waiting for another. -/
def crossing : List Move := [0, 1, 2, 1, 0, 2, 1, 2, 0].map .turn

theorem runPool_eq_run_mixedDisk :
    shorteningLinter.runPool true crossing mixedDisk mixedPaths.reverse =
      (saveAll mixedDisk mixedResults, some (aggregate (harvest mixedResults false))) ∧
    ∀ path ∈ mixedPaths, ∃ result, shorteningLinter.examine true mixedDisk path = .ok result ∧
      (aggregate (harvest mixedResults false)).findings.filter (·.path = path) = result.findings ∧
      (aggregate (harvest mixedResults false)).conflicts.filter (·.path = path) = result.conflicts := by
  have normal : ∀ path ∈ mixedPaths, path.Normal := by
    intro path hpath
    obtain ⟨text, -, rfl⟩ := List.mem_map.1 hpath
    exact Path.normal_ofString text
  have perm : mixedPaths.Perm mixedPaths.reverse := (List.reverse_perm mixedPaths).symm
  have uncancelled : Move.cancel ∉ crossing := by decide
  have fair : ∀ place < mixedPaths.reverse.eraseDups.length, 3 ≤ crossing.count (.turn place) := by decide +kernel
  have inPlace : ∀ active ∈ shorteningLinter.rules, active.rule.EmitsInPlace := by
    intro active hactive
    obtain rfl := List.mem_singleton.1 hactive
    exact shortening_emitsInPlace
  obtain ⟨hpool, horder⟩ := runPool_eq_run shorteningLinter true mixedDisk normal apart_mixedDisk perm uncancelled
    fair (saveAll mixedDisk mixedResults) (aggregate (harvest mixedResults false))
  obtain ⟨hsame, halone⟩ := horder inPlace
  exact ⟨hpool.2 (hsame.2 run_mixedDisk), halone run_mixedDisk⟩

/-! ### Rules that report about other files -/

/-- A rule that reports about one file, whatever file it is given. -/
def straying : Rule where
  id := "straying"
  name := "straying"
  visitors := [(.entering "program", fun node ctx =>
    [.finding
      { rule := ctx.rule, severity := ctx.severity, message := "found", path := .ofString "b.js"
        span := ctx.source.spanOf node }])]

def strayingLinter : Linter := { parser := bracketParser, rules := [⟨straying, .warn, .none⟩] }

def strayDisk : Disk := ⟨[], [(["a.js"], .file (Utf8.encode "x")), (["b.js"], .file (Utf8.encode "xy"))]⟩

/-- What the straying rule reports about a text of one line. -/
def strayFinding (length : Nat) : Finding :=
  { rule := "straying", severity := .warn, message := "found", path := .ofString "b.js"
    span := { start := 0, stop := length, endLine := some 1, endColumn := some (length + 1) } }

def strayResult (name text : String) : FileResult :=
  { path := .ofString name, findings := [strayFinding text.length], source := some text }

theorem examine_strayDisk : strayingLinter.examine false strayDisk (.ofString "a.js") = .ok (strayResult "a.js" "x") ∧
    strayingLinter.examine false strayDisk (.ofString "b.js") = .ok (strayResult "b.js" "xy") := by
  have hreadA : strayDisk.read (.ofString "a.js") = .ok (Utf8.encode "x") := by cbv
  have hreadB : strayDisk.read (.ofString "b.js") = .ok (Utf8.encode "xy") := by cbv
  have hlintA : strayingLinter.lint "x" (.ofString "a.js") = .ok [strayFinding 1] := by decide +kernel
  have hlintB : strayingLinter.lint "xy" (.ofString "b.js") = .ok [strayFinding 2] := by decide +kernel
  constructor
  · simp only [examine, textOf, hreadA, Utf8.decode?_encode, hlintA]
    rfl
  · simp only [examine, textOf, hreadB, Utf8.decode?_encode, hlintB]
    rfl

theorem apart_strayDisk : strayDisk.Apart [.ofString "a.js", .ofString "b.js"] := by
  have places : strayDisk.locate (.ofString "a.js") = .ok ["a.js"] ∧ strayDisk.locate (.ofString "b.js") = .ok ["b.js"] := by
    constructor <;> cbv
  intro first hfirst second hsecond _ hsame
  simp only [List.mem_cons, List.not_mem_nil, or_false] at hfirst hsecond
  rcases hfirst with rfl | rfl <;> rcases hsecond with rfl | rfl <;>
    first
    | rfl
    | simp [places] at hsame

/-- Findings with one key stay in the order of their files. -/
theorem findings_aggregate_stray (first second : FileResult) (m n : Nat) (hfirst : first.findings = [strayFinding m])
    (hsecond : second.findings = [strayFinding n]) :
    (aggregate (harvest [first, second] false)).findings = [strayFinding m, strayFinding n] := by
  have sorted : SortedBy Finding.key [strayFinding m, strayFinding n] := by
    simp [SortedBy, Finding.key, strayFinding, SortKey.le_refl]
  simp only [aggregate, harvest, List.map_cons, List.map_nil, hfirst, hsecond, canonicalOrder]
  exact sortByKey_of_sortedBy sorted

/-- A rule that reports about another file than it is given adds to what is reported about that one, and it
shows in which order the files were given. And files that a run has fixed are not reported about as they are
without fixing. -/
theorem not_run_alone :
    (strayDisk.Apart [.ofString "a.js", .ofString "b.js"] ∧
      ∃ report shuffled alone,
        strayingLinter.run false none strayDisk [.ofString "a.js", .ofString "b.js"] = (strayDisk, .ok report) ∧
        strayingLinter.run false none strayDisk [.ofString "b.js", .ofString "a.js"] = (strayDisk, .ok shuffled) ∧
        strayingLinter.examine false strayDisk (.ofString "b.js") = .ok alone ∧
        shuffled.findings ≠ report.findings ∧
        report.findings.filter (·.path = .ofString "b.js") ≠ alone.findings) ∧
    ∃ after report alone, shorteningLinter.run true none mixedDisk mixedPaths = (after, .ok report) ∧
      shorteningLinter.examine false mixedDisk (.ofString "a.js") = .ok alone ∧
      report.findings.filter (·.path = .ofString "a.js") ≠ alone.findings := by
  obtain ⟨ha, hb⟩ := examine_strayDisk
  refine ⟨⟨apart_strayDisk, ?_⟩, ?_⟩
  · have apart' : strayDisk.Apart [.ofString "b.js", .ofString "a.js"] :=
      apart_strayDisk.of_subset fun path hpath => by simpa [or_comm] using hpath
    have hreport := findings_aggregate_stray (strayResult "a.js" "x") (strayResult "b.js" "xy") 1 2 rfl rfl
    have hshuffled := findings_aggregate_stray (strayResult "b.js" "xy") (strayResult "a.js" "x") 2 1 rfl rfl
    refine ⟨_, _, _, (run_eq_ok_iff_completes apart_strayDisk).2 ⟨_, .cons ha (.cons hb .nil), rfl, rfl⟩,
      (run_eq_ok_iff_completes apart').2 ⟨_, .cons hb (.cons ha .nil), rfl, rfl⟩, hb, ?_, ?_⟩
    · rw [hreport, hshuffled]
      decide +kernel
    · rw [hreport]
      decide +kernel
  · have hread := read_mixedDisk.1
    let span : Span := { start := 0, stop := 2, endLine := some 1, endColumn := some 3 }
    let found : Finding :=
      { rule := "short", severity := .warn, message := "long", path := .ofString "a.js", span, fixes := [⟨span, "a"⟩]
        nodeKind := some "program" }
    have hlint : shorteningLinter.lint "ab" (.ofString "a.js") = .ok [found] := by decide +kernel
    refine ⟨_, _, { path := .ofString "a.js", findings := [found], source := some "ab" }, run_mixedDisk, ?_, ?_⟩
    · simp only [examine, textOf, hread, Utf8.decode?_encode, hlint]
      rfl
    · have hfixed : mixedResults[2] ∈ mixedResults := List.getElem_mem _
      have inPlace : ∀ active ∈ shorteningLinter.rules, active.rule.EmitsInPlace := by
        intro active hactive
        obtain rfl := List.mem_singleton.1 hactive
        exact shortening_emitsInPlace
      have hnone := (filter_aggregate inPlace examines_mixedDisk (by decide +kernel) hfixed).1
      rw [show Path.ofString "a.js" = mixedResults[2].path from rfl, hnone]
      exact (List.cons_ne_nil _ _).symm

end Linter

end ScriptLint
