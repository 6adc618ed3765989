/-
Files of a run, one after another.

Examining a file only reads it, and saving its result writes to that file and no
other. For paths that lead to different files the results are therefore those
of each file on the disk as it was before the run, whatever has been saved in
between, and saving them in another order leaves the same disk
(`saveAll_perm`). `run_eq_ok_iff` says so of a whole run.
-/
import Mathlib.Data.List.Forall2
import ScriptLint.Proofs.Disk.Writing
import ScriptLint.Proofs.Distinct
import ScriptLint.Run

namespace ScriptLint

/-- Paths of which no two lead to one and the same file. -/
def Disk.Apart (disk : Disk) (paths : List Path) : Prop :=
  ∀ first ∈ paths, ∀ second ∈ paths, disk.isFile first = true → disk.locate first = disk.locate second →
    first = second

theorem Disk.Apart.of_subset {disk : Disk} {paths others : List Path} (h : disk.Apart paths)
    (hsubset : ∀ path ∈ others, path ∈ paths) : disk.Apart others :=
  fun first hfirst second hsecond => h first (hsubset first hfirst) second (hsubset second hsecond)

theorem Disk.Apart.of_sameLayout {disk after : Disk} {paths : List Path} (h : disk.Apart paths)
    (layout : after.SameLayout disk) : after.Apart paths := by
  intro first hfirst second hsecond hfile hsame
  rw [layout.locate, layout.locate] at hsame
  exact h first hfirst second hsecond (layout.isFile hfile) hsame

namespace Linter

variable {linter : Linter} {fixing : Bool} {disk after : Disk} {path other : Path} {paths : List Path}
  {result : FileResult} {results : List FileResult}

/-! ## One file -/

/-- Examining a file looks at its content and at nothing else of the disk. -/
theorem examine_congr {first second : Disk} (h : first.read path = second.read path) :
    linter.examine fixing first path = linter.examine fixing second path := by
  simp only [examine, textOf, h]

/-- What examining a file can come to: it has no text, or its text is fixed or linted. -/
theorem examine_eq_ok (h : linter.examine fixing disk path = .ok result) :
    (∃ error, textOf disk path = .error error ∧ result = { path, findings := [parseErrorFinding path error] }) ∨
      ∃ text, textOf disk path = .ok text ∧
        ((fixing = true ∧ ∃ state, linter.fix text path = .ok state ∧
            result = { path, findings := state.findings, source := some text, output := some state.output
                       applied := state.applied, conflicts := state.conflicts }) ∨
          (fixing = false ∧ ∃ findings, linter.lint text path = .ok findings ∧
            result = { path, findings, source := some text })) := by
  unfold examine at h
  split at h
  · next error htext =>
    cases h
    exact .inl ⟨error, htext, rfl⟩
  · next text htext =>
    refine .inr ⟨text, htext, ?_⟩
    split at h
    · next hfixing =>
      cases hfix : linter.fix text path with
      | error failure =>
        rw [hfix] at h
        cases h
      | ok state =>
        rw [hfix] at h
        cases h
        exact .inl ⟨hfixing, state, rfl, rfl⟩
    · next hfixing =>
      cases hlint : linter.lint text path with
      | error failure =>
        rw [hlint] at h
        cases h
      | ok findings =>
        rw [hlint] at h
        cases h
        exact .inr ⟨Bool.eq_false_iff.2 hfixing, findings, rfl, rfl⟩

/-- The text of a file is what its bytes encode. -/
theorem textOf_eq_ok {text : String} (h : textOf disk path = .ok text) :
    ∃ held, disk.read path = .ok held ∧ Utf8.decode? held = some text := by
  unfold textOf at h
  split at h
  · cases h
  · next held hread =>
    split at h
    · next decoded hdecode =>
      obtain rfl := Except.ok.inj h
      exact ⟨held, hread, hdecode⟩
    · cases h

theorem path_of_examine (h : linter.examine fixing disk path = .ok result) : result.path = path := by
  obtain ⟨error, -, rfl⟩ | ⟨text, -, ⟨-, state, -, rfl⟩ | ⟨-, findings, -, rfl⟩⟩ := examine_eq_ok h <;> rfl

/-- Only a file that can be read is changed. -/
theorem isFile_of_examine (h : linter.examine fixing disk path = .ok result) (hchanged : result.changed = true) :
    disk.isFile path = true := by
  obtain ⟨error, -, rfl⟩ | ⟨text, htext, -⟩ := examine_eq_ok h
  · cases hchanged
  · obtain ⟨held, hread, -⟩ := textOf_eq_ok htext
    exact Disk.isFile_iff_read.2 ⟨held, hread⟩

theorem save_of_unchanged (h : result.changed = false) : save disk result = disk := by
  unfold save
  split
  · rw [h]
    rfl
  · rfl

theorem save_of_changed (h : result.changed = true) :
    ∃ output, result.output = some output ∧ ∀ disk, save disk result = disk.write result.path (Utf8.encode output) := by
  have hsome := h
  rw [FileResult.changed, Bool.and_eq_true, Option.isSome_iff_exists] at hsome
  obtain ⟨⟨output, houtput⟩, -⟩ := hsome
  exact ⟨output, houtput, fun disk => by simp [save, houtput, h]⟩

/-! ## Saving -/

/-- Results that can be saved independently of each other: each one that changes something is that
of a file, and no two are those of one file. -/
structure Separate (disk : Disk) (results : List FileResult) : Prop where
  files : ∀ result ∈ results, result.changed = true → disk.isFile result.path = true
  apart : results.Pairwise fun first second => first.changed = true → second.changed = true →
    disk.locate first.path ≠ disk.locate second.path

theorem Separate.perm {others : List FileResult} (h : Separate disk results) (perm : results.Perm others) :
    Separate disk others where
  files result hresult := h.files result (perm.mem_iff.2 hresult)
  apart := h.apart.perm perm fun hpair hfirst hsecond hsame => hpair hsecond hfirst hsame.symm

theorem sameLayout_save (h : result.changed = true → disk.isFile result.path = true) :
    (save disk result).SameLayout disk := by
  cases hchanged : result.changed with
  | false =>
    rw [save_of_unchanged hchanged]
    exact .refl disk
  | true =>
    obtain ⟨output, -, hsave⟩ := save_of_changed hchanged
    rw [hsave]
    exact Disk.sameLayout_write (h hchanged)

/-- What is left to be saved stays independent. -/
theorem Separate.save (h : Separate disk (result :: results)) : Separate (save disk result) results := by
  have layout := sameLayout_save (h.files result List.mem_cons_self)
  constructor
  case files =>
    intro next hnext hchanged
    exact layout.symm.isFile (h.files next (List.mem_cons_of_mem _ hnext) hchanged)
  case apart =>
    simp only [layout.locate]
    exact (List.pairwise_cons.1 h.apart).2

theorem save_comm {second : FileResult} (h : Separate disk (result :: second :: results)) :
    Linter.save (Linter.save disk result) second = Linter.save (Linter.save disk second) result := by
  cases hfirst : result.changed with
  | false => rw [save_of_unchanged hfirst, save_of_unchanged hfirst]
  | true =>
    cases hsecond : second.changed with
    | false => rw [save_of_unchanged hsecond, save_of_unchanged hsecond]
    | true =>
      obtain ⟨output, -, hsave⟩ := save_of_changed hfirst
      obtain ⟨output', -, hsave'⟩ := save_of_changed hsecond
      simp only [hsave, hsave']
      refine Disk.write_comm (h.files result (by simp) hfirst) (h.files second (by simp) hsecond) ?_
      exact (List.pairwise_cons.1 h.apart).1 second List.mem_cons_self hfirst hsecond

/-- The disk with some results saved on it. -/
def saveAll (disk : Disk) (results : List FileResult) : Disk := results.foldl Linter.save disk

theorem saveAll_append_singleton (disk : Disk) (results : List FileResult) (result : FileResult) :
    saveAll disk (results ++ [result]) = Linter.save (saveAll disk results) result := by
  simp only [saveAll, List.foldl_append, List.foldl_cons, List.foldl_nil]

/-- The order of saving does not show. -/
theorem saveAll_perm {others : List FileResult} (perm : results.Perm others) :
    ∀ {disk : Disk}, Separate disk results → saveAll disk results = saveAll disk others := by
  induction perm with
  | nil => exact fun _ => rfl
  | cons result perm ih => exact fun h => ih h.save
  | swap first second rest =>
    intro disk h
    simp only [saveAll, List.foldl_cons, save_comm h]
  | trans perm perm' ih ih' => exact fun h => (ih h).trans (ih' (h.perm perm))

theorem sameLayout_saveAll : ∀ {results : List FileResult} {disk : Disk}, Separate disk results →
    (saveAll disk results).SameLayout disk
  | [], disk, _ => .refl disk
  | result :: _, _, h =>
    (sameLayout_saveAll h.save).trans (sameLayout_save (h.files result List.mem_cons_self))

theorem read_save_other (hfile : result.changed = true → disk.isFile result.path = true)
    (hother : result.changed = true → disk.locate path ≠ disk.locate result.path) :
    (Linter.save disk result).read path = disk.read path := by
  cases hchanged : result.changed with
  | false => rw [save_of_unchanged hchanged]
  | true =>
    obtain ⟨output, -, hsave⟩ := save_of_changed hchanged
    rw [hsave]
    exact Disk.read_write_other (hfile hchanged) (hother hchanged)

/-- A file that is not among the changed ones keeps its content. -/
theorem read_saveAll_other : ∀ {results : List FileResult} {disk : Disk}, Separate disk results →
    (∀ result ∈ results, result.changed = true → disk.locate path ≠ disk.locate result.path) →
      (saveAll disk results).read path = disk.read path
  | [], _, _, _ => rfl
  | result :: results, disk, h, hother => by
    have hfile := h.files result List.mem_cons_self
    have layout := sameLayout_save hfile
    rw [← read_save_other hfile (hother result List.mem_cons_self)]
    refine read_saveAll_other h.save fun next hnext hchanged => ?_
    rw [layout.locate, layout.locate]
    exact hother next (List.mem_cons_of_mem _ hnext) hchanged

/-- A changed file holds its output. -/
theorem read_saveAll_self {output : String} (h : Separate disk results) (hresult : result ∈ results)
    (hchanged : result.changed = true) (houtput : result.output = some output) :
    (saveAll disk results).read result.path = .ok (Utf8.encode output) := by
  obtain ⟨before, later, rfl⟩ := List.append_of_mem hresult
  have perm : (before ++ result :: later).Perm (before ++ later ++ [result]) :=
    List.perm_middle.trans (List.perm_append_singleton _ _).symm
  have hfile := h.files result hresult hchanged
  have others : Separate disk (before ++ later) := by
    have hperm := h.perm perm
    exact ⟨fun next hnext => hperm.files next (List.mem_append_left _ hnext), (List.pairwise_append.1 hperm.apart).1⟩
  obtain ⟨written, hwritten, hsave⟩ := save_of_changed hchanged
  obtain rfl := Option.some.inj (hwritten.symm.trans houtput)
  rw [saveAll_perm perm h, saveAll_append_singleton, hsave]
  exact Disk.read_write_self ((sameLayout_saveAll others).symm.isFile hfile)

theorem saveAll_of_unchanged : ∀ {results : List FileResult}, (∀ result ∈ results, result.changed = false) →
    saveAll disk results = disk
  | [], _ => rfl
  | result :: results, h => by
    rw [saveAll, List.foldl_cons, save_of_unchanged (h result List.mem_cons_self)]
    exact saveAll_of_unchanged fun next hnext => h next (List.mem_cons_of_mem _ hnext)

/-! ## Results of several files -/

/-- The results of files, each examined on one and the same disk. -/
def Examines (linter : Linter) (fixing : Bool) (disk : Disk) : List Path → List FileResult → Prop :=
  List.Forall₂ fun path result => linter.examine fixing disk path = .ok result

theorem Examines.map_path (h : linter.Examines fixing disk paths results) :
    results.map FileResult.path = paths := by
  induction h with
  | nil => rfl
  | cons hfirst _ ih => rw [List.map_cons, ih, path_of_examine hfirst]

theorem Examines.unique (h : linter.Examines fixing disk paths results) {others : List FileResult}
    (h' : linter.Examines fixing disk paths others) : results = others :=
  List.right_unique_forall₂' (fun _ _ _ hfirst hsecond => Except.ok.inj (hfirst.symm.trans hsecond)) h h'

theorem Examines.examine_of_mem (h : linter.Examines fixing disk paths results) (hresult : result ∈ results) :
    result.path ∈ paths ∧ linter.examine fixing disk result.path = .ok result := by
  induction h with
  | nil => cases hresult
  | cons hfirst _ ih =>
    rcases List.mem_cons.1 hresult with rfl | hresult
    · rw [path_of_examine hfirst]
      exact ⟨List.mem_cons_self, hfirst⟩
    · exact ⟨List.mem_cons_of_mem _ (ih hresult).1, (ih hresult).2⟩

/-- A disk that holds the same in some files gives the same results for them. -/
theorem Examines.congr {first second : Disk} (h : linter.Examines fixing first paths results)
    (hread : ∀ path ∈ paths, first.read path = second.read path) :
    linter.Examines fixing second paths results := by
  induction h with
  | nil => exact .nil
  | cons hfirst _ ih =>
    refine .cons ?_ (ih fun path hpath => hread path (List.mem_cons_of_mem _ hpath))
    rw [← hfirst]
    exact examine_congr (hread _ List.mem_cons_self).symm

/-- A file that is changed is not what another path leads to. -/
theorem locate_ne_of_examine (apart : disk.Apart paths) (hpath : path ∈ paths) (hother : other ∈ paths)
    (hne : other ≠ path) (hexamine : linter.examine fixing disk path = .ok result)
    (hchanged : result.changed = true) : disk.locate other ≠ disk.locate result.path := by
  rw [path_of_examine hexamine]
  intro hsame
  exact hne (apart path hpath other hother (isFile_of_examine hexamine hchanged) hsame.symm).symm

/-- The results of different files are independent. -/
theorem Examines.separate (h : linter.Examines fixing disk paths results) (apart : disk.Apart paths)
    (distinct : paths.Nodup) : Separate disk results where
  files result hresult hchanged := isFile_of_examine (h.examine_of_mem hresult).2 hchanged
  apart := by
    rw [← h.map_path, List.Nodup, List.pairwise_map] at distinct
    refine distinct.imp_of_mem fun hfirst hsecond hne _ hchanged => ?_
    obtain ⟨hpath, hexamine⟩ := h.examine_of_mem hsecond
    exact locate_ne_of_examine apart hpath (h.examine_of_mem hfirst).1 hne hexamine hchanged

/-- A file that was not changed holds what it held. -/
theorem Examines.read_saveAll (h : linter.Examines fixing disk paths results) (apart : disk.Apart paths)
    (distinct : paths.Nodup) (hresult : result ∈ results) (hunchanged : result.changed = false) :
    (saveAll disk results).read result.path = disk.read result.path := by
  obtain ⟨hpath, hexamine⟩ := h.examine_of_mem hresult
  refine read_saveAll_other (h.separate apart distinct) fun other hother hchanged => ?_
  obtain ⟨hpath', hexamine'⟩ := h.examine_of_mem hother
  refine locate_ne_of_examine apart hpath' hpath (fun hsame => ?_) hexamine' hchanged
  -- One file has one result, and it cannot be both.
  rw [← hsame] at hexamine'
  rw [Except.ok.inj (hexamine'.symm.trans hexamine), hunchanged] at hchanged
  cases hchanged

/-! ## Runs -/

/-- The files that are started within a budget. -/
def withinBudget : Option Nat → List Path → List Path
  | none, paths => paths
  | some n, paths => paths.take n

theorem withinBudget_sublist (budget : Option Nat) (paths : List Path) : (withinBudget budget paths).Sublist paths := by
  cases budget with
  | none => exact List.Sublist.refl paths
  | some n => exact List.take_sublist n paths

/-- A budget cuts off the files after it. -/
theorem examineAll_withinBudget (linter : Linter) (fixing : Bool) :
    ∀ (budget : Option Nat) (disk : Disk) (paths : List Path), linter.examineAll fixing budget disk paths =
      linter.examineAll fixing none disk (withinBudget budget paths)
  | none, _, _ => rfl
  | some 0, _, [] => rfl
  | some 0, _, _ :: _ => rfl
  | some (_ + 1), _, [] => rfl
  | some (n + 1), disk, path :: rest => by
    simp only [withinBudget, List.take_succ_cons, examineAll, Option.map_some, Option.map_none,
      Nat.add_sub_cancel, examineAll_withinBudget linter fixing (some n)]

theorem examineAll_cons_eq_ok_iff {rest : List Path} :
    linter.examineAll fixing none disk (path :: rest) = (after, .ok results) ↔
      ∃ result later, linter.examine fixing disk path = .ok result ∧ results = result :: later ∧
        linter.examineAll fixing none (save disk result) rest = (after, .ok later) := by
  simp only [examineAll, Option.map_none]
  cases hexamine : linter.examine fixing disk path with
  | error failure => simp
  | ok result =>
    simp only [Except.ok.injEq, exists_and_left, exists_eq_left']
    cases hrest : linter.examineAll fixing none (save disk result) rest with
    | mk left outcome =>
      cases outcome with
      | error failure => simp [Except.map]
      | ok later =>
        simp only [Except.map, Prod.mk.injEq, Except.ok.injEq]
        exact ⟨fun ⟨hdisk, hresults⟩ => ⟨later, hresults.symm, hdisk, rfl⟩,
          fun ⟨_, hresults, hdisk, hlater⟩ => ⟨hdisk, by rw [hresults, hlater]⟩⟩

/-- Files one after another have the results that each of them has on the disk before, and those are
saved on it. -/
theorem examineAll_eq_ok_iff : ∀ {paths : List Path} {disk : Disk} {results : List FileResult},
    disk.Apart paths → paths.Nodup →
      (linter.examineAll fixing none disk paths = (after, .ok results) ↔
        linter.Examines fixing disk paths results ∧ after = saveAll disk results)
  | [], disk, results, _, _ => by
    rw [Examines, List.forall₂_nil_left_iff, examineAll, Prod.mk.injEq, Except.ok.injEq]
    constructor
    · rintro ⟨rfl, rfl⟩
      exact ⟨rfl, rfl⟩
    · rintro ⟨rfl, rfl⟩
      exact ⟨rfl, rfl⟩
  | path :: rest, disk, results, apart, distinct => by
    rw [List.nodup_cons] at distinct
    rw [examineAll_cons_eq_ok_iff]
    -- The result of the first file changes nothing for the others.
    have unread : ∀ {result}, linter.examine fixing disk path = .ok result →
        (save disk result).Apart rest ∧ ∀ other ∈ rest, (save disk result).read other = disk.read other := by
      intro result hexamine
      have hfile : result.changed = true → disk.isFile result.path = true := by
        rw [path_of_examine hexamine]
        exact isFile_of_examine hexamine
      constructor
      · exact (apart.of_subset fun other => List.mem_cons_of_mem _).of_sameLayout (sameLayout_save hfile)
      · intro other hother
        refine read_save_other hfile (locate_ne_of_examine apart List.mem_cons_self (List.mem_cons_of_mem _ hother) ?_
          hexamine)
        rintro rfl
        exact distinct.1 hother
    constructor
    · rintro ⟨result, later, hexamine, rfl, hrest⟩
      obtain ⟨restApart, hread⟩ := unread hexamine
      obtain ⟨hexamines, hafter⟩ := (examineAll_eq_ok_iff restApart distinct.2).1 hrest
      exact ⟨.cons hexamine (hexamines.congr hread), hafter⟩
    · rintro ⟨hexamines, hafter⟩
      cases hexamines with
      | cons hexamine hrest =>
        obtain ⟨restApart, hread⟩ := unread hexamine
        have hrest := Examines.congr hrest fun other hother => (hread other hother).symm
        exact ⟨_, _, hexamine, rfl, (examineAll_eq_ok_iff restApart distinct.2).2 ⟨hrest, hafter⟩⟩

/-- **A run over different files reports on each of them as it was before.** The results are those of
the files within the budget, each examined on the disk before the run, and they are what is saved. -/
theorem run_eq_ok_iff {budget : Option Nat} {report : Report} (apart : disk.Apart paths) :
    linter.run fixing budget disk paths = (after, .ok report) ↔
      ∃ results, linter.Examines fixing disk (withinBudget budget paths.eraseDups) results ∧
        after = saveAll disk results ∧
        report = aggregate (harvest results (results.length < paths.eraseDups.length)) := by
  have hwithin := withinBudget_sublist budget paths.eraseDups
  have withinApart : disk.Apart (withinBudget budget paths.eraseDups) :=
    apart.of_subset fun path hpath => List.mem_eraseDups.1 (hwithin.subset hpath)
  have distinct := (nodup_eraseDups paths).sublist hwithin
  simp only [run, examineAll_withinBudget linter fixing budget]
  simp only [← and_assoc, ← examineAll_eq_ok_iff withinApart distinct]
  cases linter.examineAll fixing none disk (withinBudget budget paths.eraseDups) with
  | mk left outcome =>
    cases outcome with
    | error failure => simp [Except.map]
    | ok results =>
      simp only [Except.map, Prod.mk.injEq, Except.ok.injEq]
      constructor
      · rintro ⟨rfl, rfl⟩
        exact ⟨results, ⟨rfl, rfl⟩, rfl⟩
      · rintro ⟨_, ⟨rfl, rfl⟩, rfl⟩
        exact ⟨rfl, rfl⟩

/-- What it comes to when all of some files are gone through: the report on their results, and the
disk with these saved on it. -/
def Completes (linter : Linter) (fixing : Bool) (disk : Disk) (paths : List Path) (after : Disk)
    (report : Report) : Prop :=
  ∃ results, linter.Examines fixing disk paths results ∧ after = saveAll disk results ∧
    report = aggregate (harvest results false)

/-- A report that does not say so has left no file out. -/
theorem length_of_uncancelled {n : Nat}
    (h : (aggregate (harvest results (results.length < n))).cancelled = false) : n ≤ results.length :=
  Nat.le_of_not_lt (of_decide_eq_false h)

/-- A run that is not cut off goes through all its files. -/
theorem run_eq_ok_iff_completes {report : Report} (apart : disk.Apart paths) :
    linter.run fixing none disk paths = (after, .ok report) ↔
      linter.Completes fixing disk paths.eraseDups after report := by
  rw [run_eq_ok_iff apart]
  refine exists_congr fun results => and_congr_right fun hexamines => ?_
  rw [← List.Forall₂.length_eq hexamines, withinBudget, decide_eq_false (Nat.lt_irrefl _)]

end Linter

end ScriptLint
