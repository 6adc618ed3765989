/-
Targets and the files they stand for.

A search that passes links over finds files only, under their own names
(`fileAt_of_mem_files`): so every path that is collected is its own real path, and
no two of them lead to one file. Collecting again what was collected changes
nothing unless a target that is no directory as it is written has a directory for
its real path (`collect_collect_iff`), as `missing/../dir` has.
-/
import ScriptLint.Proofs.Discovery.Reached
import ScriptLint.Proofs.Run.Pool

namespace ScriptLint

variable {search : Search} {disk : Disk} {place : Location} {path target root : Path} {targets : List Path}

/-- Paths that are their own real paths lead to different places. -/
theorem Disk.apart_of_realPath {paths : List Path} (h : ∀ path ∈ paths, disk.realPath path = path) :
    disk.Apart paths := by
  intro first hfirst second hsecond hfile hsame
  obtain ⟨place, _, hlocate, -⟩ := Disk.isFile_iff.1 hfile
  have hreal := (Disk.realLocation_of_locate hlocate).2
  have hreal' := (Disk.realLocation_of_locate (hsame.symm.trans hlocate)).2
  rw [← h first hfirst, ← h second hsecond, Disk.realPath, Disk.realPath, hreal, hreal']

namespace Search

/-! ## Searching -/

/-- A directory without further ones to search is searched alone. -/
theorem directories_of_below_eq_nil {directory : Path} (h : search.below disk directory = []) (depth : Nat) :
    search.directories disk depth directory = [directory] := by
  cases depth with
  | zero => rfl
  | succ depth => rw [directories, h, List.flatMap_nil]

/-- Files are found under their own names. -/
theorem fileAt_of_mem_files (wf : disk.WellFormed) (following : search.followLinks = false)
    (existing : disk.get? place = some .directory) (h : path ∈ search.files disk ⟨.root, place⟩) : disk.FileAt path := by
  have located := wf.locate_of_get? existing Disk.directory_ne_link
  rw [mem_files_iff wf following located existing] at h
  obtain ⟨top, names, name, bytes, htop, -, held, hpath, -⟩ := h
  obtain rfl := Except.ok.inj (located.symm.trans htop)
  refine ⟨place ++ names ++ [name], bytes, ?_, wf.canonical held nofun, held⟩
  rw [hpath, Path.down, List.append_assoc]

/-! ## Collecting -/

/-- What a target stands for: what is found below a directory, or the real path of what is none. -/
inductive StandsFor (search : Search) (disk : Disk) (target : Path) : List Path → Prop where
  | directory {found : List Path} (h : disk.isDirectory target = true) (hfind : search.find disk target = .ok found) :
      StandsFor search disk target found
  | single (h : disk.isDirectory target = false) : StandsFor search disk target [disk.realPath target]

/-- Files as they are collected from targets: real paths without repetition, in the order in which the
targets give them first. In a run over them each task has its own path, and no two paths lead to one
file. -/
structure Collected (search : Search) (disk : Disk) (targets files : List Path) : Prop where
  real : ∀ path ∈ files, disk.realPath path = path
  distinct : (files.map disk.realPath).Nodup
  mem_iff : ∀ path, path ∈ files ↔ ∃ target ∈ targets, ∃ found, search.StandsFor disk target found ∧ path ∈ found
  order : ∃ founds, List.Forall₂ (search.StandsFor disk) targets founds ∧ FirstOccurrences founds.flatten files
  apart : disk.Apart files
  tasks : ∀ linter fixing moves,
    List.Forall₂ (Task.For linter fixing disk) files ((Pool.start disk files.eraseDups).play linter fixing moves).tasks

section Collect

theorem mem_collect : path ∈ search.collect disk targets ↔ ∃ target ∈ targets, path ∈ search.expand disk target := by
  rw [collect, List.mem_eraseDups, List.mem_flatMap]

theorem nodup_collect (search : Search) (disk : Disk) (targets : List Path) : (search.collect disk targets).Nodup :=
  nodup_eraseDups _

variable (wf : disk.WellFormed) (following : search.followLinks = false)

include wf in
/-- An expanded target is what the target stands for. -/
theorem standsFor_expand (search : Search) (target : Path) :
    search.StandsFor disk target (search.expand disk target) := by
  rw [expand]
  split
  · next hdirectory =>
    refine .directory hdirectory ?_
    have hstat : disk.stat? (disk.realPath target) = some .directory := of_decide_eq_true <|
      (wf.isDirectory_realPath_iff (Disk.resolves_of_isDirectory hdirectory)).2 (Disk.get?_realLocation hdirectory)
    simp only [find, hstat]
  · next hother => exact .single (Bool.eq_false_iff.2 hother)

/-- A target stands for one list of files. -/
theorem StandsFor.eq_expand {found : List Path} (h : search.StandsFor disk target found) :
    found = search.expand disk target := by
  cases h with
  | single hother => rw [expand, if_neg (by simp [hother])]
  | directory hdirectory hfind =>
    simp only [find] at hfind
    split at hfind
    · cases hfind
    · rw [expand, if_pos hdirectory, Except.ok.inj hfind]
    · cases hfind

include wf following

/-- Members of an expanded target are files, or the real path of the target if that is no directory. -/
theorem mem_expand (h : path ∈ search.expand disk target) :
    disk.FileAt path ∨ disk.isDirectory target = false ∧ path = disk.realPath target := by
  rw [expand] at h
  split at h
  · next hdirectory =>
    exact .inl (fileAt_of_mem_files wf following (Disk.get?_realLocation hdirectory) h)
  · next hother => exact .inr ⟨Bool.eq_false_iff.2 hother, List.mem_singleton.1 h⟩

variable (resolves : ∀ target ∈ targets, disk.Resolves target)

include resolves

theorem realPath_of_mem_collect (h : path ∈ search.collect disk targets) : disk.realPath path = path := by
  obtain ⟨target, htarget, hpath⟩ := mem_collect.1 h
  rcases mem_expand wf following hpath with hfile | ⟨-, rfl⟩
  · exact hfile.realPath_eq
  · exact wf.realPath_realPath (resolves target htarget)

theorem map_realPath_collect : (search.collect disk targets).map disk.realPath = search.collect disk targets :=
  (List.map_congr_left fun _ hpath => realPath_of_mem_collect wf following resolves hpath).trans (List.map_id _)

theorem collected_collect : search.Collected disk targets (search.collect disk targets) := by
  have real : ∀ path ∈ search.collect disk targets, disk.realPath path = path :=
    fun _ hpath => realPath_of_mem_collect wf following resolves hpath
  have distinct := nodup_collect search disk targets
  have apart := Disk.apart_of_realPath real
  constructor
  case real => exact real
  case distinct => rwa [map_realPath_collect wf following resolves]
  case mem_iff =>
    intro path
    rw [mem_collect]
    constructor
    · rintro ⟨target, htarget, hpath⟩
      exact ⟨target, htarget, _, standsFor_expand wf search target, hpath⟩
    · rintro ⟨target, htarget, found, hfound, hpath⟩
      exact ⟨target, htarget, hfound.eq_expand ▸ hpath⟩
  case order =>
    refine ⟨targets.map (search.expand disk), ?_, ?_⟩
    · exact List.forall₂_map_right_iff.2 (List.forall₂_same.2 fun target _ => standsFor_expand wf search target)
    · rw [← List.flatMap_def]
      exact firstOccurrences_eraseDups _
  case apart => exact apart
  case tasks =>
    intro linter fixing moves
    have htasks := (Pool.sound_play linter fixing apart moves).tasks
    rwa [eraseDups_of_nodup distinct] at htasks ⊢

/-- What was collected is collected unchanged just when no real path of a target that is no directory
is one. -/
theorem collect_collect_iff : search.collect disk (search.collect disk targets) = search.collect disk targets ↔
    ∀ target ∈ targets, disk.isDirectory target = false → disk.isDirectory (disk.realPath target) = false := by
  constructor
  · intro h target htarget hother
    refine Bool.eq_false_iff.2 fun hdirectory => ?_
    have hmem : disk.realPath target ∈ search.collect disk targets :=
      mem_collect.2 ⟨target, htarget, by simp [expand, hother]⟩
    -- a directory is no member of what is collected from anything: it would be one of its files
    rw [← h] at hmem
    obtain ⟨path, hpath, hexpand⟩ := mem_collect.1 hmem
    rcases mem_expand wf following hexpand with hfile | ⟨hother', hreal⟩
    · rw [hfile.isDirectory_eq] at hdirectory
      cases hdirectory
    · rw [hreal, realPath_of_mem_collect wf following resolves hpath, hother'] at hdirectory
      cases hdirectory
  · intro h
    have alone : ∀ path ∈ search.collect disk targets, search.expand disk path = [path] := by
      intro path hpath
      obtain ⟨target, htarget, hexpand⟩ := mem_collect.1 hpath
      have hother : disk.isDirectory path = false := by
        rcases mem_expand wf following hexpand with hfile | ⟨hother, rfl⟩
        · exact hfile.isDirectory_eq
        · exact h target htarget hother
      rw [expand, if_neg (by simp [hother]), realPath_of_mem_collect wf following resolves hpath]
    have same : (search.collect disk targets).flatMap (search.expand disk) = search.collect disk targets :=
      (List.flatMap_congr alone).trans (List.flatMap_singleton' _)
    rw [collect, same, eraseDups_of_nodup (nodup_collect search disk targets)]

end Collect

/-- What was collected from targets that lead somewhere is collected unchanged. -/
theorem collect_collect_of_locate (wf : disk.WellFormed) (following : search.followLinks = false)
    (found : ∀ target ∈ targets, ∃ place, disk.locate target = .ok place) :
    search.collect disk (search.collect disk targets) = search.collect disk targets := by
  have resolves : ∀ target ∈ targets, disk.Resolves target := fun target htarget =>
    (Disk.realLocation_of_locate (found target htarget).choose_spec).1
  refine (collect_collect_iff wf following resolves).2 fun target htarget hother => ?_
  obtain ⟨place, hlocate⟩ := found target htarget
  rw [Bool.eq_false_iff, Ne, wf.isDirectory_realPath_iff (resolves target htarget),
    (Disk.realLocation_of_locate hlocate).2]
  intro hdirectory
  rw [Disk.isDirectory_iff.2 ⟨place, hlocate, hdirectory⟩] at hother
  cases hother

/-- Whatever the targets are, as long as their links do not run in a circle, collecting them gives each
file once, under its real path, and no file the work of two tasks; and doing so again changes nothing
just when no target that is no directory as it is written has one for its real path. -/
theorem collect_gathers (search : Search) {disk : Disk} {targets : List Path} (wf : disk.WellFormed)
    (following : search.followLinks = false) (resolves : ∀ target ∈ targets, disk.Resolves target) :
    search.Collected disk targets (search.collect disk targets) ∧
      (search.collect disk (search.collect disk targets) = search.collect disk targets ↔
        ∀ target ∈ targets, disk.isDirectory target = false → disk.isDirectory (disk.realPath target) = false) :=
  ⟨collected_collect wf following resolves, collect_collect_iff wf following resolves⟩

/-! ## A directory with a link to it -/

/-- A directory with one file, and a link to the directory beside it. -/
def aliasDisk : Disk where
  home := ["R"]
  entries := [(["R"], .directory), (["R", "dir"], .directory), (["R", "dir", "a.js"], .file []),
    (["R", "alias"], .link "dir")]

def aliasSearch : Search := { ignored := defaultIgnored }

theorem wellFormed_aliasDisk : aliasDisk.WellFormed := by decide +kernel

/-- The directory, by the link to it. -/
def linkTarget : Path := ⟨.here, ["alias"]⟩

/-- The file, by the directory. -/
def fileTarget : Path := ⟨.here, ["dir", "a.js"]⟩

/-- A file that is not there, by a way over a name that is not there either. -/
def missingTarget : Path := ⟨.here, ["missing", "..", "b.js"]⟩

/-- The directory, by such a way. -/
def strayTarget : Path := ⟨.here, ["missing", "..", "dir"]⟩

theorem stepsOf_dir : Disk.stepsOf ["R"] "dir" = (["R"], ["dir"]) := by decide +kernel

theorem locate_aliasDisk : aliasDisk.locate linkTarget = .ok ["R", "dir"] ∧
    aliasDisk.locate fileTarget = .ok ["R", "dir", "a.js"] ∧ aliasDisk.locate missingTarget = .error .noSuchFile ∧
    aliasDisk.locate strayTarget = .error .noSuchFile := by
  simp [Disk.locate, Disk.walk, Disk.get?, Disk.lookup, Disk.startOf, Disk.linkLimit, aliasDisk, linkTarget,
    fileTarget, missingTarget, strayTarget, stepsOf_dir]

theorem realLocation_aliasDisk : aliasDisk.realLocation linkTarget = ["R", "dir"] ∧
    aliasDisk.realLocation fileTarget = ["R", "dir", "a.js"] ∧
    aliasDisk.realLocation missingTarget = ["R", "b.js"] ∧ aliasDisk.realLocation strayTarget = ["R", "dir"] := by
  simp [Disk.realLocation, Disk.resolve, Disk.get?, Disk.lookup, Disk.startOf, aliasDisk, linkTarget, fileTarget,
    missingTarget, strayTarget, stepsOf_dir]

/-- What stands under the names of the directory, of its file and of none. -/
theorem located_aliasDisk : aliasDisk.locate ⟨.root, ["R", "dir"]⟩ = .ok ["R", "dir"] ∧
    aliasDisk.locate ⟨.root, ["R", "dir", "a.js"]⟩ = .ok ["R", "dir", "a.js"] ∧
    aliasDisk.locate ⟨.root, ["R", "b.js"]⟩ = .error .noSuchFile := by
  simp [Disk.locate, Disk.walk, Disk.get?, Disk.lookup, Disk.startOf, aliasDisk]

theorem get?_aliasDisk : aliasDisk.get? ["R", "dir"] = some .directory ∧
    aliasDisk.get? ["R", "dir", "a.js"] = some (.file []) ∧ aliasDisk.get? ["R", "b.js"] = none := by decide

theorem resolves_aliasDisk : ∀ target ∈ [linkTarget, fileTarget, missingTarget, strayTarget],
    aliasDisk.Resolves target := by
  -- the last two go down to a name that is not there and up again
  have around {name : String} (h : Disk.GoesDown name)
      (unlinked : ∀ target, aliasDisk.get? ["R", name] ≠ some (.link target)) :
      aliasDisk.Resolves ⟨.here, ["missing", "..", name]⟩ :=
    ⟨3, ["R", name], .down (by decide) (by simp [aliasDisk, Disk.get?, Disk.lookup, Disk.startOf])
      (.up (.down h unlinked (.done _)))⟩
  simp only [List.forall_mem_cons, List.not_mem_nil, false_implies, implies_true, and_true]
  obtain ⟨hlink, hfile, -, -⟩ := locate_aliasDisk
  refine ⟨(Disk.realLocation_of_locate hlink).1, (Disk.realLocation_of_locate hfile).1, ?_, ?_⟩
  · exact around (by decide) (by simp [get?_aliasDisk])
  · exact around (by decide) (by simp [get?_aliasDisk])

theorem files_aliasDisk : aliasSearch.files aliasDisk ⟨.root, ["R", "dir"]⟩ = [⟨.root, ["R", "dir", "a.js"]⟩] := by
  have hentries : entriesIn aliasDisk ⟨.root, ["R", "dir"]⟩ = [⟨.root, ["R", "dir", "a.js"]⟩] := by
    have hnames : aliasDisk.names ["R", "dir"] = ["a.js"] := by decide
    simp [entriesIn, located_aliasDisk, hnames, Path.child]
  have hfile : aliasSearch.entryAt? aliasDisk ⟨.root, ["R", "dir"]⟩ ⟨.root, ["R", "dir", "a.js"]⟩ =
      some (.file []) := by
    simp [entryAt?, ownEntry?, located_aliasDisk, Path.name, get?_aliasDisk]
  have hwants : aliasSearch.wants ⟨.root, ["R", "dir", "a.js"]⟩ = true := by decide +kernel
  have hbelow : aliasSearch.below aliasDisk ⟨.root, ["R", "dir"]⟩ = [] := by simp [below, hentries, hfile]
  simp [files, directories_of_below_eq_nil hbelow, filesIn, hentries, hfile, hwants, isFileEntry]

theorem collect_aliasDisk : aliasSearch.collect aliasDisk [linkTarget, fileTarget, missingTarget] =
    [⟨.root, ["R", "dir", "a.js"]⟩, ⟨.root, ["R", "b.js"]⟩] := by
  simp [collect, expand, Disk.isDirectory, Disk.stat?, locate_aliasDisk, get?_aliasDisk, Disk.realPath,
    realLocation_aliasDisk, files_aliasDisk, List.eraseDups_cons]

theorem collect_gathers_aliasDisk :
    aliasSearch.Collected aliasDisk [linkTarget, fileTarget, missingTarget]
        [⟨.root, ["R", "dir", "a.js"]⟩, ⟨.root, ["R", "b.js"]⟩] ∧
      aliasSearch.collect aliasDisk [⟨.root, ["R", "dir", "a.js"]⟩, ⟨.root, ["R", "b.js"]⟩] =
        [⟨.root, ["R", "dir", "a.js"]⟩, ⟨.root, ["R", "b.js"]⟩] := by
  have resolves : ∀ target ∈ [linkTarget, fileTarget, missingTarget], aliasDisk.Resolves target :=
    fun target htarget => resolves_aliasDisk target (List.mem_append_left [strayTarget] htarget)
  obtain ⟨hcollected, hagain⟩ := collect_gathers aliasSearch wellFormed_aliasDisk rfl resolves
  rw [collect_aliasDisk] at hcollected hagain
  refine ⟨hcollected, hagain.2 ?_⟩
  simp [Disk.isDirectory, Disk.stat?, locate_aliasDisk, located_aliasDisk, get?_aliasDisk, Disk.realPath,
    realLocation_aliasDisk]

/-- The directory is kept as if it were a file, and the next time its files are. -/
theorem not_collect_collect_aliasDisk : aliasDisk.WellFormed ∧ aliasDisk.Resolves strayTarget ∧
    aliasSearch.collect aliasDisk [strayTarget] = [⟨.root, ["R", "dir"]⟩] ∧
    aliasSearch.collect aliasDisk (aliasSearch.collect aliasDisk [strayTarget]) =
      [⟨.root, ["R", "dir", "a.js"]⟩] := by
  have hfirst : aliasSearch.collect aliasDisk [strayTarget] = [⟨.root, ["R", "dir"]⟩] := by
    simp [collect, expand, Disk.isDirectory, Disk.stat?, locate_aliasDisk, Disk.realPath, realLocation_aliasDisk,
      List.eraseDups_cons]
  have hreal := (Disk.realLocation_of_locate located_aliasDisk.1).2
  refine ⟨wellFormed_aliasDisk, resolves_aliasDisk _ (by simp), hfirst, ?_⟩
  rw [hfirst]
  simp [collect, expand, Disk.isDirectory, Disk.stat?, located_aliasDisk, get?_aliasDisk, Disk.realPath, hreal,
    files_aliasDisk, List.eraseDups_cons]

end Search

end ScriptLint
