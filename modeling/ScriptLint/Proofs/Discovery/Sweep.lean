/-
A search with a stack comes to an end, and finds what it is to find.

A turn lists one directory, puts the ones below it onto the stack and keeps the files in
it (`Step.exists_of`). So every directory that has been listed or waits is one that is
reached, none of them is there twice, and what is below a listed one is there too
(`Sound`, kept by each turn: `Sound.step`). As there are no more such directories than
entries on the disk, every search ends (`Sound.ends`). When nothing waits, the listed
directories are just those that are reached (`Sound.mem_listed_iff`), as they are for the
recursion over the directories: both find the same files, and sorted by components
these stand in one order (`Sound.result_eq`).
-/
import Mathlib.Logic.Relation
import ScriptLint.Proofs.Discovery.Reached
import ScriptLint.Proofs.Path
import ScriptLint.Sweep

namespace ScriptLint

variable {search : Search} {disk : Disk} {top : Location} {root directory : Path} {sweep next : Sweep}

namespace Sweep

/-! ## Turns -/

theorem foldl_visit (search : Search) (disk : Disk) (directory : Path) (order : List Path) (sweep : Sweep) :
    order.foldl (visit search disk directory) sweep =
      { pending := (order.filter fun path => search.entryAt? disk directory path = some .directory &&
          !isIgnored search.ignored path).reverse ++ sweep.pending
        listed := sweep.listed
        found := sweep.found ++ order.filter fun path =>
          Search.isFileEntry (search.entryAt? disk directory path) && search.wants path } := by
  induction order generalizing sweep with
  | nil => simp
  | cons path order ih =>
    rw [List.foldl_cons, ih, visit]
    cases hentry : search.entryAt? disk directory path with
    | none => simp [hentry, Search.isFileEntry]
    | some entry =>
      cases entry with
      | link target => simp [hentry, Search.isFileEntry]
      | file bytes =>
        by_cases hwants : search.wants path = true
        · simp [hentry, hwants, Search.isFileEntry]
        · simp [hentry, hwants, Search.isFileEntry]
      | directory =>
        by_cases hignored : isIgnored search.ignored path = true
        · simp [hentry, hignored, Search.isFileEntry]
        · simp [hentry, hignored, Search.isFileEntry]

/-- A turn lists the first directory of the stack; in its place come the directories below it, and the
files in it are found. -/
theorem Step.exists_of (h : Step search disk sweep next) : ∃ directory pending more kept,
    sweep.pending = directory :: pending ∧ next.pending = more ++ pending ∧
      next.listed = sweep.listed ++ [directory] ∧ next.found = sweep.found ++ kept ∧
      more.Perm (search.below disk directory) ∧ kept.Perm (search.filesIn disk directory) := by
  cases h with
  | list perm =>
    rw [foldl_visit]
    exact ⟨_, _, _, _, rfl, rfl, rfl, rfl, (List.reverse_perm _).trans (perm.filter _), perm.filter _⟩

theorem Step.length_listed (h : Step search disk sweep next) : next.listed.length = sweep.listed.length + 1 := by
  obtain ⟨_, _, _, _, -, -, hlisted, -⟩ := h.exists_of
  rw [hlisted, List.length_append, List.length_singleton]

/-- While directories wait there is a turn. -/
theorem exists_step (search : Search) (disk : Disk) (waiting : sweep.pending ≠ []) :
    ∃ next, Step search disk sweep next := by
  obtain ⟨pending, listed, found⟩ := sweep
  cases pending with
  | nil => exact absurd rfl waiting
  | cons directory pending => exact ⟨_, .list (List.Perm.refl _)⟩

/-! ## What turns keep -/

/-- The directories that have been listed or wait are reached, each by way of another one, none is there twice, and
those below a listed one are there. -/
structure Sound (search : Search) (disk : Disk) (root : Path) (top : Location) (sweep : Sweep) : Prop where
  distinct : (sweep.listed ++ sweep.pending).Nodup
  reached : ∀ directory ∈ sweep.listed ++ sweep.pending,
    ∃ names, search.Reached disk top names ∧ directory = root.down names
  root_mem : root ∈ sweep.listed ++ sweep.pending
  closed : ∀ directory ∈ sweep.listed, search.below disk directory ⊆ sweep.listed ++ sweep.pending
  entered : ∀ directory ∈ sweep.listed ++ sweep.pending,
    directory = root ∨ ∃ outer ∈ sweep.listed, directory ∈ search.below disk outer
  found : sweep.found.Perm (sweep.listed.flatMap (search.filesIn disk))

theorem sound_start (search : Search) (disk : Disk) (root : Path) (top : Location) :
    (start root).Sound search disk root top where
  distinct := List.nodup_singleton root
  reached := fun directory h => ⟨[], .top, by rw [List.mem_singleton.1 h, Path.down_nil]⟩
  root_mem := List.mem_singleton_self root
  closed := fun _ h => absurd h List.not_mem_nil
  entered := fun _ h => .inl (List.mem_singleton.1 h)
  found := List.Perm.nil

/-- What is below the next directory is not there yet. -/
theorem Sound.not_mem_of_mem_below {pending : List Path} {path : Path} (h : sweep.Sound search disk root top)
    (waiting : sweep.pending = directory :: pending) (hpath : path ∈ search.below disk directory) :
    path ∉ sweep.listed ++ sweep.pending := by
  intro hmem
  have hdirectory : directory ∈ sweep.pending := by simp [waiting]
  obtain ⟨name, rfl⟩ := Search.exists_of_mem_below hpath
  obtain hroot | ⟨outer, houter, hbelow⟩ := h.entered _ hmem
  · -- the root is not below a directory that is itself at or below the root
    obtain ⟨names, -, hnames⟩ := h.reached directory (List.mem_append_right _ hdirectory)
    rw [hnames, Path.child_down] at hroot
    have hparts := congrArg (fun path => path.parts.length) hroot
    simp [Path.down] at hparts
  · obtain ⟨name', hname'⟩ := Search.exists_of_mem_below hbelow
    obtain rfl := Path.eq_of_child_eq hname'
    exact List.disjoint_of_nodup_append h.distinct houter hdirectory

variable (tree : disk.IsTree) (following : search.followLinks = false) (located : disk.locate root = .ok top)
  (existing : disk.get? top = some .directory)

include tree following located existing

theorem Sound.step (h : sweep.Sound search disk root top) (turn : Step search disk sweep next) :
    next.Sound search disk root top := by
  obtain ⟨directory, pending, more, kept, hpending, hnext, hlisted, hfound, hmore, hkept⟩ := turn.exists_of
  have known : (next.listed ++ next.pending).Perm (more ++ (sweep.listed ++ sweep.pending)) := by
    rw [hnext, hlisted, hpending, List.append_cons sweep.listed directory pending]
    exact List.perm_append_comm_assoc _ _ _
  have hdirectory : directory ∈ sweep.listed ++ sweep.pending := by simp [hpending]
  constructor
  case distinct =>
    rw [known.nodup_iff, List.nodup_append]
    refine ⟨?_, h.distinct, ?_⟩
    · rw [hmore.nodup_iff]
      exact (Search.nodup_entriesIn tree directory).filter _
    · intro path hpath other hother heq
      exact h.not_mem_of_mem_below hpending (hmore.mem_iff.1 hpath) (heq ▸ hother)
  case reached =>
    intro path hpath
    rw [known.mem_iff, List.mem_append] at hpath
    obtain hpath | hpath := hpath
    · obtain ⟨names, hnames, rfl⟩ := h.reached directory hdirectory
      rw [hmore.mem_iff, hnames.mem_below_iff tree.toWellFormed following located existing] at hpath
      obtain ⟨name, hpath, hname⟩ := hpath
      exact ⟨_, hname, hpath⟩
    · exact h.reached path hpath
  case root_mem =>
    rw [known.mem_iff]
    exact List.mem_append_right _ h.root_mem
  case closed =>
    intro outer houter path hpath
    rw [known.mem_iff, List.mem_append]
    rw [hlisted, List.mem_append, List.mem_singleton] at houter
    obtain houter | rfl := houter
    · exact .inr (h.closed outer houter hpath)
    · exact .inl (hmore.mem_iff.2 hpath)
  case entered =>
    intro path hpath
    rw [known.mem_iff, List.mem_append] at hpath
    simp only [hlisted, List.mem_append, List.mem_singleton]
    obtain hpath | hpath := hpath
    · exact .inr ⟨directory, .inr rfl, hmore.mem_iff.1 hpath⟩
    · refine (h.entered path hpath).imp_right fun ⟨outer, houter, hbelow⟩ => ?_
      exact ⟨outer, .inl houter, hbelow⟩
  case found =>
    rw [hfound, hlisted, List.flatMap_append, List.flatMap_singleton]
    exact h.found.append hkept

theorem Sound.run (h : sweep.Sound search disk root top) (turns : Relation.ReflTransGen (Step search disk) sweep next) :
    next.Sound search disk root top := by
  induction turns with
  | refl => exact h
  | tail _ turn ih => exact ih.step tree following located existing turn

omit tree following located in
/-- No more directories are listed than the root and the entries of the disk. -/
theorem Sound.length_le (h : sweep.Sound search disk root top) : sweep.listed.length ≤ disk.entries.length + 1 := by
  have distinct := (List.nodup_append.1 h.distinct).1
  have places : sweep.listed ⊆ root :: disk.entries.map fun entry => root.down (entry.1.drop top.length) := by
    intro directory hdirectory
    obtain ⟨names, hnames, rfl⟩ := h.reached directory (List.mem_append_left _ hdirectory)
    by_cases hempty : names = []
    · simp [hempty, Path.down_nil]
    · have hmem := Disk.mem_entries_of_get? (by simp [hempty]) (hnames.get?_eq existing)
      exact List.mem_cons_of_mem _ (List.mem_map.2 ⟨_, hmem, by rw [List.drop_left]⟩)
  calc sweep.listed.length
    _ ≤ _ := (List.subperm_of_subset distinct places).length_le
    _ = disk.entries.length + 1 := by rw [List.length_cons, List.length_map]

/-- However a search goes on from here, it comes to an end. -/
def Ends (search : Search) (disk : Disk) (sweep : Sweep) : Prop :=
  Acc (fun later earlier => Step search disk earlier later) sweep

theorem Sound.ends (h : sweep.Sound search disk root top) : sweep.Ends search disk := by
  generalize hleft : disk.entries.length + 1 - sweep.listed.length = left
  induction left generalizing sweep with
  | zero =>
    refine ⟨_, fun next turn => ?_⟩
    have hle := (h.step tree following located existing turn).length_le existing
    rw [turn.length_listed] at hle
    omega
  | succ left ih =>
    refine ⟨_, fun next turn => ih (h.step tree following located existing turn) ?_⟩
    rw [turn.length_listed]
    omega

/-- When no directory waits, those that are reached have been listed. -/
theorem Sound.mem_listed_iff (h : sweep.Sound search disk root top) (empty : sweep.pending = []) :
    directory ∈ sweep.listed ↔ ∃ names, search.Reached disk top names ∧ directory = root.down names := by
  obtain ⟨-, reached, root_mem, closed, -, -⟩ := h
  rw [empty, List.append_nil] at reached root_mem closed
  refine ⟨reached directory, fun ⟨names, hnames, hdirectory⟩ => ?_⟩
  rw [hdirectory]
  clear hdirectory
  induction hnames with
  | top => rwa [Path.down_nil]
  | down outer held kept ih =>
    refine closed _ ih ?_
    rw [outer.mem_below_iff tree.toWellFormed following located existing]
    exact ⟨_, rfl, .down outer held kept⟩

theorem Sound.mem_found_iff {path : Path} (h : sweep.Sound search disk root top) (empty : sweep.pending = []) :
    path ∈ sweep.found ↔ search.Sought disk root path := by
  rw [h.found.mem_iff, Search.mem_flatMap_filesIn_iff tree.toWellFormed following located existing]
  exact fun directory => h.mem_listed_iff tree following located existing empty

/-- A search that is over has found what the recursion finds, and there is one order for it. -/
theorem Sound.result_eq (h : sweep.Sound search disk root top) (empty : sweep.pending = []) :
    sweep.result = search.files disk root := by
  have mem_files : ∀ path, path ∈ search.files disk root ↔ search.Sought disk root path :=
    fun _ => Search.mem_files_iff tree.toWellFormed following located existing
  have perm : sweep.result.Perm (search.files disk root) := by
    refine (List.mergeSort_perm _ _).trans ((List.perm_ext_iff_of_nodup ?_ ?_).2 fun path => ?_)
    · rw [h.found.nodup_iff]
      exact Search.nodup_flatMap_filesIn tree (List.nodup_append.1 h.distinct).1
    · exact Search.nodup_files tree following located existing
    · rw [h.mem_found_iff tree following located existing empty, mem_files]
  have anchor : ∀ path ∈ search.files disk root, path.anchor = root.anchor := by
    intro path hpath
    obtain ⟨_, _, _, _, -, -, -, hdown, -⟩ := (mem_files path).1 hpath
    rw [hdown, Path.down]
  refine List.Perm.eq_of_pairwise ?_ (Path.pairwise_mergeSort _) (Path.pairwise_mergeSort _) perm
  intro path later hpath hlater
  exact Path.before_antisymm ((anchor path (perm.mem_iff.1 hpath)).trans (anchor later hlater).symm)

end Sweep

namespace Search

/-- **A search finds what is to be found.** On a disk that is a tree, a search that passes links over starts from a
path whose real path is a directory. It finds the files that are sought below the real path, each once,
sorted by components; and with a stack, in whatever order the directories list what they hold, the
search comes to an end, lists no directory twice, and its result is the same list. -/
theorem find_eq_sought (search : Search) {disk : Disk} {root : Path} (tree : disk.IsTree)
    (following : search.followLinks = false) (existing : disk.isDirectory (disk.realPath root) = true) :
    ∃ files, search.find disk root = .ok files ∧ files.Pairwise (fun path later => path.before later = true) ∧
      files.Nodup ∧ (∀ path, path ∈ files ↔ search.Sought disk (disk.realPath root) path) ∧
      (Sweep.start (disk.realPath root)).Ends search disk ∧
      ∀ sweep, Relation.ReflTransGen (Sweep.Step search disk) (Sweep.start (disk.realPath root)) sweep →
        sweep.listed.Nodup ∧ (sweep.pending ≠ [] → ∃ next, Sweep.Step search disk sweep next) ∧
          (sweep.pending = [] → sweep.result = files) := by
  obtain ⟨top, located, held⟩ := Disk.isDirectory_iff.1 existing
  have hfind : search.find disk root = .ok (search.files disk (disk.realPath root)) := by
    have hstat : disk.stat? (disk.realPath root) = some .directory := of_decide_eq_true existing
    simp only [find, hstat]
  have start := Sweep.sound_start search disk (disk.realPath root) top
  refine ⟨_, hfind, Path.pairwise_mergeSort _, nodup_files tree following located held, ?_,
    start.ends tree following located held, ?_⟩
  · exact fun path => mem_files_iff tree.toWellFormed following located held
  · intro sweep turns
    have sound := start.run tree following located held turns
    exact ⟨(List.nodup_append.1 sound.distinct).1, Sweep.exists_step search disk,
      sound.result_eq tree following located held⟩

/-! ## A project with a link back to it -/

/-- A project with its dependencies, a name in capital letters, and a link back to where the project
stands. -/
def loopedDisk : Disk where
  home := ["work"]
  entries := [(["work"], .directory), (["work", "node_modules"], .directory),
    (["work", "node_modules", "a.js"], .file []), (["work", "src"], .directory), (["work", "src", "B.JS"], .file []),
    (["work", "src", "loop"], .link ".."), (["work", "readme.txt"], .file [])]

/-- The name of the project is ignored too. -/
def loopedSearch : Search := { ignored := "work" :: defaultIgnored }

/-- The project, by the link to it. -/
def loopedRoot : Path := ⟨.here, ["src", "loop"]⟩

theorem isTree_loopedDisk : loopedDisk.IsTree := by decide +kernel

theorem realPath_loopedDisk : loopedDisk.realPath loopedRoot = ⟨.root, ["work"]⟩ := by
  have hsteps : Disk.stepsOf ["work", "src"] ".." = (["work", "src"], [".."]) := by decide +kernel
  simp [Disk.realPath, Disk.realLocation, Disk.resolve, Disk.get?, Disk.lookup, Disk.startOf, loopedDisk, loopedRoot,
    hsteps]

theorem locate_loopedDisk : loopedDisk.locate ⟨.root, ["work"]⟩ = .ok ["work"] := by
  simp [Disk.locate, Disk.walk, Disk.get?, Disk.lookup, Disk.startOf, loopedDisk]

theorem reached_loopedDisk {names : List String} (h : loopedSearch.Reached loopedDisk ["work"] names) :
    names = [] ∨ names = ["src"] := by
  induction h with
  | top => exact .inl rfl
  | @down _ name _ held kept ih =>
    have hmem := Disk.mem_entries_of_get? (by simp) held
    obtain rfl | rfl := ih
    · have hname : name = "node_modules" ∨ name = "src" := by simpa [loopedDisk] using hmem
      obtain rfl | rfl := hname
      · exact absurd (by decide) kept
      · exact .inr rfl
    · simp [loopedDisk] at hmem

theorem sought_loopedDisk_iff {path : Path} : loopedSearch.Sought loopedDisk ⟨.root, ["work"]⟩ path ↔
    path = ⟨.root, ["work", "src", "B.JS"]⟩ := by
  constructor
  · intro ⟨top, names, name, bytes, located, hnames, held, hpath, hending, _⟩
    obtain rfl := Except.ok.inj (locate_loopedDisk.symm.trans located)
    have hmem := Disk.mem_entries_of_get? (by simp) held
    obtain rfl | rfl := reached_loopedDisk hnames
    · have hname : name = "readme.txt" ∧ bytes = [] := by simpa [loopedDisk] using hmem
      rw [hpath, hname.1] at hending
      exact absurd hending (by decide +kernel)
    · have hname : name = "B.JS" ∧ bytes = [] := by simpa [loopedDisk] using hmem
      rw [hpath, hname.1]
      rfl
  · intro h
    have hsrc : loopedSearch.Reached loopedDisk ["work"] ([] ++ ["src"]) := .down .top (by decide) (by decide)
    exact ⟨["work"], ["src"], "B.JS", [], locate_loopedDisk, hsrc, by decide, h, h ▸ by decide +kernel, rfl⟩

theorem find_eq_sought_loopedDisk : loopedDisk.IsTree ∧
    loopedSearch.find loopedDisk loopedRoot = .ok [⟨.root, ["work", "src", "B.JS"]⟩] ∧
    ∀ sweep, Relation.ReflTransGen (Sweep.Step loopedSearch loopedDisk) (Sweep.start ⟨.root, ["work"]⟩) sweep →
      sweep.pending = [] → sweep.result = [⟨.root, ["work", "src", "B.JS"]⟩] := by
  have existing : loopedDisk.isDirectory (loopedDisk.realPath loopedRoot) = true := by
    rw [realPath_loopedDisk]
    exact Disk.isDirectory_iff.2 ⟨_, locate_loopedDisk, by decide⟩
  obtain ⟨files, hfind, -, distinct, hmem, -, hsweeps⟩ := find_eq_sought loopedSearch isTree_loopedDisk rfl existing
  rw [realPath_loopedDisk] at hmem hsweeps
  have hfiles : files = [⟨.root, ["work", "src", "B.JS"]⟩] := by
    refine List.perm_singleton.1 ((List.perm_ext_iff_of_nodup distinct (List.nodup_singleton _)).2 fun path => ?_)
    rw [hmem, sought_loopedDisk_iff, List.mem_singleton]
  rw [hfiles] at hfind hsweeps
  exact ⟨isTree_loopedDisk, hfind, fun sweep turns => (hsweeps sweep turns).2.2⟩

end Search

end ScriptLint
