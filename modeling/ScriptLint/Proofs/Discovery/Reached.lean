/-
What a search is to find.

A search comes to the directories below its root that can be reached by directories
whose names are not on its list (`Reached`), and is to find the files in them that it
looks for (`Sought`). With links passed over, the recursion over the directories comes
to those that are reached (`mem_directories_iff`), as none of them is deeper than its
bound, and finds what it is to find (`mem_files_iff`). On a disk that is a tree it
comes to each directory once, and finds each file once (`nodup_files`).
-/
import Mathlib.Data.List.Nodup
import ScriptLint.Discovery
import ScriptLint.Proofs.Disk.RealPath

namespace ScriptLint

variable {search : Search} {disk : Disk} {place top : Location} {root path directory : Path} {name : String}
  {names more : List String} {entry : Entry}

/-! ## Disks that are trees -/

namespace Disk

/-- A disk on which every entry has a name and stands in a directory, and no place holds two. -/
structure IsTree (disk : Disk) : Prop extends disk.WellFormed where
  distinct : (disk.entries.map Prod.fst).Nodup

theorem isTree_iff : disk.IsTree ↔ disk.WellFormed ∧ (disk.entries.map Prod.fst).Nodup :=
  ⟨fun h => ⟨h.toWellFormed, h.distinct⟩, fun h => ⟨h.1, h.2⟩⟩

instance (disk : Disk) : Decidable disk.IsTree := decidable_of_iff' _ isTree_iff

theorem exists_lookup_of_mem {entries : List (Location × Entry)} (h : (place, entry) ∈ entries) :
    ∃ held, lookup place entries = some held := by
  induction entries with
  | nil => cases h
  | cons first rest ih =>
    by_cases hfirst : first.1 = place
    · exact ⟨first.2, by simp [lookup, hfirst]⟩
    · have hrest : (place, entry) ∈ rest := (List.mem_cons.1 h).resolve_left fun heq => hfirst (by rw [← heq])
      simpa [lookup, hfirst] using ih hrest

/-- The name of an entry in a directory, if it stands in that one. -/
theorem dropLast_getLast?_iff {location : Location} :
    (if location.dropLast = place then location.getLast? else none) = some name ↔ location = place ++ [name] := by
  constructor
  · intro h
    split at h
    · next habove => rw [← habove, List.dropLast_append_getLast? _ h]
    · cases h
  · intro h
    simp [h]

/-- A directory lists the names of what stands in it, ... -/
theorem mem_names_iff : name ∈ disk.names place ↔ ∃ entry, disk.get? (place ++ [name]) = some entry := by
  have hplace : place ++ [name] ≠ [] := by simp
  rw [names, List.mem_filterMap]
  simp only [dropLast_getLast?_iff]
  constructor
  · intro h
    obtain ⟨⟨location, held⟩, hmem, hlocation⟩ := h
    obtain ⟨entry, hentry⟩ := exists_lookup_of_mem hmem
    exact ⟨entry, by rw [get?, if_neg hplace, ← hlocation, hentry]⟩
  · intro h
    obtain ⟨entry, hentry⟩ := h
    exact ⟨_, mem_entries_of_get? hplace hentry, rfl⟩

/-- ... each of them once. -/
theorem IsTree.nodup_names (tree : disk.IsTree) (place : Location) : (disk.names place).Nodup := by
  have hnames : disk.names place = (disk.entries.map Prod.fst).filterMap fun location =>
      if location.dropLast = place then location.getLast? else none := by
    rw [names, List.filterMap_map]
    rfl
  rw [hnames]
  refine tree.distinct.filterMap fun location other name hlocation hother => ?_
  rw [dropLast_getLast?_iff.1 hlocation, dropLast_getLast?_iff.1 hother]

end Disk

/-! ## Paths below a path -/

namespace Path

/-- The path to what stands below a directory under some names, one inside the other. -/
def down (root : Path) (names : List String) : Path := ⟨root.anchor, root.parts ++ names⟩

theorem down_nil (root : Path) : root.down [] = root := by simp [down]

theorem child_down (root : Path) (names : List String) (name : String) :
    (root.down names).child name = root.down (names ++ [name]) := by simp [down, child]

theorem name_child (path : Path) (name : String) : (path.child name).name = name := by simp [child, Path.name]

theorem down_inj {names' : List String} : root.down names = root.down names' ↔ names = names' := by
  simp [down]

theorem child_injective (path : Path) : Function.Injective path.child := fun name name' h => by
  simpa [child] using h

/-- What is inside a directory tells the directory. -/
theorem eq_of_child_eq {other : Path} {name' : String} (h : path.child name = other.child name') : path = other := by
  obtain ⟨anchor, parts⟩ := path
  obtain ⟨anchor', parts'⟩ := other
  simp only [child, mk.injEq] at h
  rw [h.1, (List.append_inj' h.2 rfl).1]

end Path

namespace Search

/-! ## What is reached -/

/-- Names that lead down from a directory through directories, none of which has a name that is
ignored. What stands at a place is looked up as it is, so a link is no directory here. -/
inductive Reached (search : Search) (disk : Disk) (top : Location) : List String → Prop where
  | top : Reached search disk top []
  | down {names : List String} {name : String} (outer : Reached search disk top names)
      (held : disk.get? (top ++ names ++ [name]) = some .directory) (kept : name ∉ search.ignored) :
      Reached search disk top (names ++ [name])

/-- A file below a directory that a search is to find: it stands in a directory that is reached, its ending
in lower case is that of an extension, and it is not filtered out. -/
def Sought (search : Search) (disk : Disk) (root path : Path) : Prop :=
  ∃ top names name bytes, disk.locate root = .ok top ∧ search.Reached disk top names ∧
    disk.get? (top ++ names ++ [name]) = some (.file bytes) ∧ path = root.down (names ++ [name]) ∧
    lowerCase path.suffix ∈ search.extensions.map lowerCase ∧ search.keep path = true

theorem Reached.of_append_singleton (h : search.Reached disk top (names ++ [name])) :
    search.Reached disk top names ∧ disk.get? (top ++ names ++ [name]) = some .directory ∧ name ∉ search.ignored := by
  generalize hnames : names ++ [name] = whole at h
  cases h with
  | top => simp at hnames
  | down outer held kept =>
    obtain ⟨rfl, hname⟩ := List.append_inj' hnames rfl
    obtain rfl := List.singleton_inj.1 hname
    exact ⟨outer, held, kept⟩

theorem Reached.of_append (h : search.Reached disk top (names ++ more)) : search.Reached disk top names := by
  induction more using List.reverseRecOn with
  | nil => rwa [List.append_nil] at h
  | append_singleton more name ih =>
    rw [← List.append_assoc] at h
    exact ih h.of_append_singleton.1

theorem Reached.get?_eq (h : search.Reached disk top names) (existing : disk.get? top = some .directory) :
    disk.get? (top ++ names) = some .directory := by
  cases h with
  | top => rwa [List.append_nil]
  | down _ held _ => rwa [← List.append_assoc]

/-- No directory that is reached is deeper than the bound of the recursion. -/
theorem Reached.length_le (h : search.Reached disk top names) (existing : disk.get? top = some .directory) :
    names.length ≤ depthLimit disk := by
  by_cases hnames : names = []
  · simp [hnames]
  · have hmem := Disk.mem_entries_of_get? (by simp [hnames]) (h.get?_eq existing)
    have hle := List.le_max?_getD_of_mem (List.mem_map_of_mem (f := fun entry => entry.1.length) hmem) (k := 0)
    rw [List.length_append] at hle
    rw [depthLimit, List.foldl_max, Nat.zero_max]
    calc names.length
      _ ≤ (disk.entries.map fun entry => entry.1.length).max?.getD 0 + 1 := by omega
      _ ≤ (Disk.linkLimit + 1) * _ := Nat.le_mul_of_pos_left _ (Nat.succ_pos _)

/-- An entry of a directory is a child of it. -/
theorem exists_of_mem_entriesIn (h : path ∈ entriesIn disk directory) : ∃ name, path = directory.child name := by
  unfold entriesIn at h
  split at h
  · obtain ⟨name, -, rfl⟩ := List.mem_map.1 h
    exact ⟨name, rfl⟩
  · cases h

theorem exists_of_mem_below (h : path ∈ search.below disk directory) : ∃ name, path = directory.child name :=
  exists_of_mem_entriesIn (List.mem_filter.1 h).1

theorem exists_of_mem_filesIn (h : path ∈ search.filesIn disk directory) : ∃ name, path = directory.child name :=
  exists_of_mem_entriesIn (List.mem_filter.1 h).1

theorem nodup_entriesIn (tree : disk.IsTree) (directory : Path) : (entriesIn disk directory).Nodup := by
  unfold entriesIn
  split
  · exact (tree.nodup_names _).map directory.child_injective
  · exact List.nodup_nil

section Reached

variable (wf : disk.WellFormed) (following : search.followLinks = false) (located : disk.locate root = .ok top)
  (existing : disk.get? top = some .directory)

include wf located existing

/-- A directory that is reached is found by its names. -/
theorem Reached.locate_eq (h : search.Reached disk top names) : disk.locate (root.down names) = .ok (top ++ names) :=
  Disk.walk_append located fun _ =>
    wf.walk_down Disk.directory_ne_link names top (h.get?_eq existing)

theorem Reached.mem_entriesIn_iff (h : search.Reached disk top names) : path ∈ entriesIn disk (root.down names) ↔
    ∃ name entry, path = root.down (names ++ [name]) ∧ disk.get? (top ++ names ++ [name]) = some entry := by
  simp only [entriesIn, h.locate_eq wf located existing, List.mem_map, Disk.mem_names_iff, Path.child_down]
  constructor
  · intro h
    obtain ⟨name, ⟨entry, hentry⟩, hpath⟩ := h
    exact ⟨name, entry, hpath.symm, hentry⟩
  · intro h
    obtain ⟨name, entry, hpath, hentry⟩ := h
    exact ⟨name, ⟨entry, hentry⟩, hpath.symm⟩

include following

/-- An entry of a directory that is reached counts as what it is, and a link as nothing. -/
theorem Reached.entryAt?_eq_some_iff (h : search.Reached disk top names) :
    search.entryAt? disk (root.down names) (root.down (names ++ [name])) = some entry ↔
      disk.get? (top ++ names ++ [name]) = some entry ∧ ∀ target, entry ≠ .link target := by
  have hname : (root.down (names ++ [name])).name = name := by rw [← Path.child_down, Path.name_child]
  simp only [entryAt?, ownEntry?, h.locate_eq wf located existing, hname, following, Bool.false_eq_true, if_false]
  cases disk.get? (top ++ names ++ [name]) with
  | none => simp
  | some held => cases held <;> grind

/-- The directories to search in one that is reached are those reached through it. -/
theorem Reached.mem_below_iff (h : search.Reached disk top names) : path ∈ search.below disk (root.down names) ↔
    ∃ name, path = root.down (names ++ [name]) ∧ search.Reached disk top (names ++ [name]) := by
  have hname : ∀ name, (root.down (names ++ [name])).name = name := fun name => by rw [← Path.child_down, Path.name_child]
  simp only [Search.below, List.mem_filter, h.mem_entriesIn_iff wf located existing, Bool.and_eq_true,
    decide_eq_true_eq, Bool.not_eq_true', isIgnored]
  constructor
  · intro ⟨⟨name, entry, hpath, hentry⟩, hdirectory, hkept⟩
    rw [hpath, h.entryAt?_eq_some_iff wf following located existing] at hdirectory
    rw [hpath, hname] at hkept
    exact ⟨name, hpath, .down h hdirectory.1 (by simpa using hkept)⟩
  · intro ⟨name, hpath, hreached⟩
    obtain ⟨-, held, kept⟩ := hreached.of_append_singleton
    refine ⟨⟨name, _, hpath, held⟩, ?_, ?_⟩
    · rw [hpath, h.entryAt?_eq_some_iff wf following located existing]
      exact ⟨held, Disk.directory_ne_link⟩
    · rw [hpath, hname]
      simpa using kept

theorem Reached.mem_filesIn_iff (h : search.Reached disk top names) : path ∈ search.filesIn disk (root.down names) ↔
    ∃ name bytes, path = root.down (names ++ [name]) ∧ disk.get? (top ++ names ++ [name]) = some (.file bytes) ∧
      lowerCase path.suffix ∈ search.extensions.map lowerCase ∧ search.keep path = true := by
  have hfile : ∀ held : Option Entry, isFileEntry held = true ↔ ∃ bytes, held = some (.file bytes) := by
    intro held
    unfold isFileEntry
    split <;> simp_all
  simp only [filesIn, List.mem_filter, h.mem_entriesIn_iff wf located existing, Bool.and_eq_true, hfile, wants,
    isSourceFile, List.contains_iff_mem]
  constructor
  · intro ⟨⟨name, entry, hpath, hentry⟩, ⟨bytes, hbytes⟩, hwanted⟩
    rw [hpath, h.entryAt?_eq_some_iff wf following located existing] at hbytes
    exact ⟨name, bytes, hpath, hbytes.1, hwanted⟩
  · intro ⟨name, bytes, hpath, hbytes, hwanted⟩
    refine ⟨⟨name, _, hpath, hbytes⟩, ⟨bytes, ?_⟩, hwanted⟩
    rw [hpath, h.entryAt?_eq_some_iff wf following located existing]
    exact ⟨hbytes, nofun⟩

/-! ## The recursion over directories -/

theorem Reached.mem_directories_iff (h : search.Reached disk top names) (depth : Nat) :
    path ∈ search.directories disk depth (root.down names) ↔
      ∃ more, more.length ≤ depth ∧ search.Reached disk top (names ++ more) ∧ path = root.down (names ++ more) := by
  induction depth generalizing names with
  | zero =>
    simp only [directories, List.mem_singleton, Nat.le_zero, List.length_eq_zero_iff, exists_eq_left, List.append_nil]
    exact ⟨fun hpath => ⟨h, hpath⟩, fun hpath => hpath.2⟩
  | succ depth ih =>
    simp only [directories, List.mem_cons, List.mem_flatMap, h.mem_below_iff wf following located existing]
    constructor
    · intro hpath
      obtain hpath | ⟨_, ⟨name, rfl, hinner⟩, hpath⟩ := hpath
      · exact ⟨[], Nat.zero_le _, by simpa using h, by simpa using hpath⟩
      · obtain ⟨more, hlength, hmore, hpath⟩ := (ih hinner).1 hpath
        rw [List.append_assoc] at hmore hpath
        exact ⟨name :: more, Nat.succ_le_succ hlength, hmore, hpath⟩
    · intro ⟨more, hlength, hmore, hpath⟩
      cases more with
      | nil => exact .inl (by simpa using hpath)
      | cons name more =>
        rw [List.append_cons] at hmore hpath
        refine .inr ⟨_, ⟨name, rfl, hmore.of_append⟩, (ih hmore.of_append).2 ?_⟩
        exact ⟨more, Nat.le_of_succ_le_succ hlength, hmore, hpath⟩

theorem mem_directories_iff : path ∈ search.directories disk (depthLimit disk) root ↔
    ∃ names, search.Reached disk top names ∧ path = root.down names := by
  have htop : search.Reached disk top [] := .top
  rw [← Path.down_nil root, htop.mem_directories_iff wf following located existing]
  simp only [List.nil_append, Path.down_nil]
  constructor
  · intro ⟨names, _, hnames, hpath⟩
    exact ⟨names, hnames, hpath⟩
  · intro ⟨names, hnames, hpath⟩
    exact ⟨names, hnames.length_le existing, hnames, hpath⟩

end Reached

section Files

variable {directories : List Path}

/-- What is found in the directories that are reached is what is sought. -/
theorem mem_flatMap_filesIn_iff (wf : disk.WellFormed) (following : search.followLinks = false)
    (located : disk.locate root = .ok top) (existing : disk.get? top = some .directory)
    (reached : ∀ directory, directory ∈ directories ↔
      ∃ names, search.Reached disk top names ∧ directory = root.down names) :
    path ∈ directories.flatMap (search.filesIn disk) ↔ search.Sought disk root path := by
  simp only [List.mem_flatMap, reached]
  constructor
  · intro ⟨directory, ⟨names, hnames, hdirectory⟩, hpath⟩
    rw [hdirectory, hnames.mem_filesIn_iff wf following located existing] at hpath
    obtain ⟨name, bytes, hpath, hbytes, hwanted⟩ := hpath
    exact ⟨top, names, name, bytes, located, hnames, hbytes, hpath, hwanted⟩
  · intro ⟨top', names, name, bytes, hlocated, hnames, hbytes, hpath, hwanted⟩
    obtain rfl := Except.ok.inj (located.symm.trans hlocated)
    refine ⟨_, ⟨names, hnames, rfl⟩, ?_⟩
    rw [hnames.mem_filesIn_iff wf following located existing]
    exact ⟨name, bytes, hpath, hbytes, hwanted⟩

/-- A search finds just the files that are sought. -/
theorem mem_files_iff (wf : disk.WellFormed) (following : search.followLinks = false)
    (located : disk.locate root = .ok top) (existing : disk.get? top = some .directory) :
    path ∈ search.files disk root ↔ search.Sought disk root path := by
  rw [files, List.mem_mergeSort, mem_flatMap_filesIn_iff wf following located existing]
  exact fun directory => mem_directories_iff wf following located existing

/-- No file is found twice in different directories. -/
theorem nodup_flatMap_filesIn (tree : disk.IsTree) (distinct : directories.Nodup) :
    (directories.flatMap (search.filesIn disk)).Nodup := by
  refine List.nodup_flatMap.2 ⟨fun directory _ => (nodup_entriesIn tree directory).filter _, ?_⟩
  refine distinct.imp fun hne path hfirst hsecond => hne ?_
  obtain ⟨name, rfl⟩ := exists_of_mem_filesIn hfirst
  obtain ⟨name', hname'⟩ := exists_of_mem_filesIn hsecond
  exact Path.eq_of_child_eq hname'

end Files

section Distinct

variable (tree : disk.IsTree) (following : search.followLinks = false) (located : disk.locate root = .ok top)
  (existing : disk.get? top = some .directory)

include tree following located existing

/-- The recursion comes to no directory twice: what is below one of two entries is not below the
other. -/
theorem Reached.nodup_directories (h : search.Reached disk top names) (depth : Nat) :
    (search.directories disk depth (root.down names)).Nodup := by
  induction depth generalizing names with
  | zero => exact List.nodup_singleton _
  | succ depth ih =>
    have inside : ∀ {path inner}, inner ∈ search.below disk (root.down names) →
        path ∈ search.directories disk depth inner →
          ∃ name more, inner = root.down (names ++ [name]) ∧ path = root.down (names ++ name :: more) := by
      intro path inner hinner hpath
      obtain ⟨name, rfl, hname⟩ := (h.mem_below_iff tree.toWellFormed following located existing).1 hinner
      obtain ⟨more, -, -, rfl⟩ := (hname.mem_directories_iff tree.toWellFormed following located existing depth).1 hpath
      exact ⟨name, more, rfl, by rw [List.append_assoc, List.singleton_append]⟩
    rw [directories, List.nodup_cons, List.nodup_flatMap]
    refine ⟨?_, ?_, ?_⟩
    · intro hmem
      obtain ⟨inner, hinner, hpath⟩ := List.mem_flatMap.1 hmem
      obtain ⟨name, more, -, hpath⟩ := inside hinner hpath
      simp [Path.down_inj] at hpath
    · intro inner hinner
      obtain ⟨name, rfl, hname⟩ := (h.mem_below_iff tree.toWellFormed following located existing).1 hinner
      exact ih hname
    · refine ((nodup_entriesIn tree _).filter _).imp_of_mem fun hfirst hsecond hne path hpath hpath' => hne ?_
      obtain ⟨name, more, rfl, rfl⟩ := inside hfirst hpath
      obtain ⟨name', more', rfl, hsame⟩ := inside hsecond hpath'
      rw [Path.down_inj, List.append_cancel_left_eq, List.cons.injEq] at hsame
      rw [hsame.1]

theorem nodup_directories : (search.directories disk (depthLimit disk) root).Nodup := by
  have htop : search.Reached disk top [] := .top
  rw [← Path.down_nil root]
  exact htop.nodup_directories tree following located existing _

theorem nodup_files : (search.files disk root).Nodup := by
  rw [files, (List.mergeSort_perm _ _).nodup_iff]
  exact nodup_flatMap_filesIn tree (nodup_directories tree following located existing)

end Distinct

end Search

end ScriptLint
