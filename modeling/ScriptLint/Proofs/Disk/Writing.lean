/-
Writing to the files of a disk.

Replacing the content of a file leaves every path leading where it led: looking
a path up asks what kinds of entries stand where, never what files hold
(`SameLayout.locate`). So a write shows to paths of that one file only
(`read_write_self`, `read_write_other`), and writes to two files can be done in
either order (`write_comm`).
-/
import ScriptLint.Disk.Basic

namespace ScriptLint

/-- An entry with its content left aside, if it is a file. -/
def Entry.emptied : Entry → Entry
  | .file _ => .file []
  | entry => entry

namespace Disk

variable {disk : Disk} {path other : Path} {old new : Bytes}

/-! ## Layout -/

/-- The same entries in the same places, but for what files hold. -/
structure SameLayout (first second : Disk) : Prop where
  home : first.home = second.home
  entries : ∀ place, (first.get? place).map Entry.emptied = (second.get? place).map Entry.emptied

theorem SameLayout.refl (disk : Disk) : disk.SameLayout disk := ⟨rfl, fun _ => rfl⟩

theorem SameLayout.symm {first second : Disk} (h : first.SameLayout second) : second.SameLayout first :=
  ⟨h.home.symm, fun place => (h.entries place).symm⟩

theorem SameLayout.trans {first second third : Disk} (h : first.SameLayout second)
    (h' : second.SameLayout third) : first.SameLayout third :=
  ⟨h.home.trans h'.home, fun place => (h.entries place).trans (h'.entries place)⟩

section SameLayout

variable {first second : Disk} (h : first.SameLayout second)

include h

theorem SameLayout.get?_eq_none {place : Location} (hnone : first.get? place = none) :
    second.get? place = none := by
  rw [← Option.map_eq_none_iff, ← h.entries, hnone, Option.map_none]

theorem SameLayout.exists_get? {place : Location} {entry : Entry} (hentry : first.get? place = some entry) :
    ∃ other, second.get? place = some other ∧ other.emptied = entry.emptied := by
  have hplace := h.entries place
  rwa [hentry, Option.map_some, eq_comm, Option.map_eq_some_iff] at hplace

theorem SameLayout.get?_directory {place : Location} (hdirectory : first.get? place = some .directory) :
    second.get? place = some .directory := by
  obtain ⟨other, hother, hsame⟩ := h.exists_get? hdirectory
  cases other with
  | directory => exact hother
  | file held => cases hsame
  | link target => cases hsame

theorem SameLayout.get?_link {place : Location} {target : String}
    (hlink : first.get? place = some (.link target)) : second.get? place = some (.link target) := by
  obtain ⟨other, hother, hsame⟩ := h.exists_get? hlink
  cases other with
  | link target' => rw [hother, show target' = target from Entry.link.inj hsame]
  | file held => cases hsame
  | directory => cases hsame

theorem SameLayout.get?_file {place : Location} {held : Bytes} (hfile : first.get? place = some (.file held)) :
    ∃ held', second.get? place = some (.file held') := by
  obtain ⟨other, hother, hsame⟩ := h.exists_get? hfile
  cases other with
  | file held' => exact ⟨held', hother⟩
  | directory => cases hsame
  | link target => cases hsame

/-- Steps lead to the same places. -/
theorem SameLayout.walk (links : Nat) (place : Location) (steps : List String) :
    walk first links place steps = walk second links place steps := by
  fun_induction Disk.walk first links place steps with
  | case1 => rw [Disk.walk]
  | case2 links place step rest hnone => rw [Disk.walk, h.get?_eq_none hnone]
  | case3 links place step rest hdirectory hstay ih =>
    rw [Disk.walk, h.get?_directory hdirectory, if_pos hstay, ih]
  | case4 links place rest hdirectory hstay ih =>
    rw [Disk.walk, h.get?_directory hdirectory, if_neg hstay, if_pos rfl, ih]
  | case5 links place step rest hdirectory hstay hup hnone =>
    rw [Disk.walk, h.get?_directory hdirectory, if_neg hstay, if_neg hup, h.get?_eq_none hnone]
  | case6 place step rest hdirectory hstay hup target hlink =>
    rw [Disk.walk, h.get?_directory hdirectory, if_neg hstay, if_neg hup, h.get?_link hlink]
  | case7 place step rest hdirectory hstay hup target hlink links start steps hsteps ih =>
    rw [Disk.walk, h.get?_directory hdirectory, if_neg hstay, if_neg hup, h.get?_link hlink]
    simp only [hsteps, ih]
  | case8 links place step rest hdirectory hstay hup entry hnotLink hentry ih =>
    rw [Disk.walk, h.get?_directory hdirectory, if_neg hstay, if_neg hup]
    cases entry with
    | link target => exact absurd rfl (hnotLink target)
    | directory => rw [h.get?_directory hentry, ih]
    | file held =>
      obtain ⟨held', hfile⟩ := h.get?_file hentry
      rw [hfile, ih]
  | case9 links place step rest entry hnotDirectory hentry =>
    rw [Disk.walk]
    cases entry with
    | directory => exact absurd rfl hnotDirectory
    | link target => rw [h.get?_link hentry]
    | file held =>
      obtain ⟨held', hfile⟩ := h.get?_file hentry
      rw [hfile]

/-- Paths lead to the same places. -/
theorem SameLayout.locate (path : Path) : first.locate path = second.locate path := by
  rw [Disk.locate, Disk.locate, startOf, startOf, h.home, h.walk]

end SameLayout

/-! ## Files -/

theorem read_eq_ok_iff {held : Bytes} : disk.read path = .ok held ↔
    ∃ place, disk.locate path = .ok place ∧ disk.get? place = some (.file held) := by
  unfold read
  cases hlocate : disk.locate path with
  | error reason => simp
  | ok place =>
    simp only [Except.ok.injEq, exists_eq_left']
    split
    · next bytes hfile => simp [hfile]
    · next hdirectory => simp [hdirectory]
    · next hfile _ =>
      exact iff_of_false (by simp) fun h => hfile held h

theorem isFile_iff : disk.isFile path = true ↔
    ∃ place held, disk.locate path = .ok place ∧ disk.get? place = some (.file held) := by
  unfold isFile stat?
  cases hlocate : disk.locate path with
  | error reason => simp
  | ok place =>
    simp only [Except.ok.injEq, exists_eq_left', exists_and_left]
    split
    · next bytes hfile => simp [hfile]
    · next hfile => exact iff_of_false (by simp) fun ⟨held, h⟩ => hfile held h

theorem isDirectory_iff : disk.isDirectory path = true ↔
    ∃ place, disk.locate path = .ok place ∧ disk.get? place = some .directory := by
  rw [isDirectory, decide_eq_true_iff, stat?]
  cases disk.locate path with
  | error reason => simp
  | ok place => simp

/-- A path leads to a file just when it can be read. -/
theorem isFile_iff_read : disk.isFile path = true ↔ ∃ held, disk.read path = .ok held := by
  simp only [isFile_iff, read_eq_ok_iff]
  exact exists_comm

theorem SameLayout.isFile {first second : Disk} (h : first.SameLayout second) (hfile : first.isFile path = true) :
    second.isFile path = true := by
  obtain ⟨place, held, hlocate, hheld⟩ := isFile_iff.1 hfile
  obtain ⟨held', hheld'⟩ := h.get?_file hheld
  exact isFile_iff.2 ⟨place, held', (h.locate path).symm.trans hlocate, hheld'⟩

/-! ## One write -/

theorem get?_put_self {place : Location} (h : place ≠ []) (entry : Entry) :
    (disk.put place entry).get? place = some entry := by
  rw [get?, if_neg h]
  exact lookup_update_self place entry disk.entries

theorem get?_put_other {place elsewhere : Location} (h : elsewhere ≠ place) (entry : Entry) :
    (disk.put place entry).get? elsewhere = disk.get? elsewhere := by
  rw [get?, get?]
  exact congrArg _ (lookup_update_other h entry disk.entries)

/-- The root is a directory. -/
theorem ne_nil_of_get?_file {place : Location} {held : Bytes} (h : disk.get? place = some (.file held)) :
    place ≠ [] := by
  rintro rfl
  cases h

theorem sameLayout_put {place : Location} {held : Bytes} (h : disk.get? place = some (.file held)) :
    (disk.put place (.file new)).SameLayout disk := by
  refine ⟨rfl, fun elsewhere => ?_⟩
  by_cases hplace : elsewhere = place
  · subst hplace
    rw [get?_put_self (ne_nil_of_get?_file h), h]
    rfl
  · rw [get?_put_other hplace]

theorem write_of_locate {place : Location} (h : disk.locate path = .ok place) :
    disk.write path new = disk.put place (.file new) := by
  simp only [write, h]

/-- A write to a file moves nothing. -/
theorem sameLayout_write (h : disk.isFile path = true) : (disk.write path new).SameLayout disk := by
  obtain ⟨place, held, hlocate, hheld⟩ := isFile_iff.1 h
  rw [write_of_locate hlocate]
  exact sameLayout_put hheld

/-- What was written is read. -/
theorem read_write_self (h : disk.isFile path = true) : (disk.write path new).read path = .ok new := by
  obtain ⟨place, held, hlocate, hheld⟩ := isFile_iff.1 h
  refine read_eq_ok_iff.2 ⟨place, ?_, ?_⟩
  · rw [(sameLayout_write h).locate, hlocate]
  · rw [write_of_locate hlocate, get?_put_self (ne_nil_of_get?_file hheld)]

/-- A write does not show elsewhere. -/
theorem read_write_other (h : disk.isFile path = true) (hother : disk.locate other ≠ disk.locate path) :
    (disk.write path new).read other = disk.read other := by
  obtain ⟨place, held, hlocate, hheld⟩ := isFile_iff.1 h
  have hsame : (disk.write path new).locate other = disk.locate other := (sameLayout_write h).locate other
  rw [hlocate] at hother
  unfold read
  rw [hsame]
  cases helsewhere : disk.locate other with
  | error reason => rfl
  | ok elsewhere =>
    have hne : elsewhere ≠ place := fun heq => hother (by rw [helsewhere, heq])
    simp only [write_of_locate hlocate, get?_put_other hne]

/-! ## Two writes -/

/-- Entries that are there can be replaced in either order. -/
theorem update_comm {first second : Location} (hne : first ≠ second) (entry entry' : Entry) :
    ∀ {entries : List (Location × Entry)}, lookup first entries ≠ none → lookup second entries ≠ none →
      update first entry (update second entry' entries) = update second entry' (update first entry entries)
  | [], h, _ => absurd rfl h
  | (location, held) :: rest, h, h' => by
    by_cases hfirst : location = first
    · subst hfirst
      simp [update, hne]
    · by_cases hsecond : location = second
      · subst hsecond
        simp [update, hne.symm]
      · simp only [lookup, if_neg hfirst, if_neg hsecond] at h h'
        simp only [update, if_neg hfirst, if_neg hsecond, update_comm hne entry entry' h h']

theorem lookup_ne_none {place : Location} {held : Bytes} (h : disk.get? place = some (.file held)) :
    lookup place disk.entries ≠ none := by
  rw [get?, if_neg (ne_nil_of_get?_file h)] at h
  rw [h]
  nofun

/-- Writes to two files can be done in either order. -/
theorem write_comm {new' : Bytes} (h : disk.isFile path = true) (h' : disk.isFile other = true)
    (hne : disk.locate path ≠ disk.locate other) :
    (disk.write path new).write other new' = (disk.write other new').write path new := by
  obtain ⟨place, held, hlocate, hheld⟩ := isFile_iff.1 h
  obtain ⟨place', held', hlocate', hheld'⟩ := isFile_iff.1 h'
  have hplaces : place' ≠ place := by
    rintro rfl
    exact hne (hlocate.trans hlocate'.symm)
  rw [write_of_locate (((sameLayout_write h).locate other).trans hlocate'),
    write_of_locate (((sameLayout_write h').locate path).trans hlocate), write_of_locate hlocate,
    write_of_locate hlocate']
  simp only [put, update_comm hplaces _ _ (lookup_ne_none hheld') (lookup_ne_none hheld)]

end Disk

end ScriptLint
