/-
Real paths lead where their paths do.

Where steps lead is said by a relation (`Leads`), which knows no bounds: links that
run in a circle lead nowhere. A lookup that finds something ends where the steps
lead (`leads_of_walk`), and so does resolving them (`Leads.resolve`), so a path
that leads somewhere leads to its real path (`realLocation_of_locate`). A place is
canonical when no link is passed on the way to it: real paths are (`canonical`),
and resolving them again changes nothing (`realLocation_of_canonical`). On a disk
whose entries all stand in directories each of them is found under its own names
(`WellFormed.locate_of_get?`).
-/
import Mathlib.Data.List.Induction
import Mathlib.Data.List.Perm.Subperm
import ScriptLint.Disk.RealPath
import ScriptLint.Proofs.Disk.Writing

namespace ScriptLint

namespace Disk

variable {disk : Disk} {place final : Location} {path : Path} {steps rest : List String} {entry : Entry}

/-! ## Canonical places -/

/-- A step that goes down: it neither stays nor goes up. -/
def GoesDown (step : String) : Prop := step ≠ "" ∧ step ≠ "." ∧ step ≠ ".."

instance (step : String) : Decidable (GoesDown step) :=
  inferInstanceAs (Decidable (step ≠ "" ∧ step ≠ "." ∧ step ≠ ".."))

/-- A place that is reached from the root directory without passing a link, the place itself included. -/
inductive Canonical (disk : Disk) : Location → Prop where
  | root : Canonical disk []
  | down {place : Location} {step : String} (outer : Canonical disk place) (down : GoesDown step)
      (unlinked : ∀ target, disk.get? (place ++ [step]) ≠ some (.link target)) : Canonical disk (place ++ [step])

theorem Canonical.of_append_singleton {step : String} (h : disk.Canonical (place ++ [step])) :
    disk.Canonical place ∧ GoesDown step ∧ ∀ target, disk.get? (place ++ [step]) ≠ some (.link target) := by
  generalize hplace : place ++ [step] = whole at h
  cases h with
  | root => simp at hplace
  | down outer down unlinked =>
    obtain ⟨rfl, hstep⟩ := List.append_inj' hplace rfl
    obtain rfl := List.singleton_inj.1 hstep
    exact ⟨outer, down, unlinked⟩

theorem Canonical.of_append : ∀ {rest : List String}, disk.Canonical (place ++ rest) → disk.Canonical place := by
  intro rest
  induction rest using List.reverseRecOn with
  | nil => exact fun h => by rwa [List.append_nil] at h
  | append_singleton rest step ih =>
    intro h
    rw [← List.append_assoc] at h
    exact ih h.of_append_singleton.1

theorem Canonical.dropLast (h : disk.Canonical place) : disk.Canonical place.dropLast := by
  cases h with
  | root => exact .root
  | down outer _ _ =>
    rw [List.dropLast_concat]
    exact outer

/-- Where a link leads from: the root directory, or the directory that it stands in. -/
theorem Canonical.stepsOf (h : disk.Canonical place) (target : String) :
    disk.Canonical (Disk.stepsOf place target).1 := by
  rw [Disk.stepsOf]
  dsimp only
  split
  · exact .root
  · exact h

/-! ## Where steps lead -/

/-- Steps lead from a place to another one when links are followed; names that do not exist are kept.
`passed` counts the steps, those that links stand for included: links that run in a circle lead
nowhere. -/
inductive Leads (disk : Disk) : Nat → Location → List String → Location → Prop where
  | done (place : Location) : Leads disk 0 place [] place
  | stay {passed : Nat} {place final : Location} {step : String} {rest : List String} (h : step = "" ∨ step = ".")
      (later : Leads disk passed place rest final) : Leads disk (passed + 1) place (step :: rest) final
  | up {passed : Nat} {place final : Location} {rest : List String}
      (later : Leads disk passed place.dropLast rest final) : Leads disk (passed + 1) place (".." :: rest) final
  | down {passed : Nat} {place final : Location} {step : String} {rest : List String} (h : GoesDown step)
      (unlinked : ∀ target, disk.get? (place ++ [step]) ≠ some (.link target))
      (later : Leads disk passed (place ++ [step]) rest final) : Leads disk (passed + 1) place (step :: rest) final
  | link {within passed : Nat} {place inside final : Location} {step target : String} {rest : List String}
      (h : GoesDown step) (linked : disk.get? (place ++ [step]) = some (.link target))
      (inner : Leads disk within (stepsOf place target).1 (stepsOf place target).2 inside)
      (later : Leads disk passed inside rest final) : Leads disk (within + passed + 1) place (step :: rest) final

/-- A path whose links, if it has some, do not run in a circle. -/
def Resolves (disk : Disk) (path : Path) : Prop :=
  ∃ passed final, disk.Leads passed (disk.startOf path) path.parts final

namespace Leads

variable {passed : Nat}

theorem canonical (h : disk.Leads passed place steps final) (hplace : disk.Canonical place) :
    disk.Canonical final := by
  induction h with
  | done => exact hplace
  | stay _ _ ih => exact ih hplace
  | up _ ih => exact ih hplace.dropLast
  | down hdown unlinked _ ih => exact ih (.down hplace hdown unlinked)
  | link _ _ _ _ ihInner ih => exact ih (ihInner (hplace.stepsOf _))

/-- Steps lead to one place only, in one way. -/
theorem unique (h : disk.Leads passed place steps final) : ∀ {passed' : Nat} {final' : Location},
    disk.Leads passed' place steps final' → passed' = passed ∧ final' = final := by
  induction h with
  | done =>
    intro _ _ h'
    cases h'
    exact ⟨rfl, rfl⟩
  | stay hstay _ ih =>
    intro _ _ h'
    cases h' with
    | stay _ later => exact ⟨congrArg (· + 1) (ih later).1, (ih later).2⟩
    | up => simp at hstay
    | down hdown | link hdown => exact absurd hstay (not_or.2 ⟨hdown.1, hdown.2.1⟩)
  | up _ ih =>
    intro _ _ h'
    cases h' with
    | stay hstay => simp at hstay
    | up later => exact ⟨congrArg (· + 1) (ih later).1, (ih later).2⟩
    | down hdown | link hdown => exact absurd rfl hdown.2.2
  | down hdown unlinked _ ih =>
    intro _ _ h'
    cases h' with
    | stay hstay => exact absurd hstay (not_or.2 ⟨hdown.1, hdown.2.1⟩)
    | up => exact absurd rfl hdown.2.2
    | down _ _ later => exact ⟨congrArg (· + 1) (ih later).1, (ih later).2⟩
    | link _ linked => exact absurd linked (unlinked _)
  | link hdown linked _ _ ihInner ih =>
    intro _ _ h'
    cases h' with
    | stay hstay => exact absurd hstay (not_or.2 ⟨hdown.1, hdown.2.1⟩)
    | up => exact absurd rfl hdown.2.2
    | down _ unlinked => exact absurd linked (unlinked _)
    | link _ linked' inner later =>
      obtain rfl := Entry.link.inj (Option.some.inj (linked'.symm.trans linked))
      obtain ⟨rfl, rfl⟩ := ihInner inner
      obtain ⟨rfl, rfl⟩ := ih later
      exact ⟨rfl, rfl⟩

/-- Steps come to a place on the way of more of them. -/
theorem of_append : ∀ {first second : List String} {passed : Nat} {place : Location},
    disk.Leads passed place (first ++ second) final →
      ∃ before middle after, disk.Leads before place first middle ∧ disk.Leads after middle second final
  | [], _, _, place, h => ⟨0, place, _, .done place, h⟩
  | step :: first, _, _, _, h => by
    cases h with
    | stay hstay later =>
      obtain ⟨_, _, _, hfirst, hsecond⟩ := of_append later
      exact ⟨_, _, _, .stay hstay hfirst, hsecond⟩
    | up later =>
      obtain ⟨_, _, _, hfirst, hsecond⟩ := of_append later
      exact ⟨_, _, _, .up hfirst, hsecond⟩
    | down hdown unlinked later =>
      obtain ⟨_, _, _, hfirst, hsecond⟩ := of_append later
      exact ⟨_, _, _, .down hdown unlinked hfirst, hsecond⟩
    | link hdown linked inner later =>
      obtain ⟨_, _, _, hfirst, hsecond⟩ := of_append later
      exact ⟨_, _, _, .link hdown linked inner hfirst, hsecond⟩

/-- A canonical place leads to itself. -/
theorem of_canonical : ∀ (rest : List String) (place : Location), disk.Canonical (place ++ rest) →
    disk.Leads rest.length place rest (place ++ rest)
  | [], place, _ => by
    rw [List.append_nil]
    exact .done place
  | step :: rest, place, h => by
    rw [List.append_cons] at h ⊢
    obtain ⟨-, hdown, unlinked⟩ := h.of_append.of_append_singleton
    exact .down hdown unlinked (of_canonical rest _ h)

end Leads

/-! ## Resolving -/

section Resolve

variable {passed depth : Nat} {active : List Location} {step target : String} {inside : Location}

/-- A name without a link is kept. -/
theorem resolve_down (h : GoesDown step) (unlinked : ∀ target, disk.get? (place ++ [step]) ≠ some (.link target)) :
    disk.resolve depth active place (step :: rest) = disk.resolve depth active (place ++ [step]) rest := by
  obtain ⟨hempty, hpoint, hup⟩ := h
  have hstay : ¬ (step = "" ∨ step = ".") := not_or.2 ⟨hempty, hpoint⟩
  cases depth with
  | zero =>
    rw [resolve, if_neg hstay, if_neg hup]
    dsimp only
    split
    · next target hlink => exact absurd hlink (unlinked target)
    · rfl
  | succ depth =>
    rw [resolve, if_neg hstay, if_neg hup]
    dsimp only
    split
    · next target hlink => exact absurd hlink (unlinked target)
    · rfl

/-- A link that is not being resolved already is replaced by what it leads to. -/
theorem resolve_link (h : GoesDown step) (linked : disk.get? (place ++ [step]) = some (.link target))
    (fresh : place ++ [step] ∉ active)
    (inner : disk.resolve depth ((place ++ [step]) :: active) (stepsOf place target).1 (stepsOf place target).2 =
      (inside, true)) :
    disk.resolve (depth + 1) active place (step :: rest) = disk.resolve (depth + 1) active inside rest := by
  obtain ⟨hempty, hpoint, hup⟩ := h
  have hstay : ¬ (step = "" ∨ step = ".") := not_or.2 ⟨hempty, hpoint⟩
  have hactive : active.contains (place ++ [step]) = false := by simpa using fresh
  rw [resolve, if_neg hstay, if_neg hup]
  simp only [linked, hactive, inner, Bool.false_eq_true, if_false]

/-- A link that stands for at least a number of steps. -/
def Weighs (disk : Disk) (passed : Nat) (link : Location) : Prop :=
  ∃ place step target more inside, link = place ++ [step] ∧ disk.get? link = some (.link target) ∧ passed ≤ more ∧
    disk.Leads more (stepsOf place target).1 (stepsOf place target).2 inside

theorem Weighs.mono {fewer : Nat} {link : Location} (h : disk.Weighs passed link) (hle : fewer ≤ passed) :
    disk.Weighs fewer link := by
  obtain ⟨place, step, target, more, inside, hlink, hget, hmore, hleads⟩ := h
  exact ⟨place, step, target, more, inside, hlink, hget, Nat.le_trans hle hmore, hleads⟩

/-- A link stands for no more steps than it takes. -/
theorem Leads.le_of_weighs (h : disk.Leads passed (stepsOf place target).1 (stepsOf place target).2 inside)
    (linked : disk.get? (place ++ [step]) = some (.link target)) {weight : Nat}
    (hweight : disk.Weighs weight (place ++ [step])) : weight ≤ passed := by
  obtain ⟨place', step', target', more, inside', hplace, hget, hmore, hleads⟩ := hweight
  obtain ⟨rfl, -⟩ := List.append_inj' hplace rfl
  obtain rfl := Entry.link.inj (Option.some.inj (hget.symm.trans linked))
  obtain ⟨rfl, -⟩ := h.unique hleads
  exact hmore

theorem mem_of_lookup {entries : List (Location × Entry)} (h : lookup place entries = some entry) :
    (place, entry) ∈ entries := by
  induction entries with
  | nil => cases h
  | cons first rest ih =>
    rw [lookup] at h
    split at h
    · next hplace =>
      obtain rfl := Option.some.inj h
      rw [← hplace]
      exact List.mem_cons_self
    · exact List.mem_cons_of_mem _ (ih h)

theorem mem_entries_of_get? (hplace : place ≠ []) (h : disk.get? place = some entry) :
    (place, entry) ∈ disk.entries := by
  rw [get?, if_neg hplace] at h
  exact mem_of_lookup h

/-- Different links are no more than the entries of the disk, so one more than those being resolved
leaves some depth. -/
theorem exists_depth {link : Location} (distinct : (link :: active).Nodup)
    (links : ∀ other ∈ link :: active, disk.Weighs passed other)
    (enough : disk.entries.length ≤ depth + active.length) : ∃ less, depth = less + 1 := by
  have hsubset : link :: active ⊆ disk.entries.map Prod.fst := by
    intro other hother
    obtain ⟨place, step, target, _, _, rfl, hget, _, _⟩ := links other hother
    exact List.mem_map_of_mem (mem_entries_of_get? (by simp) hget)
  have hlength := (List.subperm_of_subset distinct hsubset).length_le
  rw [List.length_cons, List.length_map] at hlength
  exact ⟨depth - 1, by omega⟩

/-- Steps resolve to where they lead. Each link being resolved stands for at least the steps that are
left, so none of them is met again. -/
theorem Leads.resolve (h : disk.Leads passed place steps final) : ∀ {depth : Nat} {active : List Location},
    active.Nodup → (∀ link ∈ active, disk.Weighs passed link) → disk.entries.length ≤ depth + active.length →
      disk.resolve depth active place steps = (final, true) := by
  induction h with
  | done =>
    intro _ _ _ _ _
    rw [Disk.resolve]
  | stay hstay _ ih =>
    intro _ _ distinct weighs enough
    rw [Disk.resolve, if_pos hstay]
    exact ih distinct (fun link hlink => (weighs link hlink).mono (Nat.le_succ _)) enough
  | up _ ih =>
    intro _ _ distinct weighs enough
    rw [Disk.resolve, if_neg (by decide), if_pos rfl]
    exact ih distinct (fun link hlink => (weighs link hlink).mono (Nat.le_succ _)) enough
  | down hdown unlinked _ ih =>
    intro _ _ distinct weighs enough
    rw [resolve_down hdown unlinked]
    exact ih distinct (fun link hlink => (weighs link hlink).mono (Nat.le_succ _)) enough
  | @link within passed place inside final step target rest hdown linked inner later ihInner ih =>
    intro depth active distinct weighs enough
    have fresh : place ++ [step] ∉ active := by
      intro hmem
      have hle := inner.le_of_weighs linked (weighs _ hmem)
      omega
    have distinct' : ((place ++ [step]) :: active).Nodup := List.nodup_cons.2 ⟨fresh, distinct⟩
    have weighs' : ∀ link ∈ (place ++ [step]) :: active, disk.Weighs within link := by
      refine List.forall_mem_cons.2 ⟨?_, fun link hlink => (weighs link hlink).mono (by omega)⟩
      exact ⟨place, step, target, within, inside, rfl, linked, Nat.le_refl _, inner⟩
    obtain ⟨less, rfl⟩ := exists_depth distinct' weighs' enough
    have hinner : disk.resolve less _ _ _ = (inside, true) :=
      ihInner distinct' weighs' (by rw [List.length_cons]; omega)
    rw [resolve_link hdown linked fresh hinner]
    exact ih distinct (fun link hlink => (weighs link hlink).mono (by omega)) enough

/-- The real location of a path is where its steps lead. -/
theorem realLocation_of_leads (h : disk.Leads passed (disk.startOf path) path.parts final) :
    disk.realLocation path = final := by
  rw [realLocation, h.resolve List.nodup_nil (fun _ hlink => absurd hlink List.not_mem_nil) (Nat.le_add_right _ _)]

end Resolve

/-! ## Looking up -/

/-- A lookup ends where the steps lead. -/
theorem leads_of_walk {links : Nat} (h : disk.walk links place steps = .ok final) :
    ∃ passed, disk.Leads passed place steps final := by
  fun_induction walk disk links place steps with
  | case1 =>
    obtain rfl := Except.ok.inj h
    exact ⟨0, .done _⟩
  | case3 _ _ _ _ _ hstay ih =>
    obtain ⟨passed, hleads⟩ := ih h
    exact ⟨passed + 1, .stay hstay hleads⟩
  | case4 _ _ _ _ _ ih =>
    obtain ⟨passed, hleads⟩ := ih h
    exact ⟨passed + 1, .up hleads⟩
  | case7 place step rest _ hstay hup target linked links start steps hsteps ih =>
    obtain ⟨passed, hleads⟩ := ih h
    obtain ⟨within, inside, passed, hinner, hlater⟩ := hleads.of_append
    obtain ⟨rfl, rfl⟩ := Prod.mk.inj hsteps.symm
    exact ⟨_, .link ⟨fun h => hstay (.inl h), fun h => hstay (.inr h), hup⟩ linked hinner hlater⟩
  | case8 links place step rest _ hstay hup entry unlinked hentry ih =>
    obtain ⟨passed, hleads⟩ := ih h
    refine ⟨passed + 1, .down ⟨fun h => hstay (.inl h), fun h => hstay (.inr h), hup⟩ (fun target hlink => ?_) hleads⟩
    exact unlinked target (Option.some.inj (hentry.symm.trans hlink))
  | case2 | case5 | case6 | case9 => cases h

/-- Steps can be looked up in two parts, if the second needs no links. -/
theorem walk_append {links : Nat} {middle : Location} {more : List String} (h : disk.walk links place steps = .ok middle)
    (later : ∀ links, disk.walk links middle more = .ok final) :
    disk.walk links place (steps ++ more) = .ok final := by
  fun_induction walk disk links place steps with
  | case1 =>
    obtain rfl := Except.ok.inj h
    exact later _
  | case3 _ _ _ _ hdirectory hstay ih =>
    rw [List.cons_append, walk, hdirectory, if_pos hstay]
    exact ih h
  | case4 _ _ _ hdirectory hstay ih =>
    rw [List.cons_append, walk, hdirectory, if_neg hstay, if_pos rfl]
    exact ih h
  | case7 _ _ _ hdirectory hstay hup _ hlink _ _ _ hsteps ih =>
    rw [List.cons_append, walk, hdirectory, if_neg hstay, if_neg hup, hlink]
    simp only [hsteps, ← List.append_assoc]
    exact ih h
  | case8 _ _ _ _ hdirectory hstay hup entry unlinked hentry ih =>
    rw [List.cons_append, walk, hdirectory, if_neg hstay, if_neg hup, hentry]
    cases entry with
    | link target => exact absurd rfl (unlinked target)
    | directory => exact ih h
    | file held => exact ih h
  | case2 | case5 | case6 | case9 => cases h

/-- A path that leads somewhere resolves, and its real path is where it leads. -/
theorem realLocation_of_locate (h : disk.locate path = .ok place) :
    disk.Resolves path ∧ disk.realLocation path = place := by
  obtain ⟨passed, hleads⟩ := leads_of_walk h
  exact ⟨⟨passed, place, hleads⟩, realLocation_of_leads hleads⟩

/-- A canonical place is its own real path. -/
theorem realLocation_of_canonical (h : disk.Canonical place) : disk.realLocation ⟨.root, place⟩ = place :=
  realLocation_of_leads (.of_canonical place [] h)

/-! ## Disks as they come -/

theorem directory_ne_link (target : String) : Entry.directory ≠ .link target := Entry.noConfusion

/-- A disk on which every entry has a name and stands in a directory, and so does the work. -/
structure WellFormed (disk : Disk) : Prop where
  names : ∀ entry ∈ disk.entries, ∀ step ∈ entry.1, GoesDown step
  parents : ∀ entry ∈ disk.entries, disk.get? entry.1.dropLast = some .directory
  home : disk.get? disk.home = some .directory

theorem wellFormed_iff : disk.WellFormed ↔
    (∀ entry ∈ disk.entries, ∀ step ∈ entry.1, GoesDown step) ∧
      (∀ entry ∈ disk.entries, disk.get? entry.1.dropLast = some .directory) ∧
      disk.get? disk.home = some .directory :=
  ⟨fun h => ⟨h.names, h.parents, h.home⟩, fun h => ⟨h.1, h.2.1, h.2.2⟩⟩

instance (disk : Disk) : Decidable disk.WellFormed := decidable_of_iff' _ wellFormed_iff

namespace WellFormed

variable (wf : disk.WellFormed)

include wf

/-- What an entry stands in is a directory. -/
theorem get?_above {step : String} (h : disk.get? (place ++ [step]) = some entry) :
    GoesDown step ∧ disk.get? place = some .directory := by
  have hmem := mem_entries_of_get? (by simp) h
  have habove := wf.parents _ hmem
  rw [List.dropLast_concat] at habove
  exact ⟨wf.names _ hmem step (by simp), habove⟩

theorem canonical : ∀ {place : Location}, disk.get? place = some entry → (∀ target, entry ≠ .link target) →
    disk.Canonical place := by
  intro place
  induction place using List.reverseRecOn generalizing entry with
  | nil => exact fun _ _ => .root
  | append_singleton place step ih =>
    intro h unlinked
    obtain ⟨hdown, habove⟩ := wf.get?_above h
    refine .down (ih habove directory_ne_link) hdown fun target hlink => ?_
    exact unlinked target (Option.some.inj (h.symm.trans hlink))

/-- What stands anywhere above an entry is a directory. -/
theorem get?_of_append : ∀ {rest : List String}, rest ≠ [] → disk.get? (place ++ rest) = some entry →
    disk.get? place = some .directory := by
  intro rest
  induction rest using List.reverseRecOn generalizing entry with
  | nil => exact fun h => absurd rfl h
  | append_singleton rest step ih =>
    intro _ h
    rw [← List.append_assoc] at h
    obtain ⟨-, habove⟩ := wf.get?_above h
    by_cases hrest : rest = []
    · rwa [hrest, List.append_nil] at habove
    · exact ih hrest habove

/-- An entry is found under its own names. -/
theorem walk_down {links : Nat} (unlinked : ∀ target, entry ≠ .link target) :
    ∀ (rest : List String) (place : Location), disk.get? (place ++ rest) = some entry →
      disk.walk links place rest = .ok (place ++ rest)
  | [], place, _ => by rw [walk, List.append_nil]
  | step :: rest, place, h => by
    have hplace := wf.get?_of_append (List.cons_ne_nil step rest) h
    rw [List.append_cons] at h
    have hstep : ∃ held, disk.get? (place ++ [step]) = some held ∧ ∀ target, held ≠ .link target := by
      by_cases hrest : rest = []
      · rw [hrest, List.append_nil] at h
        exact ⟨entry, h, unlinked⟩
      · exact ⟨.directory, wf.get?_of_append hrest h, directory_ne_link⟩
    obtain ⟨held, hheld, hnolink⟩ := hstep
    obtain ⟨⟨hempty, hpoint, hup⟩, -⟩ := wf.get?_above hheld
    have ih : disk.walk links (place ++ [step]) rest = .ok (place ++ [step] ++ rest) := walk_down unlinked rest _ h
    rw [walk, hplace, if_neg (not_or.2 ⟨hempty, hpoint⟩), if_neg hup, hheld]
    cases held with
    | link target => exact absurd rfl (hnolink target)
    | file bytes => simpa using ih
    | directory => simpa using ih

theorem locate_of_get? (h : disk.get? place = some entry) (unlinked : ∀ target, entry ≠ .link target) :
    disk.locate ⟨.root, place⟩ = .ok place :=
  wf.walk_down unlinked place [] h

/-- Where a path starts. -/
theorem canonical_startOf (path : Path) : disk.Canonical (disk.startOf path) := by
  rw [startOf]
  split
  · exact wf.canonical wf.home directory_ne_link
  · exact .root

theorem canonical_realLocation (h : disk.Resolves path) : disk.Canonical (disk.realLocation path) := by
  obtain ⟨passed, final, hleads⟩ := h
  rw [realLocation_of_leads hleads]
  exact hleads.canonical (wf.canonical_startOf path)

/-- Taking the real path once is enough. -/
theorem realPath_realPath (h : disk.Resolves path) : disk.realPath (disk.realPath path) = disk.realPath path :=
  congrArg (Path.mk .root) (realLocation_of_canonical (wf.canonical_realLocation h))

end WellFormed

/-! ## Directories and files -/

theorem resolves_of_isDirectory (h : disk.isDirectory path = true) : disk.Resolves path := by
  obtain ⟨place, hlocate, -⟩ := isDirectory_iff.1 h
  exact (realLocation_of_locate hlocate).1

/-- The real path of a directory is that of a directory. -/
theorem get?_realLocation (h : disk.isDirectory path = true) :
    disk.get? (disk.realLocation path) = some .directory := by
  obtain ⟨place, hlocate, hdirectory⟩ := isDirectory_iff.1 h
  rwa [(realLocation_of_locate hlocate).2]

theorem WellFormed.isDirectory_realPath_iff (wf : disk.WellFormed) (h : disk.Resolves path) :
    disk.isDirectory (disk.realPath path) = true ↔ disk.get? (disk.realLocation path) = some .directory := by
  constructor
  · intro hdirectory
    have hget := get?_realLocation hdirectory
    rwa [realPath, realLocation_of_canonical (wf.canonical_realLocation h)] at hget
  · intro hget
    exact isDirectory_iff.2 ⟨_, wf.locate_of_get? hget directory_ne_link, hget⟩

/-- A path that names the place of a file, with no link on the way. -/
def FileAt (disk : Disk) (path : Path) : Prop :=
  ∃ place bytes, path = ⟨.root, place⟩ ∧ disk.Canonical place ∧ disk.get? place = some (.file bytes)

theorem FileAt.realPath_eq (h : disk.FileAt path) : disk.realPath path = path := by
  obtain ⟨place, bytes, rfl, hplace, -⟩ := h
  rw [realPath, realLocation_of_canonical hplace]

theorem FileAt.isDirectory_eq (h : disk.FileAt path) : disk.isDirectory path = false := by
  obtain ⟨place, bytes, rfl, hplace, hfile⟩ := h
  refine Bool.eq_false_iff.2 fun hdirectory => ?_
  have hget := get?_realLocation hdirectory
  rw [realLocation_of_canonical hplace, hfile] at hget
  cases hget

end Disk

end ScriptLint
