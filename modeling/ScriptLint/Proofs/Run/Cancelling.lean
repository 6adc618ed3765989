/-
A run that is cancelled comes to a run over the files that were started.

Whether a task is skipped is settled at its first turn: until the run is
cancelled a turn takes a task out of the queue, and from then on it never does
(`Pool.waiting_play`). So the files with a result are those whose tasks had a
turn in time (`Pool.Sound.examines_started`), and their results are those that
they have without the others (`run_cancelled`).
-/
import ScriptLint.Proofs.Run.Order

namespace ScriptLint

variable {linter : Linter} {fixing : Bool} {disk after : Disk} {paths done : List Path} {pool : Pool}
  {task : Task} {tasks : List Task} {moves : List Move} {place : Nat}

/-! ## Tasks that wait -/

/-- Whether nothing has been done about the file of a task. -/
def Task.waits : Task → Bool
  | .queued _ => true
  | .skipped _ => true
  | _ => false

/-- Whether nothing has been done about the file in a place. -/
def Pool.waiting (pool : Pool) (place : Nat) : Bool := pool.tasks[place]?.any Task.waits

theorem Task.waits_advance (unskipped : ∀ path, task ≠ .skipped path) (cancelled : Bool) (now : Disk) :
    (task.advance linter fixing cancelled now).2.waits = (task.waits && cancelled) := by
  cases task with
  | queued path => cases cancelled <;> rfl
  | started path =>
    rw [Task.advance]
    split <;> rfl
  | skipped path => exact absurd rfl (unskipped path)
  | examined result => rfl
  | finished result => rfl
  | raised failure => rfl

theorem Task.waits_advance_of_cancelled (now : Disk) :
    (task.advance linter fixing true now).2.waits = task.waits := by
  cases task with
  | skipped path => rfl
  | _ => rw [Task.waits_advance (fun _ => by simp), Bool.and_true]

/-- A turn can end the waiting in its own place and nowhere else. -/
theorem Pool.waiting_turn (pool : Pool) (other place : Nat) :
    (pool.move linter fixing (.turn other)).waiting place =
      if other = place then
        pool.tasks[place]?.any fun task => (task.advance linter fixing pool.cancelled pool.disk).2.waits
      else pool.waiting place := by
  rw [Pool.move]
  by_cases hplace : other = place
  · subst hplace
    rw [if_pos rfl]
    cases htask : pool.tasks[other]? with
    | none => simp [Pool.waiting, htask]
    | some task =>
      obtain ⟨hlength, -⟩ := List.getElem?_eq_some_iff.1 htask
      simp [Pool.waiting, List.getElem?_set_self hlength]
  · rw [if_neg hplace]
    cases htask : pool.tasks[other]? with
    | none => rfl
    | some task => simp only [Pool.waiting, List.getElem?_set_ne hplace]

/-- Until the run is cancelled, a file waits as long as its task has no turn. -/
theorem Pool.Uncancelled.waiting_play : ∀ {moves : List Move} {pool : Pool}, pool.Uncancelled → Move.cancel ∉ moves →
    (pool.play linter fixing moves).waiting place = (pool.waiting place && decide (Move.turn place ∉ moves))
  | [], pool, _, _ => by simp [Pool.play]
  | m :: moves, pool, h, uncancelled => by
    obtain ⟨hm, hmoves⟩ := not_or.1 (mt List.mem_cons.2 uncancelled)
    have ih : ((pool.move linter fixing m).play linter fixing moves).waiting place = _ :=
      (h.move (Ne.symm hm)).waiting_play hmoves
    cases m with
    | cancel => exact absurd rfl hm
    | turn other =>
      have hplay : pool.play linter fixing (.turn other :: moves) =
          (pool.move linter fixing (.turn other)).play linter fixing moves := rfl
      rw [hplay, ih, Pool.waiting_turn]
      split
      · next hplace =>
        subst hplace
        -- The turn is the end of the waiting, so the later ones do not matter.
        have ended : (pool.tasks[other]?.any fun task =>
            (task.advance linter fixing pool.cancelled pool.disk).2.waits) = false := by
          rw [h.cancelled]
          cases htask : pool.tasks[other]? with
          | none => rfl
          | some task =>
            have unskipped : ∀ path, task ≠ .skipped path := by
              rintro path rfl
              exact h.unskipped path (List.mem_of_getElem? htask)
            rw [Option.any_some, Task.waits_advance unskipped, Bool.and_false]
        simp [ended]
      · next hplace =>
        have hother : Move.turn place ≠ .turn other := fun hsame => hplace (Move.turn.inj hsame).symm
        simp [hother]

/-- Once the run is cancelled, the files that wait go on waiting. -/
theorem Pool.waiting_play_of_cancelled : ∀ {moves : List Move} {pool : Pool}, pool.cancelled = true →
    (pool.play linter fixing moves).waiting place = pool.waiting place
  | [], _, _ => rfl
  | m :: moves, pool, h => by
    have hstep : (pool.move linter fixing m).cancelled = true ∧
        (pool.move linter fixing m).waiting place = pool.waiting place := by
      cases m with
      | cancel => exact ⟨rfl, rfl⟩
      | turn other =>
        constructor
        · obtain hsame | ⟨_, _, _, -, -, hmove⟩ := @Pool.move_turn linter fixing pool other
          · rwa [hsame]
          · rwa [hmove]
        · rw [Pool.waiting_turn, h]
          simp only [Task.waits_advance_of_cancelled]
          exact ite_self _
    exact (waiting_play_of_cancelled hstep.1).trans hstep.2

/-! ## Tasks that are started -/

/-- The task in a place has a turn before the run is cancelled. -/
def OnTime (moves : List Move) (place : Nat) : Prop := .turn place ∈ moves.takeWhile (· ≠ .cancel)

instance : Decidable (OnTime moves place) := inferInstanceAs (Decidable (_ ∈ _))

/-- The files whose tasks are started before the run is cancelled. -/
def started (moves : List Move) (paths : List Path) : List Path :=
  (paths.zipIdx.filter fun entry => OnTime moves entry.2).map Prod.fst

/-- What waits in the end is what had no turn in time. -/
theorem Pool.waiting_play (disk : Disk) (hplace : place < paths.length) :
    ((Pool.start disk paths).play linter fixing moves).waiting place = decide (¬ OnTime moves place) := by
  have hstart : (Pool.start disk paths).waiting place = true := by
    simp [Pool.waiting, Pool.start, hplace, Task.waits]
  have hbefore : Move.cancel ∉ moves.takeWhile (· ≠ .cancel) := fun hcancel => by
    simpa using List.all_eq_true.1 List.all_takeWhile _ hcancel
  have hfirst : ((Pool.start disk paths).play linter fixing (moves.takeWhile (· ≠ .cancel))).waiting place = _ :=
    (Pool.uncancelled_start disk paths).waiting_play hbefore
  rw [hstart, Bool.true_and] at hfirst
  have hplay : (Pool.start disk paths).play linter fixing moves =
      ((Pool.start disk paths).play linter fixing (moves.takeWhile (· ≠ .cancel))).play linter fixing
        (moves.dropWhile (· ≠ .cancel)) := by
    rw [Pool.play, Pool.play, Pool.play, ← List.foldl_append, List.takeWhile_append_dropWhile]
  rw [hplay]
  refine Eq.trans ?_ hfirst
  cases hrest : moves.dropWhile (· ≠ .cancel) with
  | nil => rfl
  | cons m rest =>
    obtain rfl : m = .cancel := by
      have hhead := List.head?_dropWhile_not (fun m : Move => decide (m ≠ .cancel)) moves
      rw [hrest] at hhead
      simpa using hhead
    exact @Pool.waiting_play_of_cancelled linter fixing place rest (Pool.move linter fixing _ .cancel) rfl

/-- The tasks that have ended and do not wait have examined their files. -/
theorem examines_of_ended (h : List.Forall₂ (Task.For linter fixing disk) paths tasks) :
    ∀ {place : Nat}, (∀ task ∈ tasks, task.ended = true) →
      (∀ offset, tasks[offset]?.any Task.waits = true ↔ offset < tasks.length ∧ ¬ OnTime moves (place + offset)) →
        linter.Examines fixing disk
          (((paths.zipIdx place).filter fun entry => OnTime moves entry.2).map Prod.fst)
          (tasks.filterMap Task.result?) := by
  induction h with
  | nil => exact fun _ _ => .nil
  | @cons path task paths tasks htask _ ih =>
    intro place hended hwaits
    have hrest := @ih (place + 1) (fun other hother => hended other (List.mem_cons_of_mem _ hother)) fun offset => by
      have hnext := hwaits (offset + 1)
      rwa [List.getElem?_cons_succ, List.length_cons, Nat.add_lt_add_iff_right, Nat.add_comm offset,
        ← Nat.add_assoc] at hnext
    have hfirst : task.waits = true ↔ ¬ OnTime moves place := by simpa using hwaits 0
    have hend := hended task List.mem_cons_self
    rw [List.zipIdx_cons, List.filter_cons]
    cases htask with
    | finished hexamine =>
      have htime : OnTime moves place := Decidable.not_not.1 fun hlate => Bool.noConfusion (hfirst.2 hlate)
      rw [if_pos (decide_eq_true htime)]
      exact .cons hexamine hrest
    | skipped =>
      rw [if_neg (by simpa using hfirst.1 rfl)]
      exact hrest
    | queued => cases hend
    | started => cases hend
    | examined _ => cases hend
    | raised _ => cases hend

/-- **What has been done when all tasks have ended** is what the files started in time come to. -/
theorem Pool.Sound.examines_started (h : ((Pool.start disk paths).play linter fixing moves).Sound linter fixing disk paths)
    {results : List FileResult} (hresults : ((Pool.start disk paths).play linter fixing moves).results? = some results) :
    linter.Examines fixing disk (started moves paths) results := by
  obtain ⟨hended, rfl⟩ := Pool.results?_eq_some_iff.1 hresults
  refine examines_of_ended h.tasks hended fun offset => ?_
  rw [Nat.zero_add, ← h.tasks.length_eq]
  constructor
  · intro hwaiting
    have hplace : offset < paths.length := by
      rw [h.tasks.length_eq]
      cases htask : ((Pool.start disk paths).play linter fixing moves).tasks[offset]? with
      | none =>
        rw [htask] at hwaiting
        cases hwaiting
      | some task => exact (List.getElem?_eq_some_iff.1 htask).1
    exact ⟨hplace, of_decide_eq_true ((Pool.waiting_play disk hplace).symm.trans hwaiting)⟩
  · rintro ⟨hplace, hlate⟩
    exact (Pool.waiting_play disk hplace).trans (decide_eq_true hlate)

theorem mem_started {path : Path} (hplace : paths[place]? = some path) (htime : OnTime moves place) :
    path ∈ started moves paths :=
  List.mem_map.2 ⟨(path, place), List.mem_filter.2 ⟨List.mem_zipIdx_iff_getElem?.2 hplace, decide_eq_true htime⟩, rfl⟩

/-- Once every task has had its turns, all have ended if the files started in time can be examined. -/
theorem Pool.Sound.ended_of_started (h : ((Pool.start disk paths).play linter fixing moves).Sound linter fixing disk paths)
    {results : List FileResult} (hexamines : linter.Examines fixing disk (started moves paths) results)
    (hleft : ∀ place < paths.length, ((Pool.start disk paths).play linter fixing moves).left place = 0) :
    ∀ task ∈ ((Pool.start disk paths).play linter fixing moves).tasks, task.ended = true := by
  intro task htask
  obtain ⟨place, hplace⟩ := List.getElem?_of_mem htask
  obtain ⟨hlength, hget⟩ := List.getElem?_eq_some_iff.1 hplace
  have hpaths : place < paths.length := by rwa [h.tasks.length_eq]
  have hfor := h.tasks.get hpaths hlength
  rw [List.get_eq_getElem, List.get_eq_getElem, hget] at hfor
  have hnone := hleft place hpaths
  rw [Pool.left, hplace, Option.map_some, Option.getD_some] at hnone
  by_cases htime : OnTime moves place
  · have hpath := mem_started (List.getElem?_eq_getElem hpaths) htime
    rw [← hexamines.map_path, List.mem_map] at hpath
    obtain ⟨result, hresult, hpath⟩ := hpath
    have hexamine := (hexamines.examine_of_mem hresult).2
    rw [hpath] at hexamine
    exact hfor.ended hnone hexamine
  · have hwaits : task.waits = true := by
      have hwaiting : ((Pool.start disk paths).play linter fixing moves).waiting place = _ :=
        Pool.waiting_play disk hpaths
      rwa [Pool.waiting, hplace, Option.any_some, decide_eq_true htime] at hwaiting
    cases task with
    | skipped path => rfl
    | queued path => cases hnone
    | _ => cases hwaits

theorem started_sublist (moves : List Move) (paths : List Path) : (started moves paths).Sublist paths := by
  have hmap := (List.filter_sublist (p := fun entry : Path × Nat => decide (OnTime moves entry.2))
    (l := paths.zipIdx)).map Prod.fst
  rwa [List.zipIdx_map_fst] at hmap

/-- No task has its first turn before those of the files in front of it have had theirs. -/
def StartsInOrder (moves : List Move) : Prop :=
  ∀ before place later, moves = before ++ .turn place :: later → ∀ earlier < place, .turn earlier ∈ before

theorem StartsInOrder.onTime (h : StartsInOrder moves) {earlier : Nat} (hplace : OnTime moves place)
    (hearlier : earlier < place) : OnTime moves earlier := by
  obtain ⟨before, later, hsplit⟩ := List.append_of_mem hplace
  have hmoves : moves = before ++ .turn place :: (later ++ moves.dropWhile (· ≠ .cancel)) := by
    rw [← List.cons_append, ← List.append_assoc, ← hsplit, List.takeWhile_append_dropWhile]
  rw [OnTime, hsplit]
  exact List.mem_append_left _ (h before place _ hmoves earlier hearlier)

/-- Tasks that start in order are started up to some file. -/
theorem StartsInOrder.isPrefix_started (h : StartsInOrder moves) (paths : List Path) : started moves paths <+: paths := by
  suffices hinitial : ∀ (paths : List Path) (place : Nat),
      ((paths.zipIdx place).filter fun entry => OnTime moves entry.2).map Prod.fst <+: paths from hinitial paths 0
  intro paths
  induction paths with
  | nil => exact fun _ => List.prefix_rfl
  | cons path rest ih =>
    intro place
    rw [List.zipIdx_cons, List.filter_cons]
    split
    · exact (List.prefix_cons_inj path).2 (ih (place + 1))
    · next hlate =>
      have none : (rest.zipIdx (place + 1)).filter (fun entry => OnTime moves entry.2) = [] := by
        refine List.filter_eq_nil_iff.2 fun entry hentry htime => hlate ?_
        exact decide_eq_true (h.onTime (of_decide_eq_true htime) (List.le_snd_of_mem_zipIdx hentry))
      rw [none]
      exact List.nil_prefix

/-! ## Cancelled runs -/

namespace Linter

/-- A run over files that only did some of them: its report is that of a run over those alone, but
for saying whether files were left out, and the files left out hold what they held. -/
structure RunsOnly (linter : Linter) (fixing : Bool) (disk : Disk) (paths done : List Path) (after : Disk)
    (report : Report) : Prop where
  alone : ∃ alone, linter.run fixing none disk done = (after, .ok alone) ∧
    report = { alone with cancelled := decide (∃ path ∈ paths, path ∉ done) }
  kept : ∀ path ∈ paths, path ∉ done → after.read path = disk.read path

/-- A list that leaves out some items is shorter. -/
theorem length_lt_iff_of_sublist (hdone : done.Sublist paths.eraseDups) :
    done.length < paths.eraseDups.length ↔ ∃ path ∈ paths, path ∉ done := by
  constructor
  · intro hlength
    by_contra hall
    push Not at hall
    have hsubset : paths.eraseDups ⊆ done := fun path hpath => hall path (List.mem_eraseDups.1 hpath)
    exact Nat.not_le.2 hlength (List.subperm_of_subset (nodup_eraseDups paths) hsubset).length_le
  · rintro ⟨path, hpath, hleft⟩
    refine Nat.lt_of_le_of_ne hdone.length_le fun hsame => hleft ?_
    rw [hdone.eq_of_length hsame]
    exact List.mem_eraseDups.2 hpath

/-- A run over some of the files, told by their results. -/
theorem run_of_sublist {alone : Report} (apart : disk.Apart paths) (hdone : done.Sublist paths.eraseDups) :
    linter.run fixing none disk done = (after, .ok alone) ↔ linter.Completes fixing disk done after alone := by
  have hsubset : ∀ path ∈ done, path ∈ paths := fun path hpath => List.mem_eraseDups.1 (hdone.subset hpath)
  rw [run_eq_ok_iff_completes (apart.of_subset hsubset),
    eraseDups_of_nodup ((nodup_eraseDups paths).sublist hdone)]

/-- The results of some files are all that a run over them needs. -/
theorem runsOnly_of_examines {results : List FileResult} (apart : disk.Apart paths)
    (hdone : done.Sublist paths.eraseDups) (h : linter.Examines fixing disk done results) :
    linter.RunsOnly fixing disk paths done (saveAll disk results)
      (aggregate (harvest results (results.length < paths.eraseDups.length))) where
  alone := by
    refine ⟨_, (run_of_sublist apart hdone).2 ⟨results, h, rfl, rfl⟩, ?_⟩
    rw [← List.Forall₂.length_eq h, decide_eq_decide.2 (length_lt_iff_of_sublist hdone)]
    rfl
  kept path hpath hleft := by
    have hsubset : ∀ path ∈ done, path ∈ paths := fun path hpath => List.mem_eraseDups.1 (hdone.subset hpath)
    have separate := h.separate (apart.of_subset hsubset) ((nodup_eraseDups paths).sublist hdone)
    refine read_saveAll_other separate fun result hresult hchanged => ?_
    obtain ⟨hmem, hexamine⟩ := h.examine_of_mem hresult
    exact locate_ne_of_examine apart (hsubset _ hmem) hpath (fun hsame => hleft (hsame ▸ hmem)) hexamine hchanged

/-- Tasks that have come to an end. -/
theorem runsOnly_of_runPool {report : Report} (apart : disk.Apart paths)
    (h : linter.runPool fixing moves disk paths = (after, some report)) :
    linter.RunsOnly fixing disk paths (started moves paths.eraseDups) after report := by
  have sound := Pool.sound_play linter fixing apart moves
  rw [runPool, Prod.mk.injEq, Option.map_eq_some_iff] at h
  obtain ⟨rfl, results, hresults, rfl⟩ := h
  have hsaved := sound.disk
  rw [(Pool.results?_eq_some_iff.1 hresults).2] at hsaved
  rw [hsaved]
  exact runsOnly_of_examines apart (started_sublist moves _) (sound.examines_started hresults)

/-- Tasks that get their turns come to an end, if the files that are started can be examined. -/
theorem exists_runPool {alone : Report} (apart : disk.Apart paths)
    (fair : ∀ place < paths.eraseDups.length, 3 ≤ moves.count (.turn place))
    (h : linter.run fixing none disk (started moves paths.eraseDups) = (after, .ok alone)) :
    ∃ report, linter.runPool fixing moves disk paths = (after, some report) := by
  have sound := Pool.sound_play linter fixing apart moves
  obtain ⟨results, hexamines, rfl, -⟩ := (run_of_sublist apart (started_sublist moves _)).1 h
  have hended := sound.ended_of_started hexamines fun place hplace => Pool.left_play_of_fair (fair place hplace)
  have hresults := Pool.results?_eq_some_iff.2 ⟨hended, rfl⟩
  have hsame := (sound.examines_started hresults).unique hexamines
  rw [runPool, hresults, sound.disk, hsame]
  exact ⟨_, rfl⟩

/-- **A cancelled run comes to a run over the files that it started.** Whenever tasks that take turns
have come to an end, and whenever files one after another have been cut off, the report is that of an
uncancelled run over the files that were started and says whether any was left out, and those left out hold
what they held. Such a run has a report if the run over the started files has one and each task gets its
turns. Files one after another, and tasks that start in the order of the files, are started up to
some file of the list without repetitions. -/
theorem run_cancelled (linter : Linter) (fixing : Bool) {disk : Disk} {paths : List Path} (apart : disk.Apart paths) :
    (∀ moves after report, linter.runPool fixing moves disk paths = (after, some report) →
      linter.RunsOnly fixing disk paths (started moves paths.eraseDups) after report) ∧
    (∀ moves, (∀ place < paths.eraseDups.length, 3 ≤ moves.count (.turn place)) → ∀ after alone,
      linter.run fixing none disk (started moves paths.eraseDups) = (after, .ok alone) →
        ∃ report, linter.runPool fixing moves disk paths = (after, some report)) ∧
    (∀ moves, StartsInOrder moves → started moves paths.eraseDups <+: paths.eraseDups) ∧
    (∀ budget after report, linter.run fixing budget disk paths = (after, .ok report) →
      linter.RunsOnly fixing disk paths (withinBudget budget paths.eraseDups) after report) ∧
    (∀ budget after alone, linter.run fixing none disk (withinBudget budget paths.eraseDups) = (after, .ok alone) →
      ∃ report, linter.run fixing budget disk paths = (after, .ok report)) ∧
    ∀ budget, withinBudget budget paths.eraseDups <+: paths.eraseDups := by
  have hwithin := fun budget => withinBudget_sublist budget paths.eraseDups
  refine ⟨fun moves after report h => runsOnly_of_runPool apart h,
    fun moves fair after alone h => exists_runPool apart fair h, fun moves h => h.isPrefix_started _,
    fun budget after report h => ?_, fun budget after alone h => ?_, fun budget => ?_⟩
  · obtain ⟨results, hexamines, rfl, rfl⟩ := (run_eq_ok_iff apart).1 h
    exact runsOnly_of_examines apart (hwithin budget) hexamines
  · obtain ⟨results, hexamines, rfl, -⟩ := (run_of_sublist apart (hwithin budget)).1 h
    exact ⟨_, (run_eq_ok_iff apart).2 ⟨results, hexamines, rfl, rfl⟩⟩
  · cases budget with
    | none => exact List.prefix_rfl
    | some n => exact List.take_prefix n _

/-- Three tasks that take turns, and a cancellation that comes before the last one is started. -/
def cutShort : List Move := crossing.take 2 ++ .cancel :: crossing.drop 2

theorem run_cancelled_mixedDisk :
    ∃ after report alone, shorteningLinter.runPool true cutShort mixedDisk mixedPaths = (after, some report) ∧
      shorteningLinter.run true none mixedDisk (mixedPaths.take 2) = (after, .ok alone) ∧
      report = { alone with cancelled := true } ∧ alone.summary.errors = 2 ∧
      after.read (.ofString "a.js") = .ok (Utf8.encode "ab") := by
  have hstarted : started cutShort mixedPaths.eraseDups = mixedPaths.take 2 := by decide +kernel
  have fair : ∀ place < mixedPaths.eraseDups.length, 3 ≤ cutShort.count (.turn place) := by decide +kernel
  have hsublist : (mixedPaths.take 2).Sublist mixedPaths.eraseDups := hstarted ▸ started_sublist cutShort _
  have halone := (run_of_sublist apart_mixedDisk hsublist).2
    ⟨_, List.forall₂_take 2 examines_mixedDisk, rfl, rfl⟩
  obtain ⟨honly, hexists, -⟩ := run_cancelled shorteningLinter true apart_mixedDisk
  obtain ⟨report, hrun⟩ := hexists cutShort fair _ _ (by rwa [hstarted])
  obtain ⟨⟨alone, hsame, hreport⟩, hkept⟩ := honly cutShort _ report hrun
  rw [hstarted] at hsame hreport hkept
  obtain rfl := Except.ok.inj (Prod.mk.inj (hsame.symm.trans halone)).2
  have left : Path.ofString "a.js" ∈ mixedPaths ∧ Path.ofString "a.js" ∉ mixedPaths.take 2 := by decide +kernel
  have hcancelled : decide (∃ path ∈ mixedPaths, path ∉ mixedPaths.take 2) = true := decide_eq_true ⟨_, left⟩
  have herrors : (aggregate (harvest (mixedResults.take 2) false)).summary.errors = 2 :=
    (findings_aggregate_perm (harvest (mixedResults.take 2) false)).countP_eq _
  rw [hcancelled] at hreport
  refine ⟨_, report, _, hrun, hsame, hreport, herrors, ?_⟩
  rw [← read_mixedDisk.1]
  exact hkept _ left.1 left.2

end Linter

end ScriptLint
