/-
Tasks that take turns come to what files one after another come to.

A task only ever reads and writes its own file, so at every moment of a run it
stands where the file on the disk before the run puts it, and the disk is that
one with the finished results saved on it (`Pool.Sound`). Each move keeps this
(`Pool.Sound.move`). A task that has had three turns is through; so under any
schedule that gives each task as many, the run ends with the results of all
files in their order (`runPool_eq_some_iff_completes`).
-/
import ScriptLint.Pool
import ScriptLint.Proofs.Run.Saving

namespace ScriptLint

variable {linter : Linter} {fixing : Bool} {disk after : Disk} {path : Path} {paths : List Path}
  {pool : Pool} {task : Task} {tasks : List Task}

/-! ## Where a task stands -/

/-- A task for a file that has done nothing but what the content of the file on a disk asks for. -/
inductive Task.For (linter : Linter) (fixing : Bool) (disk : Disk) (path : Path) : Task → Prop where
  | queued : For linter fixing disk path (.queued path)
  | started : For linter fixing disk path (.started path)
  | examined {result : FileResult} (h : linter.examine fixing disk path = .ok result) :
      For linter fixing disk path (.examined result)
  | finished {result : FileResult} (h : linter.examine fixing disk path = .ok result) :
      For linter fixing disk path (.finished result)
  | skipped : For linter fixing disk path (.skipped path)
  | raised {failure : RunFailure} (h : linter.examine fixing disk path = .error failure) :
      For linter fixing disk path (.raised failure)

/-- A step keeps to the file, as long as the content that it finds is that on the disk. -/
theorem Task.For.advance {now : Disk} (h : task.For linter fixing disk path)
    (hread : task.result? = none → now.read path = disk.read path) (cancelled : Bool) :
    (task.advance linter fixing cancelled now).2.For linter fixing disk path := by
  cases h with
  | queued =>
    cases cancelled with
    | false => exact .started
    | true => exact .skipped
  | started =>
    rw [Task.advance, Linter.examine_congr (hread rfl)]
    cases hexamine : linter.examine fixing disk path with
    | ok result => exact .examined hexamine
    | error failure => exact .raised hexamine
  | examined h => exact .finished h
  | finished h => exact .finished h
  | skipped => exact .skipped
  | raised h => exact .raised h

/-- The finished ones of some tasks have examined their files. -/
theorem exists_examines (h : List.Forall₂ (Task.For linter fixing disk) paths tasks) :
    ∃ done, done.Sublist paths ∧ linter.Examines fixing disk done (tasks.filterMap Task.result?) := by
  induction h with
  | nil => exact ⟨[], .slnil, .nil⟩
  | @cons path task paths tasks htask _ ih =>
    obtain ⟨done, hdone, hexamines⟩ := ih
    cases htask with
    | finished hexamine => exact ⟨path :: done, hdone.cons_cons path, .cons hexamine hexamines⟩
    | queued => exact ⟨done, hdone.cons path, hexamines⟩
    | started => exact ⟨done, hdone.cons path, hexamines⟩
    | examined _ => exact ⟨done, hdone.cons path, hexamines⟩
    | skipped => exact ⟨done, hdone.cons path, hexamines⟩
    | raised _ => exact ⟨done, hdone.cons path, hexamines⟩

theorem separate_of_tasks (h : List.Forall₂ (Task.For linter fixing disk) paths tasks) (apart : disk.Apart paths)
    (distinct : paths.Nodup) : Linter.Separate disk (tasks.filterMap Task.result?) := by
  obtain ⟨done, hdone, hexamines⟩ := exists_examines h
  exact hexamines.separate (apart.of_subset hdone.subset) (distinct.sublist hdone)

/-! ## Where a pool stands -/

/-- A pool whose tasks keep to their files and whose disk is the one before, with what has been
finished saved on it. -/
structure Pool.Sound (linter : Linter) (fixing : Bool) (disk : Disk) (paths : List Path) (pool : Pool) : Prop where
  tasks : List.Forall₂ (Task.For linter fixing disk) paths pool.tasks
  disk : pool.disk = Linter.saveAll disk (pool.tasks.filterMap Task.result?)

/-- A turn goes to one task and leaves the others where they are. -/
theorem Pool.move_turn (pool : Pool) (place : Nat) : pool.move linter fixing (.turn place) = pool ∨
    ∃ before task later, pool.tasks = before ++ task :: later ∧ before.length = place ∧
      pool.move linter fixing (.turn place) =
        { pool with
          disk := (task.advance linter fixing pool.cancelled pool.disk).1
          tasks := before ++ (task.advance linter fixing pool.cancelled pool.disk).2 :: later } := by
  rw [Pool.move]
  cases htask : pool.tasks[place]? with
  | none => exact .inl rfl
  | some task =>
    obtain ⟨hplace, hget⟩ := List.getElem?_eq_some_iff.1 htask
    obtain ⟨before, later, htasks, hlength, hset⟩ :=
      @List.exists_of_set _ _ (task.advance linter fixing pool.cancelled pool.disk).2 _ hplace
    rw [hget] at htasks
    exact .inr ⟨before, task, later, htasks, hlength, by simp only [hset]⟩

/-- The file of a task among others. -/
theorem exists_file_of_task {later : List Task} : ∀ {before : List Task} {paths : List Path},
    List.Forall₂ (Task.For linter fixing disk) paths (before ++ task :: later) →
      ∃ first path rest, paths = first ++ path :: rest ∧ List.Forall₂ (Task.For linter fixing disk) first before ∧
        task.For linter fixing disk path ∧ List.Forall₂ (Task.For linter fixing disk) rest later
  | [], _, h => by
    obtain ⟨path, rest, htask, hrest, rfl⟩ := List.forall₂_cons_right_iff.1 h
    exact ⟨[], path, rest, rfl, .nil, htask, hrest⟩
  | _ :: _, _, h => by
    obtain ⟨other, paths, hother, hpaths, rfl⟩ := List.forall₂_cons_right_iff.1 h
    obtain ⟨first, path, rest, rfl, hfirst, htask, hrest⟩ := exists_file_of_task hpaths
    exact ⟨other :: first, path, rest, rfl, .cons hother hfirst, htask, hrest⟩

/-- What the other tasks have finished does not show to a task. -/
theorem read_saveAll_of_tasks {first rest : List Path} {others : List Task}
    (apart : disk.Apart (first ++ path :: rest)) (distinct : (first ++ path :: rest).Nodup)
    (h : List.Forall₂ (Task.For linter fixing disk) (first ++ rest) others) :
    (Linter.saveAll disk (others.filterMap Task.result?)).read path = disk.read path := by
  have hsublist : (first ++ rest).Sublist (first ++ path :: rest) := (List.sublist_cons_self path rest).append_left first
  have hpath : path ∉ first ++ rest := (List.nodup_cons.1 (List.perm_middle.nodup_iff.1 distinct)).1
  refine Linter.read_saveAll_other (separate_of_tasks h (apart.of_subset hsublist.subset)
    (distinct.sublist hsublist)) fun result hresult hchanged => ?_
  obtain ⟨done, hdone, hexamines⟩ := exists_examines h
  obtain ⟨hmem, hexamine⟩ := hexamines.examine_of_mem hresult
  refine Linter.locate_ne_of_examine apart (hsublist.subset (hdone.subset hmem)) (by simp) ?_ hexamine hchanged
  rintro rfl
  exact hpath (hdone.subset hmem)

/-- A step saves what it finishes. -/
theorem disk_advance {before later : List Task} {now : Disk} {cancelled : Bool}
    (separate : Linter.Separate disk
      ((before ++ (task.advance linter fixing cancelled now).2 :: later).filterMap Task.result?))
    (hnow : now = Linter.saveAll disk ((before ++ task :: later).filterMap Task.result?)) :
    (task.advance linter fixing cancelled now).1 = Linter.saveAll disk
      ((before ++ (task.advance linter fixing cancelled now).2 :: later).filterMap Task.result?) := by
  rw [List.filterMap_append] at separate hnow ⊢
  cases task with
  | queued path =>
    cases cancelled with
    | false => exact hnow
    | true => exact hnow
  | started path =>
    rw [Task.advance]
    split
    · exact hnow
    · exact hnow
  | examined result =>
    have perm : (before.filterMap Task.result? ++ result :: later.filterMap Task.result?).Perm
        (before.filterMap Task.result? ++ later.filterMap Task.result? ++ [result]) :=
      List.perm_middle.trans (List.perm_append_singleton _ _).symm
    have hbefore : now = Linter.saveAll disk (before.filterMap Task.result? ++ later.filterMap Task.result?) := hnow
    calc Linter.save now result
        = Linter.saveAll disk (before.filterMap Task.result? ++ later.filterMap Task.result? ++ [result]) := by
          rw [Linter.saveAll_append_singleton, ← hbefore]
      _ = Linter.saveAll disk (before.filterMap Task.result? ++ result :: later.filterMap Task.result?) :=
          (Linter.saveAll_perm perm separate).symm
  | finished result => exact hnow
  | skipped path => exact hnow
  | raised failure => exact hnow

/-- **Every move keeps a pool sound.** -/
theorem Pool.Sound.move (h : pool.Sound linter fixing disk paths) (apart : disk.Apart paths) (distinct : paths.Nodup)
    (m : Move) : (pool.move linter fixing m).Sound linter fixing disk paths := by
  cases m with
  | cancel => exact ⟨h.tasks, h.disk⟩
  | turn place =>
    obtain hsame | ⟨before, task, later, htasks, -, hmove⟩ := pool.move_turn place
    · rw [hsame]
      exact h
    · obtain ⟨hall, hdisk⟩ := h
      rw [htasks] at hall hdisk
      obtain ⟨first, path, rest, rfl, hfirst, htask, hrest⟩ := exists_file_of_task hall
      have hread : task.result? = none → pool.disk.read path = disk.read path := by
        intro hunfinished
        rw [hdisk, List.filterMap_append, List.filterMap_cons_none hunfinished, ← List.filterMap_append]
        exact read_saveAll_of_tasks apart distinct (List.rel_append hfirst hrest)
      have hall' : List.Forall₂ (Task.For linter fixing disk) (first ++ path :: rest)
          (before ++ (task.advance linter fixing pool.cancelled pool.disk).2 :: later) :=
        List.rel_append hfirst (.cons (htask.advance hread pool.cancelled) hrest)
      rw [hmove]
      exact ⟨hall', disk_advance (separate_of_tasks hall' apart distinct) hdisk⟩

theorem Pool.Sound.play (apart : disk.Apart paths) (distinct : paths.Nodup) : ∀ (moves : List Move) {pool : Pool},
    pool.Sound linter fixing disk paths → (pool.play linter fixing moves).Sound linter fixing disk paths
  | [], _, h => h
  | m :: moves, _, h => Sound.play apart distinct moves (h.move apart distinct m)

theorem Pool.sound_start (linter : Linter) (fixing : Bool) (disk : Disk) (paths : List Path) :
    (Pool.start disk paths).Sound linter fixing disk paths where
  tasks := List.forall₂_map_right_iff.2 (List.forall₂_same.2 fun _ _ => .queued)
  disk := by
    have hnone : (paths.map Task.queued).filterMap Task.result? = [] := by
      simp [List.filterMap_map, Function.comp_def, Task.result?]
    rw [Pool.start, hnone]
    rfl

/-- Whatever the moves, the tasks of a run keep to their files. -/
theorem Pool.sound_play (linter : Linter) (fixing : Bool) (apart : disk.Apart paths) (moves : List Move) :
    ((Pool.start disk paths.eraseDups).play linter fixing moves).Sound linter fixing disk paths.eraseDups :=
  (Pool.sound_start linter fixing disk paths.eraseDups).play (apart.of_subset fun _ => List.mem_eraseDups.1)
    (nodup_eraseDups paths) moves

theorem Pool.results?_eq_some_iff {results : List FileResult} : pool.results? = some results ↔
    (∀ task ∈ pool.tasks, task.ended = true) ∧ pool.tasks.filterMap Task.result? = results := by
  rw [Pool.results?, Option.ite_none_right_eq_some, List.all_eq_true, Option.some.injEq]

/-- What a run comes to when all its tasks have ended: the results of the files that were not
skipped. -/
theorem Linter.runPool_eq_some {moves : List Move} {report : Report} (apart : disk.Apart paths)
    (h : linter.runPool fixing moves disk paths = (after, some report)) :
    ∃ done results, done.Sublist paths.eraseDups ∧ linter.Examines fixing disk done results ∧
      after = saveAll disk results ∧
      report = aggregate (harvest results (results.length < paths.eraseDups.length)) := by
  have sound := Pool.sound_play linter fixing apart moves
  obtain ⟨done, hdone, hexamines⟩ := exists_examines sound.tasks
  rw [runPool, Prod.mk.injEq, Option.map_eq_some_iff] at h
  obtain ⟨rfl, results, hresults, rfl⟩ := h
  obtain ⟨-, rfl⟩ := Pool.results?_eq_some_iff.1 hresults
  exact ⟨done, _, hdone, hexamines, sound.disk, rfl⟩

/-! ## Runs that are not cancelled -/

/-- A pool in which no task has been skipped, and none will be as long as it is not cancelled. -/
structure Pool.Uncancelled (pool : Pool) : Prop where
  cancelled : pool.cancelled = false
  unskipped : ∀ path, Task.skipped path ∉ pool.tasks

/-- Only a task that is cancelled is skipped. -/
theorem eq_skipped_of_advance {now : Disk} (h : (task.advance linter fixing false now).2 = .skipped path) :
    task = .skipped path := by
  cases task with
  | started other =>
    rw [Task.advance] at h
    split at h
    · cases h
    · cases h
  | skipped other => exact h
  | queued other => cases h
  | examined result => cases h
  | finished result => cases h
  | raised failure => cases h

theorem Pool.Uncancelled.move (h : pool.Uncancelled) {m : Move} (hm : m ≠ .cancel) :
    (pool.move linter fixing m).Uncancelled := by
  cases m with
  | cancel => exact absurd rfl hm
  | turn place =>
    obtain hsame | ⟨before, task, later, htasks, -, hmove⟩ := pool.move_turn place
    · rw [hsame]
      exact h
    · have hnone := h.unskipped
      rw [htasks] at hnone
      rw [hmove, h.cancelled]
      refine ⟨rfl, fun path hpath => ?_⟩
      rcases List.mem_append.1 hpath with hpath | hpath
      · exact hnone path (List.mem_append_left _ hpath)
      rcases List.mem_cons.1 hpath with hpath | hpath
      · exact hnone path (by simp [eq_skipped_of_advance hpath.symm])
      · exact hnone path (List.mem_append_right _ (List.mem_cons_of_mem _ hpath))

theorem Pool.Uncancelled.play : ∀ (moves : List Move) {pool : Pool}, Move.cancel ∉ moves → pool.Uncancelled →
    (pool.play linter fixing moves).Uncancelled
  | [], _, _, h => h
  | _ :: moves, _, hmoves, h =>
    have hmoves := not_or.1 (mt List.mem_cons.2 hmoves)
    Uncancelled.play moves hmoves.2 (h.move (Ne.symm hmoves.1))

theorem Pool.uncancelled_start (disk : Disk) (paths : List Path) : (Pool.start disk paths).Uncancelled where
  cancelled := rfl
  unskipped path hpath := by
    obtain ⟨_, -, hqueued⟩ := List.mem_map.1 hpath
    cases hqueued

/-- Tasks that have ended and were not skipped have all finished. -/
theorem length_results : ∀ {tasks : List Task}, (∀ task ∈ tasks, task.ended = true) →
    (∀ path, Task.skipped path ∉ tasks) → (tasks.filterMap Task.result?).length = tasks.length
  | [], _, _ => rfl
  | task :: tasks, hended, hnone => by
    have ih := length_results (fun other hother => hended other (List.mem_cons_of_mem _ hother))
      fun path hpath => hnone path (List.mem_cons_of_mem _ hpath)
    have hfirst := hended task List.mem_cons_self
    cases task with
    | finished result => exact congrArg (· + 1) ih
    | skipped path => exact absurd List.mem_cons_self (hnone path)
    | queued path => cases hfirst
    | started path => cases hfirst
    | examined result => cases hfirst
    | raised failure => cases hfirst

/-- Where no task was skipped, the results are those of all files. -/
theorem Pool.Sound.examines (h : pool.Sound linter fixing disk paths)
    (unskipped : ∀ path, Task.skipped path ∉ pool.tasks) {results : List FileResult} (hresults : pool.results? = some results) :
    linter.Examines fixing disk paths results := by
  obtain ⟨hended, rfl⟩ := Pool.results?_eq_some_iff.1 hresults
  obtain ⟨done, hdone, hexamines⟩ := exists_examines h.tasks
  have hlength := length_results hended unskipped
  rw [← List.Forall₂.length_eq hexamines, ← h.tasks.length_eq] at hlength
  rwa [hdone.eq_of_length_le (Nat.le_of_eq hlength.symm)] at hexamines

/-! ## Fair schedules -/

/-- How many turns a task still needs. -/
def Task.left : Task → Nat
  | .queued _ => 3
  | .started _ => 2
  | .examined _ => 1
  | _ => 0

theorem left_advance (cancelled : Bool) (now : Disk) (task : Task) :
    (task.advance linter fixing cancelled now).2.left ≤ task.left - 1 := by
  cases task with
  | queued path => cases cancelled <;> simp [Task.advance, Task.left]
  | started path =>
    rw [Task.advance]
    split
    · exact Nat.le_refl 1
    · exact Nat.zero_le _
  | examined result => exact Nat.le_refl 0
  | finished result => exact Nat.le_refl 0
  | skipped path => exact Nat.le_refl 0
  | raised failure => exact Nat.le_refl 0

/-- The turns that the task in a place still needs; none where there is no task. -/
def Pool.left (pool : Pool) (place : Nat) : Nat := ((pool.tasks[place]?).map Task.left).getD 0

/-- A turn brings one task on and sets no other back. -/
theorem Pool.left_move (pool : Pool) (m : Move) (place : Nat) :
    (pool.move linter fixing m).left place ≤ pool.left place - if m = .turn place then 1 else 0 := by
  cases m with
  | cancel => exact Nat.le_refl _
  | turn other =>
    simp only [Pool.move, Move.turn.injEq]
    cases htask : pool.tasks[other]? with
    | none =>
      by_cases hplace : other = place
      · subst hplace
        simp [Pool.left, htask]
      · rw [if_neg hplace]
        exact Nat.le_refl _
    | some task =>
      obtain ⟨hlength, -⟩ := List.getElem?_eq_some_iff.1 htask
      by_cases hplace : other = place
      · subst hplace
        simp only [Pool.left, List.getElem?_set_self hlength, htask, if_pos]
        exact left_advance pool.cancelled pool.disk task
      · simp only [Pool.left, List.getElem?_set_ne hplace, if_neg hplace]
        exact Nat.le_refl _

theorem Pool.left_play (place : Nat) : ∀ (moves : List Move) (pool : Pool),
    (pool.play linter fixing moves).left place ≤ pool.left place - moves.count (.turn place)
  | [], pool => Nat.le_refl _
  | m :: moves, pool => by
    have hplay : pool.play linter fixing (m :: moves) = (pool.move linter fixing m).play linter fixing moves := rfl
    have hfirst : (pool.move linter fixing m).left place ≤ pool.left place - if m = .turn place then 1 else 0 :=
      pool.left_move m place
    have hrest := left_play place moves (pool.move linter fixing m)
    rw [hplay, List.count_cons]
    simp only [beq_iff_eq]
    omega

theorem Pool.left_start (disk : Disk) (paths : List Path) (place : Nat) : (Pool.start disk paths).left place ≤ 3 := by
  rw [Pool.left, Pool.start, List.getElem?_map]
  cases paths[place]? with
  | none => exact Nat.zero_le 3
  | some path => exact Nat.le_refl 3

/-- Three turns are enough. -/
theorem Pool.left_play_of_fair {place : Nat} {moves : List Move} (fair : 3 ≤ moves.count (.turn place)) :
    ((Pool.start disk paths).play linter fixing moves).left place = 0 := by
  have hstart := Pool.left_start disk paths place
  have hplay : ((Pool.start disk paths).play linter fixing moves).left place ≤ _ :=
    Pool.left_play place moves (Pool.start disk paths)
  omega

/-- A task that needs no more turns for a file that can be examined has ended. -/
theorem Task.For.ended (h : task.For linter fixing disk path) (hleft : task.left = 0) {result : FileResult}
    (hexamine : linter.examine fixing disk path = .ok result) : task.ended = true := by
  cases h with
  | queued => cases hleft
  | started => cases hleft
  | examined _ => cases hleft
  | finished _ => rfl
  | skipped => rfl
  | raised hraised => cases hexamine.symm.trans hraised

/-- Once every task has had its turns, all have ended. -/
theorem Pool.Sound.ended (h : pool.Sound linter fixing disk paths) {results : List FileResult}
    (hexamines : linter.Examines fixing disk paths results) (hleft : ∀ place < paths.length, pool.left place = 0) :
    ∀ task ∈ pool.tasks, task.ended = true := by
  intro task htask
  obtain ⟨place, hplace⟩ := List.getElem?_of_mem htask
  obtain ⟨hlength, hget⟩ := List.getElem?_eq_some_iff.1 hplace
  have hpaths : place < paths.length := by rwa [h.tasks.length_eq]
  have hresults : place < results.length := by rwa [← List.Forall₂.length_eq hexamines]
  have hfor := h.tasks.get hpaths hlength
  rw [List.get_eq_getElem, List.get_eq_getElem, hget] at hfor
  have hnone := hleft place hpaths
  rw [Pool.left, hplace] at hnone
  exact hfor.ended hnone (List.Forall₂.get hexamines hpaths hresults)

/-- **Under any fair schedule a run comes to what its files come to one by one.** -/
theorem Linter.runPool_eq_some_iff_completes {moves : List Move} {report : Report} (apart : disk.Apart paths)
    (uncancelled : Move.cancel ∉ moves) (fair : ∀ place < paths.eraseDups.length, 3 ≤ moves.count (.turn place)) :
    linter.runPool fixing moves disk paths = (after, some report) ↔
      linter.Completes fixing disk paths.eraseDups after report := by
  rw [runPool]
  generalize hpool : (Pool.start disk paths.eraseDups).play linter fixing moves = pool
  have sound : pool.Sound linter fixing disk paths.eraseDups := hpool ▸ Pool.sound_play linter fixing apart moves
  have unskipped : ∀ path, Task.skipped path ∉ pool.tasks := hpool ▸
    ((Pool.uncancelled_start disk paths.eraseDups).play moves uncancelled).unskipped
  have hleft : ∀ place < paths.eraseDups.length, pool.left place = 0 := fun place hplace =>
    hpool ▸ Pool.left_play_of_fair (fair place hplace)
  simp only [Prod.mk.injEq, Option.map_eq_some_iff]
  constructor
  · rintro ⟨rfl, results, hresults, rfl⟩
    have hexamines := sound.examines unskipped hresults
    obtain ⟨-, rfl⟩ := Pool.results?_eq_some_iff.1 hresults
    refine ⟨_, hexamines, sound.disk, ?_⟩
    rw [← List.Forall₂.length_eq hexamines, decide_eq_false (Nat.lt_irrefl _)]
  · rintro ⟨results, hexamines, rfl, rfl⟩
    have hresults := Pool.results?_eq_some_iff.2 ⟨sound.ended hexamines hleft, rfl⟩
    have hsame := (sound.examines unskipped hresults).unique hexamines
    rw [hsame] at hresults
    refine ⟨sound.disk.trans (by rw [hsame]), results, hresults, ?_⟩
    rw [← List.Forall₂.length_eq hexamines, decide_eq_false (Nat.lt_irrefl _)]

end ScriptLint
