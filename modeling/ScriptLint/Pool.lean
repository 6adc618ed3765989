/-
A run in which files are worked on at the same time.

Each file is a task. A task starts, unless the run has been cancelled by then,
reads and lints its file, and writes it back if it was changed. All tasks work
on one disk, and their steps come in any order. Results stand in the order of
the files, whichever of them was ready first.
-/
import ScriptLint.Run

namespace ScriptLint

/-- How far the work on one file has come. -/
inductive Task where
  | queued (path : Path)
  | started (path : Path)
  /-- Read and linted, but not yet written back. -/
  | examined (result : FileResult)
  | finished (result : FileResult)
  /-- Left alone, as the run had been cancelled when its turn came. -/
  | skipped (path : Path)
  | raised (failure : RunFailure)
  deriving Repr, DecidableEq

namespace Task

def result? : Task → Option FileResult
  | .finished result => some result
  | _ => none

/-- Whether a task has come to its end without a failure. -/
def ended : Task → Bool
  | .finished _ => true
  | .skipped _ => true
  | _ => false

/-- The next step of a task, and the disk after it. -/
def advance (linter : Linter) (fixing cancelled : Bool) (disk : Disk) : Task → Disk × Task
  | .queued path => (disk, if cancelled then .skipped path else .started path)
  | .started path =>
    match linter.examine fixing disk path with
    | .ok result => (disk, .examined result)
    | .error failure => (disk, .raised failure)
  | .examined result => (Linter.save disk result, .finished result)
  | task => (disk, task)

end Task

/-- The tasks of a run and the disk they share. -/
structure Pool where
  disk : Disk
  tasks : List Task
  cancelled : Bool := false

/-- What happens next: some task gets its turn, or the run is cancelled. -/
inductive Move where
  | turn (place : Nat)
  | cancel
  deriving Repr, DecidableEq

namespace Pool

def start (disk : Disk) (paths : List Path) : Pool := { disk, tasks := paths.map .queued }

def move (linter : Linter) (fixing : Bool) (pool : Pool) : Move → Pool
  | .cancel => { pool with cancelled := true }
  | .turn place =>
    match pool.tasks[place]? with
    | none => pool
    | some task =>
      let (disk, task) := task.advance linter fixing pool.cancelled pool.disk
      { pool with disk, tasks := pool.tasks.set place task }

def play (linter : Linter) (fixing : Bool) (moves : List Move) (pool : Pool) : Pool :=
  moves.foldl (move linter fixing) pool

/-- The results in the order of the files, once every task has ended. -/
def results? (pool : Pool) : Option (List FileResult) :=
  if pool.tasks.all Task.ended then some (pool.tasks.filterMap Task.result?) else none

end Pool

/-- Runs over files by tasks that take turns; gives the disk after the moves, and the report if by
then all tasks have ended. -/
def Linter.runPool (linter : Linter) (fixing : Bool) (moves : List Move) (disk : Disk)
    (paths : List Path) : Disk × Option Report :=
  let unique := paths.eraseDups
  let pool := (Pool.start disk unique).play linter fixing moves
  (pool.disk, pool.results?.map fun results =>
    aggregate (Linter.harvest results (results.length < unique.length)))

end ScriptLint
