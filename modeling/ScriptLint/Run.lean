/-
A run over several files: each is read, linted and, when asked for, fixed in
place; what comes out is gathered in one report.

A file that cannot be read or decoded has one fatal finding. Repeated paths
count once. A run can be cancelled between files; files not yet started are
then left alone and the report says so.
-/
import ScriptLint.Disk.Basic
import ScriptLint.Session

namespace ScriptLint

/-- The outcome for one file. -/
structure FileResult where
  path : Path
  findings : List Finding
  source : Option String := none
  output : Option String := none
  applied : Nat := 0
  conflicts : List Conflict := []
  deriving Repr, DecidableEq

namespace FileResult

def changed (result : FileResult) : Bool := result.output.isSome && result.output != result.source

end FileResult

/-- Reads, decodes, parses and checks a file. -/
def Source.ofFile (parser : Parser) (disk : Disk) (path : Path) : Except SourceFault Source :=
  match disk.read path with
  | .error reason => .error (.parse { cause := .unreadable reason })
  | .ok bytes => Source.ofBytes parser path bytes

namespace Linter

/-- The text of a file, or why there is none. -/
def textOf (disk : Disk) (path : Path) : Except ParseError String :=
  match disk.read path with
  | .error reason => .error { cause := .unreadable reason }
  | .ok bytes =>
    match Utf8.decode? bytes with
    | some text => .ok text
    | none => .error { cause := .notUtf8, offset := (Utf8.errorOffset? bytes).getD 0 }

/-- Lints one file, and fixes its text if asked to; the disk is only read. -/
def examine (linter : Linter) (fixing : Bool) (disk : Disk) (path : Path) :
    Except RunFailure FileResult :=
  match textOf disk path with
  | .error error => .ok { path, findings := [parseErrorFinding path error] }
  | .ok text =>
    if fixing then
      (linter.fix text path).map fun state =>
        { path, findings := state.findings, source := some text, output := some state.output
          applied := state.applied, conflicts := state.conflicts }
    else (linter.lint text path).map fun findings => { path, findings, source := some text }

/-- Writes back the output of a file that was changed. -/
def save (disk : Disk) (result : FileResult) : Disk :=
  match result.output with
  | some output => if result.changed then disk.write result.path (Utf8.encode output) else disk
  | none => disk

/-- Lints or fixes files one after another, up to the first failure. `budget` is the number of
files that may still be started, if there is a limit. -/
def examineAll (linter : Linter) (fixing : Bool) :
    Option Nat → Disk → List Path → Disk × Except RunFailure (List FileResult)
  | _, disk, [] => (disk, .ok [])
  | some 0, disk, _ :: _ => (disk, .ok [])
  | budget, disk, path :: rest =>
    match linter.examine fixing disk path with
    | .error failure => (disk, .error failure)
    | .ok result =>
      let (disk, later) := examineAll linter fixing (budget.map (· - 1)) (save disk result) rest
      (disk, later.map (result :: ·))

/-- What the results of a run come to. -/
def harvest (results : List FileResult) (cancelled : Bool) : Harvest where
  streams := results.map FileResult.findings
  files := results.map FileResult.path
  conflicts := results.flatMap FileResult.conflicts
  fixedCount := results.foldr (fun result rest => result.applied + rest) 0
  cancelled := cancelled

/-- Runs over files; gives the disk that is left behind and the report. -/
def run (linter : Linter) (fixing : Bool) (budget : Option Nat) (disk : Disk)
    (paths : List Path) : Disk × Except RunFailure Report :=
  let unique := paths.eraseDups
  let (disk, results) := linter.examineAll fixing budget disk unique
  (disk, results.map fun results =>
    aggregate (harvest results (results.length < unique.length)))

end Linter

end ScriptLint
