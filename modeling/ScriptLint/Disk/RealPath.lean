/-
The real path of a path: absolute, without links and parent steps. A path need
not lead to anything; names that do not exist are kept as they are, and where
links run in a circle the rest of the path is.
-/
import ScriptLint.Disk.Basic

namespace ScriptLint

namespace Disk

/-- The steps of a path that count, parent steps taken back. -/
def tidy (steps : List String) : Location :=
  steps.foldl (fun place step =>
    if step = "" ∨ step = "." then place
    else if step = ".." then place.dropLast
    else place ++ [step]) []

/-- Resolves steps from a resolved place. `active` holds the links being resolved, `depth` bounds
how deeply they nest; the answer also tells whether a circle was met. -/
def resolve (disk : Disk) (depth : Nat) (active : List Location) (place : Location) :
    List String → Location × Bool
  | [] => (place, true)
  | step :: rest =>
    if step = "" ∨ step = "." then resolve disk depth active place rest
    else if step = ".." then resolve disk depth active place.dropLast rest
    else
      let next := place ++ [step]
      match disk.get? next with
      | some (.link target) =>
        if active.contains next then (next ++ rest, false)
        else
          match depth with
          | 0 => (next ++ rest, false)
          | depth + 1 =>
            let (start, steps) := stepsOf place target
            match resolve disk depth (next :: active) start steps with
            | (inside, true) => resolve disk (depth + 1) active inside rest
            | (inside, false) => (inside ++ rest, false)
      | _ => resolve disk depth active next rest
termination_by steps => (depth, steps.length)

/-- The number of entries bounds how deeply links can nest without a circle. -/
def realLocation (disk : Disk) (path : Path) : Location :=
  match resolve disk disk.entries.length [] (disk.startOf path) path.parts with
  | (place, true) => place
  | (place, false) => tidy place

def realPath (disk : Disk) (path : Path) : Path := ⟨.root, disk.realLocation path⟩

/-! ## Building a disk -/

/-- Makes the directories on the way to a location, the outermost first. -/
def makeDirectories (disk : Disk) (place : Location) : Disk :=
  ((List.range place.length).map fun n => place.take (n + 1)).foldl
    (fun disk outer =>
      match disk.get? outer with
      | some _ => disk
      | none => disk.put outer .directory) disk

/-- Adds an entry at a path, with the directories above it. -/
def add (disk : Disk) (path : Path) (entry : Entry) : Disk :=
  let folder := disk.realLocation ⟨path.anchor, path.parts.dropLast⟩
  match path.parts.getLast?, entry with
  | none, _ => disk
  | some name, .directory => disk.makeDirectories (folder ++ [name])
  | some name, entry => (disk.makeDirectories folder).put (folder ++ [name]) entry

/-- A disk that holds nothing but its working directory. -/
def blank (home : Location) : Disk := makeDirectories ⟨home, []⟩ home

end Disk

end ScriptLint
