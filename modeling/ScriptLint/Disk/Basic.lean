/-
A disk of directories, files and symbolic links, and a working directory.

Entries are kept in a map from their real location, the names from the root
directory down. Paths are looked up name by name: links are followed, a bounded
number of them, and every step but the last must lead to a directory.

`lookup_update_self` and `lookup_update_other` are the store laws.
-/
import ScriptLint.Path
import ScriptLint.Source.ParseError

namespace ScriptLint

/-- The names from the root directory down. -/
abbrev Location := List String

inductive Entry where
  | file (bytes : Bytes)
  | directory
  | link (target : String)
  deriving Repr, DecidableEq

structure Disk where
  home : Location
  entries : List (Location × Entry)
  deriving Repr, DecidableEq

namespace Disk

def lookup (place : Location) : List (Location × Entry) → Option Entry
  | [] => none
  | (location, entry) :: rest => if location = place then some entry else lookup place rest

def update (place : Location) (entry : Entry) : List (Location × Entry) → List (Location × Entry)
  | [] => [(place, entry)]
  | (location, old) :: rest =>
    if location = place then (place, entry) :: rest
    else (location, old) :: update place entry rest

/-- The root directory is always there. -/
def get? (disk : Disk) (place : Location) : Option Entry :=
  if place = [] then some .directory else lookup place disk.entries

def put (disk : Disk) (place : Location) (entry : Entry) : Disk :=
  { disk with entries := update place entry disk.entries }

/-- The names in a directory, in the order in which the disk lists them. -/
def names (disk : Disk) (directory : Location) : List String :=
  disk.entries.filterMap fun (location, _) =>
    if location.dropLast = directory then location.getLast? else none

theorem lookup_update_self (place : Location) (entry : Entry)
    (entries : List (Location × Entry)) :
    lookup place (update place entry entries) = some entry := by
  induction entries with
  | nil => simp [update, lookup]
  | cons p rest ih => by_cases h : p.1 = place <;> simp [update, lookup, h, ih]

theorem lookup_update_other {place other : Location} (h : other ≠ place) (entry : Entry)
    (entries : List (Location × Entry)) :
    lookup other (update place entry entries) = lookup other entries := by
  induction entries with
  | nil => simp [update, lookup, Ne.symm h]
  | cons p rest ih =>
    by_cases hp : p.1 = place
    · simp [update, lookup, hp, Ne.symm h]
    · simp [update, lookup, hp, ih]

/-! ## Paths -/

/-- Where a path written as text starts, and the steps it takes; empty steps stay in place. -/
def stepsOf (base : Location) (path : String) : Location × List String :=
  let steps := (Chars.splitOn '/' path.toList).map String.ofList
  (if path.toList.head? = some '/' then [] else base, steps)

def startOf (disk : Disk) (path : Path) : Location :=
  match path.anchor with
  | .here => disk.home
  | _ => []

/-- How many links a lookup follows before it gives up. -/
def linkLimit : Nat := 40

/-- Follows steps from a place; `links` more links may be followed. -/
def walk (disk : Disk) (links : Nat) (place : Location) : List String → Except ReadError Location
  | [] => .ok place
  | step :: rest =>
    match disk.get? place with
    | none => .error .noSuchFile
    | some .directory =>
      if step = "" ∨ step = "." then walk disk links place rest
      else if step = ".." then walk disk links place.dropLast rest
      else
        match disk.get? (place ++ [step]) with
        | none => .error .noSuchFile
        | some (.link target) =>
          match links with
          | 0 => .error .tooManyLinks
          | links + 1 =>
            let (start, steps) := stepsOf place target
            walk disk links start (steps ++ rest)
        | some _ => walk disk links (place ++ [step]) rest
    | some _ => .error .notDirectory
termination_by steps => (links, steps.length)

/-- The real location of what a path leads to. -/
def locate (disk : Disk) (path : Path) : Except ReadError Location :=
  walk disk linkLimit (disk.startOf path) path.parts

/-- What a path leads to. -/
def stat? (disk : Disk) (path : Path) : Option Entry :=
  match disk.locate path with
  | .ok place => disk.get? place
  | .error _ => none

def isDirectory (disk : Disk) (path : Path) : Bool := disk.stat? path = some .directory

def isFile (disk : Disk) (path : Path) : Bool :=
  match disk.stat? path with
  | some (.file _) => true
  | _ => false

/-! ## Files -/

def read (disk : Disk) (path : Path) : Except ReadError Bytes :=
  match disk.locate path with
  | .error reason => .error reason
  | .ok place =>
    match disk.get? place with
    | some (.file bytes) => .ok bytes
    | some .directory => .error .isDirectory
    | _ => .error .noSuchFile

/-- Replaces the content of the file that a path leads to. -/
def write (disk : Disk) (path : Path) (bytes : Bytes) : Disk :=
  match disk.locate path with
  | .ok place => disk.put place (.file bytes)
  | .error _ => disk

end Disk

end ScriptLint
