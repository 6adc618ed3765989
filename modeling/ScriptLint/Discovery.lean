/-
Finding the files to lint.

A directory is searched through all directories below it, except those whose
name is on a list; links are passed over unless the search follows them. Files
count by the ending of their name, in any case. What is found is sorted by path
components.
-/
import ScriptLint.Config.Basic
import ScriptLint.Disk.RealPath

namespace ScriptLint

structure Search where
  extensions : List String := Config.defaultExtensions
  ignored : List String
  followLinks : Bool := false
  keep : Path → Bool := fun _ => true

/-- Whether the ending of a file name, in lower case, is one of a list. -/
def isSourceFile (extensions : List String) (path : Path) : Bool :=
  extensions.contains (lowerCase path.suffix)

def isIgnored (ignored : List String) (directory : Path) : Bool := ignored.contains directory.name

namespace Search

/-- Directories of dependencies, build and test output, version control, editors and caches. -/
def defaultIgnored : List String :=
  ["node_modules", "bower_components", "jspm_packages", "vendor", "build", "dist", "out",
   "coverage", ".next", ".git", ".hg", ".svn", ".idea", ".vscode", ".cache", ".parcel-cache",
   "__pycache__"]

inductive Failure where
  | noSuchDirectory (path : Path)
  | notADirectory (path : Path)
  deriving Repr, DecidableEq

def Failure.message : Failure → String
  | .noSuchDirectory path => "No such directory: " ++ path.toString
  | .notADirectory path => "Not a directory: " ++ path.toString

/-- The paths of the entries of a directory. -/
def entriesIn (disk : Disk) (directory : Path) : List Path :=
  match disk.locate directory with
  | .ok place => (disk.names place).map directory.child
  | .error _ => []

/-- The entry of a directory itself, which may be a link. -/
def ownEntry? (disk : Disk) (directory path : Path) : Option Entry :=
  match disk.locate directory with
  | .ok place => disk.get? (place ++ [path.name])
  | .error _ => none

/-- What an entry of a directory counts as: a link counts as what it leads to if links are
followed, and as nothing if they are not. -/
def entryAt? (search : Search) (disk : Disk) (directory path : Path) : Option Entry :=
  match ownEntry? disk directory path with
  | some (.link _) => if search.followLinks then disk.stat? path else none
  | other => other

/-- The directories in a directory that are searched too. -/
def below (search : Search) (disk : Disk) (directory : Path) : List Path :=
  (entriesIn disk directory).filter fun path =>
    search.entryAt? disk directory path = some .directory && !isIgnored search.ignored path

/-- Whether a path is a file that the search looks for. -/
def wants (search : Search) (path : Path) : Bool :=
  isSourceFile (search.extensions.map lowerCase) path && search.keep path

def isFileEntry : Option Entry → Bool
  | some (.file _) => true
  | _ => false

/-- The files of a directory that the search looks for. -/
def filesIn (search : Search) (disk : Disk) (directory : Path) : List Path :=
  (entriesIn disk directory).filter fun path =>
    isFileEntry (search.entryAt? disk directory path) && search.wants path

/-- A directory and the directories below it, to a depth. -/
def directories (search : Search) (disk : Disk) : Nat → Path → List Path
  | 0, directory => [directory]
  | depth + 1, directory =>
    directory :: (search.below disk directory).flatMap (directories search disk depth)

/-- No path goes deeper: between one link and the next it goes down one branch of the disk. -/
def depthLimit (disk : Disk) : Nat :=
  let deepest := (disk.entries.map fun (place, _) => place.length).foldl max 0
  (Disk.linkLimit + 1) * (deepest + 1)

/-- The files below an existing directory. -/
def files (search : Search) (disk : Disk) (root : Path) : List Path :=
  ((search.directories disk (depthLimit disk) root).flatMap (search.filesIn disk)).mergeSort
    Path.before

/-- The files below a directory, as absolute paths in order. -/
def find (search : Search) (disk : Disk) (root : Path) : Except Failure (List Path) :=
  let root := disk.realPath root
  match disk.stat? root with
  | none => .error (.noSuchDirectory root)
  | some .directory => .ok (search.files disk root)
  | some _ => .error (.notADirectory root)

/-- What a target stands for: the files below a directory, or the file itself, whatever its name
and whether or not it exists. -/
def expand (search : Search) (disk : Disk) (target : Path) : List Path :=
  if disk.isDirectory target then search.files disk (disk.realPath target)
  else [disk.realPath target]

/-- The files of several targets; of equal ones the first stays. -/
def collect (search : Search) (disk : Disk) (targets : List Path) : List Path :=
  (targets.flatMap (search.expand disk)).eraseDups

end Search

end ScriptLint
