/-
A search for files, one directory after another.

Directories that are still to be searched wait on a stack. Each turn takes the one that
was put there last and visits its entries, in whatever order the disk lists them:
directories that are to be searched too go onto the stack, and files that the search
looks for are kept. The search is over when the stack is empty; what it has found is
then sorted.
-/
import ScriptLint.Discovery

namespace ScriptLint

/-- How far a search has come. Of the pending directories the first is listed next. -/
structure Sweep where
  pending : List Path
  listed : List Path := []
  found : List Path := []
  deriving Repr, DecidableEq

namespace Sweep

def start (root : Path) : Sweep := { pending := [root] }

/-- What an entry of a directory adds. -/
def visit (search : Search) (disk : Disk) (directory : Path) (sweep : Sweep) (path : Path) : Sweep :=
  match search.entryAt? disk directory path with
  | some .directory =>
    if isIgnored search.ignored path then sweep else { sweep with pending := path :: sweep.pending }
  | some (.file _) => if search.wants path then { sweep with found := sweep.found ++ [path] } else sweep
  | _ => sweep

/-- One turn: the next directory is listed, in some order. -/
inductive Step (search : Search) (disk : Disk) : Sweep → Sweep → Prop where
  | list {directory : Path} {pending listed found order : List Path}
      (perm : order.Perm (Search.entriesIn disk directory)) :
      Step search disk ⟨directory :: pending, listed, found⟩
        (order.foldl (visit search disk directory) ⟨pending, listed ++ [directory], found⟩)

def result (sweep : Sweep) : List Path := sweep.found.mergeSort Path.before

end Sweep

end ScriptLint
