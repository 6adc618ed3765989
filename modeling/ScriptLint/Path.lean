/-
Slash-separated paths in normal form: repeated slashes, `.` components and
slashes at the end are gone, `..` stays. Two slashes at the front are a root of
their own; three or more are one.
-/
import ScriptLint.Text.Case
import ScriptLint.Text.Split

namespace ScriptLint

/-- Where a path starts from. -/
inductive Anchor where
  | here
  | root
  | doubleRoot
  deriving Repr, DecidableEq

structure Path where
  anchor : Anchor
  parts : List String
  deriving Repr, DecidableEq

namespace Path

def anchorOf : List Char → Anchor
  | '/' :: '/' :: '/' :: _ => .root
  | '/' :: '/' :: _ => .doubleRoot
  | '/' :: _ => .root
  | _ => .here

/-- The components that count. -/
def partsOf (cs : List Char) : List String :=
  ((Chars.splitOn '/' cs).map String.ofList).filter fun part => part ≠ "" ∧ part ≠ "."

def ofString (s : String) : Path :=
  ⟨anchorOf s.toList, partsOf s.toList⟩

def toString (path : Path) : String :=
  let joined := String.intercalate "/" path.parts
  match path.anchor with
  | .here => if path.parts = [] then "." else joined
  | .root => "/" ++ joined
  | .doubleRoot => "//" ++ joined

/-- The last component; empty for a path without components. -/
def name (path : Path) : String := path.parts.getLast?.getD ""

def child (path : Path) (name : String) : Path := ⟨path.anchor, path.parts ++ [name]⟩

/-- The part of a name from its last point on. A point at either end of the name starts none. -/
def suffixOf (name : String) : String :=
  let cs := name.toList
  let tail := (cs.reverse.takeWhile (· ≠ '.')).reverse
  if tail.length = cs.length ∨ tail.length + 1 = cs.length ∨ tail = [] then ""
  else String.ofList ('.' :: tail)

def suffix (path : Path) : String := suffixOf path.name

/-- The path from a directory on, for a path below it. -/
def relativeTo? (directory path : Path) : Option Path :=
  if directory.anchor = path.anchor ∧ directory.parts <+: path.parts then
    some ⟨.here, path.parts.drop directory.parts.length⟩
  else none

/-- Component by component, texts by code point; a path comes before those below it. -/
def partsLe : List String → List String → Bool
  | [], _ => true
  | _ :: _, [] => false
  | a :: as, b :: bs => a < b || (a == b && partsLe as bs)

/-- Order by components. -/
def before (a b : Path) : Bool := partsLe a.parts b.parts

end Path

instance : ToString Path := ⟨Path.toString⟩

end ScriptLint
