/-
The order of report entries: by path, then by start offset, then by rule name,
texts by code point. Sorting is stable, so entries with equal keys stay in the
order in which they came.
-/
namespace ScriptLint

structure SortKey where
  path : String
  start : Nat
  rule : String
  deriving Repr, DecidableEq

namespace SortKey

def le (a b : SortKey) : Bool :=
  a.path < b.path ||
    (a.path == b.path && (a.start < b.start || (a.start == b.start && a.rule ≤ b.rule)))

end SortKey

/-- Stable sorting by a key. -/
def sortByKey {α : Type} (key : α → SortKey) (items : List α) : List α :=
  items.mergeSort fun a b => (key a).le (key b)

theorem sortByKey_perm {α : Type} (key : α → SortKey) (items : List α) :
    (sortByKey key items).Perm items :=
  List.mergeSort_perm items _

end ScriptLint
