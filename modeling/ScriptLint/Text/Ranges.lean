/-
Sets of characters given by tables of code-point ranges. A table lists its
ranges in increasing order, both ends included.
-/
namespace ScriptLint

abbrev CodeRanges := Array (Nat × Nat)

def CodeRanges.contains (table : CodeRanges) (c : Char) : Bool :=
  table.any fun (first, last) => first ≤ c.toNat && c.toNat ≤ last

/-- A run of code points `first, first + step, …, last`. -/
structure CodeRun where
  first : Nat
  last : Nat
  step : Nat
  deriving Repr, DecidableEq

def CodeRun.contains (run : CodeRun) (c : Char) : Bool :=
  run.first ≤ c.toNat && c.toNat ≤ run.last && (c.toNat - run.first) % run.step == 0

end ScriptLint
