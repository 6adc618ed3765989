/-
Ranges of source text. `start` and `stop` are byte offsets, the end excluded;
lines and columns are counted from one, in characters, for display. Two spans
overlap when they share a byte or start at the same offset, so that two
insertions at one place overlap.
-/
namespace ScriptLint

structure Span where
  start : Nat
  stop : Nat
  line : Nat := 1
  column : Nat := 1
  endLine : Option Nat := none
  endColumn : Option Nat := none
  deriving Repr, DecidableEq

namespace Span

def contains (outer inner : Span) : Bool :=
  outer.start ≤ inner.start && inner.stop ≤ outer.stop

def overlaps (a b : Span) : Bool :=
  a.start == b.start || (a.start < b.stop && b.start < a.stop)

theorem overlaps_comm (a b : Span) : a.overlaps b = b.overlaps a := by
  rw [Bool.eq_iff_iff]
  simp only [overlaps, Bool.or_eq_true, Bool.and_eq_true, beq_iff_eq, decide_eq_true_eq]
  omega

theorem contains_refl (a : Span) : a.contains a = true := by
  simp [contains]

end Span

end ScriptLint
