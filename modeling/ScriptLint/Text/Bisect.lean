/-
Binary search for the point where a test over a range of indices turns from
true to false. `bisect_le` and `le_bisect` keep the answer in the range; for a
test that never turns back, `bisect_eq` says that it is the turning point.
-/
namespace ScriptLint

/-- Halves `[low, high)`: goes right of the middle where the test holds, left of it where it
does not. -/
def bisect (below : Nat → Bool) (low high : Nat) : Nat :=
  if low < high then
    let middle := (low + high) / 2
    if below middle then bisect below (middle + 1) high else bisect below low middle
  else low
termination_by high - low

theorem le_bisect (below : Nat → Bool) (low high : Nat) : low ≤ bisect below low high := by
  fun_induction bisect below low high <;> omega

theorem bisect_le (below : Nat → Bool) (low high : Nat) (h : low ≤ high) :
    bisect below low high ≤ high := by
  fun_induction bisect below low high <;> omega

/-- The turning point `k` of a test that holds below `k` and fails from `k` on. -/
theorem bisect_eq {below : Nat → Bool} {low high k : Nat} (hlow : low ≤ k) (hhigh : k ≤ high)
    (left : ∀ i, low ≤ i → i < k → below i = true)
    (right : ∀ i, k ≤ i → i < high → below i = false) :
    bisect below low high = k := by
  fun_induction bisect below low high with
  | case1 low high h middle hb ih =>
    apply ih
    · apply Nat.lt_of_not_le
      intro hk
      have := right middle hk (by omega)
      simp [hb] at this
    · exact hhigh
    · intro i hi hik
      exact left i (by omega) hik
    · exact right
  | case2 low high h middle hb ih =>
    apply ih
    · exact hlow
    · apply Nat.le_of_not_lt
      intro hk
      exact hb (left middle (by omega) hk)
    · exact left
    · intro i hi him
      exact right i hi (by omega)
  | case3 low high h => omega

end ScriptLint
