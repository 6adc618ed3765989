/-
Cutting a text at a separator. `join_splitOn` says that the pieces, joined by
the separator, give the text back.
-/
namespace ScriptLint

namespace Chars

/-- The pieces between the occurrences of a separator; one more than there are of them. -/
def splitOn (sep : Char) : List Char → List (List Char)
  | [] => [[]]
  | c :: cs =>
    if c = sep then [] :: splitOn sep cs
    else match splitOn sep cs with
      | [] => [[c]]
      | piece :: pieces => (c :: piece) :: pieces

/-- Joins pieces with a separator between them. -/
def join (sep : Char) : List (List Char) → List Char
  | [] => []
  | [piece] => piece
  | piece :: next :: pieces => piece ++ sep :: join sep (next :: pieces)

theorem splitOn_ne_nil (sep : Char) (cs : List Char) : splitOn sep cs ≠ [] := by
  cases cs with
  | nil => simp [splitOn]
  | cons c cs =>
    simp only [splitOn]
    split
    · simp
    · split <;> simp

theorem join_splitOn (sep : Char) (cs : List Char) : join sep (splitOn sep cs) = cs := by
  induction cs with
  | nil => rfl
  | cons c cs ih =>
    simp only [splitOn]
    split
    · rename_i same
      match hs : splitOn sep cs with
      | [] => exact absurd hs (splitOn_ne_nil sep cs)
      | piece :: pieces => simp [join, ← hs, ih, same]
    · match hs : splitOn sep cs with
      | [] => exact absurd hs (splitOn_ne_nil sep cs)
      | [piece] => simpa [join, hs] using ih
      | piece :: next :: pieces => simpa [join, hs] using ih

theorem not_mem_of_mem_splitOn {sep : Char} {cs piece : List Char}
    (h : piece ∈ splitOn sep cs) : sep ∉ piece := by
  induction cs generalizing piece with
  | nil => simp [splitOn] at h; simp [h]
  | cons c cs ih =>
    simp only [splitOn] at h
    split at h
    · rcases List.mem_cons.1 h with rfl | h
      · simp
      · exact ih h
    · rename_i differs
      match hs : splitOn sep cs with
      | [] => exact absurd hs (splitOn_ne_nil sep cs)
      | first :: pieces =>
        simp only [hs] at h
        rcases List.mem_cons.1 h with rfl | h
        · have : sep ∉ first := ih (by simp [hs])
          simp [this, Ne.symm differs]
        · exact ih (by simp [hs, h])

end Chars

/-- The text before the first separator and the text after it, if there is one. -/
def cutAt (sep : Char) (s : String) : String × Option String :=
  let cs := s.toList
  (String.ofList (cs.takeWhile (· ≠ sep)),
   match cs.dropWhile (· ≠ sep) with
   | [] => none
   | _ :: rest => some (String.ofList rest))

end ScriptLint
