/-
White space: which characters count as blank, and trimming them off the ends of
a text. `strip_eq_nil_iff` says that trimming leaves nothing exactly of a blank
text.
-/
import ScriptLint.Text.Ranges

namespace ScriptLint

/-- Unicode white space: the separators of categories Zs, Zl, Zp, the ASCII
format effectors, the four information separators and next line. -/
def blankTable : CodeRanges := #[
  (0x9, 0xd), (0x1c, 0x20), (0x85, 0x85), (0xa0, 0xa0), (0x1680, 0x1680),
  (0x2000, 0x200a), (0x2028, 0x2029), (0x202f, 0x202f), (0x205f, 0x205f), (0x3000, 0x3000)]

def isBlank (c : Char) : Bool := blankTable.contains c

namespace Chars

/-- Drops the characters of a class from both ends. -/
def stripWhere (p : Char → Bool) (cs : List Char) : List Char :=
  ((cs.dropWhile p).reverse.dropWhile p).reverse

def strip (cs : List Char) : List Char := stripWhere isBlank cs

theorem dropWhile_eq_nil_iff {p : Char → Bool} {cs : List Char} :
    cs.dropWhile p = [] ↔ ∀ c ∈ cs, p c = true := by
  induction cs with
  | nil => simp
  | cons c cs ih =>
    by_cases h : p c = true
    · simp [h, ih]
    · simp [h]

theorem dropWhile_head_not {p : Char → Bool} {cs : List Char} {c : Char} {rest : List Char}
    (h : cs.dropWhile p = c :: rest) : p c = false := by
  induction cs with
  | nil => simp at h
  | cons d ds ih =>
    by_cases hd : p d = true
    · exact ih (by simpa [List.dropWhile_cons, hd] using h)
    · simp [hd] at h
      simpa [h.1] using hd

theorem stripWhere_eq_nil_iff {p : Char → Bool} {cs : List Char} :
    stripWhere p cs = [] ↔ ∀ c ∈ cs, p c = true := by
  rw [stripWhere, List.reverse_eq_nil_iff, dropWhile_eq_nil_iff, ← @dropWhile_eq_nil_iff p cs]
  constructor
  · intro h
    match hd : cs.dropWhile p with
    | [] => rfl
    | c :: rest =>
      have hc := h c (by simp [hd])
      rw [dropWhile_head_not hd] at hc
      cases hc
  · intro h
    simp [h]

theorem strip_eq_nil_iff {cs : List Char} : strip cs = [] ↔ ∀ c ∈ cs, isBlank c = true :=
  stripWhere_eq_nil_iff

/-- The first run of characters that are not blank. -/
def firstWord (cs : List Char) : List Char :=
  (cs.dropWhile isBlank).takeWhile fun c => !isBlank c

end Chars

/-- A text without the blank characters at its ends. -/
def strip (s : String) : String := String.ofList (Chars.strip s.toList)

end ScriptLint
