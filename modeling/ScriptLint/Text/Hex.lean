/-
Hexadecimal digits, lower case when written.
-/
namespace ScriptLint

def hexDigit (n : Nat) : Char :=
  if n < 10 then Char.ofNat (48 + n) else Char.ofNat (87 + n)

/-- The last `width` hexadecimal digits of a number, padded with zeros. -/
def hexDigits : Nat → Nat → List Char
  | 0, _ => []
  | width + 1, n => hexDigits width (n / 16) ++ [hexDigit (n % 16)]

def hexValue? (c : Char) : Option Nat :=
  if '0' ≤ c ∧ c ≤ '9' then some (c.toNat - 48)
  else if 'a' ≤ c ∧ c ≤ 'f' then some (c.toNat - 87)
  else if 'A' ≤ c ∧ c ≤ 'F' then some (c.toNat - 55)
  else none

/-- Reads hexadecimal digits; any other character makes it fail. -/
def readHex? (digits : List Char) : Option Nat :=
  digits.foldl (fun total c => do return 16 * (← total) + (← hexValue? c)) (some 0)

theorem length_hexDigits (width n : Nat) : (hexDigits width n).length = width := by
  induction width generalizing n with
  | zero => rfl
  | succ width ih => simp [hexDigits, ih]

theorem hexValue?_hexDigit {n : Nat} (h : n < 16) : hexValue? (hexDigit n) = some n :=
  (by decide : ∀ n : Fin 16, hexValue? (hexDigit n) = some n.val) ⟨n, h⟩

theorem readHex?_hexDigits {width n : Nat} (h : n < Nat.pow 16 width) :
    readHex? (hexDigits width n) = some n := by
  induction width generalizing n with
  | zero => simp at h; subst h; rfl
  | succ width ih =>
    have front : readHex? (hexDigits width (n / 16)) = some (n / 16) :=
      ih (by have h : n < Nat.pow 16 width * 16 := h; omega)
    have last := hexValue?_hexDigit (n := n % 16) (by omega)
    simp only [readHex?] at front ⊢
    simp only [hexDigits, List.foldl_append, front, List.foldl_cons, List.foldl_nil, last]
    show some (16 * (n / 16) + n % 16) = some n
    congr 1
    omega

end ScriptLint
