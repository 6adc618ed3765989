/-
Digits. A decimal digit has a value from 0 to 9 and can be read as part of a
number; the wider class of digits also holds superscripts and circled digits,
which have no place value. A number of more than `digitLimit` digits is neither
read nor written.
-/
import ScriptLint.Text.Ranges

namespace ScriptLint

/-- The code points of the zeros; the nine digits after each follow it. -/
def decimalZeros : List Nat := [
  0x30, 0x660, 0x6f0, 0x7c0, 0x966, 0x9e6, 0xa66, 0xae6, 0xb66, 0xbe6,
  0xc66, 0xce6, 0xd66, 0xde6, 0xe50, 0xed0, 0xf20, 0x1040, 0x1090, 0x17e0,
  0x1810, 0x1946, 0x19d0, 0x1a80, 0x1a90, 0x1b50, 0x1bb0, 0x1c40, 0x1c50, 0xa620,
  0xa8d0, 0xa900, 0xa9d0, 0xa9f0, 0xaa50, 0xabf0, 0xff10, 0x104a0, 0x10d30, 0x11066,
  0x110f0, 0x11136, 0x111d0, 0x112f0, 0x11450, 0x114d0, 0x11650, 0x116c0, 0x11730, 0x118e0,
  0x11950, 0x11c50, 0x11d50, 0x11da0, 0x16a60, 0x16ac0, 0x16b50, 0x1d7ce, 0x1d7d8, 0x1d7e2,
  0x1d7ec, 0x1d7f6, 0x1e140, 0x1e2f0, 0x1e950, 0x1fbf0]

/-- Digits without a place value. -/
def plainDigitTable : CodeRanges := #[
  (0xb2, 0xb3), (0xb9, 0xb9), (0x1369, 0x1371), (0x19da, 0x19da), (0x2070, 0x2070), (0x2074, 0x2079),
  (0x2080, 0x2089), (0x2460, 0x2468), (0x2474, 0x247c), (0x2488, 0x2490), (0x24ea, 0x24ea), (0x24f5, 0x24fd),
  (0x24ff, 0x24ff), (0x2776, 0x277e), (0x2780, 0x2788), (0x278a, 0x2792), (0x10a40, 0x10a43), (0x10e60, 0x10e68),
  (0x11052, 0x1105a), (0x1f100, 0x1f10a)]

def decimalValue? (c : Char) : Option Nat :=
  (decimalZeros.find? fun base => base ≤ c.toNat && c.toNat < base + 10).map (c.toNat - ·)

def isDecimal (c : Char) : Bool := (decimalValue? c).isSome

def isDigit (c : Char) : Bool := isDecimal c || plainDigitTable.contains c

/-- The most digits that a number has when it is read or written. -/
def digitLimit : Nat := 4300

/-- A number with one more digit at its end. -/
def appendDigit? (total : Option Nat) (c : Char) : Option Nat := do
  return 10 * (← total) + (← decimalValue? c)

/-- Reads decimal digits in base ten; any other character makes it fail. -/
def readDecimal? (digits : List Char) : Option Nat := digits.foldl appendDigit? (some 0)

theorem decimalValue?_lt {c : Char} {n : Nat} (h : decimalValue? c = some n) : n < 10 := by
  simp only [decimalValue?, Option.map_eq_some_iff] at h
  obtain ⟨base, found, rfl⟩ := h
  have := List.find?_some found
  simp at this
  omega

theorem isSome_foldl_appendDigit? (digits : List Char) (total : Option Nat) :
    (digits.foldl appendDigit? total).isSome = (total.isSome && digits.all isDecimal) := by
  induction digits generalizing total with
  | nil => simp
  | cons c rest ih =>
    have hstep : (appendDigit? total c).isSome = (total.isSome && isDecimal c) := by
      unfold appendDigit? isDecimal
      cases total <;> cases decimalValue? c <;> rfl
    rw [List.foldl_cons, ih, hstep, List.all_cons, Bool.and_assoc]

/-- Digits are read just when all of them have a place value. -/
theorem isSome_readDecimal? (digits : List Char) : (readDecimal? digits).isSome = digits.all isDecimal :=
  isSome_foldl_appendDigit? digits (some 0)

theorem foldl_appendDigit?_lt {digits : List Char} {total bound n : Nat} (hbound : total < bound)
    (h : digits.foldl appendDigit? (some total) = some n) : n < bound * Nat.pow 10 digits.length := by
  induction digits generalizing total bound with
  | nil =>
    obtain rfl := Option.some.inj h
    simpa using hbound
  | cons c rest ih =>
    have hdecimal := isSome_foldl_appendDigit? (c :: rest) (some total)
    rw [h, Option.isSome_some, Option.isSome_some, Bool.true_and, List.all_cons, eq_comm,
      Bool.and_eq_true] at hdecimal
    obtain ⟨value, hvalue⟩ := Option.isSome_iff_exists.1 hdecimal.1
    have hstep : appendDigit? (some total) c = some (10 * total + value) := by
      rw [appendDigit?, hvalue]
      rfl
    rw [List.foldl_cons, hstep] at h
    have hlt := decimalValue?_lt hvalue
    have hbelow : 10 * total + value < bound * 10 := by omega
    have hnext := ih hbelow h
    have hpow : Nat.pow 10 (c :: rest).length = 10 * Nat.pow 10 rest.length := Nat.pow_succ'
    rwa [hpow, ← Nat.mul_assoc]

/-- A number is less than the power of ten with as many zeros as it has digits. -/
theorem readDecimal?_lt {digits : List Char} {n : Nat} (h : readDecimal? digits = some n) :
    n < Nat.pow 10 digits.length := by
  simpa using foldl_appendDigit?_lt Nat.one_pos h

end ScriptLint
