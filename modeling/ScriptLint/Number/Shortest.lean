/-
The fewest decimal digits that read back as a given binary64 number, and the
text that shows them: positional from 10^-4 up to 10^16, otherwise with an
exponent of at least two digits, always with a point or an exponent.
-/
import ScriptLint.Number.Binary64

namespace ScriptLint

namespace Binary64

/-- A positive number as a fraction, with half the distance to the next number below and above,
all over one denominator. -/
structure Window where
  value : Nat
  below : Nat
  above : Nat
  den : Nat
  /-- Whether the ends of the window round to the number too. -/
  closed : Bool

def window (mantissa : Nat) (exponent : Int) : Window :=
  let narrow := mantissa = Nat.pow 2 52 ∧ minExponent < exponent
  let scale := if 0 ≤ exponent then Nat.pow 2 exponent.toNat else 1
  let den := if 0 ≤ exponent then 1 else Nat.pow 2 (-exponent).toNat
  { value := 4 * mantissa * scale
    below := (if narrow then 1 else 2) * scale
    above := 2 * scale
    den := 4 * den
    closed := mantissa % 2 = 0 }

/-- Whether `digits * 10 ^ power` reads back as the number of the window. -/
def Window.holds (w : Window) (digits : Nat) (power : Int) : Bool :=
  let (num, den) :=
    if 0 ≤ power then (digits * Nat.pow 10 power.toNat, 1)
    else (digits, Nat.pow 10 (-power).toNat)
  let point := num * w.den
  let low := (w.value - w.below) * den
  let high := (w.value + w.above) * den
  if w.closed then low ≤ point && point ≤ high else low < point && point < high

/-- The power of ten at or below the value. -/
def Window.magnitude (w : Window) : Int :=
  if w.den ≤ w.value then ((Nat.toDigits 10 (w.value / w.den)).length : Int) - 1
  else
    let shift := (Nat.toDigits 10 (w.den / w.value)).length
    if w.den ≤ w.value * Nat.pow 10 (shift - 1) then -((shift : Int) - 1) else -(shift : Int)

/-- The grid point with `count` digits nearest to the value, if one reads back. -/
def Window.nearest? (w : Window) (count : Nat) : Option (Nat × Int) :=
  let power := w.magnitude - (count : Int) + 1
  let (num, den) :=
    if 0 ≤ power then (w.value, w.den * Nat.pow 10 power.toNat)
    else (w.value * Nat.pow 10 (-power).toNat, w.den)
  let down := num / den
  let up := down + 1
  match w.holds down power, w.holds up power with
  | true, true => some (if 2 * (num % den) ≤ den then down else up, power)
  | true, false => some (down, power)
  | false, true => some (up, power)
  | false, false => none

/-- The digits and the power of ten of the last one; seventeen digits always suffice. -/
def Window.shortest (w : Window) : Nat × Int :=
  ((List.range 17).findSome? fun i => w.nearest? (i + 1)).getD (0, 0)

/-- Drops the zeros at the end of a number of digits, at most `fuel` of them. -/
def dropZeros : Nat → Nat → Int → Nat × Int
  | 0, digits, power => (digits, power)
  | fuel + 1, digits, power =>
    if digits % 10 = 0 ∧ digits ≠ 0 then dropZeros fuel (digits / 10) (power + 1)
    else (digits, power)

/-- Where positional notation begins and ends, as powers of ten. -/
def positionalLow : Int := -4
def positionalHigh : Int := 16

def layout (digits : List Char) (power : Int) : List Char :=
  let count : Int := digits.length
  /- the power of ten of the first digit -/
  let top := power + count - 1
  if positionalLow ≤ top ∧ top < positionalHigh then
    if 0 ≤ power then digits ++ List.replicate power.toNat '0' ++ ['.', '0']
    else if 0 ≤ top then digits.take (top + 1).toNat ++ '.' :: digits.drop (top + 1).toNat
    else '0' :: '.' :: List.replicate (-top - 1).toNat '0' ++ digits
  else
    let fraction := if digits.length ≤ 1 then digits else digits.take 1 ++ '.' :: digits.drop 1
    let size := Nat.toDigits 10 top.natAbs
    let size := if size.length < 2 then '0' :: size else size
    fraction ++ 'e' :: (if top < 0 then '-' else '+') :: size

def text (x : Binary64) : String :=
  let sign (negative : Bool) := if negative then ['-'] else []
  match x with
  | .infinite negative => String.ofList (sign negative ++ ['i', 'n', 'f'])
  | .finite negative 0 _ => String.ofList (sign negative ++ ['0', '.', '0'])
  | .finite negative mantissa exponent =>
    let (digits, power) := (window mantissa exponent).shortest
    let (digits, power) := dropZeros 17 digits power
    String.ofList (sign negative ++ layout (Nat.toDigits 10 digits) power)

end Binary64

end ScriptLint
