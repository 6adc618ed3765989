/-
Characters by name. The syllables of Hangul and the unified ideographs have names that are put
together by a rule, in capital letters only; so have the ideographs and signs of some further
ranges, in any case. All other names are in a table, where case does not count.
-/
import ScriptLint.Text.Hex
import ScriptLint.Text.NameTable
import ScriptLint.Text.Split

namespace ScriptLint

namespace CharacterName

/-- What comes after a text, where another one begins with it. -/
def after? : List Char → List Char → Option (List Char)
  | [], cs => some cs
  | c :: front, d :: cs => if c = d then after? front cs else none
  | _ :: _, [] => none

def leadingConsonants : List String :=
  ["G", "GG", "N", "D", "DD", "R", "M", "B", "BB", "S", "SS", "", "J", "JJ", "C", "K", "T", "P", "H"]

def vowels : List String :=
  ["A", "AE", "YA", "YAE", "EO", "E", "YEO", "YE", "O", "WA", "WAE", "OE", "YO", "U", "WEO", "WE", "WI", "YU",
    "EU", "YI", "I"]

def trailingConsonants : List String :=
  ["", "G", "GG", "GS", "N", "NJ", "NH", "D", "L", "LG", "LM", "LB", "LS", "LT", "LP", "LH", "M", "B", "BS", "S",
    "SS", "NG", "J", "C", "K", "T", "P", "H"]

/-- A syllable by its sounds. No two syllables have the same name. -/
def syllable? (sounds : List Char) : Option Nat :=
  leadingConsonants.zipIdx.findSome? fun (lead, i) => do
    let rest ← after? lead.toList sounds
    vowels.zipIdx.findSome? fun (vowel, j) => do
      let rest ← after? vowel.toList rest
      let k ← trailingConsonants.findIdx? (·.toList = rest)
      return 0xac00 + (i * vowels.length + j) * trailingConsonants.length + k

def unifiedIdeographs : List (Nat × Nat) := [
  (0x3400, 0x4dbf), (0x4e00, 0x9fff), (0x20000, 0x2a6df), (0x2a700, 0x2b738), (0x2b740, 0x2b81d),
  (0x2b820, 0x2cea1), (0x2ceb0, 0x2ebe0), (0x30000, 0x3134a)]

/-- A code point of some ranges in hexadecimal digits. -/
def numbered? (ranges : List (Nat × Nat)) (digits : List Char) : Option Nat := do
  let code ← readHex? digits
  if ranges.any fun (first, last) => first ≤ code && code ≤ last then return code else none

/-- Fronts of names that go on with the code point in as few digits as it takes, and the ranges they are for. -/
def numberedFronts : List (String × List (Nat × Nat)) := [
  ("CJK COMPATIBILITY IDEOGRAPH-", [(0xf900, 0xfa6d), (0xfa70, 0xfad9), (0x2f800, 0x2fa1d)]),
  ("KHITAN SMALL SCRIPT CHARACTER-", [(0x18b00, 0x18cd5)]),
  ("NUSHU CHARACTER-", [(0x1b170, 0x1b2fb)])]

/-- The code point that a line of the table gives a name to: the code of the line, and one more for each bar before. -/
def listedIn? (name line : List Char) : Option Nat := do
  let code ← readHex? (line.takeWhile (· ≠ ' '))
  match Chars.splitOn '|' ((line.dropWhile (· ≠ ' ')).drop 1) with
  | front :: endings =>
    let ending ← after? front name
    let i ← endings.findIdx? (· = ending)
    return code + i
  | [] => none

def listed? (name : List Char) : Option Nat :=
  ((nameTable.replace "\n|" "|").splitOn "\n").findSome? fun line => listedIn? name line.toList

end CharacterName

open CharacterName in
/-- The character that has a name. -/
def characterNamed? (name : List Char) : Option Nat :=
  match after? "HANGUL SYLLABLE ".toList name, after? "CJK UNIFIED IDEOGRAPH-".toList name with
  | some sounds, _ => syllable? sounds
  | none, some digits =>
    if (digits.length = 4 ∨ digits.length = 5) ∧ digits.all (!·.isLower) then numbered? unifiedIdeographs digits
    else none
  | none, none =>
    let name := name.map Char.toUpper
    let byNumber := numberedFronts.findSome? fun (front, ranges) => do
      let digits ← after? front.toList name
      let code ← numbered? ranges digits
      if digits.length = if code < 0x10000 then 4 else 5 then return code else none
    byNumber.or (listed? name)

end ScriptLint
