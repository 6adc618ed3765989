/-
Text patterns, and searching a text for one.

Matching tries the ways to match in a fixed order and goes back to the next one as long as what
comes after does not match: `run` is given what comes after as a function. What is looked for
ahead or behind, what is committed to and each round of a possessive repetition keep to their first
way. A round of a repetition beyond the least number is not begun where the round before it
began, so as many rounds as the text is long, and two more, are never exceeded.
-/
import ScriptLint.Text.Blank
import ScriptLint.Text.Case
import ScriptLint.Text.Digits
import ScriptLint.Text.Letters

namespace ScriptLint

/-- Which letters count as the same. -/
inductive Fold where
  | exact
  /-- Small and capital letters of ASCII. -/
  | ascii
  | unicode
  deriving Repr, DecidableEq

namespace Fold

def lowerAscii (code : Nat) : Nat := if 65 ≤ code ∧ code ≤ 90 then code + 32 else code

/-- Whether a code point, which may be no character, is the same letter as a character. -/
def same (fold : Fold) (code : Nat) (c : Char) : Bool :=
  match fold with
  | .exact => code = c.toNat
  | .ascii => lowerAscii code = lowerAscii c.toNat
  | .unicode => code.isValidChar && sameLetter (Char.ofNat code) c

/-- The code points that are the same letter as a character. -/
def variants (fold : Fold) (c : Char) : List Nat :=
  match fold with
  | .exact => [c.toNat]
  | .ascii => [c.toNat, c.toLower.toNat, c.toUpper.toNat]
  | .unicode => caseVariants c

/-- Whether a character repeats another one. Here letters that differ in shape only are told apart. -/
def repeats (fold : Fold) (a b : Char) : Bool :=
  match fold with
  | .exact => a = b
  | .ascii => a.toLower = b.toLower
  | .unicode => lowerChar a = lowerChar b

end Fold

inductive CharClass where
  | digit
  | space
  | word
  deriving Repr, DecidableEq

namespace CharClass

/-- Whether a character is in a class, or in the part of the class that is in ASCII. -/
def contains (cls : CharClass) (ascii : Bool) (c : Char) : Bool :=
  if ascii && 128 ≤ c.toNat then false
  else
    match cls with
    | .digit => isDecimal c
    | .space => if ascii then c = ' ' || (9 ≤ c.toNat && c.toNat ≤ 13) else isBlank c
    | .word => isWordChar c

end CharClass

inductive SetItem where
  | char (code : Nat)
  | range (first last : Nat)
  | cls (cls : CharClass) (ascii negated : Bool)
  deriving Repr, DecidableEq

def SetItem.contains (fold : Fold) (item : SetItem) (c : Char) : Bool :=
  match item with
  | .char code => fold.same code c
  | .range first last => (fold.variants c).any fun n => first ≤ n && n ≤ last
  | .cls kind ascii negated => kind.contains ascii c != negated

/-- A place in a text. -/
inductive Spot where
  | textStart
  | textEnd
  /-- The end of the text, or before a newline that ends it. -/
  | lastLineEnd
  | lineStart
  | lineEnd
  | boundary (ascii negated : Bool)
  deriving Repr, DecidableEq

/-- In which order numbers of rounds are tried. -/
inductive Manner where
  | greedy
  | lazy
  | possessive
  deriving Repr, DecidableEq

inductive Pattern where
  | empty
  | char (fold : Fold) (code : Nat)
  | set (fold : Fold) (negated : Bool) (items : List SetItem)
  | any (newline : Bool)
  | place (spot : Spot)
  | seq (first second : Pattern)
  | alt (first second : Pattern)
  | times (body : Pattern) (least : Nat) (most : Option Nat) (manner : Manner)
  | group (number : Nat) (body : Pattern)
  /-- What a group has matched. -/
  | again (fold : Fold) (number : Nat)
  | ifGroup (number : Nat) (yes no : Pattern)
  /-- What has to match from here on, or from so many characters before, or must not match. -/
  | look (behind : Option Nat) (wanted : Bool) (body : Pattern)
  | commit (body : Pattern)
  deriving Repr, DecidableEq

/-- How far a match has come, and where groups began and ended, the latest first. -/
structure Reach where
  position : Nat
  starts : List (Nat × Nat) := []
  stops : List (Nat × Nat) := []
  deriving Repr, DecidableEq

namespace Reach

/-- What a group has matched. While a group is being matched again, its end may be that of the time before. -/
def group? (reach : Reach) (number : Nat) : Option (Nat × Nat) :=
  match reach.starts.lookup number, reach.stops.lookup number with
  | some start, some stop => if start ≤ stop then some (start, stop) else none
  | _, _ => none

def enter (reach : Reach) (number : Nat) : Reach :=
  { reach with starts := (number, reach.position) :: reach.starts.filter (·.1 ≠ number) }

def leave (reach : Reach) (number : Nat) : Reach :=
  { reach with stops := (number, reach.position) :: reach.stops.filter (·.1 ≠ number) }

end Reach

/-- What comes after a match; it says how far the whole match comes. -/
abbrev Rest := Reach → Option Reach

namespace Pattern

def wordAt (ascii : Bool) (text : Array Char) (i : Nat) : Bool := text[i]?.any (CharClass.word.contains ascii)

def newlineAt (text : Array Char) (i : Nat) : Bool := text[i]? = some '\n'

def holds (text : Array Char) (i : Nat) : Spot → Bool
  | .textStart => i = 0
  | .textEnd => i = text.size
  | .lastLineEnd => i = text.size || (i + 1 = text.size && newlineAt text i)
  | .lineStart => i = 0 || newlineAt text (i - 1)
  | .lineEnd => i = text.size || newlineAt text i
  | .boundary ascii negated =>
    text.size ≠ 0 && ((0 < i && wordAt ascii text (i - 1)) != wordAt ascii text i) != negated

/-- One character that meets a test. -/
def one (text : Array Char) (test : Char → Bool) (rest : Rest) : Rest := fun reach =>
  if text[reach.position]?.any test then rest { reach with position := reach.position + 1 } else none

/-- Whether a stretch of a text stands at a place once more. -/
def repeatsAt (fold : Fold) (text : Array Char) (start length i : Nat) : Bool :=
  (List.range length).all fun k =>
    match text[start + k]?, text[i + k]? with
    | some a, some b => fold.repeats a b
    | _, _ => false

/-- So many rounds, and what comes after. -/
def required (body : Rest → Rest) (rest : Rest) : Nat → Rest
  | 0 => rest
  | n + 1 => body (required body rest n)

/-- Up to so many rounds, and what comes after. A round is not begun where the last one began. -/
def optional (body : Rest → Rest) (eager : Bool) (rest : Rest) : Nat → Option Nat → Rest
  | 0, _ => rest
  | n + 1, last => fun reach =>
    if last = some reach.position then rest reach
    else if eager then (body (optional body eager rest n (some reach.position)) reach).or (rest reach)
    else (rest reach).or (body (optional body eager rest n (some reach.position)) reach)

/-- As many rounds as match one after another, up to a number; each keeps to its first way. -/
def furthest (body : Rest → Rest) : Nat → Reach → Reach
  | 0, reach => reach
  | n + 1, reach =>
    match body some reach with
    | none => reach
    | some next => if next.position = reach.position then next else furthest body n next

/-- So many rounds, each of which keeps to its first way. -/
def inTurn (body : Rest → Rest) : Nat → Rest
  | 0, reach => some reach
  | n + 1, reach => (body some reach).bind (inTurn body n)

/-- Matches a pattern and what comes after it. -/
def run (text : Array Char) : Pattern → Rest → Rest
  | .empty, rest => rest
  | .char fold code, rest => one text (fold.same code) rest
  | .set fold negated items, rest => one text (fun c => items.any (·.contains fold c) != negated) rest
  | .any newline, rest => one text (fun c => newline || c ≠ '\n') rest
  | .place spot, rest => fun reach => if holds text reach.position spot then rest reach else none
  | .seq first second, rest => run text first (run text second rest)
  | .alt first second, rest => fun reach => (run text first rest reach).or (run text second rest reach)
  | .times body least most manner, rest =>
    let more := match most with
      | some most => min (most - least) (text.size + 2)
      | none => text.size + 2
    match manner with
    | .greedy => required (run text body) (optional (run text body) true rest more none) least
    | .lazy => required (run text body) (optional (run text body) false rest more none) least
    | .possessive => fun reach =>
      (inTurn (run text body) least reach).bind fun reach => rest (furthest (run text body) more reach)
  | .group number body, rest => fun reach =>
    run text body (fun reach => rest (reach.leave number)) (reach.enter number)
  | .again fold number, rest => fun reach =>
    match reach.group? number with
    | some (start, stop) =>
      if repeatsAt fold text start (stop - start) reach.position then
        rest { reach with position := reach.position + (stop - start) }
      else none
    | none => none
  | .ifGroup number yes no, rest => fun reach =>
    if (reach.group? number).isSome then run text yes rest reach else run text no rest reach
  | .look behind wanted body, rest => fun reach =>
    let back := behind.getD 0
    let found := if back ≤ reach.position then
        run text body some { reach with position := reach.position - back }
      else none
    match found, wanted with
    | some there, true => rest { there with position := reach.position }
    | none, false => rest reach
    | _, _ => none
  | .commit body, rest => fun reach => (run text body some reach).bind rest

/-- Whether a pattern matches somewhere in a text. -/
def occursIn (pattern : Pattern) (text : List Char) : Bool :=
  let text := text.toArray
  (List.range (text.size + 1)).any fun i => (run text pattern some { position := i }).isSome

end Pattern

end ScriptLint
