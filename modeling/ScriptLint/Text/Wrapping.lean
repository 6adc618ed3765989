/-
Breaking text into lines of a width, measured in terminal cells.

Lines are filled word by word; a word keeps the blanks after it, and blanks at
the end of a line do not count. A word that fits no line is either cut into
pieces or left on a line of its own, where the caller shortens it.
`flatten_fill` says that filling lines loses nothing.
-/
import ScriptLint.Text.Blank
import ScriptLint.Text.Split
import ScriptLint.Text.Width

namespace ScriptLint

namespace Chars

/-- Without the blanks at the end. -/
def trimEnd (cs : List Char) : List Char := (cs.reverse.dropWhile isBlank).reverse

/-- What is done with a word that is wider than a line. -/
inductive Overflow where
  | fold
  | ellipsis
  deriving Repr, DecidableEq

/-- The words of a text with the blanks after them, from inside a word on: `word` is what has been
read of it, and `ended` tells whether blanks after it have been read. -/
def wordsFrom (word : List Char) (ended : Bool) : List Char → List (List Char)
  | [] => [word]
  | c :: rest =>
    if isBlank c then wordsFrom (word ++ [c]) true rest
    else if ended then word :: wordsFrom [c] false rest
    else wordsFrom (word ++ [c]) false rest

/-- The first word also has the blanks before it. -/
def words (cs : List Char) : List (List Char) :=
  wordsFrom (cs.takeWhile isBlank) false (cs.dropWhile isBlank)

/-- Cuts a word into pieces that fit a line; `piece` is what the last one holds so far. -/
def pieces (width : Nat) (piece : List Char) : List Char → List (List Char)
  | [] => [piece]
  | c :: rest =>
    if width < Chars.width (piece ++ [c]) then piece :: pieces width [c] rest
    else pieces width (piece ++ [c]) rest

/-- Ends a line unless nothing is on it. -/
def finish (line : List Char) : List (List Char) := if line = [] then [] else [line]

/-- Fills lines with words; `line` is the line so far. -/
def fill (overflow : Overflow) (width : Nat) (line : List Char) :
    List (List Char) → List (List Char)
  | [] => [line]
  | word :: rest =>
    let size := Chars.width (trimEnd word)
    if Chars.width line + size ≤ width then fill overflow width (line ++ word) rest
    else if width < size ∧ overflow = .fold then
      let parts := pieces width [] word
      finish line ++ parts.dropLast ++ fill overflow width (parts.getLast?.getD []) rest
    else finish line ++ fill overflow width word rest

/-- Drops blanks at the end that lie beyond a number of characters. -/
def dropExcess (width : Nat) (cs : List Char) : List Char :=
  cs.take (max (trimEnd cs).length (min width cs.length))

/-- The longest start of a text that takes no more than some cells, and a space where half a wide
character would have been. -/
def cut (cells : Nat) : List Char → List Char
  | [] => []
  | c :: rest =>
    if cellWidth c ≤ cells then c :: cut (cells - cellWidth c) rest
    else List.replicate cells ' '

/-- Makes a line fit. -/
def shorten (overflow : Overflow) (width : Nat) (line : List Char) : List Char :=
  if Chars.width line ≤ width then line
  else
    match overflow with
    | .fold => cut width line
    | .ellipsis => cut (width - 1) line ++ ['…']

def tabWidth : Nat := 8

/-- Fills up to the next tab stop; `column` is the number of cells so far. -/
def expandTabs (column : Nat) : List Char → List Char
  | [] => []
  | c :: rest =>
    if c = '\t' then
      let gap := tabWidth - column % tabWidth
      List.replicate gap ' ' ++ expandTabs (column + gap) rest
    else c :: expandTabs (column + cellWidth c) rest

def wrapLine (overflow : Overflow) (width : Nat) (line : List Char) : List (List Char) :=
  let line := expandTabs 0 line
  let broken := if line.all isBlank then [line] else fill overflow width [] (words line)
  (broken.map (dropExcess width)).map (shorten overflow width)

/-- The lines of a text, each broken to fit a width. -/
def wrap (overflow : Overflow) (width : Nat) (cs : List Char) : List (List Char) :=
  (splitOn '\n' cs).flatMap (wrapLine overflow width)

/-- Fills a line up with spaces at its end. -/
def padEnd (width : Nat) (line : List Char) : List Char :=
  line ++ List.replicate (width - Chars.width line) ' '

/-- Fills a line up with spaces at its start, blanks at its end left out. -/
def padStart (width : Nat) (line : List Char) : List Char :=
  let line := trimEnd line
  List.replicate (width - Chars.width line) ' ' ++ line

/-- The characters that end a line: feeds, returns, separators and next line. -/
def isLineBreak (c : Char) : Bool :=
  [0x0a, 0x0b, 0x0c, 0x0d, 0x1c, 0x1d, 0x1e, 0x85, 0x2028, 0x2029].contains c.toNat

/-- The width of the widest line, a line ending at any line break. -/
def widestLine (cs : List Char) : Nat :=
  let lines := (splitOn '\n' (cs.map fun c => if isLineBreak c then '\n' else c))
  (lines.map Chars.width).foldl max 0

theorem flatten_wordsFrom (word : List Char) (ended : Bool) (cs : List Char) :
    (wordsFrom word ended cs).flatten = word ++ cs := by
  induction cs generalizing word ended with
  | nil => simp [wordsFrom]
  | cons c rest ih =>
    simp only [wordsFrom]
    split
    · simp [ih]
    · split <;> simp [ih]

theorem flatten_words (cs : List Char) : (words cs).flatten = cs := by
  simp [words, flatten_wordsFrom, List.takeWhile_append_dropWhile]

theorem flatten_pieces (width : Nat) (piece cs : List Char) :
    (pieces width piece cs).flatten = piece ++ cs := by
  induction cs generalizing piece with
  | nil => simp [pieces]
  | cons c rest ih =>
    simp only [pieces]
    split <;> simp [ih]

theorem pieces_ne_nil (width : Nat) (piece cs : List Char) : pieces width piece cs ≠ [] := by
  induction cs generalizing piece with
  | nil => simp [pieces]
  | cons c rest ih =>
    simp only [pieces]
    split
    · simp
    · exact ih _

theorem flatten_finish (line : List Char) : (finish line).flatten = line := by
  by_cases h : line = [] <;> simp [finish, h]

theorem flatten_fill (overflow : Overflow) (width : Nat) (line : List Char)
    (parts : List (List Char)) :
    (fill overflow width line parts).flatten = line ++ parts.flatten := by
  induction parts generalizing line with
  | nil => simp [fill]
  | cons word rest ih =>
    simp only [fill]
    split
    · simp [ih]
    · split
      · have whole : (pieces width [] word).dropLast.flatten ++
            (pieces width [] word).getLast?.getD [] = word := by
          have parts := List.dropLast_concat_getLast (pieces_ne_nil width [] word)
          have flat := flatten_pieces width [] word
          rw [← parts, List.flatten_append] at flat
          simpa [List.getLast?_eq_some_getLast (pieces_ne_nil width [] word)] using flat
        have split_rest := congrArg (· ++ rest.flatten) whole
        simp only [List.append_assoc] at split_rest
        simp [ih, flatten_finish, split_rest]
      · simp [ih, flatten_finish]

end Chars

end ScriptLint
