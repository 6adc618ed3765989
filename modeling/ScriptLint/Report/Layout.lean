/-
Layout of console output: wrapped paragraphs, titled boxes and table rows, all
as lines of characters for a console of a fixed width.

Every row of a table is as wide as its columns ask for (`width_cell`).
-/
import ScriptLint.Text.Wrapping

namespace ScriptLint

abbrev Line := List Char

namespace Layout

def consoleWidth : Nat := 160

/-- Consoles do not show bells, backspaces, vertical tabs, form feeds and returns. -/
def isShown (c : Char) : Bool := ¬[7, 8, 11, 12, 13].contains c.toNat

def visible (cs : List Char) : List Char := cs.filter isShown

def rule (c : Char) (n : Nat) : Line := List.replicate n c

def paragraph (cs : List Char) : List Line := Chars.wrap .fold consoleWidth (visible cs)

/-- A paragraph without a frame, two cells in from both sides. -/
def indented (cs : List Char) : List Line :=
  (Chars.wrap .fold (consoleWidth - 4) (visible cs)).map fun line => ' ' :: ' ' :: line

/-- A paragraph in a frame with a title in the middle of the top edge. -/
def boxed (title : String) (cs : List Char) : List Line :=
  let inner := consoleWidth - 4
  let name := ' ' :: title.toList ++ [' ']
  let gap := inner - Chars.width name
  let top := '╭' :: rule '─' (gap / 2 + 1) ++ name ++ rule '─' (gap - gap / 2 + 1) ++ ['╮']
  let bottom := '╰' :: rule '─' (inner + 2) ++ ['╯']
  let body := (Chars.wrap .fold inner (visible cs)).map fun line =>
    '│' :: ' ' :: Chars.padEnd inner line ++ [' ', '│']
  top :: body ++ [bottom]

structure Column where
  width : Nat
  alignRight : Bool := false
  deriving Repr, DecidableEq

/-- One line of a cell, filled up to the width of its column. -/
def cell (column : Column) (line : Line) : Line :=
  if column.alignRight then Chars.padStart column.width line else Chars.padEnd column.width line

/-- The lines of a cell's text. -/
def cellLines (column : Column) (cs : List Char) : List Line :=
  Chars.wrap .ellipsis column.width (visible cs)

/-- The lines of a row, each with one line of every cell; cells without more lines are blank. -/
def row (columns : List Column) (texts : List (List Char)) : List (List Line) :=
  let cells := (columns.zip texts).map fun (column, text) => (column, cellLines column text)
  let height := (cells.map fun (_, lines) => lines.length).foldl max 0
  (List.range height).map fun i =>
    cells.map fun (column, lines) => cell column (lines.getD i [])

/-- Joins the cells of a line with a separator. -/
def joinCells (separator : Line) : List Line → Line
  | [] => []
  | [last] => last
  | first :: rest => first ++ separator ++ joinCells separator rest

/-- Without the spaces at the end. -/
def trimSpaces (line : Line) : Line := (line.reverse.dropWhile (· = ' ')).reverse

theorem width_reverse (cs : List Char) : Chars.width cs.reverse = Chars.width cs := by
  induction cs with
  | nil => rfl
  | cons c rest ih => simp [ih]; omega

theorem width_trimEnd_le (cs : List Char) : Chars.width (Chars.trimEnd cs) ≤ Chars.width cs := by
  have dropped (ds : List Char) : Chars.width (ds.dropWhile isBlank) ≤ Chars.width ds := by
    induction ds with
    | nil => simp
    | cons d ds ih =>
      by_cases h : isBlank d
      · simp [h]; omega
      · simp [h]
  have := dropped cs.reverse
  rw [width_reverse] at this
  rwa [Chars.trimEnd, width_reverse]

theorem width_cell {column : Column} {line : Line} (h : Chars.width line ≤ column.width) :
    Chars.width (cell column line) = column.width := by
  simp only [cell]
  split
  · have := width_trimEnd_le line
    simp only [Chars.padStart, Chars.width_append, Chars.width_replicate_space]
    omega
  · simp only [Chars.padEnd, Chars.width_append, Chars.width_replicate_space]
    omega

end Layout

end ScriptLint
