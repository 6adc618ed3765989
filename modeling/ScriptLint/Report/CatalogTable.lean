/-
The table of rules: name, default severity, whether there are fixes, and
description, in a frame with heavy lines around the header.
-/
import ScriptLint.Config.Registry
import ScriptLint.Report.Console

namespace ScriptLint

namespace CatalogTable

/-- The lines that frame a row: left end, filling, crossing and right end. -/
structure Edge where
  left : Char
  filling : Char
  crossing : Char
  right : Char

def topEdge : Edge := ⟨'┏', '━', '┳', '┓'⟩
def headerSides : Edge := ⟨'┃', ' ', '┃', '┃'⟩
def headerEdge : Edge := ⟨'┡', '━', '╇', '┩'⟩
def rowSides : Edge := ⟨'│', ' ', '│', '│'⟩
def bottomEdge : Edge := ⟨'└', '─', '┴', '┘'⟩

/-- A line of a table whose cells are given with the filling on both sides. -/
def frame (edge : Edge) (cells : List Line) : Line :=
  let padded := cells.map fun cell => edge.filling :: cell ++ [edge.filling]
  edge.left :: Layout.joinCells [edge.crossing] padded ++ [edge.right]

def horizontal (edge : Edge) (columns : List Layout.Column) : Line :=
  frame edge (columns.map fun column => Layout.rule edge.filling column.width)

def rowLines (sides : Edge) (columns : List Layout.Column) (texts : List String) : List Line :=
  (Layout.row columns (texts.map String.toList)).map (frame sides)

def headers : List String := ["Rule", "Default", "Fix", "Description"]

def texts (registry : Registry) (rule : Rule) : List String :=
  [rule.id, (registry.severityOf rule.id).name, if rule.fixable then "yes" else "",
   rule.description]

/-- As wide as the widest text. -/
def fitting (texts : List String) : Layout.Column :=
  ⟨(texts.map fun text => Chars.width text.toList).foldl max 0, false⟩

def sortedRules (registry : Registry) : List Rule :=
  (Keyed.values registry.catalog).mergeSort fun a b => a.id ≤ b.id

/-- The table of all rules of a catalog, by name. -/
def lines (title : String) (registry : Registry) : List Line :=
  let rules := sortedRules registry
  let columns : List Layout.Column :=
    [fitting ("Rule" :: rules.map Rule.id), ⟨8, false⟩, ⟨4, false⟩,
     fitting ("Description" :: rules.map Rule.description)]
  let top := horizontal topEdge columns
  let indent := (Chars.width top - Chars.width title.toList) / 2
  (List.replicate indent ' ' ++ title.toList) :: top ::
    rowLines headerSides columns headers ++ [horizontal headerEdge columns] ++
    rules.flatMap (fun rule => rowLines rowSides columns (texts registry rule)) ++
    [horizontal bottomEdge columns]

end CatalogTable

end ScriptLint
