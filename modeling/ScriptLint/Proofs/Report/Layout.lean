/-
What paragraphs and rows of a table show.

Steady characters are those that layout neither drops nor replaces, so a
paragraph of them is wrapped (`wraps_paragraph`), and so is an indented one. A row
of a table shows a text in its last cell if all that stands before is of one
width on every line (`InLastCell`); it does so as soon as the text is wrapped by
its column (`inLastCell_row`). The column is wide enough for every text whose
lines need not be cut at its bound (`wraps_cellLines`).
-/
import ScriptLint.Proofs.Text.Wrapping

namespace ScriptLint

namespace Layout

/-- A character that layout leaves as it is: neither a control that is not shown, nor a tab, nor a
line break other than the newline. -/
structure Steady (c : Char) : Prop where
  shown : isShown c = true
  noTab : c ≠ '\t'
  lineBreak : Chars.isLineBreak c = true → c = '\n'

variable {cs : List Char}

theorem visible_of_steady (h : ∀ c ∈ cs, Steady c) : visible cs = cs :=
  List.filter_eq_self.2 fun c hc => (h c hc).shown

theorem noTab_of_steady (h : ∀ c ∈ cs, Steady c) : '\t' ∉ cs := fun htab => (h _ htab).noTab rfl

/-! ## Paragraphs -/

theorem wraps_paragraph (h : ∀ c ∈ cs, Steady c) : Chars.Wraps cs (paragraph cs) := by
  rw [paragraph, visible_of_steady h]
  exact Chars.wraps_wrap_fold (by decide) (noTab_of_steady h)

/-- Lines that stand two cells in from the left. -/
def inset (lines : List Line) : List Line := lines.map fun line => ' ' :: ' ' :: line

theorem exists_indented (cs : List Char) :
    ∃ lines, indented cs = inset lines ∧ ((∀ c ∈ cs, Steady c) → Chars.Wraps cs lines) := by
  refine ⟨Chars.wrap .fold (consoleWidth - 4) (visible cs), rfl, fun h => ?_⟩
  rw [visible_of_steady h]
  exact Chars.wraps_wrap_fold (by decide) (noTab_of_steady h)

/-! ## Columns -/

theorem le_foldl_max (items : List Nat) (start : Nat) :
    start ≤ items.foldl max start ∧ ∀ item ∈ items, item ≤ items.foldl max start := by
  induction items generalizing start with
  | nil => exact ⟨Nat.le_refl _, fun item h => by cases h⟩
  | cons next items ih =>
    obtain ⟨hstart, hitems⟩ := ih (max start next)
    rw [List.foldl_cons]
    refine ⟨Nat.le_trans (Nat.le_max_left _ _) hstart, fun item hitem => ?_⟩
    rcases List.mem_cons.1 hitem with rfl | hitem
    · exact Nat.le_trans (Nat.le_max_right _ _) hstart
    · exact hitems item hitem

theorem width_le_widestLine (h : ∀ c ∈ cs, Steady c) {line : Line} (hline : line ∈ Chars.splitOn '\n' cs) :
    Chars.width line ≤ Chars.widestLine cs := by
  have hbreaks : cs.map (fun c => if Chars.isLineBreak c then '\n' else c) = cs := by
    conv_rhs => rw [← List.map_id cs]
    refine List.map_congr_left fun c hc => ?_
    split
    · rename_i hbreak
      exact ((h c hc).lineBreak hbreak).symm
    · rfl
  rw [Chars.widestLine, hbreaks]
  exact (le_foldl_max _ 0).2 _ (List.mem_map_of_mem hline)

/-- A text whose lines are not cut in a column of some width. -/
structure Legible (bound : Nat) (cs : List Char) : Prop where
  steady : ∀ c ∈ cs, Steady c
  breakable : ∀ line ∈ Chars.splitOn '\n' cs, Chars.Breakable bound line

/-- Lines that fit a narrower column are not cut there either. -/
theorem breakable_min {bound widest : Nat} {line : Line} (h : Chars.Breakable bound line)
    (hwidth : Chars.width line ≤ widest) : Chars.Breakable (min widest bound) line where
  words := by
    intro word hword
    have hword' : Chars.width word ≤ widest := by
      refine Nat.le_trans (Chars.width_le_of_mem_flatten hword) ?_
      rwa [Chars.flatten_words]
    exact Nat.le_min.2 ⟨Nat.le_trans (width_trimEnd_le word) hword', h.words word hword⟩
  narrow := h.narrow.imp_left fun hbound => Nat.le_min.2 ⟨hwidth, hbound⟩

theorem wraps_cellLines {bound widest : Nat} (h : Legible bound cs) (hwidest : Chars.widestLine cs ≤ widest)
    {alignRight : Bool} : Chars.Wraps cs (cellLines ⟨min widest bound, alignRight⟩ cs) := by
  rw [cellLines, visible_of_steady h.steady]
  refine Chars.wraps_wrap_ellipsis (noTab_of_steady h.steady) fun line hline => ?_
  exact breakable_min (h.breakable line hline) (Nat.le_trans (width_le_widestLine h.steady hline) hwidest)

/-! ## Rows -/

theorem width_cut_le (cells : Nat) (cs : List Char) : Chars.width (Chars.cut cells cs) ≤ cells := by
  induction cs generalizing cells with
  | nil => exact Nat.zero_le _
  | cons c cs ih =>
    rw [Chars.cut]
    split
    · have := ih (cells - cellWidth c)
      rw [Chars.width_cons]
      omega
    · rw [Chars.width_replicate_space]

theorem cellWidth_ellipsis : cellWidth '…' ≤ 1 := by
  have hnarrow : wideTable.contains '…' = false := by decide +kernel
  rw [cellWidth, hnarrow]
  split
  · exact Nat.le_refl _
  · split
    · exact Nat.zero_le _
    · exact Nat.le_refl _

theorem width_of_mem_cellLines {column : Column} (hcolumn : 0 < column.width) {line : Line}
    (h : line ∈ cellLines column cs) : Chars.width line ≤ column.width := by
  obtain ⟨source, -, hsource⟩ := List.mem_flatMap.1 h
  rw [Chars.wrapLine] at hsource
  obtain ⟨whole, -, rfl⟩ := List.mem_map.1 hsource
  unfold Chars.shorten
  split
  · assumption
  · have hcut := width_cut_le (column.width - 1) whole
    have hmark := cellWidth_ellipsis
    show Chars.width (Chars.cut (column.width - 1) whole ++ ['…']) ≤ column.width
    rw [Chars.width_append, Chars.width_cons, Chars.width_nil]
    omega

/-- Lines that show a text in the last of some cells, which starts after so many cells of the console. -/
def InLastCell (start : Nat) (text : List Char) (lines : List Line) : Prop :=
  ∃ fronts cells : List Line, fronts.length = cells.length ∧ (∀ front ∈ fronts, Chars.width front = start) ∧
    lines = List.zipWith (· ++ ·) fronts cells ∧ Chars.Wraps text cells

theorem joinCells_concat (separator : Line) (cells : List Line) (last : Line) :
    joinCells separator (cells ++ [last]) = (cells.flatMap fun line => line ++ separator) ++ last := by
  induction cells with
  | nil => rfl
  | cons first cells ih =>
    rw [List.flatMap_cons, List.append_assoc (first ++ separator), ← ih]
    cases cells <;> rfl

theorem width_getD_cellLines {column : Column} (hcolumn : 0 < column.width) (cs : List Char) (i : Nat) :
    Chars.width ((cellLines column cs).getD i []) ≤ column.width := by
  rw [List.getD_eq_getElem?_getD]
  cases hline : (cellLines column cs)[i]? with
  | none => exact Nat.zero_le _
  | some line => exact width_of_mem_cellLines hcolumn (List.mem_of_getElem? hline)

/-- The cells of one line of a row. -/
def lineCells (columns : List Column) (texts : List (List Char)) (i : Nat) : List Line :=
  (columns.zip texts).map fun (column, text) => cell column ((cellLines column text).getD i [])

/-- The cells of the console that some columns take, with three more behind each. -/
def columnsWidth (columns : List Column) : Nat := columns.foldr (fun column rest => column.width + 3 + rest) 0

theorem width_lineCells (i : Nat) : ∀ {columns : List Column} {texts : List (List Char)},
    columns.length = texts.length → (∀ column ∈ columns, 0 < column.width) →
    Chars.width ((lineCells columns texts i).flatMap fun line => line ++ [' ', ' ', ' ']) = columnsWidth columns
  | [], [], _, _ => rfl
  | column :: columns, text :: texts, hlength, hcolumns => by
    have hrest := width_lineCells i (Nat.succ.inj hlength) fun other h => hcolumns other (List.mem_cons_of_mem _ h)
    have hcell := width_cell (width_getD_cellLines (hcolumns column List.mem_cons_self) text i)
    have hgap : Chars.width [' ', ' ', ' '] = 3 := Chars.width_replicate_space 3
    rw [lineCells] at hrest ⊢
    rw [List.zip_cons_cons, List.map_cons, List.flatMap_cons, Chars.width_append, Chars.width_append, hcell, hgap,
      hrest]
    rfl

/-- A row is as high as its highest cell. -/
theorem exists_row_concat {columns : List Column} {texts : List (List Char)}
    (hlength : columns.length = texts.length) (last : Column) (text : List Char) :
    ∃ height, (cellLines last text).length ≤ height ∧
      row (columns ++ [last]) (texts ++ [text]) = (List.range height).map fun i =>
        lineCells columns texts i ++ [cell last ((cellLines last text).getD i [])] := by
  refine ⟨((columns.zip texts ++ [(last, text)]).map fun (column, text) => (cellLines column text).length).foldl max 0,
    (le_foldl_max _ 0).2 _ (by simp), ?_⟩
  simp only [row, List.zip_append hlength, List.map_map]
  refine congrArg₂ List.map (funext fun i => ?_) rfl
  simp [lineCells]

theorem map_getD_range {α β : Type} (f : α → β) (default : α) {items : List α} {n : Nat} (h : items.length ≤ n) :
    ((List.range n).map fun i => f (items.getD i default)) =
      (items ++ List.replicate (n - items.length) default).map f := by
  refine List.ext_getElem (by simp; omega) fun i hi _ => ?_
  rw [List.getElem_map, List.getElem_map, List.getElem_range, List.getD_eq_getElem?_getD]
  rcases Nat.lt_or_ge i items.length with hlt | hge
  · rw [List.getElem?_eq_getElem hlt, List.getElem_append_left hlt, Option.getD_some]
  · rw [List.getElem?_eq_none hge, List.getElem_append_right hge, List.getElem_replicate, Option.getD_none]

/-- **Rows.** The last cell of a row shows a text that its column wraps. -/
theorem inLastCell_row {columns : List Column} {texts : List (List Char)} (hlength : columns.length = texts.length)
    (hcolumns : ∀ column ∈ columns, 0 < column.width) {width : Nat} {text : List Char}
    (hwraps : Chars.Wraps text (cellLines ⟨width, false⟩ text)) :
    InLastCell (2 + columnsWidth columns) text
      ((row (columns ++ [⟨width, false⟩]) (texts ++ [text])).map fun cells =>
        ' ' :: ' ' :: joinCells [' ', ' ', ' '] cells) := by
  obtain ⟨height, hheight, hrow⟩ := exists_row_concat hlength ⟨width, false⟩ text
  refine ⟨(List.range height).map fun i =>
      ' ' :: ' ' :: (lineCells columns texts i).flatMap fun line => line ++ [' ', ' ', ' '],
    (List.range height).map fun i => cell ⟨width, false⟩ ((cellLines ⟨width, false⟩ text).getD i []),
    by rw [List.length_map, List.length_map], fun front hfront => ?_, ?_, ?_⟩
  · obtain ⟨i, -, rfl⟩ := List.mem_map.1 hfront
    have hmargin : Chars.width [' ', ' '] = 2 := Chars.width_replicate_space 2
    rw [← width_lineCells i hlength hcolumns, ← hmargin, ← Chars.width_append]
    rfl
  · rw [hrow, List.map_map, List.zipWith_map, List.zipWith_self]
    refine List.map_congr_left fun i _ => ?_
    show ' ' :: ' ' :: joinCells _ _ = _
    rw [joinCells_concat]
    rfl
  · refine hwraps.of_map_trimEnd (n := height - (cellLines ⟨width, false⟩ text).length) ?_
    rw [List.map_map, ← map_getD_range Chars.trimEnd [] hheight]
    exact List.map_congr_left fun i _ => Chars.trimEnd_padEnd width _

end Layout

end ScriptLint
