/-
What broken lines show of a text.

Lines wrap a text if they are its parts, one after another, up to the blanks at
their ends (`Chars.Wraps`). Filling keeps every line within the width as long as
the words fit or are cut into pieces (`width_trimEnd_of_mem_fill`), so neither
dropping blanks nor shortening costs more than blanks (`trimEnd_shorten`). Text
that is folded is wrapped in every width from two cells on (`wraps_wrap_fold`),
text that is not folded if its lines are breakable (`wraps_wrap_ellipsis`).
-/
import Mathlib.Data.List.DropRight
import ScriptLint.Report.Layout

namespace ScriptLint

namespace Chars

/-! ## Blanks at the end -/

theorem trimEnd_concat_blank {c : Char} (h : isBlank c = true) (cs : List Char) :
    trimEnd (cs ++ [c]) = trimEnd cs :=
  List.rdropWhile_concat_pos isBlank cs c h

theorem trimEnd_concat {c : Char} (h : isBlank c = false) (cs : List Char) :
    trimEnd (cs ++ [c]) = cs ++ [c] :=
  List.rdropWhile_concat_neg isBlank cs c (by simp [h])

theorem trimEnd_append_blank {blanks : List Char} (h : ∀ c ∈ blanks, isBlank c = true) (cs : List Char) :
    trimEnd (cs ++ blanks) = trimEnd cs := by
  induction blanks using List.reverseRecOn with
  | nil => rw [List.append_nil]
  | append_singleton blanks c ih =>
    rw [← List.append_assoc, trimEnd_concat_blank (h c (by simp)), ih fun d hd => h d (by simp [hd])]

theorem trimEnd_trimEnd (cs : List Char) : trimEnd (trimEnd cs) = trimEnd cs :=
  List.rdropWhile_idempotent isBlank cs

/-- A text is what is left without the blanks at its end, and these. -/
theorem exists_trimEnd_append (cs : List Char) :
    ∃ blanks, cs = trimEnd cs ++ blanks ∧ ∀ c ∈ blanks, isBlank c = true :=
  ⟨cs.rtakeWhile isBlank, (List.rdropWhile_append_rtakeWhile (p := isBlank) (l := cs)).symm,
    fun _ => List.mem_rtakeWhile_imp⟩

theorem isBlank_space : isBlank ' ' = true := by decide +kernel

theorem isBlank_newline : isBlank '\n' = true := by decide +kernel

theorem trimEnd_padEnd (width : Nat) (line : List Char) : trimEnd (padEnd width line) = trimEnd line := by
  refine trimEnd_append_blank (fun c hc => ?_) line
  rw [List.eq_of_mem_replicate hc]
  exact isBlank_space

/-! ## Widths -/

theorem cellWidth_le_two (c : Char) : cellWidth c ≤ 2 := by
  unfold cellWidth
  split
  · omega
  · split
    · omega
    · split <;> omega

theorem width_le_of_sublist {cs ds : List Char} (h : cs.Sublist ds) : width cs ≤ width ds := by
  induction h with
  | slnil => exact Nat.le_refl _
  | cons c _ ih => rw [width_cons]; omega
  | cons_cons c _ ih => rw [width_cons, width_cons]; omega

theorem width_le_of_mem_flatten {part : List Char} {parts : List (List Char)} (h : part ∈ parts) :
    width part ≤ width parts.flatten :=
  width_le_of_sublist (List.sublist_flatten_of_mem h)

theorem width_le_length {cs : List Char} (h : ∀ c ∈ cs, cellWidth c ≤ 1) : width cs ≤ cs.length := by
  induction cs with
  | nil => exact Nat.le_refl _
  | cons c cs ih =>
    have hc := h c List.mem_cons_self
    have hcs := ih fun d hd => h d (List.mem_cons_of_mem _ hd)
    rw [width_cons, List.length_cons]
    omega

/-- Only what stands before the last blanks of the second text counts. -/
theorem width_trimEnd_append_le (cs ds : List Char) :
    width (trimEnd (cs ++ ds)) ≤ width cs + width (trimEnd ds) := by
  induction ds using List.reverseRecOn with
  | nil => rw [List.append_nil]; exact Nat.le_trans (Layout.width_trimEnd_le cs) (Nat.le_add_right _ _)
  | append_singleton ds d ih =>
    cases hd : isBlank d with
    | true => rwa [← List.append_assoc, trimEnd_concat_blank hd, trimEnd_concat_blank hd]
    | false => rw [trimEnd_concat hd, ← width_append]; exact Layout.width_trimEnd_le _

/-! ## Filled lines fit -/

theorem width_of_mem_pieces {width : Nat} (hwide : 2 ≤ width) {piece cs : List Char}
    (hpiece : Chars.width piece ≤ width) : ∀ part ∈ pieces width piece cs, Chars.width part ≤ width := by
  induction cs generalizing piece with
  | nil =>
    intro part hpart
    rwa [List.mem_singleton.1 hpart]
  | cons c cs ih =>
    intro part hpart
    rw [pieces] at hpart
    split at hpart
    · rcases List.mem_cons.1 hpart with rfl | hpart
      · exact hpiece
      · have hc := cellWidth_le_two c
        exact ih (by rw [width_cons, width_nil]; omega) part hpart
    · rename_i hfits
      exact ih (Nat.not_lt.1 hfits) part hpart

theorem mem_finish {line part : List Char} (h : part ∈ finish line) : part = line := by
  unfold finish at h
  split at h
  · cases h
  · exact List.mem_singleton.1 h

/-- Every line fits, blanks at its end left out, if words that do not fit are cut or there are none. -/
theorem width_trimEnd_of_mem_fill {overflow : Overflow} {width : Nat} {words : List (List Char)}
    (hwords : overflow = .fold ∧ 2 ≤ width ∨ ∀ word ∈ words, Chars.width (trimEnd word) ≤ width)
    {line : List Char} (hline : Chars.width (trimEnd line) ≤ width) :
    ∀ part ∈ fill overflow width line words, Chars.width (trimEnd part) ≤ width := by
  induction words generalizing line with
  | nil =>
    intro part hpart
    rwa [List.mem_singleton.1 hpart]
  | cons word words ih =>
    have later := hwords.imp_right fun h other hother => h other (List.mem_cons_of_mem _ hother)
    intro part hpart
    simp only [fill] at hpart
    split at hpart
    · rename_i hfits
      exact ih later (Nat.le_trans (width_trimEnd_append_le line word) hfits) part hpart
    · split at hpart
      · rename_i hwide
        have hfold : 2 ≤ width := hwords.elim And.right fun h => absurd (h word List.mem_cons_self) (by omega)
        have hpieces (piece : List Char) (h : piece ∈ pieces width [] word) :
            Chars.width (trimEnd piece) ≤ width :=
          Nat.le_trans (Layout.width_trimEnd_le piece) (width_of_mem_pieces hfold (Nat.zero_le _) piece h)
        have hlast := hpieces ((pieces width [] word).getLast?.getD []) (by
          rw [List.getLast?_eq_some_getLast (pieces_ne_nil width [] word)]
          exact List.getLast_mem _)
        rcases List.mem_append.1 hpart with hpart | hpart
        · rcases List.mem_append.1 hpart with hpart | hpart
          · rwa [mem_finish hpart]
          · exact hpieces part ((List.dropLast_sublist _).subset hpart)
        · exact ih later hlast part hpart
      · rename_i hwide
        have hword : Chars.width (trimEnd word) ≤ width := by
          rcases hwords with ⟨rfl, -⟩ | h
          · exact Nat.not_lt.1 fun h => hwide ⟨h, rfl⟩
          · exact h word List.mem_cons_self
        rcases List.mem_append.1 hpart with hpart | hpart
        · rwa [mem_finish hpart]
        · exact ih later hword part hpart

theorem fill_ne_nil (overflow : Overflow) (width : Nat) (line : List Char) (words : List (List Char)) :
    fill overflow width line words ≠ [] := by
  induction words generalizing line with
  | nil => exact List.cons_ne_nil _ _
  | cons word words ih =>
    simp only [fill]
    split
    · exact ih _
    · split
      · exact fun h => ih _ (List.append_eq_nil_iff.1 h).2
      · exact fun h => ih _ (List.append_eq_nil_iff.1 h).2

/-! ## Shortening costs blanks only -/

theorem exists_dropExcess (width : Nat) (cs : List Char) :
    ∃ blanks, dropExcess width cs = trimEnd cs ++ blanks ∧ ∀ c ∈ blanks, isBlank c = true := by
  obtain ⟨blanks, hcs, hblank⟩ := exists_trimEnd_append cs
  have hle : (trimEnd cs).length ≤ max (trimEnd cs).length (min width cs.length) := Nat.le_max_left _ _
  rw [dropExcess]
  generalize max (trimEnd cs).length (min width cs.length) = n at hle
  refine ⟨blanks.take (n - (trimEnd cs).length), ?_, fun c hc => hblank c (List.mem_of_mem_take hc)⟩
  conv_lhs => rw [hcs]
  rw [List.take_append, List.take_of_length_le hle]

theorem cut_append : ∀ {cs : List Char} {cells : Nat}, width cs ≤ cells → ∀ ds : List Char,
    cut cells (cs ++ ds) = cs ++ cut (cells - width cs) ds
  | [], _, _, _ => rfl
  | c :: cs, cells, h, ds => by
    rw [width_cons] at h
    rw [List.cons_append, cut, if_pos (by omega), cut_append (by omega), width_cons, List.cons_append,
      Nat.sub_sub]

theorem isBlank_of_mem_cut {cs : List Char} (h : ∀ c ∈ cs, isBlank c = true) (cells : Nat) :
    ∀ c ∈ cut cells cs, isBlank c = true := by
  induction cs generalizing cells with
  | nil => exact fun c hc => by cases hc
  | cons d cs ih =>
    intro c hc
    rw [cut] at hc
    split at hc
    · rcases List.mem_cons.1 hc with rfl | hc
      · exact h c List.mem_cons_self
      · exact ih (fun e he => h e (List.mem_cons_of_mem _ he)) _ c hc
    · rw [List.eq_of_mem_replicate hc]
      exact isBlank_space

/-- Blanks beyond the width count in characters, so a line of wide ones can be too wide after all. -/
theorem width_dropExcess_le {width : Nat} {line : List Char} (hfits : Chars.width (trimEnd line) ≤ width)
    (hline : Chars.width line ≤ width ∨ ∀ c ∈ line, cellWidth c ≤ 1) :
    Chars.width (dropExcess width line) ≤ width := by
  rw [dropExcess]
  rcases hline with hline | hnarrow
  · exact Nat.le_trans (width_le_of_sublist (List.take_sublist _ _)) hline
  · rcases Nat.le_total (min width line.length) (trimEnd line).length with hlong | hshort
    · obtain ⟨blanks, hsplit, -⟩ := exists_trimEnd_append line
      have htake : line.take (trimEnd line).length = trimEnd line := by
        conv_lhs => arg 2; rw [hsplit]
        exact List.take_left
      rwa [Nat.max_eq_left hlong, htake]
    · rw [Nat.max_eq_right hshort]
      have hlength : Chars.width (line.take (min width line.length)) ≤ (line.take (min width line.length)).length :=
        width_le_length fun c hc => hnarrow c (List.mem_of_mem_take hc)
      rw [List.length_take] at hlength
      omega

theorem trimEnd_shorten {overflow : Overflow} {width : Nat} {line : List Char}
    (hfits : Chars.width (trimEnd line) ≤ width)
    (hline : overflow = .ellipsis → Chars.width line ≤ width ∨ ∀ c ∈ line, cellWidth c ≤ 1) :
    trimEnd (shorten overflow width (dropExcess width line)) = trimEnd line := by
  obtain ⟨blanks, hkept, hblank⟩ := exists_dropExcess width line
  have hdropped : trimEnd (dropExcess width line) = trimEnd line := by
    rw [hkept, trimEnd_append_blank hblank, trimEnd_trimEnd]
  unfold shorten
  split
  · exact hdropped
  · rename_i hwide
    cases overflow with
    | fold =>
      show trimEnd (cut width (dropExcess width line)) = trimEnd line
      rw [hkept, cut_append hfits, trimEnd_append_blank (isBlank_of_mem_cut hblank _), trimEnd_trimEnd]
    | ellipsis => exact absurd (width_dropExcess_le hfits (hline rfl)) hwide

/-! ## Wrapped texts -/

/-- Lines that show a text: its parts, one after another, up to the blanks at their ends. A part
ends at every newline. -/
def Wraps (text : List Char) (lines : List (List Char)) : Prop :=
  ∃ parts : List (List Char), parts.flatten = text ∧ (∀ part ∈ parts, '\n' ∉ part.dropLast) ∧
    lines.map trimEnd = parts.map trimEnd

/-- Other blanks at the ends of the lines and blank lines below make no difference. -/
theorem Wraps.of_map_trimEnd {text : List Char} {lines others : List (List Char)} (h : Wraps text lines)
    {n : Nat} (same : others.map trimEnd = (lines ++ List.replicate n []).map trimEnd) : Wraps text others := by
  obtain ⟨parts, hflat, hbreaks, hlines⟩ := h
  refine ⟨parts ++ List.replicate n [], ?_, fun part hpart => ?_, ?_⟩
  · simp [hflat]
  · rcases List.mem_append.1 hpart with hpart | hpart
    · exact hbreaks part hpart
    · rw [List.eq_of_mem_replicate hpart]
      exact List.not_mem_nil
  · rw [same, List.map_append, List.map_append, hlines]

/-- A line that need not be cut when it is broken: its words fit, and it has no wide characters
unless it fits as a whole. -/
structure Breakable (width : Nat) (line : List Char) : Prop where
  words : ∀ word ∈ words line, Chars.width (trimEnd word) ≤ width
  narrow : Chars.width line ≤ width ∨ ∀ c ∈ line, cellWidth c ≤ 1

theorem expandTabs_of_not_mem {line : List Char} (h : '\t' ∉ line) (column : Nat) :
    expandTabs column line = line := by
  induction line generalizing column with
  | nil => rfl
  | cons c line ih =>
    rw [List.mem_cons, not_or] at h
    rw [expandTabs, if_neg (Ne.symm h.1), ih h.2]

theorem wrapLine_eq (overflow : Overflow) (width : Nat) (line : List Char) :
    wrapLine overflow width line = ((fill overflow width [] (words (expandTabs 0 line))).map
      (dropExcess width)).map (shorten overflow width) := by
  rw [wrapLine]
  split
  · rename_i hblank
    have hall := List.all_eq_true.1 hblank
    have hwords : words (expandTabs 0 line) = [expandTabs 0 line] := by
      rw [words, List.takeWhile_eq_self_iff.2 hall, dropWhile_eq_nil_iff.2 hall, wordsFrom]
    have htrim : trimEnd (expandTabs 0 line) = [] := List.rdropWhile_eq_nil_iff.2 hall
    have hnone : Chars.width [] + Chars.width (trimEnd (expandTabs 0 line)) ≤ width := by
      rw [htrim]
      exact Nat.zero_le _
    rw [hwords, fill, if_pos hnone, fill, List.nil_append]
  · rfl

theorem sublist_join {sep : Char} {piece : List Char} : ∀ {pieces : List (List Char)}, piece ∈ pieces →
    piece.Sublist (join sep pieces)
  | [], h => by cases h
  | [only], h => by
    rw [List.mem_singleton.1 h, join]
  | first :: next :: pieces, h => by
    rw [join]
    rcases List.mem_cons.1 h with rfl | h
    · exact List.sublist_append_left _ _
    · exact ((sublist_join h).cons sep).trans (List.sublist_append_right _ _)

theorem sublist_of_mem_splitOn {sep : Char} {cs piece : List Char} (h : piece ∈ splitOn sep cs) :
    piece.Sublist cs := by
  have hjoin : piece.Sublist (join sep (splitOn sep cs)) := sublist_join h
  rwa [join_splitOn] at hjoin

/-- What a line is broken into are its parts. -/
theorem exists_wrapLine {overflow : Overflow} {width : Nat} {line : List Char} (htabs : '\t' ∉ line)
    (hfits : overflow = .fold ∧ 2 ≤ width ∨ Breakable width line) :
    ∃ parts, parts ≠ [] ∧ parts.flatten = line ∧
      (wrapLine overflow width line).map trimEnd = parts.map trimEnd := by
  have hflat : (fill overflow width [] (words line)).flatten = line := by
    rw [flatten_fill, flatten_words, List.nil_append]
  refine ⟨fill overflow width [] (words line), fill_ne_nil _ _ _ _, hflat, ?_⟩
  rw [wrapLine_eq, expandTabs_of_not_mem htabs, List.map_map, List.map_map]
  refine List.map_congr_left fun part hpart => trimEnd_shorten ?_ fun hellipsis => ?_
  · exact width_trimEnd_of_mem_fill (hfits.imp_right Breakable.words) (Nat.zero_le _) part hpart
  · rcases hfits with ⟨rfl, -⟩ | hbreakable
    · cases hellipsis
    · refine hbreakable.narrow.imp (fun h => ?_) fun h c hc => h c ?_
      · exact Nat.le_trans (width_le_of_mem_flatten hpart) (by rwa [hflat])
      · rw [← hflat]
        exact List.mem_flatten.2 ⟨part, hpart, hc⟩

/-- Lines that are broken one by one. -/
theorem wraps_flatMap {wrapLine : List Char → List (List Char)} : ∀ {lines : List (List Char)}, lines ≠ [] →
    (∀ line ∈ lines, '\n' ∉ line) →
    (∀ line ∈ lines, ∃ parts, parts ≠ [] ∧ parts.flatten = line ∧
      (wrapLine line).map trimEnd = parts.map trimEnd) →
    Wraps (join '\n' lines) (lines.flatMap wrapLine)
  | [], hne, _, _ => absurd rfl hne
  | line :: rest, _, hlines, hparts => by
    have hline := hlines line List.mem_cons_self
    obtain ⟨parts, hne, hflat, hshown⟩ := hparts line List.mem_cons_self
    have hwhole (part : List Char) (hpart : part ∈ parts) : '\n' ∉ part := fun hnewline =>
      hline (hflat ▸ List.mem_flatten.2 ⟨part, hpart, hnewline⟩)
    match rest with
    | [] =>
      refine ⟨parts, hflat, fun part hpart hmem => hwhole part hpart ((List.dropLast_sublist _).subset hmem), ?_⟩
      rw [List.flatMap_cons, List.flatMap_nil, List.append_nil, hshown]
    | next :: rest =>
      obtain ⟨others, hothers, hbreaks, hrest⟩ := wraps_flatMap (List.cons_ne_nil next rest)
        (fun other h => hlines other (List.mem_cons_of_mem _ h))
        (fun other h => hparts other (List.mem_cons_of_mem _ h))
      -- the newline goes to the end of the last part
      obtain ⟨init, last, rfl⟩ := (List.eq_nil_or_concat' parts).resolve_left hne
      refine ⟨init ++ [last ++ ['\n']] ++ others, ?_, fun part hpart => ?_, ?_⟩
      · rw [join, ← hflat, List.flatten_append, hothers]
        simp
      · rcases List.mem_append.1 hpart with hpart | hpart
        · rcases List.mem_append.1 hpart with hpart | hpart
          · exact fun hmem => hwhole part (List.mem_append_left _ hpart) ((List.dropLast_sublist _).subset hmem)
          · rw [List.mem_singleton.1 hpart, List.dropLast_concat]
            exact hwhole last (List.mem_append_right _ List.mem_cons_self)
        · exact hbreaks part hpart
      · rw [List.flatMap_cons, List.map_append, hshown, hrest, List.map_append, List.map_append, List.map_append,
          List.map_cons, List.map_cons, trimEnd_concat_blank isBlank_newline]

/-- **Folding.** A text without tabs that is folded to a width of at least two cells is wrapped: its
lines are its parts, up to blanks at their ends. -/
theorem wraps_wrap_fold {width : Nat} (hwidth : 2 ≤ width) {cs : List Char} (htabs : '\t' ∉ cs) :
    Wraps cs (wrap .fold width cs) := by
  have hwraps : Wraps (join '\n' (splitOn '\n' cs)) (wrap .fold width cs) := wraps_flatMap (splitOn_ne_nil '\n' cs)
    (fun line => not_mem_of_mem_splitOn)
    fun line hline => exists_wrapLine (fun h => htabs ((sublist_of_mem_splitOn hline).subset h)) (.inl ⟨rfl, hwidth⟩)
  rwa [join_splitOn] at hwraps

/-- **Wrapping words.** A text whose lines are breakable is wrapped. -/
theorem wraps_wrap_ellipsis {width : Nat} {cs : List Char} (htabs : '\t' ∉ cs)
    (hlines : ∀ line ∈ splitOn '\n' cs, Breakable width line) : Wraps cs (wrap .ellipsis width cs) := by
  have hwraps : Wraps (join '\n' (splitOn '\n' cs)) (wrap .ellipsis width cs) := wraps_flatMap (splitOn_ne_nil '\n' cs)
    (fun line => not_mem_of_mem_splitOn)
    fun line hline => exists_wrapLine (fun h => htabs ((sublist_of_mem_splitOn hline).subset h))
      (.inr (hlines line hline))
  rwa [join_splitOn] at hwraps

end Chars

end ScriptLint
