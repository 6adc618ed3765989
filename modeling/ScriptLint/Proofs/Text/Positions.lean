/-
Lines and columns say where a text has come to.

The line index and the look back from an offset find the same position in any
bytes (`LineIndex.position_eq`), so errors of a parser and findings of a rule
point to one place. In a text, an offset counts as the end of the character that
it lies in (`position_encode`): the position is where the characters that start
before the offset end, and one character more is always a position further on.
-/
import Mathlib.Data.List.Induction
import ScriptLint.Proofs.Text.Boundary
import ScriptLint.Proofs.Text.Decoding
import ScriptLint.Session

namespace ScriptLint

/-! ## Starts of lines -/

theorem startsAfter_append (offset : Nat) (before after : Bytes) :
    startsAfter offset (before ++ after) =
      startsAfter offset before ++ startsAfter (offset + before.length) after := by
  induction before generalizing offset with
  | nil => rfl
  | cons byte before ih =>
    have hoffset : offset + 1 + before.length = offset + (byte :: before).length := by
      rw [List.length_cons]
      omega
    simp only [List.cons_append, startsAfter, ih, hoffset]
    split <;> rfl

theorem length_startsAfter (offset : Nat) (bytes : Bytes) :
    (startsAfter offset bytes).length = bytes.count newline := by
  induction bytes generalizing offset with
  | nil => rfl
  | cons byte bytes ih =>
    simp only [startsAfter, List.count_cons, beq_iff_eq]
    split
    · rw [List.length_cons, ih]
    · rw [ih, Nat.add_zero]

theorem mem_startsAfter {start offset : Nat} {bytes : Bytes} (h : start ∈ startsAfter offset bytes) :
    offset < start ∧ start ≤ offset + bytes.length := by
  induction bytes generalizing offset with
  | nil => cases h
  | cons byte bytes ih =>
    rw [List.length_cons]
    simp only [startsAfter] at h
    split at h
    · rcases List.mem_cons.1 h with rfl | h
      · omega
      · have := ih h
        omega
    · have := ih h
      omega

/-! ## The last line -/

/-- What comes after the last occurrence of an item. -/
def afterLast {α : Type} [DecidableEq α] (item : α) (items : List α) : List α :=
  (items.reverse.takeWhile (· ≠ item)).reverse

theorem lastLine_eq (bytes : Bytes) : lastLine bytes = afterLast newline bytes := rfl

section AfterLast

variable {α : Type} [DecidableEq α] {item : α}

theorem afterLast_concat_self (items : List α) : afterLast item (items ++ [item]) = [] := by
  simp [afterLast]

theorem afterLast_append {after : List α} (h : item ∉ after) (items : List α) :
    afterLast item (items ++ after) = afterLast item items ++ after := by
  have hall : ∀ other ∈ after.reverse, decide (other ≠ item) = true := by
    intro other hother
    refine decide_eq_true fun heq => h ?_
    rw [← heq]
    exact List.mem_reverse.1 hother
  rw [afterLast, List.reverse_append, List.takeWhile_append_of_pos hall, List.reverse_append, List.reverse_reverse]
  rfl

theorem afterLast_suffix (items : List α) : afterLast item items <:+ items := by
  rw [afterLast, ← List.reverse_reverse items, List.reverse_suffix, List.reverse_reverse]
  exact List.takeWhile_prefix _

end AfterLast

/-- The last of the starts of lines is where the last line starts. -/
theorem getLast?_startsAfter (bytes : Bytes) :
    (0 :: startsAfter 0 bytes).getLast? = some (bytes.length - (lastLine bytes).length) := by
  simp only [lastLine_eq]
  induction bytes using List.reverseRecOn with
  | nil => rfl
  | append_singleton bytes byte ih =>
    rw [startsAfter_append, Nat.zero_add, List.length_append, List.length_singleton]
    by_cases hbyte : byte = newline
    · have hstart : startsAfter bytes.length [newline] = [bytes.length + 1] := rfl
      rw [hbyte, afterLast_concat_self, hstart, ← List.cons_append, List.getLast?_concat, List.length_nil, Nat.sub_zero]
    · have hstart : startsAfter bytes.length [byte] = [] := by simp [startsAfter, hbyte]
      have hrest : newline ∉ [byte] := fun h => hbyte (List.mem_singleton.1 h).symm
      rw [afterLast_append hrest, hstart, List.append_nil, ih, List.length_append, List.length_singleton,
        Nat.add_sub_add_right]

/-! ## Two ways to one position -/

namespace LineIndex

/-- The starts of the lines that an offset has come to, and then those of later lines. -/
theorem starts_ofBytes (bytes : Bytes) (offset : Nat) :
    (ofBytes bytes).starts.toList = (0 :: startsAfter 0 (bytes.take offset)) ++
      startsAfter (min offset bytes.length) (bytes.drop offset) := by
  have happend := startsAfter_append 0 (bytes.take offset) (bytes.drop offset)
  rw [List.take_append_drop, Nat.zero_add, List.length_take] at happend
  rw [ofBytes, happend]
  rfl

theorem length_starts (bytes : Bytes) (offset : Nat) :
    (0 :: startsAfter 0 (bytes.take offset)).length = (bytes.take offset).count newline + 1 := by
  rw [List.length_cons, length_startsAfter]

theorem getD_starts (bytes : Bytes) (offset i : Nat) :
    (ofBytes bytes).starts.getD i 0 = ((0 :: startsAfter 0 (bytes.take offset)) ++
      startsAfter (min offset bytes.length) (bytes.drop offset))[i]?.getD 0 := by
  rw [Array.getD_eq_getD_getElem?, ← Array.getElem?_toList, starts_ofBytes bytes offset]

theorem line_eq (bytes : Bytes) (offset : Nat) :
    (ofBytes bytes).line offset = (bytes.take offset).count newline + 1 := by
  rw [← length_starts]
  refine bisect_eq (Nat.zero_le _) ?_ (fun i _ hi => ?_) (fun i hi hsome => ?_)
  · rw [← Array.length_toList, starts_ofBytes bytes offset, List.length_append]
    exact Nat.le_add_right _ _
  · -- A line that starts before the offset.
    rw [getD_starts bytes offset, List.getElem?_append_left hi, List.getElem?_eq_getElem hi, Option.getD_some]
    refine decide_eq_true ?_
    rcases List.mem_cons.1 (List.getElem_mem hi) with hzero | hmem
    · rw [hzero]
      exact Nat.zero_le _
    · have := mem_startsAfter hmem
      rw [List.length_take] at this
      omega
  · -- A line that starts after the offset, which then lies in the bytes.
    rw [← Array.length_toList, starts_ofBytes bytes offset, List.length_append] at hsome
    rw [getD_starts bytes offset, List.getElem?_append_right hi, List.getElem?_eq_getElem (by omega), Option.getD_some]
    refine decide_eq_false ?_
    have hmem := List.getElem_mem (l := startsAfter (min offset bytes.length) (bytes.drop offset))
      (n := i - (0 :: startsAfter 0 (bytes.take offset)).length) (by omega)
    have := mem_startsAfter hmem
    rw [List.length_drop] at this
    omega

/-- The line that an offset has come to starts where the last line before the offset does. -/
theorem start_eq (bytes : Bytes) (offset : Nat) :
    (ofBytes bytes).starts.getD ((bytes.take offset).count newline) 0 =
      (bytes.take offset).length - (lastLine (bytes.take offset)).length := by
  have hlast := getLast?_startsAfter (bytes.take offset)
  rw [List.getLast?_eq_getElem?, length_starts, Nat.add_sub_cancel] at hlast
  rw [getD_starts bytes offset, List.getElem?_append_left (by rw [length_starts]; exact Nat.lt_succ_self _), hlast,
    Option.getD_some]

/-- The line index finds the position that looking back finds. -/
theorem position_eq (bytes : Bytes) (offset : Nat) : (ofBytes bytes).position offset = positionAt bytes offset := by
  have hslice : bytes.slice ((bytes.take offset).length - (lastLine (bytes.take offset)).length) offset =
      lastLine (bytes.take offset) := by
    rw [Bytes.slice, ← List.drop_take]
    exact (List.suffix_iff_eq_drop.1 (afterLast_suffix _)).symm
  have hbytes : (ofBytes bytes).bytes = bytes := rfl
  simp only [position, positionAt, line_eq, Nat.add_sub_cancel, start_eq, hbytes, hslice]

end LineIndex

namespace Utf8

/-! ## Newlines in texts -/

/-- The bytes of a character beyond ASCII are all beyond ASCII. -/
theorem le_toNat_of_mem_encodeChar {c : Char} (hc : 0x80 ≤ c.toNat) :
    ∀ byte ∈ String.utf8EncodeChar c, 0x80 ≤ byte.toNat := by
  have hval : c.val.toNat = c.toNat := rfl
  have hlarge : ∀ n, 0x80 ≤ n → n < 0x100 → 0x80 ≤ (UInt8.ofNat n).toNat := by
    intro n hlow hhigh
    rwa [toNat_ofNat_of_lt hhigh]
  intro byte hbyte
  unfold String.utf8EncodeChar at hbyte
  simp only [hval] at hbyte
  rw [if_neg (by omega)] at hbyte
  split at hbyte
  · simp only [List.mem_cons, List.not_mem_nil, or_false] at hbyte
    rcases hbyte with rfl | rfl <;> exact hlarge _ (by omega) (by omega)
  split at hbyte
  · simp only [List.mem_cons, List.not_mem_nil, or_false] at hbyte
    rcases hbyte with rfl | rfl | rfl <;> exact hlarge _ (by omega) (by omega)
  · simp only [List.mem_cons, List.not_mem_nil, or_false] at hbyte
    rcases hbyte with rfl | rfl | rfl | rfl <;> exact hlarge _ (by omega) (by omega)

theorem newline_not_mem_encodeChar {c : Char} (h : c ≠ '\n') : newline ∉ String.utf8EncodeChar c := by
  intro hmem
  by_cases hc : 0x80 ≤ c.toNat
  · have hlow := le_toNat_of_mem_encodeChar hc newline hmem
    exact absurd hlow (by decide)
  · have hval : c.val.toNat = c.toNat := rfl
    unfold String.utf8EncodeChar at hmem
    simp only [hval] at hmem
    rw [if_pos (by omega), List.mem_singleton] at hmem
    refine h (Char.ext (UInt32.toNat_inj.1 ?_))
    rw [hval, ← toNat_ofNat_of_lt (n := c.toNat) (by omega), ← hmem]
    rfl

theorem count_encodeChars (cs : List Char) : (encodeChars cs).count newline = cs.count '\n' := by
  induction cs with
  | nil => rfl
  | cons c cs ih =>
    have hbytes : encodeChars (c :: cs) = String.utf8EncodeChar c ++ encodeChars cs := rfl
    rw [hbytes, List.count_append, ih, List.count_cons]
    by_cases hc : c = '\n'
    · rw [hc, Nat.add_comm]
      rfl
    · rw [List.count_eq_zero.2 (newline_not_mem_encodeChar hc), if_neg (by simpa using hc), Nat.zero_add, Nat.add_zero]

theorem lastLine_encodeChars (cs : List Char) : lastLine (encodeChars cs) = encodeChars (afterLast '\n' cs) := by
  simp only [lastLine_eq]
  induction cs using List.reverseRecOn with
  | nil => rfl
  | append_singleton cs c ih =>
    rw [encodeChars_append]
    by_cases hc : c = '\n'
    · rw [hc, afterLast_concat_self]
      exact afterLast_concat_self _
    · have hrest : '\n' ∉ [c] := fun h => hc (List.mem_singleton.1 h).symm
      have hbytes : encodeChars [c] = String.utf8EncodeChar c := List.append_nil _
      rw [afterLast_append hrest, encodeChars_append, hbytes, afterLast_append (newline_not_mem_encodeChar hc), ih]

/-! ## Characters cut in two -/

/-- The start of a sequence that would become a character is one ill-formed piece. -/
theorem scan_take_of_char {c : Char} {size : Nat} {later : List Piece} : ∀ {bytes : Bytes} {pending : Pending}
    {taken : Nat}, scan (some pending) bytes = .char c size :: later → pending.size + taken < size →
      scan (some pending) (bytes.take taken) = [.illFormed (pending.size + taken)]
  | _, _, 0, _, _ => by rw [List.take_zero]; rfl
  | [], _, _ + 1, h, _ => by cases h
  | byte :: rest, pending, taken + 1, h, hsize => by
    unfold scan at h
    rw [List.take_succ_cons]
    unfold scan
    dsimp only at h ⊢
    split at h
    · next hrange =>
      rw [if_pos hrange]
      split at h
      · -- The byte would have completed the character.
        cases h
        omega
      · next hwanted =>
        rw [if_neg hwanted, scan_take_of_char h (by dsimp only; omega)]
        dsimp only
        rw [Nat.add_assoc, Nat.add_comm 1]
    · cases h

theorem lossyChars_take_encodeChar {c : Char} {size : Nat} (hpos : 0 < size)
    (hsize : size < (String.utf8EncodeChar c).length) :
    lossyChars ((String.utf8EncodeChar c).take size) = [Char.ofNat 0xfffd] := by
  obtain ⟨whole, hscan⟩ := scan_encodeChar c []
  have hwhole : whole = (String.utf8EncodeChar c).length := by
    have htotal := size_pieces (String.utf8EncodeChar c ++ [])
    rw [pieces, hscan] at htotal
    simpa [scan] using htotal
  rw [List.append_nil] at hscan
  obtain ⟨taken, rfl⟩ : ∃ taken, size = taken + 1 := ⟨size - 1, by omega⟩
  cases hbytes : String.utf8EncodeChar c with
  | nil =>
    rw [hbytes] at hsize
    cases hsize
  | cons first rest =>
    rw [hbytes] at hscan hwhole
    have hone := opening_size first
    cases hopening : opening first with
    | inl piece =>
      -- A character of one byte has no start that is shorter.
      rw [hopening] at hone
      simp only [scan, hopening] at hscan
      obtain ⟨rfl, -⟩ := List.cons.inj hscan
      simp only [Sum.elim_inl, Piece.size_char] at hone
      rw [hbytes] at hsize
      omega
    | inr pending =>
      rw [hopening] at hone
      simp only [Sum.elim_inr] at hone
      rw [scan_opening hopening] at hscan
      rw [List.take_succ_cons, lossyChars, pieces, scan_opening hopening,
        scan_take_of_char hscan (by rw [hone, hwhole, ← hbytes]; omega)]
      rfl

/-- How the start of an encoded text ends: between two characters or inside one. -/
inductive Cut (cs : List Char) (taken : Bytes) : Prop where
  | between (before after : List Char) (split : cs = before ++ after) (h : taken = encodeChars before)
  | inside (before after : List Char) (c : Char) (size : Nat) (split : cs = before ++ c :: after) (pos : 0 < size)
      (short : size < (String.utf8EncodeChar c).length)
      (h : taken = encodeChars before ++ (String.utf8EncodeChar c).take size)

theorem cut_take (cs : List Char) (offset : Nat) : Cut cs ((encodeChars cs).take offset) := by
  induction cs generalizing offset with
  | nil => exact .between [] [] rfl List.take_nil
  | cons c cs ih =>
    have hbytes : ∀ cs, encodeChars (c :: cs) = String.utf8EncodeChar c ++ encodeChars cs := fun _ => rfl
    rw [hbytes, List.take_append]
    by_cases hoffset : offset < (String.utf8EncodeChar c).length
    · rw [Nat.sub_eq_zero_of_le (Nat.le_of_lt hoffset), List.take_zero, List.append_nil]
      rcases Nat.eq_zero_or_pos offset with rfl | hpos
      · exact .between [] _ rfl List.take_zero
      · exact .inside [] _ c offset rfl hpos hoffset rfl
    · rw [List.take_of_length_le (Nat.le_of_not_lt hoffset)]
      cases ih (offset - (String.utf8EncodeChar c).length) with
      | between before after split h =>
        refine .between (c :: before) after (congrArg (c :: ·) split) ?_
        rw [h, hbytes]
      | inside before after d size split pos short h =>
        refine .inside (c :: before) after d size (congrArg (c :: ·) split) pos short ?_
        rw [h, hbytes, List.append_assoc]

/-! ## Counting to an offset -/

/-- What is pending becomes a piece at the latest when the bytes end. -/
theorem one_le_length_scan (pending : Pending) (bytes : Bytes) : 1 ≤ (scan (some pending) bytes).length := by
  induction bytes generalizing pending with
  | nil => exact Nat.le_refl _
  | cons byte rest ih =>
    unfold scan
    dsimp only
    split
    · split
      · exact Nat.succ_le_succ (Nat.zero_le _)
      · exact ih _
    · exact Nat.succ_le_succ (Nat.zero_le _)

/-- The start of some bytes has no more pieces than all of them. -/
theorem length_scan_le (state : Option Pending) (before after : Bytes) :
    (scan state before).length ≤ (scan state (before ++ after)).length := by
  induction before generalizing state with
  | nil =>
    cases state with
    | none => exact Nat.zero_le _
    | some pending => exact one_le_length_scan pending after
  | cons byte before ih =>
    have hnone : (scan none (byte :: before)).length ≤ (scan none (byte :: (before ++ after))).length := by
      simp only [scan]
      split
      · exact Nat.succ_le_succ (ih none)
      · exact ih _
    cases state with
    | none => exact hnone
    | some pending =>
      rw [List.cons_append]
      simp only [scan]
      split
      · split
        · exact Nat.succ_le_succ (ih none)
        · exact ih _
      · exact Nat.succ_le_succ hnone

theorem length_lossyChars_le (before after : Bytes) :
    (lossyChars before).length ≤ (lossyChars (before ++ after)).length := by
  rw [lossyChars, lossyChars, List.length_map, List.length_map]
  exact length_scan_le none before after

theorem charsBefore_mono (text : String) {start stop : Nat} (h : start ≤ stop) :
    charsBefore text start ≤ charsBefore text stop := by
  have hsplit : (encode text).take stop =
      (encode text).take start ++ ((encode text).take stop).drop start := by
    conv => lhs; rw [← List.take_append_drop start ((encode text).take stop), List.take_take, Nat.min_eq_left h]
  rw [charsBefore, charsBefore, hsplit]
  exact length_lossyChars_le _ _

theorem charsBefore_le (text : String) (offset : Nat) : charsBefore text offset ≤ text.toList.length := by
  have hle := length_lossyChars_le ((encode text).take offset) ((encode text).drop offset)
  rwa [List.take_append_drop, encode, lossyChars_encodeChars] at hle

theorem charsBefore_lt {text : String} {start stop : Nat} (hstart : Boundary text start) (hstop : Boundary text stop)
    (h : start < stop) : charsBefore text start < charsBefore text stop := by
  obtain ⟨before, after, htext, rfl⟩ := hstart
  obtain ⟨before', after', htext', rfl⟩ := hstop
  rw [charsBefore_of_split htext, charsBefore_of_split htext']
  rcases List.append_eq_append_iff.1 (htext.symm.trans htext') with ⟨between, rfl, -⟩ | ⟨between, rfl, -⟩
  · rw [List.length_append, Nat.lt_add_right_iff_pos, List.length_pos_iff]
    rintro rfl
    rw [List.append_nil] at h
    exact Nat.lt_irrefl _ h
  · rw [encodeChars_append, List.length_append] at h
    omega

end Utf8

/-! ## Positions in texts -/

/-- The position that some characters come to: one more than their newlines, and one more than
the characters after the last of these. -/
def endPosition (cs : List Char) : Position := ⟨cs.count '\n' + 1, (afterLast '\n' cs).length + 1⟩

/-- Order in a text: by line, then by column. -/
def Position.Before (first second : Position) : Prop :=
  first.line < second.line ∨ first.line = second.line ∧ first.column < second.column

theorem Position.Before.ne {first second : Position} (h : first.Before second) : first ≠ second := by
  rintro rfl
  rcases h with h | ⟨-, h⟩ <;> exact Nat.lt_irrefl _ h

/-- More characters come to a later position. -/
theorem endPosition_before (cs : List Char) {more : List Char} (h : more ≠ []) :
    (endPosition cs).Before (endPosition (cs ++ more)) := by
  by_cases hnewline : '\n' ∈ more
  · have hpos : 0 < more.count '\n' := List.count_pos_iff.2 hnewline
    refine .inl ?_
    simp only [endPosition, List.count_append]
    omega
  · have hpos : 0 < more.length := List.length_pos_iff.2 h
    refine .inr ⟨?_, ?_⟩
    · simp only [endPosition, List.count_append, List.count_eq_zero.2 hnewline, Nat.add_zero]
    · simp only [endPosition, afterLast_append hnewline, List.length_append]
      omega

theorem endPosition_take_before {cs : List Char} {fewer more : Nat} (hlt : fewer < more) (hle : more ≤ cs.length) :
    (endPosition (cs.take fewer)).Before (endPosition (cs.take more)) := by
  have hmore : cs.take more = cs.take fewer ++ (cs.drop fewer).take (more - fewer) := by
    rw [← List.take_add, Nat.add_sub_cancel' (Nat.le_of_lt hlt)]
  rw [hmore]
  refine endPosition_before _ (List.ne_nil_of_length_pos ?_)
  rw [List.length_take, List.length_drop]
  omega

/-- In a text, an offset has the position to which the characters that start before it come. -/
theorem positionAt_encode (text : String) (offset : Nat) :
    positionAt (Utf8.encode text) offset = endPosition (text.toList.take (Utf8.charsBefore text offset)) := by
  have hcut := Utf8.cut_take text.toList offset
  unfold positionAt Utf8.charsBefore endPosition
  rw [Utf8.encode]
  cases hcut with
  | between before after split h =>
    simp only [h, Utf8.lossyChars_encodeChars, Utf8.count_encodeChars, Utf8.lastLine_encodeChars]
    rw [split, List.take_left]
  | inside before after c size split pos short h =>
    -- The part of the character before the offset counts as the character, which is no newline.
    have hc : c ≠ '\n' := by
      rintro rfl
      have hone : (String.utf8EncodeChar '\n').length = 1 := rfl
      omega
    have hpart : newline ∉ (String.utf8EncodeChar c).take size :=
      fun hmem => Utf8.newline_not_mem_encodeChar hc (List.mem_of_mem_take hmem)
    have hrest : '\n' ∉ [c] := fun h => hc (List.mem_singleton.1 h).symm
    have hwhole : text.toList.take (before.length + 1) = before ++ [c] := by
      rw [split, List.append_cons]
      exact List.take_left' (by rw [List.length_append, List.length_singleton])
    simp only [h, Utf8.lossyChars_append, Utf8.lossyChars_take_encodeChar pos short, List.length_append,
      List.length_singleton, hwhole, List.count_append, Utf8.count_encodeChars, List.count_eq_zero.2 hpart,
      List.count_eq_zero.2 hrest, lastLine_eq, afterLast_append hpart, afterLast_append hrest]
    rw [← lastLine_eq, Utf8.lastLine_encodeChars, Utf8.lossyChars_append, Utf8.lossyChars_take_encodeChar pos short,
      List.length_append, List.length_singleton]

/-- **Lines and columns are exact and never go back.** In well-formed bytes an offset between two characters has
the position that the text before it comes to; a later offset has no earlier position, and between
characters it has a later one, so that no two of these offsets share a position. -/
theorem LineIndex.position_exact {bytes : Bytes} {text : String} (h : Utf8.decode? bytes = some text) :
    let position := (LineIndex.ofBytes bytes).position
    (∀ offset, Utf8.Boundary text offset → ∃ before, Utf8.decode? (bytes.take offset) = some before ∧
      position offset = endPosition before.toList) ∧
    (∀ first second, first ≤ second → position first = position second ∨ (position first).Before (position second)) ∧
    (∀ first second, Utf8.Boundary text first → Utf8.Boundary text second → first < second →
      (position first).Before (position second)) ∧
    ∀ first second, Utf8.Boundary text first → Utf8.Boundary text second →
      position first = position second → first = second := by
  intro position
  obtain rfl := Utf8.encode_of_decode? h
  have hposition : ∀ offset, position offset = endPosition (text.toList.take (Utf8.charsBefore text offset)) :=
    fun offset => (position_eq _ offset).trans (positionAt_encode text offset)
  have hstrict : ∀ first second, Utf8.Boundary text first → Utf8.Boundary text second → first < second →
      (position first).Before (position second) := by
    intro first second hfirst hsecond hlt
    rw [hposition, hposition]
    exact endPosition_take_before (Utf8.charsBefore_lt hfirst hsecond hlt) (Utf8.charsBefore_le text second)
  refine ⟨?_, ?_, hstrict, ?_⟩
  · rintro offset ⟨before, after, htext, rfl⟩
    have htake : (Utf8.encode text).take (Utf8.encodeChars before).length = Utf8.encode (String.ofList before) := by
      rw [Utf8.encode_ofList, Utf8.encode, htext, Utf8.encodeChars_append, List.take_left]
    refine ⟨String.ofList before, by rw [htake, Utf8.decode?_encode], ?_⟩
    rw [hposition, Utf8.charsBefore_of_split htext, htext, List.take_left, String.toList_ofList]
  · intro first second hle
    rw [hposition, hposition]
    rcases Nat.eq_or_lt_of_le (Utf8.charsBefore_mono text hle) with hsame | hlt
    · rw [hsame]
      exact .inl rfl
    · exact .inr (endPosition_take_before hlt (Utf8.charsBefore_le text second))
  · intro first second hfirst hsecond hsame
    rcases Nat.lt_trichotomy first second with hlt | heq | hlt
    · exact absurd hsame (hstrict first second hfirst hsecond hlt).ne
    · exact heq
    · exact absurd hsame.symm (hstrict second first hsecond hfirst hlt).ne

/-- A letter of two bytes, a line break and a picture of four bytes: inside a character the position is
that of its end. -/
theorem LineIndex.position_exact_picture :
    let bytes : Bytes := [0xc3, 0xa9, 0x0a, 0xf0, 0x9f, 0x98, 0x80]
    Utf8.decode? bytes = some "é\n😀" ∧
      (List.range 8).map (LineIndex.ofBytes bytes).position =
        [⟨1, 1⟩, ⟨1, 2⟩, ⟨1, 2⟩, ⟨2, 1⟩, ⟨2, 2⟩, ⟨2, 2⟩, ⟨2, 2⟩, ⟨2, 2⟩] ∧
      ((LineIndex.ofBytes bytes).position 2).Before ((LineIndex.ofBytes bytes).position 3) := by
  intro bytes
  have hdecode : Utf8.decode? bytes = some "é\n😀" := by decide +kernel
  obtain ⟨-, -, hstrict, -⟩ := LineIndex.position_exact hdecode
  refine ⟨hdecode, by decide +kernel, hstrict 2 3 ?_ ?_ (by decide)⟩
  · exact ⟨['é'], ['\n', '😀'], by decide +kernel, by decide +kernel⟩
  · exact ⟨['é', '\n'], ['😀'], by decide +kernel, by decide +kernel⟩

/-! ## Errors and findings -/

/-- **Parse errors and findings agree on lines and columns.** Whatever the source and the tree, the
position of a syntax error is the one that the line index has for its offset. So the fatal finding about the error
shows the line and the column of every finding that starts at its offset. -/
theorem position_of_syntaxError {bytes : Bytes} {tree : ParseTree} {error : ParseError}
    (h : tree.syntaxError? bytes = some error) :
    error.position = (LineIndex.ofBytes bytes).position error.offset ∧
    ∀ (path : Path) (ctx : Context) (node : Node) (message : String) (fixes : List Fix) (finding : Finding),
      ctx.source.bytes = bytes → node.start = error.offset → ctx.report node message fixes = .finding finding →
      (parseErrorFinding path error).span.start = finding.span.start ∧
      (parseErrorFinding path error).span.line = finding.span.line ∧
      (parseErrorFinding path error).span.column = finding.span.column := by
  have hposition : error.position = (LineIndex.ofBytes bytes).position error.offset := by
    obtain ⟨problem, -, rfl⟩ := Option.map_eq_some_iff.1 h
    exact (LineIndex.position_eq bytes problem.label.start).symm
  refine ⟨hposition, fun path ctx node message fixes finding hbytes hstart hreport => ?_⟩
  obtain ⟨hspan, -, -⟩ := Context.fixes_of_report hreport
  rw [hspan]
  have hindex : ctx.source.index = LineIndex.ofBytes bytes := congrArg LineIndex.ofBytes hbytes
  simp only [parseErrorFinding, Source.spanOf, Source.spanBetween, hindex, hposition, hstart, and_self]

/-- A tree that is one error. -/
def errorAt (offset : Nat) : ParseTree :=
  .node { kind := "ERROR", start := offset, stop := offset, isError := true, hasError := true } []

/-- Errors at a line break, inside a character and past the end of the source. -/
theorem position_of_syntaxError_edges :
    let bytes : Bytes := [0x3b, 0x0a, 0xc3, 0xa9]
    let index := LineIndex.ofBytes bytes
    (∃ error, (errorAt 1).syntaxError? bytes = some error ∧ error.position = index.position 1) ∧
    (∃ error, (errorAt 3).syntaxError? bytes = some error ∧ error.position = index.position 3) ∧
    ∃ error, (errorAt 9).syntaxError? bytes = some error ∧ error.position = index.position 9 := by
  intro bytes index
  have herror : ∀ offset, (errorAt offset).syntaxError? bytes =
      some ⟨ParseTree.troubleAt bytes (errorAt offset).label, positionAt bytes offset, offset⟩ := fun _ => rfl
  exact ⟨⟨_, herror 1, (position_of_syntaxError (herror 1)).1⟩, ⟨_, herror 3, (position_of_syntaxError (herror 3)).1⟩,
    ⟨_, herror 9, (position_of_syntaxError (herror 9)).1⟩⟩

end ScriptLint
