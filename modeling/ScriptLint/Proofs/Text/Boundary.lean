/-
Offsets between characters.

A boundary of a text is an offset at which one of its characters starts, or the
text ends. What lies between two boundaries is whole characters, namely those
that are before the second and not before the first (`Boundary.slice_eq`).
-/
import ScriptLint.Proofs.Text.Utf8

namespace ScriptLint

namespace Utf8

theorem encodeChars_append (first second : List Char) :
    encodeChars (first ++ second) = encodeChars first ++ encodeChars second :=
  List.flatMap_append

theorem encode_ofList (cs : List Char) : encode (String.ofList cs) = encodeChars cs := by
  rw [encode, String.toList_ofList]

/-- An offset into the bytes of a text that does not lie inside a character. -/
def Boundary (text : String) (offset : Nat) : Prop :=
  ∃ before after, text.toList = before ++ after ∧ (encodeChars before).length = offset

variable {text : String} {start stop : Nat}

theorem boundary_zero (text : String) : Boundary text 0 := ⟨[], text.toList, rfl, rfl⟩

theorem boundary_length (text : String) : Boundary text (encode text).length :=
  ⟨text.toList, [], (List.append_nil _).symm, rfl⟩

theorem Boundary.le_length (h : Boundary text stop) : stop ≤ (encode text).length := by
  obtain ⟨before, after, htext, rfl⟩ := h
  rw [encode, htext, encodeChars_append, List.length_append]
  exact Nat.le_add_right _ _

/-! ## Counting characters -/

/-- Encoded characters are read back whatever comes after them. -/
theorem lossyChars_append (cs : List Char) (rest : Bytes) :
    lossyChars (encodeChars cs ++ rest) = cs ++ lossyChars rest := by
  induction cs with
  | nil => rfl
  | cons c cs ih =>
    obtain ⟨size, hscan⟩ := scan_encodeChar c (encodeChars cs ++ rest)
    have hbytes : encodeChars (c :: cs) ++ rest = String.utf8EncodeChar c ++ (encodeChars cs ++ rest) :=
      List.append_assoc _ _ _
    rw [lossyChars, pieces, hbytes, hscan, List.map_cons]
    exact congrArg (c :: ·) ih

/-- An encoded list of characters is read back also where ill-formed bytes would be let pass. -/
theorem lossyChars_encodeChars (cs : List Char) : lossyChars (encodeChars cs) = cs := by
  have h := lossyChars_append cs []
  rwa [List.append_nil, show lossyChars [] = [] from rfl, List.append_nil] at h

/-- The number of characters of a text before an offset. -/
def charsBefore (text : String) (offset : Nat) : Nat := (lossyChars ((encode text).take offset)).length

theorem charsBefore_of_split {before after : List Char} (h : text.toList = before ++ after) :
    charsBefore text (encodeChars before).length = before.length := by
  rw [charsBefore, encode, h, encodeChars_append, List.take_left, lossyChars_encodeChars]

/-- From a boundary on, a text is the characters that are not before it. -/
theorem Boundary.drop_eq (h : Boundary text start) :
    (encode text).drop start = encodeChars (text.toList.drop (charsBefore text start)) := by
  obtain ⟨before, after, htext, rfl⟩ := h
  rw [charsBefore_of_split htext, encode, htext, encodeChars_append, List.drop_left, List.drop_left]

/-- Between two boundaries stand the characters between the numbers of those before them. -/
theorem Boundary.slice_eq (hstart : Boundary text start) (hstop : Boundary text stop) :
    (encode text).slice start stop = encodeChars ((text.toList.drop (charsBefore text start)).take
      (charsBefore text stop - charsBefore text start)) := by
  obtain ⟨before, after, htext, rfl⟩ := hstart
  obtain ⟨before', after', htext', rfl⟩ := hstop
  rw [charsBefore_of_split htext, charsBefore_of_split htext']
  rcases List.append_eq_append_iff.1 (htext.symm.trans htext') with ⟨between, rfl, rfl⟩ | ⟨between, rfl, rfl⟩
  · rw [Bytes.slice, encode, htext, encodeChars_append, encodeChars_append, encodeChars_append, List.drop_left,
      List.length_append, Nat.add_sub_cancel_left, List.take_left, List.drop_left, List.length_append,
      Nat.add_sub_cancel_left, List.take_left]
  · -- The second boundary is not after the first, and both sides are empty.
    rw [Bytes.slice, encodeChars_append, List.length_append, Nat.sub_eq_zero_of_le (Nat.le_add_right _ _),
      List.length_append, Nat.sub_eq_zero_of_le (Nat.le_add_right _ _), List.take_zero, List.take_zero]
    rfl

/-- So nothing is lost where that is read. -/
theorem Boundary.encode_lossy (hstart : Boundary text start) (hstop : Boundary text stop) :
    encode (lossy ((encode text).slice start stop)) = (encode text).slice start stop := by
  rw [hstart.slice_eq hstop, lossy, lossyChars_encodeChars, encode_ofList]

end Utf8

end ScriptLint
