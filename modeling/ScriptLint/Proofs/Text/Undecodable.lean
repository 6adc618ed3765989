/-
Where bytes stop being text.

Bytes are a text, or they start with one and go on with bytes that start no character
(`eq_encode_or_breaksAfter`). The offset that a strict reading reports is where the text
ends (`errorOffset?_eq_some_iff`), so bytes break in one place only.
-/
import ScriptLint.Proofs.Text.Boundary
import ScriptLint.Proofs.Text.Decoding

namespace ScriptLint

namespace Utf8

/-- Bytes that start with a text and go on with bytes that start no character. -/
def BreaksAfter (text : String) (bytes : Bytes) : Prop :=
  ∃ rest, bytes = encode text ++ rest ∧ rest ≠ [] ∧ ∀ c more, rest ≠ String.utf8EncodeChar c ++ more

variable {text : String} {bytes rest : Bytes}

/-! ## The first piece -/

/-- A character is one piece, which has the size of its bytes. -/
theorem scan_encodeChar_size (c : Char) (rest : Bytes) :
    scan none (String.utf8EncodeChar c ++ rest) = .char c (String.utf8EncodeChar c).length :: scan none rest := by
  obtain ⟨size, hscan⟩ := scan_encodeChar c rest
  have hsize := size_scan none (String.utf8EncodeChar c ++ rest)
  rw [hscan, totalSize_cons, Piece.size_char, size_scan, List.length_append] at hsize
  simp only [pendingSize, Nat.zero_add, Nat.add_right_cancel_iff] at hsize
  rw [hscan, hsize]

/-- Bytes with an ill-formed piece first start no character, ... -/
theorem startsNone_of_pieces {size : Nat} {later : List Piece} (h : pieces rest = .illFormed size :: later) :
    rest ≠ [] ∧ ∀ c more, rest ≠ String.utf8EncodeChar c ++ more := by
  constructor
  · intro hrest
    rw [hrest] at h
    cases h
  · intro c more hrest
    rw [pieces, hrest, scan_encodeChar_size] at h
    cases h

/-- ... and other bytes that are not empty do. -/
theorem pieces_of_startsNone (hrest : rest ≠ []) (h : ∀ c more, rest ≠ String.utf8EncodeChar c ++ more) :
    ∃ size later, pieces rest = .illFormed size :: later := by
  cases hpieces : pieces rest with
  | nil =>
    have hsize := size_pieces rest
    rw [hpieces, totalSize_nil] at hsize
    exact absurd (List.length_eq_zero_iff.1 hsize.symm) hrest
  | cons piece later =>
    cases piece with
    | illFormed size => exact ⟨size, later, rfl⟩
    | char c size =>
      obtain ⟨more, hmore, -⟩ := exists_of_scan_none hpieces
      exact absurd hmore (h c more)

/-! ## Where bytes break -/

theorem eq_encode_or_breaksAfter (bytes : Bytes) :
    (∃ text, bytes = encode text) ∨ ∃ text, BreaksAfter text bytes := by
  -- one piece after another, up to the first that is no character
  induction hpieces : pieces bytes generalizing bytes with
  | nil =>
    have hsize := size_pieces bytes
    rw [hpieces, totalSize_nil] at hsize
    exact .inl ⟨"", List.length_eq_zero_iff.1 hsize.symm⟩
  | cons piece later ih =>
    cases piece with
    | illFormed size => exact .inr ⟨"", bytes, rfl, startsNone_of_pieces hpieces⟩
    | char c size =>
      obtain ⟨after, rfl, hlater⟩ := exists_of_scan_none hpieces
      have hcons : ∀ text : String, String.utf8EncodeChar c ++ encode text = encode (String.ofList (c :: text.toList)) :=
        fun text => by rw [encode_ofList]; rfl
      rcases ih after hlater.symm with ⟨text, rfl⟩ | ⟨text, rest, rfl, hrest⟩
      · exact .inl ⟨_, hcons text⟩
      · exact .inr ⟨_, rest, by rw [← hcons, List.append_assoc], hrest⟩

theorem breaksAfter_of_decode?_eq_none (h : decode? bytes = none) : ∃ text, BreaksAfter text bytes := by
  rcases eq_encode_or_breaksAfter bytes with ⟨text, rfl⟩ | hbreaks
  · rw [decode?_encode] at h
    cases h
  · exact hbreaks

/-- Characters that come first move the first ill-formed piece by their bytes. -/
theorem firstIllFormed_pieces_append (offset : Nat) (cs : List Char) (rest : Bytes) :
    firstIllFormed offset (pieces (encodeChars cs ++ rest)) =
      firstIllFormed (offset + (encodeChars cs).length) (pieces rest) := by
  induction cs generalizing offset with
  | nil => rfl
  | cons c cs ih =>
    have hbytes : encodeChars (c :: cs) = String.utf8EncodeChar c ++ encodeChars cs := rfl
    rw [hbytes, List.append_assoc, pieces, scan_encodeChar_size, firstIllFormed, List.length_append, ← Nat.add_assoc]
    exact ih _

theorem errorOffset?_of_breaksAfter (h : BreaksAfter text bytes) : errorOffset? bytes = some (encode text).length := by
  obtain ⟨rest, rfl, hrest, hnone⟩ := h
  obtain ⟨size, later, hpieces⟩ := pieces_of_startsNone hrest hnone
  rw [errorOffset?, encode, firstIllFormed_pieces_append, hpieces, firstIllFormed, Nat.zero_add]

theorem errorOffset?_encode (text : String) : errorOffset? (encode text) = none := by
  have happend := firstIllFormed_pieces_append 0 text.toList []
  rw [List.append_nil] at happend
  exact happend

/-- The offset of the first byte that cannot be decoded is where the text ends that the bytes start
with. -/
theorem errorOffset?_eq_some_iff {offset : Nat} : errorOffset? bytes = some offset ↔
    ∃ text, BreaksAfter text bytes ∧ (encode text).length = offset := by
  constructor
  · intro h
    rcases eq_encode_or_breaksAfter bytes with ⟨text, rfl⟩ | ⟨text, hbreaks⟩
    · rw [errorOffset?_encode] at h
      cases h
    · exact ⟨text, hbreaks, Option.some.inj ((errorOffset?_of_breaksAfter hbreaks).symm.trans h)⟩
  · rintro ⟨text, hbreaks, rfl⟩
    exact errorOffset?_of_breaksAfter hbreaks

end Utf8

end ScriptLint
