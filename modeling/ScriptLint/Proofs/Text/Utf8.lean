/-
Decoding is a left inverse of encoding: the bytes of a text are cut into the
characters of the text, one piece for each (`scan_encodeChar`), so a text that
was encoded is read back as it was (`decode?_encode`).
-/
import ScriptLint.Text.Utf8

namespace ScriptLint

namespace Utf8

/-! ## Reading one sequence -/

theorem scan_opening {byte : UInt8} {pending : Pending} (h : opening byte = .inr pending) (rest : Bytes) :
    scan none (byte :: rest) = scan (some pending) rest := by
  simp only [scan, h]

/-- A byte in range that is not the last one wanted adds its six bits. -/
theorem scan_middle {wanted value size low high : Nat} {byte : UInt8} (hwanted : 1 < wanted)
    (hlow : low ≤ byte.toNat) (hhigh : byte.toNat ≤ high) (rest : Bytes) :
    scan (some ⟨wanted, value, size, low, high⟩) (byte :: rest) =
      scan (some ⟨wanted - 1, value * 0x40 + byte.toNat % 0x40, size + 1, 0x80, 0xbf⟩) rest := by
  have hmore : ¬ wanted ≤ 1 := by omega
  simp only [scan, hlow, hhigh, hmore, and_self, if_true, if_false]

/-- The last byte wanted ends the piece. -/
theorem scan_last {value size low high : Nat} {byte : UInt8} (hlow : low ≤ byte.toNat)
    (hhigh : byte.toNat ≤ high) (rest : Bytes) :
    scan (some ⟨1, value, size, low, high⟩) (byte :: rest) =
      .char (Char.ofNat (value * 0x40 + byte.toNat % 0x40)) (size + 1) :: scan none rest := by
  simp only [scan, hlow, hhigh, and_self, if_true, Nat.le_refl]

theorem toNat_ofNat_of_lt {n : Nat} (h : n < 0x100) : (UInt8.ofNat n).toNat = n := by
  rw [UInt8.toNat_ofNat']
  omega

/-- Six bits of a number as a byte that goes on. -/
theorem toNat_tail (n : Nat) : (UInt8.ofNat (n % 0x40 + 0x80)).toNat = n % 0x40 + 0x80 :=
  toNat_ofNat_of_lt (by omega)

/-! ## First bytes -/

theorem opening_one {v : Nat} (h : v ≤ 0x7f) :
    opening (UInt8.ofNat v) = .inl (.char (Char.ofNat v) 1) := by
  have hv : (UInt8.ofNat v).toNat = v := toNat_ofNat_of_lt (by omega)
  simp only [opening, hv]
  rw [if_pos (by omega)]

theorem opening_two {v : Nat} (hlow : 0x80 ≤ v) (hhigh : v ≤ 0x7ff) :
    opening (UInt8.ofNat (v / 64 % 0x20 + 0xc0)) = .inr ⟨1, v / 64, 1, 0x80, 0xbf⟩ := by
  have hv : (UInt8.ofNat (v / 64 % 0x20 + 0xc0)).toNat = v / 64 % 0x20 + 0xc0 :=
    toNat_ofNat_of_lt (by omega)
  have hvalue : (v / 64 % 0x20 + 0xc0) % 0x20 = v / 64 := by omega
  simp only [opening, hv, hvalue]
  rw [if_neg (by omega), if_pos (by omega)]

/-- The first of three bytes leaves a range that the second lies in: no overlong sequence and no
surrogate is encoded. -/
theorem opening_three {v : Nat} (hlow : 0x800 ≤ v) (hhigh : v ≤ 0xffff)
    (scalar : v < 0xd800 ∨ 0xdfff < v) :
    ∃ low high, opening (UInt8.ofNat (v / 4096 % 0x10 + 0xe0)) = .inr ⟨2, v / 4096, 1, low, high⟩ ∧
      low ≤ v / 64 % 0x40 + 0x80 ∧ v / 64 % 0x40 + 0x80 ≤ high := by
  have hv : (UInt8.ofNat (v / 4096 % 0x10 + 0xe0)).toNat = v / 4096 % 0x10 + 0xe0 :=
    toNat_ofNat_of_lt (by omega)
  simp only [opening, hv]
  rw [if_neg (by omega), if_neg (by omega)]
  by_cases hfirst : v / 4096 % 0x10 + 0xe0 = 0xe0
  · rw [if_pos hfirst, show v / 4096 = 0 by omega]
    exact ⟨_, _, rfl, by omega, by omega⟩
  by_cases hsurrogate : v / 4096 % 0x10 + 0xe0 = 0xed
  · rw [if_neg hfirst, if_pos hsurrogate, show v / 4096 = 0xd by omega]
    exact ⟨_, _, rfl, by omega, by omega⟩
  · rw [if_neg hfirst, if_neg hsurrogate, if_pos (by omega),
      show (v / 4096 % 0x10 + 0xe0) % 0x10 = v / 4096 by omega]
    exact ⟨_, _, rfl, by omega, by omega⟩

theorem opening_four {v : Nat} (hlow : 0x10000 ≤ v) (hhigh : v < 0x110000) :
    ∃ low high, opening (UInt8.ofNat (v / 262144 % 0x08 + 0xf0)) = .inr ⟨3, v / 262144, 1, low, high⟩ ∧
      low ≤ v / 4096 % 0x40 + 0x80 ∧ v / 4096 % 0x40 + 0x80 ≤ high := by
  have hv : (UInt8.ofNat (v / 262144 % 0x08 + 0xf0)).toNat = v / 262144 % 0x08 + 0xf0 :=
    toNat_ofNat_of_lt (by omega)
  simp only [opening, hv]
  rw [if_neg (by omega), if_neg (by omega), if_neg (by omega), if_neg (by omega), if_neg (by omega)]
  by_cases hfirst : v / 262144 % 0x08 + 0xf0 = 0xf0
  · rw [if_pos hfirst, show v / 262144 = 0 by omega]
    exact ⟨_, _, rfl, by omega, by omega⟩
  by_cases hlast : v / 262144 % 0x08 + 0xf0 = 0xf4
  · rw [if_neg hfirst, if_neg (by omega), if_pos hlast, show v / 262144 = 4 by omega]
    exact ⟨_, _, rfl, by omega, by omega⟩
  · rw [if_neg hfirst, if_pos (by omega), show (v / 262144 % 0x08 + 0xf0) % 8 = v / 262144 by omega]
    exact ⟨_, _, rfl, by omega, by omega⟩

/-! ## Characters and texts -/

/-- The bytes of a character are one piece. -/
theorem scan_encodeChar (c : Char) (rest : Bytes) :
    ∃ size, scan none (String.utf8EncodeChar c ++ rest) = .char c size :: scan none rest := by
  have hscalar : c.toNat < 0xd800 ∨ 0xdfff < c.toNat ∧ c.toNat < 0x110000 := c.valid
  have hc : Char.ofNat c.toNat = c := Char.ofNat_toNat c
  have hval : c.val.toNat = c.toNat := rfl
  unfold String.utf8EncodeChar
  simp only [hval]
  generalize c.toNat = v at *
  split
  · next h1 =>
    refine ⟨1, ?_⟩
    simp only [List.cons_append, List.nil_append, scan, opening_one h1, hc]
  split
  · next h1 h2 =>
    have hvalue : v / 64 * 0x40 + (v % 0x40 + 0x80) % 0x40 = v := by omega
    refine ⟨2, ?_⟩
    simp only [List.cons_append, List.nil_append]
    rw [scan_opening (opening_two (by omega) h2), scan_last (by rw [toNat_tail]; omega)
      (by rw [toNat_tail]; omega), toNat_tail, hvalue, hc]
  split
  · next h1 h2 h3 =>
    obtain ⟨low, high, hopening, hlow, hhigh⟩ := opening_three (by omega) h3 (by omega)
    have hvalue : (v / 4096 * 0x40 + (v / 64 % 0x40 + 0x80) % 0x40) * 0x40 + (v % 0x40 + 0x80) % 0x40 = v := by
      omega
    refine ⟨3, ?_⟩
    simp only [List.cons_append, List.nil_append]
    rw [scan_opening hopening, scan_middle (by omega) (by rwa [toNat_tail]) (by rwa [toNat_tail]),
      scan_last (by rw [toNat_tail]; omega) (by rw [toNat_tail]; omega), toNat_tail, toNat_tail, hvalue, hc]
  · next h1 h2 h3 =>
    obtain ⟨low, high, hopening, hlow, hhigh⟩ := opening_four (v := v) (by omega) (by omega)
    have hvalue : ((v / 262144 * 0x40 + (v / 4096 % 0x40 + 0x80) % 0x40) * 0x40 +
        (v / 64 % 0x40 + 0x80) % 0x40) * 0x40 + (v % 0x40 + 0x80) % 0x40 = v := by omega
    refine ⟨4, ?_⟩
    simp only [List.cons_append, List.nil_append]
    rw [scan_opening hopening, scan_middle (by omega) (by rwa [toNat_tail]) (by rwa [toNat_tail]),
      scan_middle (by omega) (by rw [toNat_tail]; omega) (by rw [toNat_tail]; omega),
      scan_last (by rw [toNat_tail]; omega) (by rw [toNat_tail]; omega),
      toNat_tail, toNat_tail, toNat_tail, hvalue, hc]

theorem strict_pieces_encodeChars : ∀ cs : List Char, (pieces (encodeChars cs)).mapM Piece.strict = some cs
  | [] => rfl
  | c :: cs => by
    have ih := strict_pieces_encodeChars cs
    obtain ⟨size, hfirst⟩ := scan_encodeChar c (encodeChars cs)
    have hbytes : encodeChars (c :: cs) = String.utf8EncodeChar c ++ encodeChars cs := rfl
    rw [pieces, hbytes, hfirst, List.mapM_cons]
    simp only [pieces] at ih
    simp [Piece.strict, ih]

/-- A text that was encoded is read back. -/
theorem decode?_encode (s : String) : decode? (encode s) = some s := by
  simp [decode?, decodeChars?, encode, strict_pieces_encodeChars]

end Utf8

end ScriptLint
