/-
Encoding is a left inverse of strict decoding: no two byte lists are read as
one text. A piece that is a character is spelt by just the bytes that encode the
character (`exists_of_scan_none`), since sequences that are longer than they need to be,
surrogates and values past the last character open no piece or fall out of
range at their second byte.
-/
import ScriptLint.Proofs.Text.Utf8

namespace ScriptLint

namespace Utf8

/-! ## The bytes of one character -/

theorem toNat_ofNat_of_scalar {v : Nat} (h : v < 0xd800 ∨ 0xdfff < v ∧ v < 0x110000) :
    (Char.ofNat v).val.toNat = v := by
  have hvalid : v.isValidChar := h
  rw [Char.ofNat, dif_pos hvalid]
  rfl

theorem ofNat_eq_of_toNat {n : Nat} (byte : UInt8) (h : n = byte.toNat) : UInt8.ofNat n = byte := by
  rw [h, UInt8.ofNat_toNat]

variable {first second third fourth : UInt8}

theorem encodeChar_one (h : first.toNat < 0x80) : String.utf8EncodeChar (Char.ofNat first.toNat) = [first] := by
  unfold String.utf8EncodeChar
  simp only [toNat_ofNat_of_scalar (.inl (by omega) : first.toNat < 0xd800 ∨ _)]
  rw [if_pos (by omega), ofNat_eq_of_toNat first rfl]

theorem encodeChar_two (hfirst : 0xc2 ≤ first.toNat ∧ first.toNat ≤ 0xdf)
    (hsecond : 0x80 ≤ second.toNat ∧ second.toNat ≤ 0xbf) :
    String.utf8EncodeChar (Char.ofNat (first.toNat % 0x20 * 0x40 + second.toNat % 0x40)) = [first, second] := by
  have hscalar : first.toNat % 0x20 * 0x40 + second.toNat % 0x40 < 0xd800 := by omega
  unfold String.utf8EncodeChar
  simp only [toNat_ofNat_of_scalar (.inl hscalar)]
  rw [if_neg (by omega), if_pos (by omega), ofNat_eq_of_toNat first (by omega),
    ofNat_eq_of_toNat second (by omega)]

theorem encodeChar_three (hfirst : 0xe0 ≤ first.toNat ∧ first.toNat ≤ 0xef)
    (hsecond : 0x80 ≤ second.toNat ∧ second.toNat ≤ 0xbf) (hthird : 0x80 ≤ third.toNat ∧ third.toNat ≤ 0xbf)
    (hshort : first.toNat = 0xe0 → 0xa0 ≤ second.toNat) (hsurrogate : first.toNat = 0xed → second.toNat ≤ 0x9f) :
    String.utf8EncodeChar (Char.ofNat
      ((first.toNat % 0x10 * 0x40 + second.toNat % 0x40) * 0x40 + third.toNat % 0x40)) = [first, second, third] := by
  have hscalar : (first.toNat % 0x10 * 0x40 + second.toNat % 0x40) * 0x40 + third.toNat % 0x40 < 0xd800 ∨
      0xdfff < (first.toNat % 0x10 * 0x40 + second.toNat % 0x40) * 0x40 + third.toNat % 0x40 ∧
        (first.toNat % 0x10 * 0x40 + second.toNat % 0x40) * 0x40 + third.toNat % 0x40 < 0x110000 := by omega
  unfold String.utf8EncodeChar
  simp only [toNat_ofNat_of_scalar hscalar]
  rw [if_neg (by omega), if_neg (by omega), if_pos (by omega), ofNat_eq_of_toNat first (by omega),
    ofNat_eq_of_toNat second (by omega), ofNat_eq_of_toNat third (by omega)]

theorem encodeChar_four (hfirst : 0xf0 ≤ first.toNat ∧ first.toNat ≤ 0xf4)
    (hsecond : 0x80 ≤ second.toNat ∧ second.toNat ≤ 0xbf) (hthird : 0x80 ≤ third.toNat ∧ third.toNat ≤ 0xbf)
    (hfourth : 0x80 ≤ fourth.toNat ∧ fourth.toNat ≤ 0xbf) (hshort : first.toNat = 0xf0 → 0x90 ≤ second.toNat)
    (hlast : first.toNat = 0xf4 → second.toNat ≤ 0x8f) :
    String.utf8EncodeChar (Char.ofNat
      (((first.toNat % 0x08 * 0x40 + second.toNat % 0x40) * 0x40 + third.toNat % 0x40) * 0x40 +
        fourth.toNat % 0x40)) = [first, second, third, fourth] := by
  have hscalar : 0xdfff < ((first.toNat % 0x08 * 0x40 + second.toNat % 0x40) * 0x40 + third.toNat % 0x40) * 0x40 +
      fourth.toNat % 0x40 ∧ ((first.toNat % 0x08 * 0x40 + second.toNat % 0x40) * 0x40 + third.toNat % 0x40) * 0x40 +
        fourth.toNat % 0x40 < 0x110000 := by omega
  unfold String.utf8EncodeChar
  simp only [toNat_ofNat_of_scalar (.inr hscalar)]
  rw [if_neg (by omega), if_neg (by omega), if_neg (by omega), ofNat_eq_of_toNat first (by omega),
    ofNat_eq_of_toNat second (by omega), ofNat_eq_of_toNat third (by omega),
    ofNat_eq_of_toNat fourth (by omega)]

/-! ## Pieces that are characters -/

/-- What the first byte of a longer sequence asks of the second. -/
inductive Opens (first : UInt8) : Pending → Prop where
  | two (h : 0xc2 ≤ first.toNat ∧ first.toNat ≤ 0xdf) : Opens first ⟨1, first.toNat % 0x20, 1, 0x80, 0xbf⟩
  | three {low high : Nat} (h : 0xe0 ≤ first.toNat ∧ first.toNat ≤ 0xef) (hlow : 0x80 ≤ low) (hhigh : high ≤ 0xbf)
      (hshort : first.toNat = 0xe0 → 0xa0 ≤ low) (hsurrogate : first.toNat = 0xed → high ≤ 0x9f) :
      Opens first ⟨2, first.toNat % 0x10, 1, low, high⟩
  | four {low high : Nat} (h : 0xf0 ≤ first.toNat ∧ first.toNat ≤ 0xf4) (hlow : 0x80 ≤ low) (hhigh : high ≤ 0xbf)
      (hshort : first.toNat = 0xf0 → 0x90 ≤ low) (hlast : first.toNat = 0xf4 → high ≤ 0x8f) :
      Opens first ⟨3, first.toNat % 0x08, 1, low, high⟩

theorem opens_of_opening {pending : Pending} (h : opening first = .inr pending) : Opens first pending := by
  unfold opening at h
  dsimp only at h
  split at h
  · cases h
  split at h
  · next hrange =>
    cases h
    exact .two hrange
  split at h
  · next heq =>
    cases h
    have opens : Opens first ⟨2, first.toNat % 0x10, 1, 0xa0, 0xbf⟩ :=
      .three (by omega) (by omega) (by omega) (fun _ => by omega) (fun _ => by omega)
    rwa [heq] at opens
  split at h
  · next heq =>
    cases h
    have opens : Opens first ⟨2, first.toNat % 0x10, 1, 0x80, 0x9f⟩ :=
      .three (by omega) (by omega) (by omega) (fun _ => by omega) (fun _ => by omega)
    rwa [heq] at opens
  split at h
  · next hrange =>
    cases h
    exact .three (by omega) (by omega) (by omega) (fun _ => by omega) (fun _ => by omega)
  split at h
  · next heq =>
    cases h
    have opens : Opens first ⟨3, first.toNat % 0x08, 1, 0x90, 0xbf⟩ :=
      .four (by omega) (by omega) (by omega) (fun _ => by omega) (fun _ => by omega)
    rwa [heq] at opens
  split at h
  · next hrange =>
    cases h
    exact .four (by omega) (by omega) (by omega) (fun _ => by omega) (fun _ => by omega)
  split at h
  · next heq =>
    cases h
    have opens : Opens first ⟨3, first.toNat % 0x08, 1, 0x80, 0x8f⟩ :=
      .four (by omega) (by omega) (by omega) (fun _ => by omega) (fun _ => by omega)
    rwa [heq] at opens
  · cases h

theorem char_of_opening {c : Char} {size : Nat} (h : opening first = .inl (.char c size)) :
    first.toNat < 0x80 ∧ c = Char.ofNat first.toNat := by
  unfold opening at h
  dsimp only at h
  split at h
  · next hrange =>
    cases h
    exact ⟨hrange, rfl⟩
  · -- No other first byte is a piece by itself.
    split at h
    · cases h
    repeat' split at h
    all_goals cases h

variable {c : Char} {size wanted value read low high : Nat} {bytes : Bytes} {later : List Piece}

/-- An open sequence that becomes a character goes on with a byte in range, ... -/
theorem exists_of_scan_some (h : scan (some ⟨wanted, value, read, low, high⟩) bytes = .char c size :: later) :
    ∃ byte rest, bytes = byte :: rest ∧ low ≤ byte.toNat ∧ byte.toNat ≤ high ∧
      if wanted ≤ 1 then c = Char.ofNat (value * 0x40 + byte.toNat % 0x40) ∧ later = scan none rest
      else scan (some ⟨wanted - 1, value * 0x40 + byte.toNat % 0x40, read + 1, 0x80, 0xbf⟩) rest =
        .char c size :: later := by
  cases bytes with
  | nil => cases h
  | cons byte rest =>
    unfold scan at h
    dsimp only at h
    split at h
    · next hrange =>
      refine ⟨byte, rest, rfl, hrange.1, hrange.2, ?_⟩
      split at h
      · next hwanted =>
        rw [if_pos hwanted]
        cases h
        exact ⟨rfl, rfl⟩
      · next hwanted =>
        rw [if_neg hwanted]
        exact h
    · cases h

/-- ... and a character that comes first is spelt by the bytes that encode it. -/
theorem exists_of_scan_none (h : scan none bytes = .char c size :: later) :
    ∃ rest, bytes = String.utf8EncodeChar c ++ rest ∧ later = scan none rest := by
  cases bytes with
  | nil => cases h
  | cons first rest =>
    unfold scan at h
    split at h
    · next piece hopening =>
      cases h
      obtain ⟨hsmall, rfl⟩ := char_of_opening hopening
      exact ⟨rest, by rw [encodeChar_one hsmall]; rfl, rfl⟩
    · next pending hopening =>
      cases opens_of_opening hopening with
      | two hfirst =>
        obtain ⟨second, rest, rfl, hlow, hhigh, hc, rfl⟩ := exists_of_scan_some h
        exact ⟨rest, by rw [hc, encodeChar_two hfirst ⟨hlow, hhigh⟩]; rfl, rfl⟩
      | three hfirst hlow' hhigh' hshort hsurrogate =>
        obtain ⟨second, rest, rfl, hlow, hhigh, h⟩ := exists_of_scan_some h
        obtain ⟨third, rest, rfl, hthird, hthird', hc, rfl⟩ := exists_of_scan_some h
        refine ⟨rest, ?_, rfl⟩
        rw [hc, encodeChar_three hfirst (by omega) ⟨hthird, hthird'⟩ (fun heq => Nat.le_trans (hshort heq) hlow)
          (fun heq => Nat.le_trans hhigh (hsurrogate heq))]
        rfl
      | four hfirst hlow' hhigh' hshort hlast =>
        obtain ⟨second, rest, rfl, hlow, hhigh, h⟩ := exists_of_scan_some h
        obtain ⟨third, rest, rfl, hthird, hthird', h⟩ := exists_of_scan_some h
        obtain ⟨fourth, rest, rfl, hfourth, hfourth', hc, rfl⟩ := exists_of_scan_some h
        refine ⟨rest, ?_, rfl⟩
        rw [hc, encodeChar_four hfirst (by omega) ⟨hthird, hthird'⟩ ⟨hfourth, hfourth'⟩
          (fun heq => Nat.le_trans (hshort heq) hlow) (fun heq => Nat.le_trans hhigh (hlast heq))]
        rfl

/-! ## Texts -/

theorem encodeChars_of_strict {cs : List Char} {bytes : Bytes} (h : (pieces bytes).mapM Piece.strict = some cs) :
    encodeChars cs = bytes := by
  induction cs generalizing bytes with
  | nil =>
    cases hscan : pieces bytes with
    | nil =>
      have hsize := size_pieces bytes
      rw [hscan, totalSize_nil] at hsize
      rw [List.length_eq_zero_iff.1 hsize.symm]
      rfl
    | cons piece later =>
      rw [hscan, List.mapM_cons] at h
      obtain ⟨first, -, h⟩ := Option.bind_eq_some_iff.1 h
      obtain ⟨rest, -, h⟩ := Option.bind_eq_some_iff.1 h
      cases h
  | cons c cs ih =>
    cases hscan : pieces bytes with
    | nil => simp [hscan] at h
    | cons piece later =>
      rw [hscan, List.mapM_cons] at h
      obtain ⟨first, hpiece, h⟩ := Option.bind_eq_some_iff.1 h
      obtain ⟨rest, hlater, h⟩ := Option.bind_eq_some_iff.1 h
      obtain ⟨rfl, rfl⟩ := List.cons.inj (Option.some.inj h)
      cases piece with
      | illFormed size => cases hpiece
      | char same size =>
        obtain rfl := Option.some.inj hpiece
        obtain ⟨after, rfl, rfl⟩ := exists_of_scan_none hscan
        exact congrArg (String.utf8EncodeChar same ++ ·) (ih hlater)

/-- What is read strictly is written back as it was. -/
theorem encode_of_decode? {bytes : Bytes} {text : String} (h : decode? bytes = some text) : encode text = bytes := by
  obtain ⟨cs, hcs, rfl⟩ := Option.map_eq_some_iff.1 h
  rw [encode, String.toList_ofList]
  exact encodeChars_of_strict hcs

end Utf8

end ScriptLint
