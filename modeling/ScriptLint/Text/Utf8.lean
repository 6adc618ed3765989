/-
UTF-8 over byte lists.

Decoding cuts a byte list into pieces: characters, and the maximal ill-formed
subparts between them (the longest prefix of a well-formed sequence that does
not go on, or one byte that starts none). A strict reading wants characters
only; a lossy one shows every ill-formed subpart as one replacement character.
`size_pieces` says that the pieces cover the bytes.
-/
namespace ScriptLint

abbrev Bytes := List UInt8

namespace Utf8

def encodeChars (cs : List Char) : Bytes := cs.flatMap String.utf8EncodeChar

def encode (s : String) : Bytes := encodeChars s.toList

/-- One piece of a byte list; an ill-formed one carries its number of bytes. -/
inductive Piece where
  | char (c : Char) (size : Nat)
  | illFormed (size : Nat)
  deriving Repr, DecidableEq

def Piece.size : Piece → Nat
  | .char _ size => size
  | .illFormed size => size

/-- A sequence that has been opened: the bytes still wanted, the value so far, the number of
bytes read, and the range that the next byte must lie in. -/
structure Pending where
  wanted : Nat
  value : Nat
  size : Nat
  low : Nat
  high : Nat
  deriving Repr, DecidableEq

/-- What the first byte of a piece says: a whole piece, or a sequence that goes on. -/
def opening (byte : UInt8) : Piece ⊕ Pending :=
  let n := byte.toNat
  if n < 0x80 then .inl (.char (Char.ofNat n) 1)
  else if 0xc2 ≤ n ∧ n ≤ 0xdf then .inr ⟨1, n % 0x20, 1, 0x80, 0xbf⟩
  else if n = 0xe0 then .inr ⟨2, 0, 1, 0xa0, 0xbf⟩
  else if n = 0xed then .inr ⟨2, 0xd, 1, 0x80, 0x9f⟩
  else if 0xe1 ≤ n ∧ n ≤ 0xef then .inr ⟨2, n % 0x10, 1, 0x80, 0xbf⟩
  else if n = 0xf0 then .inr ⟨3, 0, 1, 0x90, 0xbf⟩
  else if 0xf1 ≤ n ∧ n ≤ 0xf3 then .inr ⟨3, n % 8, 1, 0x80, 0xbf⟩
  else if n = 0xf4 then .inr ⟨3, 4, 1, 0x80, 0x8f⟩
  else .inl (.illFormed 1)

/-- Reads the bytes that follow, with the sequence that is open, if any. -/
def scan : Option Pending → Bytes → List Piece
  | none, [] => []
  | some pending, [] => [.illFormed pending.size]
  | none, byte :: rest =>
    match opening byte with
    | .inl piece => piece :: scan none rest
    | .inr next => scan (some next) rest
  | some pending, byte :: rest =>
    if pending.low ≤ byte.toNat ∧ byte.toNat ≤ pending.high then
      let value := pending.value * 0x40 + byte.toNat % 0x40
      if pending.wanted ≤ 1 then .char (Char.ofNat value) (pending.size + 1) :: scan none rest
      else scan (some ⟨pending.wanted - 1, value, pending.size + 1, 0x80, 0xbf⟩) rest
    else
      .illFormed pending.size ::
        match opening byte with
        | .inl piece => piece :: scan none rest
        | .inr next => scan (some next) rest

def pieces (bytes : Bytes) : List Piece := scan none bytes

def Piece.strict : Piece → Option Char
  | .char c _ => some c
  | .illFormed _ => none

def Piece.lossy : Piece → Char
  | .char c _ => c
  | .illFormed _ => Char.ofNat 0xfffd

/-- The characters of well-formed bytes. -/
def decodeChars? (bytes : Bytes) : Option (List Char) := (pieces bytes).mapM Piece.strict

def decode? (bytes : Bytes) : Option String := (decodeChars? bytes).map String.ofList

/-- The characters of any bytes, each ill-formed subpart shown as U+FFFD. -/
def lossyChars (bytes : Bytes) : List Char := (pieces bytes).map Piece.lossy

def lossy (bytes : Bytes) : String := String.ofList (lossyChars bytes)

/-- The offset of the first ill-formed subpart among pieces that start at an offset. -/
def firstIllFormed : Nat → List Piece → Option Nat
  | _, [] => none
  | offset, .illFormed _ :: _ => some offset
  | offset, .char _ size :: rest => firstIllFormed (offset + size) rest

/-- The offset of the first byte that cannot be decoded. -/
def errorOffset? (bytes : Bytes) : Option Nat := firstIllFormed 0 (pieces bytes)

def pendingSize : Option Pending → Nat
  | none => 0
  | some pending => pending.size

@[simp] theorem Piece.size_char (c : Char) (n : Nat) : (Piece.char c n).size = n := rfl

theorem Piece.size_illFormed (n : Nat) : (Piece.illFormed n).size = n := rfl

/-- The number of bytes that pieces take together. -/
def totalSize (pieces : List Piece) : Nat := pieces.foldr (fun piece rest => piece.size + rest) 0

@[simp] theorem totalSize_nil : totalSize [] = 0 := rfl

@[simp] theorem totalSize_cons (piece : Piece) (rest : List Piece) :
    totalSize (piece :: rest) = piece.size + totalSize rest := rfl

theorem opening_size (byte : UInt8) : (opening byte).elim Piece.size Pending.size = 1 := by
  simp only [opening]
  repeat' split
  all_goals rfl

theorem size_scan (state : Option Pending) (bytes : Bytes) :
    totalSize (scan state bytes) = pendingSize state + bytes.length := by
  induction bytes generalizing state with
  | nil => cases state <;> simp [scan, pendingSize, Piece.size_illFormed]
  | cons byte rest ih =>
    have one := opening_size byte
    cases state with
    | none =>
      simp only [scan]
      match h : opening byte with
      | .inl piece => simp [h] at one; simp [ih, pendingSize, one]; omega
      | .inr next => simp [h] at one; simp [ih, pendingSize, one]; omega
    | some pending =>
      simp only [scan]
      split
      · split
        · simp [ih, pendingSize]; omega
        · simp [ih, pendingSize]; omega
      · match h : opening byte with
        | .inl piece => simp [h] at one; simp [ih, pendingSize, Piece.size_illFormed, one]; omega
        | .inr next => simp [h] at one; simp [ih, pendingSize, Piece.size_illFormed, one]; omega

theorem size_pieces (bytes : Bytes) :
    totalSize (pieces bytes) = bytes.length := by
  simp [pieces, size_scan, pendingSize]

end Utf8

/-- The bytes from one offset up to another; empty when the second is not the larger. -/
def Bytes.slice (bytes : Bytes) (start stop : Nat) : Bytes := (bytes.drop start).take (stop - start)

end ScriptLint
