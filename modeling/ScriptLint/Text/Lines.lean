/-
Lines and columns, both counted from one. A column counts characters from the
start of the line; bytes that are not UTF-8 count as their replacement.

A `LineIndex` finds the line of an offset by binary search over the starts of
all lines; `positionAt` finds it by looking back from the offset.
-/
import ScriptLint.Text.Bisect
import ScriptLint.Text.Utf8

namespace ScriptLint

structure Position where
  line : Nat
  column : Nat
  deriving Repr, DecidableEq

def newline : UInt8 := 10

/-- The offsets just after the newlines of bytes that begin at an offset. -/
def startsAfter (offset : Nat) : Bytes → List Nat
  | [] => []
  | byte :: rest =>
    if byte = newline then (offset + 1) :: startsAfter (offset + 1) rest
    else startsAfter (offset + 1) rest

structure LineIndex where
  bytes : Bytes
  starts : Array Nat

namespace LineIndex

def ofBytes (bytes : Bytes) : LineIndex :=
  ⟨bytes, (0 :: startsAfter 0 bytes).toArray⟩

/-- The number of lines that start at or before an offset. -/
def line (index : LineIndex) (offset : Nat) : Nat :=
  bisect (fun i => index.starts.getD i 0 ≤ offset) 0 index.starts.size

def position (index : LineIndex) (offset : Nat) : Position :=
  let line := index.line offset
  let start := index.starts.getD (line - 1) 0
  ⟨line, (Utf8.lossyChars (index.bytes.slice start offset)).length + 1⟩

end LineIndex

/-- The bytes after the last newline. -/
def lastLine (bytes : Bytes) : Bytes :=
  (bytes.reverse.takeWhile (· ≠ newline)).reverse

/-- The position of an offset, by looking back to the newline before it. -/
def positionAt (bytes : Bytes) (offset : Nat) : Position :=
  let before := bytes.take offset
  ⟨before.count newline + 1, (Utf8.lossyChars (lastLine before)).length + 1⟩

end ScriptLint
