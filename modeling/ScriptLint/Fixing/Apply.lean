/-
Applying fixes to a text. The chosen fixes are spliced in from the last to the
first, so that earlier offsets stay valid; offsets past the end are cut off
there, and a range that ends before it starts is empty.
-/
import ScriptLint.Fixing.Select
import ScriptLint.Text.Utf8

namespace ScriptLint

def splice (bytes : Bytes) (fix : Fix) : Bytes :=
  bytes.take fix.span.start ++ Utf8.encode fix.text ++
    bytes.drop (max fix.span.start fix.span.stop)

/-- From the last span to the first; equal spans stay in their order. -/
def lastFirst (fixes : List Fix) : List Fix :=
  fixes.mergeSort fun a b =>
    b.span.start < a.span.start || (b.span.start == a.span.start && b.span.stop ≤ a.span.stop)

structure FixOutcome where
  output : String
  applied : List Fix
  skipped : List Conflict
  deriving Repr, DecidableEq

inductive FixFailure where
  /-- Fixes were left out, which a strict caller does not accept. -/
  | conflicts (skipped : List Conflict)
  /-- The edited bytes are not UTF-8. -/
  | notUtf8
  deriving Repr, DecidableEq

def FixFailure.message : FixFailure → String
  | .conflicts skipped => s!"{skipped.length} fix(es) skipped due to overlapping edits"
  | .notUtf8 => "edited text is not UTF-8"

/-- The bytes of a text with fixes spliced in. -/
def editedBytes (text : String) (fixes : List Fix) : Bytes :=
  (lastFirst fixes).foldl splice (Utf8.encode text)

/-- Applies every fix that can be applied in one pass. -/
def applyFixes (text : String) (findings : List Finding) (strict : Bool := false) :
    Except FixFailure FixOutcome :=
  let selection := selectFixes findings
  if strict && !selection.conflicts.isEmpty then .error (.conflicts selection.conflicts)
  else
    match Utf8.decode? (editedBytes text selection.fixes) with
    | some output => .ok ⟨output, selection.fixes, selection.conflicts⟩
    | none => .error .notUtf8

end ScriptLint
