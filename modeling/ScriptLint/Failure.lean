/-
Ways in which looking at a node can fail, and the text of each.
-/
namespace ScriptLint

inductive Failure where
  /-- A rule gave up with a message of its own. -/
  | gaveUp (message : String)
  /-- A fix reaches outside the node it is reported for. -/
  | fixOutside (fixStart fixStop : Nat) (kind : String) (start stop : Nat)
  /-- A fix was asked for at an offset before the start of the file. -/
  | negativeOffset (offset : Int)
  /-- Something other than a finding was reported. -/
  | notAFinding (typeName : String)
  /-- An import specifier has neither a name nor an alias. -/
  | unnamedImport
  deriving Repr, DecidableEq

def Failure.text : Failure → String
  | .gaveUp message => "RuntimeError: " ++ message
  | .fixOutside fixStart fixStop kind start stop =>
    s!"ValueError: fix range {fixStart}..{fixStop} is outside {kind} {start}..{stop}"
  | .negativeOffset offset => s!"ValidationError: offset {offset} is below 0"
  | .notAFinding typeName => s!"handler produced {typeName}, not a Finding"
  | .unnamedImport => "AttributeError: 'NoneType' object has no attribute 'start'"

end ScriptLint
