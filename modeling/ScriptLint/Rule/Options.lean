/-
The options of the rules that take any, and how they are read from JSON.

A reader lists every part of a value that does not meet its requirement, in the
order in which the options are declared; unknown keys are passed over.
-/
import ScriptLint.Config.Error
import ScriptLint.Pattern.Parser
import ScriptLint.Text.Case

namespace ScriptLint

inductive EqualityMode where
  | always
  | smart
  | allowNull
  deriving Repr, DecidableEq

inductive AssignmentMode where
  | exceptParens
  | always
  deriving Repr, DecidableEq

inductive VariableScope where
  | all
  | local
  deriving Repr, DecidableEq

inductive ArgumentMode where
  | afterUsed
  | all
  | none
  deriving Repr, DecidableEq

structure UnusedOptions where
  vars : VariableScope := .all
  args : ArgumentMode := .afterUsed
  ignoreRestSiblings : Bool := false
  deriving Repr, DecidableEq

structure RestrictedGlobal where
  name : String
  message : Option String
  deriving Repr, DecidableEq

inductive RuleOptions where
  | none
  | commentPattern (pattern : String)
  | equality (mode : EqualityMode)
  | assignment (mode : AssignmentMode)
  | restricted (globals : List RestrictedGlobal)
  | unused (options : UnusedOptions)
  deriving Repr, DecidableEq

/-- A value read from JSON, or all that is wrong with it. -/
abbrev Reading (α : Type) := Except (List Complaint) α

namespace Reading

def fail {α : Type} (place : List Step) (requirement : Requirement) : Reading α :=
  .error [⟨place, requirement⟩]

/-- Both values, or the complaints about either. -/
def both {α β : Type} (a : Reading α) (b : Reading β) : Reading (α × β) :=
  match a, b with
  | .ok x, .ok y => .ok (x, y)
  | .ok _, .error cs => .error cs
  | .error cs, .ok _ => .error cs
  | .error cs, .error ds => .error (cs ++ ds)

/-- All values of a list, or the complaints about any. -/
def all {α : Type} : List (Reading α) → Reading (List α)
  | [] => .ok []
  | first :: rest => (both first (all rest)).map fun (x, xs) => x :: xs

def fields (value : Json) : Reading (List (String × Json)) :=
  match value with
  | .object fields => .ok fields
  | _ => fail [] .object

/-- A field that has a default. -/
def optional {α : Type} (key : String) (default : α) (read : List Step → Json → Reading α)
    (fields : List (String × Json)) : Reading α :=
  match Keyed.get? key fields with
  | some value => read [.field key] value
  | none => .ok default

/-- One of a list of words. -/
def word {α : Type} (words : List (String × α)) (place : List Step) (value : Json) : Reading α :=
  match value with
  | .string text =>
    match Keyed.get? text words with
    | some meaning => .ok meaning
    | none => fail place .knownWord
  | _ => fail place .knownWord

def text (place : List Step) (value : Json) : Reading String :=
  match value with
  | .string text => .ok text
  | _ => fail place .text

/-- A text that is a pattern. -/
def pattern (place : List Step) (value : Json) : Reading String :=
  match value with
  | .string text =>
    match Pattern.read text with
    | .ok _ => .ok text
    | .error .malformed => fail place .pattern
    | .error .countTooLarge => fail place .countInRange
  | _ => fail place .text

def trueWords : List String := ["1", "on", "t", "true", "y", "yes"]

def falseWords : List String := ["0", "off", "f", "false", "n", "no"]

/-- A truth value, also as a number or a word. -/
def boolean (place : List Step) (value : Json) : Reading Bool :=
  match value with
  | .bool b => .ok b
  | .int n => if n = 0 then .ok false else if n = 1 then .ok true else fail place .booleanWord
  | .float x =>
    if x.isNat 0 then .ok false else if x.isNat 1 then .ok true else fail place .boolean
  | .string text =>
    let text := lowerCase text
    if falseWords.contains text then .ok false
    else if trueWords.contains text then .ok true
    else fail place .booleanWord
  | _ => fail place .boolean

/-- A bare word stands for an object with the word in one field, no value for an empty object. -/
def expandWord (key : String) (raw : Json) : Json :=
  match raw with
  | .null => .object []
  | .string word => .object [(key, .string word)]
  | other => other

def equalityModes : List (String × EqualityMode) :=
  [("always", .always), ("smart", .smart), ("allow-null", .allowNull)]

def readEquality (raw : Json) : Reading RuleOptions := do
  let fields ← fields (expandWord "mode" raw)
  return .equality (← optional "mode" .always (word equalityModes) fields)

def assignmentModes : List (String × AssignmentMode) :=
  [("except-parens", .exceptParens), ("always", .always)]

def readAssignment (raw : Json) : Reading RuleOptions := do
  let fields ← fields (expandWord "mode" raw)
  return .assignment (← optional "mode" .exceptParens (word assignmentModes) fields)

def defaultCommentPattern : String := "^no default$"

/-- The camel-case key, when given, is the only one that counts. -/
def expandCommentPattern (raw : Json) : Json :=
  match raw.get? "commentPattern" with
  | some value => .object [("comment_pattern", value)]
  | none =>
    match raw with
    | .null => .object []
    | other => other

def readCommentPattern (raw : Json) : Reading RuleOptions := do
  let fields ← fields (expandCommentPattern raw)
  return .commentPattern (← optional "comment_pattern" defaultCommentPattern pattern fields)

/-- A name stands for an entry without a message. -/
def expandGlobal (item : Json) : Json :=
  match item with
  | .string name => .object [("name", .string name)]
  | other => other

/-- A name or a single entry stands for a list of one, a list for the list of globals. -/
def expandGlobals (raw : Json) : Json :=
  let wrap (items : List Json) : Json := .object [("globals", .array (items.map expandGlobal))]
  match raw with
  | .null => .object []
  | .string name => wrap [.string name]
  | .object fields => if Keyed.has "globals" fields then raw else wrap [raw]
  | .array items => wrap items
  | other => other

def readMessage (place : List Step) (value : Json) : Reading (Option String) :=
  match value with
  | .null => .ok none
  | other => (text place other).map some

def readGlobal (place : List Step) (item : Json) : Reading RestrictedGlobal :=
  match item with
  | .object fields =>
    let name := match Keyed.get? "name" fields with
      | some value => text (place ++ [.field "name"]) value
      | none => fail (place ++ [.field "name"]) .present
    let message := match Keyed.get? "message" fields with
      | some value => readMessage (place ++ [.field "message"]) value
      | none => .ok none
    (both name message).map fun (name, message) => ⟨name, message⟩
  | _ => fail place .object

def readGlobals (place : List Step) (value : Json) : Reading (List RestrictedGlobal) :=
  match value with
  | .array items =>
    all ((items.zipIdx).map fun (item, index) => readGlobal (place ++ [.item index]) item)
  | _ => fail place .list

def readRestricted (raw : Json) : Reading RuleOptions := do
  let fields ← fields (expandGlobals raw)
  return .restricted (← optional "globals" [] readGlobals fields)

def variableScopes : List (String × VariableScope) := [("all", .all), ("local", .local)]

def argumentModes : List (String × ArgumentMode) :=
  [("after-used", .afterUsed), ("all", .all), ("none", .none)]

/-- The camel-case key is another spelling; of two spellings the later one counts. -/
def expandUnused (raw : Json) : Json :=
  match raw with
  | .object fields =>
    .object (Keyed.ofPairs (fields.map fun (key, value) =>
      (if key = "ignoreRestSiblings" then "ignore_rest_siblings" else key, value)))
  | other => expandWord "vars" other

def readUnused (raw : Json) : Reading RuleOptions := do
  let fields ← fields (expandUnused raw)
  let vars := optional "vars" .all (word variableScopes) fields
  let args := optional "args" .afterUsed (word argumentModes) fields
  let ignore := optional "ignore_rest_siblings" false boolean fields
  let (vars, args, ignore) ← both vars (both args ignore)
  return .unused ⟨vars, args, ignore⟩

end Reading

end ScriptLint
