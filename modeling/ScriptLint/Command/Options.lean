/-
Reading a command line: options and targets in any order.

A long option takes its value after an equals sign or as the next argument, a
short one also directly after its letter; short options can share a dash. After
two dashes all arguments are targets. Of repeated values the last one counts,
except for overrides, which add up. A call for help counts only when all
arguments can be read.
-/
import ScriptLint.Text.Blank
import ScriptLint.Text.Digits
import ScriptLint.Text.Split

namespace ScriptLint

namespace Command

/-- The options that take a value. -/
inductive Setting where
  | format
  | override
  | jobs
  | fixPasses
  deriving Repr, DecidableEq

inductive Switch where
  | fix
  | verbose
  | help
  deriving Repr, DecidableEq

inductive Flag where
  | setting (setting : Setting)
  | switch (switch : Switch)
  deriving Repr, DecidableEq

def longFlags : List (String × Flag) :=
  [("--fix", .switch .fix), ("--format", .setting .format), ("--rule", .setting .override),
   ("--jobs", .setting .jobs), ("--fix-passes", .setting .fixPasses),
   ("--verbose", .switch .verbose), ("--help", .switch .help)]

def shortFlags : List (Char × Flag) :=
  [('f', .setting .format), ('r', .setting .override), ('j', .setting .jobs),
   ('v', .switch .verbose)]

def longFlag? (name : String) : Option Flag := (longFlags.find? (·.1 = name)).map Prod.snd

def shortFlag? (c : Char) : Option Flag := (shortFlags.find? (·.1 = c)).map Prod.snd

/-- What the arguments say, in the order in which they say it. -/
inductive Word where
  | switch (switch : Switch)
  | setting (setting : Setting) (value : String)
  | target (text : String)
  deriving Repr, DecidableEq

/-- What one argument says: some words, or also the name of a setting whose value is the next
argument. -/
structure Said where
  words : List Word
  open? : Option Setting := none
  deriving Repr, DecidableEq

/-- Reads the letters of an argument with one dash. -/
def letters? : List Char → Option Said
  | [] => some ⟨[], none⟩
  | c :: rest =>
    match shortFlag? c with
    | none => none
    | some (.switch switch) =>
      (letters? rest).map fun said => { said with words := .switch switch :: said.words }
    | some (.setting setting) =>
      if rest = [] then some ⟨[], some setting⟩
      else some ⟨[.setting setting (String.ofList rest)], none⟩

/-- Reads an argument that starts with a dash and is longer than it. -/
def option? (argument : String) : Option Said :=
  let (name, value) := cutAt '=' argument
  match longFlag? name, value with
  | some (.switch switch), none => some ⟨[.switch switch], none⟩
  | some (.switch _), some _ => none
  | some (.setting setting), none => some ⟨[], some setting⟩
  | some (.setting setting), some value => some ⟨[.setting setting value], none⟩
  | none, _ =>
    match argument.toList with
    | '-' :: '-' :: _ => none
    | '-' :: letters => letters? letters
    | _ => none

def isOption (argument : String) : Bool :=
  match argument.toList with
  | '-' :: _ :: _ => true
  | _ => false

/-- Reads all arguments; none if one is not known or a value is missing. -/
def words? : List String → Option (List Word)
  | [] => some []
  | argument :: rest =>
    if argument = "--" then some (rest.map .target)
    else if isOption argument then
      match option? argument with
      | none => none
      | some ⟨words, none⟩ => (words? rest).map (words ++ ·)
      | some ⟨words, some setting⟩ =>
        match rest with
        | [] => none
        | value :: rest => (words? rest).map (words ++ .setting setting value :: ·)
    else (words? rest).map (.target argument :: ·)

def targets (words : List Word) : List String :=
  words.filterMap fun
    | .target text => some text
    | _ => none

def values (setting : Setting) (words : List Word) : List String :=
  words.filterMap fun
    | .setting other value => if other = setting then some value else none
    | _ => none

def has (switch : Switch) (words : List Word) : Bool := words.contains (.switch switch)

/-- Decimal digits in groups, with single low lines between them; not too many. -/
def digitGroups? (cs : List Char) : Option Nat :=
  let groups := Chars.splitOn '_' cs
  let digits := groups.flatten
  if digits.length ≤ digitLimit ∧ groups.all fun group => !group.isEmpty then readDecimal? digits
  else none

/-- A whole number as it is written on a command line, with or without a sign. -/
def number? (text : String) : Option Int :=
  match Chars.strip text.toList with
  | '-' :: digits => (digitGroups? digits).map fun n => -(n : Int)
  | '+' :: digits => (digitGroups? digits).map Int.ofNat
  | digits => (digitGroups? digits).map Int.ofNat

inductive Format where
  | console
  | json
  deriving Repr, DecidableEq

def format? (name : String) : Option Format :=
  if name = "console" then some .console else if name = "json" then some .json else none

/-- A request to lint. -/
structure LintOptions where
  targets : List String
  fix : Bool := false
  format : Format := .console
  overrides : List String := []
  jobs : Nat := 1
  fixPasses : Nat := 1
  verbose : Bool := false
  deriving Repr, DecidableEq

/-- The last value of a setting as a count of at least one, which is also the default. -/
def count? (setting : Setting) (words : List Word) : Option Nat :=
  match (values setting words).getLast? with
  | none => some 1
  | some text =>
    match number? text with
    | some n => if 1 ≤ n then some n.toNat else none
    | none => none

/-- What a command line asks for. -/
inductive Request where
  | lint (options : LintOptions)
  | rules
  | help
  deriving Repr, DecidableEq

def lintOptions? (words : List Word) : Option LintOptions := do
  let format ← match (values .format words).getLast? with
    | none => some .console
    | some name => format? name
  let jobs ← count? .jobs words
  let fixPasses ← count? .fixPasses words
  if (targets words).isEmpty then none
  else
    some
      { targets := targets words, fix := has .fix words, format
        overrides := values .override words, jobs, fixPasses, verbose := has .verbose words }

def lintRequest? (arguments : List String) : Option Request := do
  let words ← words? arguments
  if has .help words then some .help else (lintOptions? words).map .lint

/-- Listing rules takes no arguments. -/
def rulesRequest? : List String → Option Request
  | [] => some .rules
  | ["--"] => some .rules
  | arguments =>
    if arguments.contains "--help" && arguments.all (fun a => a = "--help" || !isOption a) then
      some .help
    else none

/-- Reads a command line; none if it cannot be understood. -/
def request? : List String → Option Request
  | "--" :: arguments => named? arguments
  | "--help" :: _ => some .help
  | arguments => named? arguments
where
  named? : List String → Option Request
    | "lint" :: arguments => lintRequest? arguments
    | "rules" :: arguments => rulesRequest? arguments
    | _ => none

end Command

end ScriptLint
