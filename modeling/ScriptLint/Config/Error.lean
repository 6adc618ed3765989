/-
What can be wrong with a configuration, and the message for each cause.
-/
import ScriptLint.Json.Literal

namespace ScriptLint

/-- A step on the way from a value to one of its parts. -/
inductive Step where
  | field (name : String)
  | item (index : Nat)
  deriving Repr, DecidableEq

/-- What a value fails to be. -/
inductive Requirement where
  | object
  | knownWord
  | text
  | present
  | list
  | pattern
  /-- Of the counts in a pattern, which are no matter of the pattern's form. -/
  | countInRange
  | boolean
  | booleanWord
  | atLeast
  | enumWord
  deriving Repr, DecidableEq

/-- A part of a value that does not meet a requirement. -/
structure Complaint where
  place : List Step
  requirement : Requirement
  deriving Repr, DecidableEq

inductive ConfigError where
  | tooFewJobs (given : Int)
  | tooFewPasses (given : Int)
  | emptyEntry
  | badSeverity (value : Json) (hint : String)
  | notAnOverride (item : String)
  | unknownRule (rule : String)
  | frozen (rule : String)
  | optionsNotAccepted (rule : String) (given : Json)
  | invalidOptions (rule : String) (complaints : List Complaint)
  deriving Repr, BEq

namespace ConfigError

def numberHint : String := " (expected 0, 1 or 2)"

def nameHint : String := " (expected off, warn or error)"

def message : ConfigError → String
  | .tooFewJobs given => s!"jobs must be at least 1, got {given}"
  | .tooFewPasses given => s!"fix_passes must be at least 1, got {given}"
  | .emptyEntry => "Empty rule entry"
  | .badSeverity value hint => "Invalid severity: " ++ value.literal ++ hint
  | .notAnOverride item => "Expected RULE=SEVERITY, got " ++ quoted item
  | .unknownRule rule => "Unknown rule '" ++ rule ++ "'"
  | .frozen rule => "Cannot register '" ++ rule ++ "': registry is frozen"
  | .optionsNotAccepted rule given =>
    "Rule '" ++ rule ++ "' does not accept options, got " ++ given.literal
  | .invalidOptions rule _ => "Invalid options for rule '" ++ rule ++ "'"

end ConfigError

/-- Why a configuration is not used: it is invalid, or reading it breaks off over a number. -/
inductive SetupError where
  | config (error : ConfigError)
  /-- Digits without a place value. -/
  | unreadableNumber (text : String)
  /-- So many digits that they are not read as a number. -/
  | tooManyDigits (count : Nat)
  /-- A number that cannot be written into the message about it. -/
  | unwritableNumber
  /-- A quantifier with too large a count in a pattern. -/
  | countTooLarge
  deriving Repr, BEq

namespace SetupError

/-- The error about a value, which its message shows. -/
def about (value : Json) (error : ConfigError) : SetupError :=
  if value.hasLiteral then .config error else .unwritableNumber

def digitsHint : String := "; use sys.set_int_max_str_digits() to increase the limit"

def message : SetupError → String
  | .config error => error.message
  | .unreadableNumber text =>
    "invalid literal for int() with base 10: " ++ String.ofList ((Quoted.chars text.toList).take 200)
  | .tooManyDigits count =>
    s!"Exceeds the limit ({digitLimit} digits) for integer string conversion: value has {count} digits" ++ digitsHint
  | .unwritableNumber =>
    s!"Exceeds the limit ({digitLimit} digits) for integer string conversion" ++ digitsHint
  | .countTooLarge => "the repetition number is too large"

end SetupError

end ScriptLint
