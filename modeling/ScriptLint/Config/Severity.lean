/-
Severities as they are written in rule entries: a name in any case, `warning`,
or a number from zero to two, also written in digits. Digits that cannot be read
as a number are no such thing, and not a wrong severity either.
-/
import ScriptLint.Config.Error
import ScriptLint.Severity
import ScriptLint.Text.Blank
import ScriptLint.Text.Case
import ScriptLint.Text.Digits

namespace ScriptLint

namespace Severity

def parseNumber (n : Int) : Except SetupError Severity :=
  match ofNumber? n with
  | some severity => .ok severity
  | none => .error (.about (.int n) (.badSeverity (.int n) ConfigError.numberHint))

/-- The name of a severity without blanks around it, in lower case, and in its short form. -/
def normalize (text : String) : String :=
  let name := lowerCase (strip text)
  if name = "warning" then "warn" else name

def parseText (text : String) : Except SetupError Severity :=
  let name := normalize text
  let cs := name.toList
  if cs ≠ [] ∧ cs.all isDigit then
    -- Digits are counted up to the first that has no place value.
    let leading := (cs.takeWhile isDecimal).length
    if digitLimit < leading then .error (.tooManyDigits leading)
    else
      match readDecimal? cs with
      | some n => parseNumber n
      | none => .error (.unreadableNumber name)
  else
    match ofName? name with
    | some severity => .ok severity
    | none => .error (.config (.badSeverity (.string text) ConfigError.nameHint))

def parse : Json → Except SetupError Severity
  | .bool value => .error (.config (.badSeverity (.bool value) ""))
  | .int n => parseNumber n
  | .string text => parseText text
  | other => .error (.about other (.badSeverity other ConfigError.nameHint))

end Severity

end ScriptLint
