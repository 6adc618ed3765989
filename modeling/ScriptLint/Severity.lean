/-
The configured importance of a rule. A rule that is off never runs.
-/
namespace ScriptLint

inductive Severity where
  | off
  | warn
  | error
  deriving Repr, DecidableEq

namespace Severity

def name : Severity → String
  | off => "off"
  | warn => "warn"
  | error => "error"

def ofName? (s : String) : Option Severity :=
  if s = "off" then some off
  else if s = "warn" then some warn
  else if s = "error" then some error
  else none

/-- The numbers that stand for severities in rule entries. -/
def ofNumber? (n : Int) : Option Severity :=
  if n = 0 then some off
  else if n = 1 then some warn
  else if n = 2 then some error
  else none

theorem ofName?_name (s : Severity) : ofName? s.name = some s := by
  cases s <;> decide

theorem ofName?_eq_some_iff {text : String} {s : Severity} :
    ofName? text = some s ↔ text = s.name := by
  constructor
  · intro h
    simp only [ofName?] at h
    split at h
    · cases h; assumption
    · split at h
      · cases h; assumption
      · split at h
        · cases h; assumption
        · cases h
  · rintro rfl
    exact ofName?_name s

end Severity

end ScriptLint
