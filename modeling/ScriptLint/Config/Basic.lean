/-
Configurations: which rules run, at what severity and with which options.

A rule entry is a severity alone or a list that starts with one; what follows
in the list are the options, a single one as it is, several as a list.
Overrides of the form `rule=severity` change severities and keep options.
-/
import ScriptLint.Config.Severity
import ScriptLint.Rules.Catalog
import ScriptLint.Text.Split

namespace ScriptLint

structure Config where
  rules : Keyed Json
  jobs : Nat := 1
  fixPasses : Nat := 1
  jobs_pos : 1 ≤ jobs := by omega
  fixPasses_pos : 1 ≤ fixPasses := by omega

namespace Config

/-- A configuration with the given numbers of jobs and passes, if both are at least one. -/
def make (rules : Keyed Json) (jobs fixPasses : Int) : Except SetupError Config :=
  if hj : jobs < 1 then .error (.about (.int jobs) (.tooFewJobs jobs))
  else if hp : fixPasses < 1 then .error (.about (.int fixPasses) (.tooFewPasses fixPasses))
  else .ok ⟨rules, jobs.toNat, fixPasses.toNat, by omega, by omega⟩

/-- Every built-in rule at its default severity. -/
def defaultRules : Keyed Json :=
  [("default-case",
      .array [.string "warn", .object [("commentPattern", .string "^no default$")]]),
   ("eqeqeq", .array [.string "warn", .string "allow-null"]),
   ("new-parens", .string "error"),
   ("no-caller", .string "warn"),
   ("no-cond-assign", .string "error"),
   ("no-empty-pattern", .string "warn"),
   ("no-eval", .string "warn"),
   ("no-extra-semi", .string "warn"),
   ("no-restricted-globals",
      .array (.string "error" :: Rules.confusingBrowserGlobals.map .string)),
   ("no-self-compare", .string "warn"),
   ("no-unreachable", .string "warn"),
   ("no-unused-vars",
      .array [.string "warn",
        .object [("args", .string "none"), ("ignoreRestSiblings", .bool true)]]),
   ("no-useless-computed-key", .string "warn"),
   ("no-var", .string "warn"),
   ("no-whitespace-before-property", .string "warn")]

def default : Config := { rules := defaultRules }

/-- File name endings of the files to lint. -/
def defaultExtensions : List String := [".js", ".jsx", ".mjs", ".cjs"]

end Config

/-- The severity and the raw options of a rule entry; no options are `null`. -/
def parseEntry (entry : Json) : Except SetupError (Severity × Json) :=
  match entry with
  | .array [] => .error (.config .emptyEntry)
  | .array (level :: options) =>
    match Severity.parse level with
    | .error error => .error error
    | .ok severity =>
      .ok (severity, match options with
        | [] => .null
        | [single] => single
        | several => .array several)
  | level =>
    match Severity.parse level with
    | .error error => .error error
    | .ok severity => .ok (severity, .null)

/-- The rule and the severity that an override names. -/
def parseOverride (item : String) : Except SetupError (String × Severity) :=
  match cutAt '=' item with
  | (_, none) => .error (.config (.notAnOverride item))
  | (before, some level) =>
    let rule := strip before
    if rule = "" then .error (.config (.notAnOverride item))
    else
      match Severity.parseText level with
      | .error error => .error error
      | .ok severity => .ok (rule, severity)

/-- An entry at another severity, with the options it had. -/
def withSeverity (current : Option Json) (severity : Severity) : Json :=
  match current with
  | some (.array (_ :: first :: more)) => .array (.string severity.name :: first :: more)
  | _ => .string severity.name

def overrideRules : Keyed Json → List String → Except SetupError (Keyed Json)
  | rules, [] => .ok rules
  | rules, item :: items =>
    match parseOverride item with
    | .error error => .error error
    | .ok (rule, severity) =>
      overrideRules (Keyed.set rule (withSeverity (Keyed.get? rule rules) severity) rules) items

/-- Layers `rule=severity` texts on top of a configuration. -/
def Config.applyOverrides (config : Config) (items : List String) : Except SetupError Config :=
  (overrideRules config.rules items).map fun rules => { config with rules }

theorem overrideRules_append (rules : Keyed Json) (xs ys : List String) :
    overrideRules rules (xs ++ ys) = (overrideRules rules xs).bind (overrideRules · ys) := by
  induction xs generalizing rules with
  | nil => rfl
  | cons item items ih =>
    simp only [List.cons_append, overrideRules]
    split
    · rfl
    · exact ih _

end ScriptLint
