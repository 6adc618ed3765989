/-
What a command line does to a disk, and what it prints.

Nothing is read or written before the targets are known to exist and the rules
are set up. Exit codes are zero, one for errors among the findings or a run that
breaks off, and two for a command line or a configuration that is not valid.
-/
import ScriptLint.Command.Options
import ScriptLint.Discovery
import ScriptLint.Report.CatalogTable
import ScriptLint.Report.Record
import ScriptLint.Run

namespace ScriptLint

namespace Command

structure Outcome where
  exitCode : Nat
  output : List String := []
  errors : List String := []
  disk : Disk
  deriving Repr, DecidableEq

/-- Directory names that a search for files passes over. -/
def search : Search := { ignored := Search.defaultIgnored }

def linesOf (text : String) : List String :=
  (Chars.splitOn '\n' text.toList).map fun line => String.ofList (Layout.trimSpaces line)

def misuse (disk : Disk) : Outcome := { exitCode := 2, disk }

/-- The lines for a setup that failed; only configuration errors have a code of their own. -/
def setupFailed (disk : Disk) : SetupError → Outcome
  | .config error =>
    { exitCode := 2, errors := linesOf ("Configuration error: " ++ error.message), disk }
  | other => { exitCode := 1, errors := linesOf other.message, disk }

/-- The default configuration with the given numbers and overrides, and its rules. -/
def setup (options : LintOptions) : Except SetupError (Config × Registry) := do
  let base ← Config.make Config.defaultRules options.jobs options.fixPasses
  let config ← base.applyOverrides options.overrides
  let registry ← Registry.build Catalog.builtin config
  return (config, registry)

/-- Prints a report in the format asked for. -/
def present (options : LintOptions) (registry : Registry) (disk : Disk) (report : Report) :
    Outcome :=
  match options.format with
  | .json => { exitCode := report.exitCode, output := linesOf report.renderJson, disk }
  | .console =>
    let settings : Console.Settings :=
      { home := ⟨.root, disk.home⟩, verbose := options.verbose, catalog := some registry.catalog }
    let printout := report.print settings
    { exitCode := if printout.complete then report.exitCode else 1
      output := printout.lines.map String.ofList, disk }

/-- Lints or fixes the files of the targets. -/
def lintTargets (parser : Parser) (disk : Disk) (options : LintOptions) (targets : List Path) :
    Except String Outcome :=
  match setup options with
  | .error error => .ok (setupFailed disk error)
  | .ok (config, registry) =>
    match search.collect disk targets with
    | [] => .ok { exitCode := 0, output := ["No JavaScript files to lint."], disk }
    | files =>
      let linter : Linter :=
        { parser, rules := registry.activeRules, fixPasses := config.fixPasses }
      match linter.run options.fix none disk files with
      | (_, .error (.noTree text)) => .error text
      | (disk, .error .notUtf8) => .ok { exitCode := 1, disk }
      | (disk, .ok report) => .ok (present options registry disk report)

def lint (parser : Parser) (disk : Disk) (options : LintOptions) : Except String Outcome :=
  let targets := options.targets.map fun target => disk.realPath (Path.ofString target)
  if targets.all fun target => (disk.stat? target).isSome then
    lintTargets parser disk options targets
  else .ok (misuse disk)

def rulesTitle : String := "Built-in rules"

def listRules (disk : Disk) : Outcome :=
  match Registry.build Catalog.builtin Config.default with
  | .error error => setupFailed disk error
  | .ok registry =>
    { exitCode := 0
      output := (CatalogTable.lines rulesTitle registry).map fun line =>
        String.ofList (Layout.trimSpaces line)
      disk }

def helpLines : List String :=
  ["Usage: lintkit COMMAND [ARGS]...",
   "",
   "Commands:",
   "  lint TARGETS... [--fix] [--format console|json] [--rule RULE=SEVERITY] [--jobs N]",
   "                  [--fix-passes N] [--verbose]",
   "  rules"]

/-- Carries out a command line; fails with a text that the parser has no tree for. -/
def execute (parser : Parser) (disk : Disk) (arguments : List String) : Except String Outcome :=
  match request? arguments with
  | none => .ok (misuse disk)
  | some .help => .ok { exitCode := 0, output := helpLines, disk }
  | some .rules => .ok (listRules disk)
  | some (.lint options) => lint parser disk options

end Command

end ScriptLint
