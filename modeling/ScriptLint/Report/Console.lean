/-
Reports on the console: findings as one table per file, then skipped fixes, what
was fixed and a summary.

Headings, messages, descriptions, skipped fixes and summaries are markup, which
the reader of the console reads; rule names and severities are shown as they are.
So are line numbers, column numbers and titles, for they hold no markup. Output
is a list of blocks, and printing stops at the first block whose markup cannot be
read (`Printout.ofBlocks`).
-/
import ScriptLint.Report.Layout
import ScriptLint.Report.Markup
import ScriptLint.Rules.Catalog
import ScriptLint.Report

namespace ScriptLint

/-- Lines on the console, and whether all that was to be printed is there. -/
structure Printout where
  lines : List Line
  complete : Bool
  deriving Repr, DecidableEq

namespace Printout

/-- The lines of all blocks up to the first that cannot be shown. -/
def ofBlocks : List (Option (List Line)) → Printout
  | [] => ⟨[], true⟩
  | none :: _ => ⟨[], false⟩
  | some lines :: rest =>
    let later := ofBlocks rest
    ⟨lines ++ later.lines, later.complete⟩

theorem complete_ofBlocks_iff {blocks : List (Option (List Line))} :
    (ofBlocks blocks).complete = true ↔ ∀ block ∈ blocks, block.isSome := by
  induction blocks with
  | nil => simp [ofBlocks]
  | cons block rest ih => cases block <;> simp [ofBlocks, ih]

end Printout

namespace Console

structure Settings where
  /-- Paths below this directory are shown from it on. -/
  home : Path
  verbose : Bool := false
  /-- Where descriptions of rules come from, if they are to be shown. -/
  catalog : Option Catalog := none
  reader : Markup.Reader := Markup.reader

def blank : Option (List Line) := some [[]]

def markup (settings : Settings) (text : List Char) : Option (List Line) :=
  (settings.reader.read text).map Layout.paragraph

/-- A box with markup in it. -/
def markupBox (settings : Settings) (title : String) (text : List Char) : Option (List Line) :=
  (settings.reader.read text).map (Layout.boxed title)

def displayPath (settings : Settings) (path : Path) : String :=
  (settings.home.relativeTo? path |>.getD path).toString

/-- The findings of each file, files in order of their first finding. -/
def groups (findings : List Finding) : Keyed (Path × List Finding) :=
  findings.foldl
    (fun groups finding =>
      let key := finding.path.toString
      let sofar := (Keyed.get? key groups).getD (finding.path, [])
      Keyed.set key (sofar.1, sofar.2 ++ [finding]) groups) []

def headingText (settings : Settings) (path : Path) : List Char :=
  Markup.Styled.source { style := "bold cyan", text := (displayPath settings path).toList }

def heading (settings : Settings) (path : Path) : Option (List Line) :=
  (settings.reader.read (headingText settings path)).map fun shown =>
    [] :: Layout.indented shown ++ [[]]

/-- The narrowest and the widest message column. -/
def messageBounds : Nat × Nat := (7, Layout.consoleWidth - 63)

/-- Line, column, severity, rule and message. -/
def columns (messageWidth : Nat) : List Layout.Column :=
  [⟨5, true⟩, ⟨4, true⟩, ⟨8, false⟩, ⟨30, false⟩, ⟨messageWidth, false⟩]

def headers : List (List Char) :=
  ["Line", "Col", "Severity", "Rule", "Message"].map String.toList

def severityLabel : Severity → String
  | .off => "OFF"
  | .warn => "WARN"
  | .error => "ERROR"

/-- The texts of the cells of a finding, its message as it is shown. -/
def cellTexts (finding : Finding) (message : List Char) : List (List Char) :=
  [(toString finding.span.line).toList, (toString finding.span.column).toList,
   (severityLabel finding.severity).toList,
   ("[" ++ finding.rule ++ "]" ++ if finding.fixable then " *" else "").toList, message]

def tableLines (columns : List Layout.Column) (texts : List (List Char)) : List Line :=
  (Layout.row columns texts).map fun cells =>
    ' ' :: ' ' :: Layout.joinCells [' ', ' ', ' '] cells

def table (settings : Settings) (findings : List Finding) : Option (List Line) :=
  (findings.mapM fun finding => settings.reader.read finding.message.toList).map fun messages =>
    let messages := messages.map Layout.visible
    let widest := (messages.map Chars.widestLine).foldl max messageBounds.1
    let columns := columns (min widest messageBounds.2)
    let rows := (findings.zip messages).flatMap fun (finding, message) =>
      tableLines columns (cellTexts finding message)
    let rule := ' ' :: Layout.rule '─' (61 + min widest messageBounds.2)
    [] :: tableLines columns headers ++ rule :: rows ++ [[]]

/-- The distinct rules of some findings that have a description, in order. -/
def described (catalog : Catalog) (findings : List Finding) : List Rule :=
  (findings.map (·.rule)).eraseDups.filterMap fun id =>
    (Keyed.get? id catalog).filter (·.description ≠ "")

def descriptionText (rule : Rule) : List Char :=
  ("  [dim]\\[" ++ rule.id ++ "][/dim] " ++ rule.description).toList

def descriptions (settings : Settings) (findings : List Finding) : List (Option (List Line)) :=
  match settings.verbose, settings.catalog with
  | true, some catalog =>
    match described catalog findings with
    | [] => []
    | rules =>
      rules.map (fun rule => markup settings (descriptionText rule)) ++ [blank]
  | _, _ => []

def fileBlocks (settings : Settings) (path : Path) (findings : List Finding) :
    List (Option (List Line)) :=
  blank :: heading settings path :: table settings findings :: descriptions settings findings

/-- The place and the message of a skipped fix. -/
def conflictPlace (settings : Settings) (conflict : Conflict) : List Char :=
  (displayPath settings conflict.path ++ s!":{conflict.span.line}:{conflict.span.column} " ++
    conflict.message).toList

def conflictText (settings : Settings) (conflict : Conflict) : List Char :=
  "  ".toList ++ Markup.Styled.source { style := "yellow", text := "skipped fix".toList } ++
    ' ' :: conflictPlace settings conflict

def conflictBlocks (settings : Settings) (conflicts : List Conflict) :
    List (Option (List Line)) :=
  if settings.verbose && !conflicts.isEmpty then
    blank :: conflicts.map fun conflict => markup settings (conflictText settings conflict)
  else []

/-- How many fixes were applied and, if any were, how many were skipped. -/
def fixParts (report : Report) : List Markup.Styled :=
  { style := "green", text := s!"{report.fixedCount} fix(es) applied".toList } ::
    if report.conflicts = [] then []
    else [{ style := "yellow", text := s!"{report.conflicts.length} skipped".toList }]

def fixBlocks (settings : Settings) (report : Report) : List (Option (List Line)) :=
  if report.fixedCount = 0 ∧ report.conflicts = [] then []
  else [markup settings (", ".toList.intercalate ((fixParts report).map Markup.Styled.source))]

def summaryParts (report : Report) : List Markup.Styled :=
  let total := report.findings.length
  let summary := report.summary
  [{ style := "bold", text := (s!"{total} problem" ++ if total = 1 then "" else "s").toList },
    { style := "bold red", text := s!"{summary.errors} error".toList, briefly := true },
    { style := "bold yellow", text := s!"{summary.warnings} warning".toList, briefly := true }] ++
    (if summary.fixable = 0 then []
    else [{ style := "green", text := s!"{summary.fixable} fixable with --fix".toList }]) ++
    if report.cancelled then [{ style := "red", text := "cancelled".toList }] else []

/-- The name in the title of the box that tells of a clean run. -/
def programName : String := "lintkit"

def cleanPart (report : Report) : Markup.Styled where
  style := "green"
  text := s!"No problems found in {report.files.length} file(s).".toList

def blocks (settings : Settings) (report : Report) : List (Option (List Line)) :=
  if report.findings.isEmpty then
    markupBox settings programName (cleanPart report).source :: fixBlocks settings report
  else
    (groups report.findings).flatMap (fun (_, path, findings) =>
        fileBlocks settings path findings) ++
      conflictBlocks settings report.conflicts ++ fixBlocks settings report ++
      [blank, markupBox settings "Summary"
        (" | ".toList.intercalate ((summaryParts report).map Markup.Styled.source))]

end Console

/-- A report as it appears on the console, without the spaces at the ends of lines. -/
def Report.print (settings : Console.Settings) (report : Report) : Printout :=
  let printout := Printout.ofBlocks (Console.blocks settings report)
  { printout with lines := printout.lines.map Layout.trimSpaces }

end ScriptLint
