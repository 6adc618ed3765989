/-
The program: a workspace comes in as JSON on the standard input, the command
line as arguments. The output of the command is printed, and the files that it
changed are written.
-/
import ScriptLint.Command.Execute
import ScriptLint.Json.Parser
import ScriptLint.Workspace

namespace ScriptLint

/-- All lines of a stream. -/
partial def readAll (stream : IO.FS.Stream) (sofar : String) : IO String := do
  let line ← stream.getLine
  if line.isEmpty then return sofar else readAll stream (sofar ++ line)

/-- Writes the listed files whose content differs between two disks. -/
def writeChanges (before after : Disk) (items : List Workspace.Item) : IO Unit :=
  for path in items.filterMap Workspace.Item.filePath? do
    let place := Path.ofString path
    match before.read place, after.read place with
    | .ok old, .ok new => if old ≠ new then IO.FS.writeBinFile path ⟨new.toArray⟩
    | _, _ => return

/-- Carries out a command line in a workspace and returns its exit code. -/
def runIn (workspace : Json) (arguments : List String) : IO UInt32 := do
  let items := Workspace.items workspace
  let disk := Workspace.diskOf ["work"] items
  match Command.execute (Workspace.parser workspace) disk arguments with
  | .error text =>
    IO.eprintln ("No tree for: " ++ text)
    return 1
  | .ok outcome =>
    outcome.output.forM IO.println
    outcome.errors.forM IO.eprintln
    writeChanges disk outcome.disk items
    return outcome.exitCode.toUInt32

end ScriptLint

def main (arguments : List String) : IO UInt32 := do
  let text ← ScriptLint.readAll (← IO.getStdin) ""
  match ScriptLint.Json.parse? text with
  | some workspace => ScriptLint.runIn workspace arguments
  | none =>
    IO.eprintln "The workspace is not valid JSON."
    return 2
