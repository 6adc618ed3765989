/-
Workspaces written in JSON: the entries of a disk, the trees that a parser gives
for texts, and rules given as data.
-/
import ScriptLint.Disk.RealPath
import ScriptLint.Rule.Declared
import ScriptLint.Source.Basic
import ScriptLint.Text.Hex

namespace ScriptLint

namespace Json

def string? : Json → Option String
  | .string text => some text
  | _ => none

def int? : Json → Option Int
  | .int n => some n
  | _ => none

def nat? : Json → Option Nat
  | .int n => if 0 ≤ n then some n.toNat else none
  | _ => none

def bool? : Json → Option Bool
  | .bool b => some b
  | _ => none

def items? : Json → Option (List Json)
  | .array items => some items
  | _ => none

/-- The items of a field; none when the field is missing. -/
def list (key : String) (value : Json) : List Json := ((value.get? key).bind items?).getD []

def flag (key : String) (value : Json) : Bool := ((value.get? key).bind bool?).getD false

def text? (key : String) (value : Json) : Option String := (value.get? key).bind string?

def strings (key : String) (value : Json) : Option (List String) :=
  ((value.get? key).bind items?).map fun items => items.filterMap string?

end Json

namespace Workspace

/-- Bytes written as pairs of hexadecimal digits. -/
def bytesOfHex? : List Char → Option Bytes
  | [] => some []
  | a :: b :: rest =>
    match readHex? [a, b], bytesOfHex? rest with
    | some n, some bytes => some (UInt8.ofNat n :: bytes)
    | _, _ => none
  | [_] => none

/-! ## Trees -/

/-- The marks of a node are added up: one for named, two for missing, four for an error and eight
for a node that holds one. -/
def labelOf (kind : String) (start stop marks : Nat) (field : Option String) : Label :=
  { kind, start, stop, field
    named := marks % 2 = 1
    isMissing := marks / 2 % 2 = 1
    isError := marks / 4 % 2 = 1
    hasError := marks / 8 % 2 = 1 }

/-- Reads a line of a listing: depth, kind, start, end, field and marks. -/
def entryOf? : Json → Option ParseTree.Entry
  | .array [depth, kind, start, stop, field, marks] => do
    return ⟨← depth.nat?, labelOf (← kind.string?) (← start.nat?) (← stop.nat?) (← marks.nat?)
      field.string?⟩
  | _ => none

def treeOf? (listing : Json) : Option ParseTree := do
  ParseTree.ofEntries? (← (← listing.items?).mapM entryOf?)

/-- A text with its tree. -/
def parseOf? (value : Json) : Option (String × ParseTree) := do
  return (← value.text? "text", ← treeOf? (← value.get? "tree"))

/-- The parser that knows the trees of some texts. -/
def parserOf (parses : List (String × ParseTree)) : Parser := fun text =>
  (parses.find? (·.1 = text)).map Prod.snd

/-- The parser that a workspace describes. -/
def parser (workspace : Json) : Parser :=
  parserOf ((workspace.list "parses").filterMap parseOf?)

/-! ## Disks -/

inductive Item where
  | text (path content : String)
  | bytes (path : String) (content : Bytes)
  | directory (path : String)
  | link (path target : String)
  deriving Repr, DecidableEq

def itemOf? : Json → Option Item
  | .array [.string path, .string kind] =>
    if kind = "file" then some (.text path "")
    else if kind = "dir" then some (.directory path)
    else none
  | .array [.string path, .string kind, .string content] =>
    if kind = "file" then some (.text path content)
    else if kind = "hex" then (bytesOfHex? content.toList).map (.bytes path)
    else if kind = "link" then some (.link path content)
    else if kind = "dir" then some (.directory path)
    else none
  | _ => none

def addItem (disk : Disk) : Item → Disk
  | .text path content => disk.add (Path.ofString path) (.file (Utf8.encode content))
  | .bytes path content => disk.add (Path.ofString path) (.file content)
  | .directory path => disk.add (Path.ofString path) .directory
  | .link path target => disk.add (Path.ofString path) (.link target)

/-- The files that a workspace lists. -/
def Item.filePath? : Item → Option String
  | .text path _ => some path
  | .bytes path _ => some path
  | _ => none

def items (workspace : Json) : List Item := (workspace.list "disk").filterMap itemOf?

/-- A disk with some items, added one after another. -/
def diskOf (home : Location) (items : List Item) : Disk := items.foldl addItem (Disk.blank home)

/-- What the listed files hold, as text where they hold text. -/
def contents (disk : Disk) (items : List Item) : List (String × Option String) :=
  (items.filterMap Item.filePath?).map fun path =>
    (path, match disk.read (Path.ofString path) with
      | .ok bytes => Utf8.decode? bytes
      | .error _ => none)

/-! ## Declared rules -/

open Declared

def editOf? (value : Json) : Option Edit :=
  match value with
  | .object [(key, .string text)] =>
    if key = "replace" then some (.replace text)
    else if key = "insert_after" then some (.insertAfter text)
    else none
  | .object [(key, .array [start, stop, text])] => do
    if key = "range" then some (.range (← start.int?) (← stop.int?) (← text.string?)) else none
  | .object [(key, .bool true)] => if key = "remove" then some .remove else none
  | _ => none

def declaredItemOf? (value : Json) : Option Declared.Item :=
  match value.text? "report", value.text? "direct", value.text? "raise", value.get? "junk" with
  | some message, _, _, _ => some (.report message ((value.list "fixes").filterMap editOf?))
  | _, some message, _, _ =>
    some (.direct message (((value.text? "severity").bind Severity.ofName?).getD .warn))
  | _, _, some message, _ => some (.giveUp message)
  | _, _, _, some junk => some (.junk junk)
  | _, _, _, _ => none

def conditionsOf (value : Json) : List Condition :=
  ((value.text? "text").map Condition.text).toList ++
    ((value.text? "ancestor").map fun kind =>
      Condition.fewerAncestors kind (((value.get? "fewer_than").bind Json.nat?).getD 0)).toList

def actionOf (value : Json) : Action :=
  { conditions := ((value.get? "when").map conditionsOf).getD []
    items := if value.flag "returns_none" then []
      else (value.list "emit").filterMap declaredItemOf? }

def visitorOf? : Json → Option (String × Action)
  | .array [.string key, action] => some (key, actionOf action)
  | _ => none

def ruleOf? (value : Json) : Option DeclaredRule := do
  return { id := ← value.text? "id"
           description := (value.text? "description").getD ""
           fixable := value.flag "fixable"
           actions := (value.list "visitors").filterMap visitorOf? }

/-- The catalog of the built-in rules and those that a workspace adds. -/
def catalog (workspace : Json) : Catalog :=
  Catalog.extended ((workspace.list "custom").filterMap ruleOf?)

end Workspace

end ScriptLint
