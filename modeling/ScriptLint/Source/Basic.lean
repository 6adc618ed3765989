/-
A parsed file: its path, its bytes and its syntax tree, with the texts, spans
and tokens that rules and reports ask for.
-/
import ScriptLint.Path
import ScriptLint.Source.ParseError
import ScriptLint.Span
import ScriptLint.Text.Quoted
import ScriptLint.Tree.Node

namespace ScriptLint

/-- The tree of a text. A parser may know no tree for some texts. -/
abbrev Parser := String → Option ParseTree

structure Source where
  path : Path
  bytes : Bytes
  tree : Tree

/-- Why a file could not be opened: the parser has no tree for its text, or an error to report. -/
inductive SourceFault where
  | noTree (text : String)
  | parse (error : ParseError)
  deriving Repr, DecidableEq

namespace Source

def ofParsed (path : Path) (bytes : Bytes) (tree : ParseTree) : Source :=
  ⟨path, bytes, Tree.number 0 tree⟩

/-- Decodes, parses and checks the bytes of a file. -/
def ofBytes (parser : Parser) (path : Path) (bytes : Bytes) : Except SourceFault Source :=
  match Utf8.decode? bytes with
  | none =>
    .error (.parse { cause := .notUtf8, offset := (Utf8.errorOffset? bytes).getD 0 })
  | some text =>
    match parser text with
    | none => .error (.noTree text)
    | some tree =>
      match tree.syntaxError? bytes with
      | some error => .error (.parse error)
      | none => .ok (ofParsed path bytes tree)

def root (source : Source) : Node := Node.root source.tree

def text (source : Source) : String := Utf8.lossy source.bytes

def nodeCount (source : Source) : Nat := source.root.walk.length

/-- The text between two offsets. -/
def textBetween (source : Source) (start stop : Nat) : String :=
  Utf8.lossy (source.bytes.slice start stop)

def textOf (source : Source) (node : Node) : String := source.textBetween node.start node.stop

def index (source : Source) : LineIndex := LineIndex.ofBytes source.bytes

def spanBetween (source : Source) (start stop : Nat) : Span :=
  let first := source.index.position start
  let last := source.index.position stop
  { start, stop
    line := first.line, column := first.column
    endLine := some last.line, endColumn := some last.column }

def spanOf (source : Source) (node : Node) : Span := source.spanBetween node.start node.stop

/-- The leaves in document order, comments included. -/
def tokens (source : Source) : List Node := source.root.walk.filter Node.isLeaf

def comments (source : Source) : List Node := source.tokens.filter (·.kind = "comment")

/-- The tokens between two offsets: a search for the first one to look at, then a scan up to
the first one that ends too late. -/
def tokensBetween (source : Source) (start stop : Nat) : List Node :=
  let tokens := source.tokens
  let starts := (tokens.map Node.start).toArray
  let first := bisect (fun i => starts.getD i 0 < start) 0 starts.size
  ((tokens.drop first).takeWhile (·.stop ≤ stop)).filter (start ≤ ·.start)

end Source

/-- A node's kind and byte range, for messages. -/
def Node.describe (node : Node) : String :=
  s!"Node({quoted node.kind}, {node.start}..{node.stop})"

end ScriptLint
