/-
Why a file yields no syntax tree: it cannot be read, it is not UTF-8, or the
parser found a syntax error. Each cause has one message.
-/
import ScriptLint.Text.Blank
import ScriptLint.Text.Lines
import ScriptLint.Tree.Parsed

namespace ScriptLint

/-- Why the content of a file cannot be had. -/
inductive ReadError where
  | noSuchFile
  | isDirectory
  | notDirectory
  | tooManyLinks
  deriving Repr, DecidableEq

def ReadError.text : ReadError → String
  | .noSuchFile => "No such file or directory"
  | .isDirectory => "Is a directory"
  | .notDirectory => "Not a directory"
  | .tooManyLinks => "Too many levels of symbolic links"

inductive ParseCause where
  | unreadable (reason : ReadError)
  | notUtf8
  | missing (kind : String)
  | unexpectedToken (token : String)
  | unexpectedEnd
  deriving Repr, DecidableEq

structure ParseError where
  cause : ParseCause
  position : Position := ⟨1, 1⟩
  offset : Nat := 0
  deriving Repr, DecidableEq

def ParseError.message (error : ParseError) : String :=
  match error.cause with
  | .unreadable reason => "Cannot read file: " ++ reason.text
  | .notUtf8 => "Parsing error: file is not valid UTF-8"
  | .missing kind => "Parsing error: missing '" ++ kind ++ "'"
  | .unexpectedToken token => "Parsing error: unexpected token '" ++ token ++ "'"
  | .unexpectedEnd => "Parsing error: unexpected end of input"

namespace ParseTree

mutual

/-- The error and missing nodes that lie under nodes marked as holding an error, none of them
below another. -/
def problems : ParseTree → List ParseTree
  | tree@(.node label children) =>
    if !label.hasError && !label.isMissing then []
    else if label.isError || label.isMissing then [tree]
    else problemsOfAll children

def problemsOfAll : List ParseTree → List ParseTree
  | [] => []
  | child :: rest => problems child ++ problemsOfAll rest

end

/-- The tree that starts first; of several, the one that comes first. -/
def earliest (first : ParseTree) (rest : List ParseTree) : ParseTree :=
  rest.foldl (fun best tree => if tree.label.start < best.label.start then tree else best) first

/-- The first problem of a tree whose root is marked as holding an error. -/
def firstSyntaxError? (tree : ParseTree) : Option ParseTree :=
  if tree.label.hasError then
    match problems tree with
    | [] => some tree
    | first :: rest => some (earliest first rest)
  else none

/-- What is wrong at a problem node: the missing kind, or the first word of its text. -/
def troubleAt (bytes : Bytes) (label : Label) : ParseCause :=
  if label.isMissing then .missing label.kind
  else
    match Chars.firstWord (Utf8.lossyChars (bytes.slice label.start label.stop)) with
    | [] => .unexpectedEnd
    | token => .unexpectedToken (String.ofList token)

def syntaxError? (bytes : Bytes) (tree : ParseTree) : Option ParseError :=
  (firstSyntaxError? tree).map fun problem =>
    let label := problem.label
    ⟨troubleAt bytes label, positionAt bytes label.start, label.start⟩

end ParseTree

end ScriptLint
