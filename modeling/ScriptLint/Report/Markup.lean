/-
Markup: text with style tags in brackets, as console lines are written.

What a console shows of a markup text is up to its `Reader`. The one defined here
knows tags and emoji: a tag starts with a small letter or one of `#`, `/` and `@`
and holds no opening bracket. An opening tag shows nothing; a closing tag shows
nothing either but must close a tag that is open, by style or, without a name,
the innermost one. Backslashes before a tag stand for half their number, and an
odd one makes the tag plain text; before any other bracket one backslash is
dropped. It does not look at the values of tags, which stand behind an equals
sign.
-/
import ScriptLint.Report.Style
import ScriptLint.Text.Emoji

namespace ScriptLint

namespace Markup

/-- How a console reads markup. -/
structure Reader where
  /-- The text that a markup text shows; none if it cannot be read. -/
  read : List Char → Option (List Char)
  /-- A text with pictures in place of the names of emoji. -/
  emoji : List Char → List Char

def tag (name : List Char) : List Char := '[' :: name ++ [']']

/-- A part of a text that has a style of its own. -/
structure Styled where
  style : String
  text : List Char
  /-- Whether the closing tag goes without the name of the style. -/
  briefly : Bool := false
  deriving Repr, DecidableEq

/-- The part between its tags. -/
def Styled.source (part : Styled) : List Char :=
  tag part.style.toList ++ part.text ++ tag ('/' :: if part.briefly then [] else part.style.toList)

inductive Piece where
  | text (cs : List Char)
  | tag (content : List Char)
  deriving Repr, DecidableEq

def startsTag (c : Char) : Bool := ('a' ≤ c && c ≤ 'z') || c = '#' || c = '/' || c = '@'

/-- The content of a tag whose opening bracket has just been read. -/
def content? : List Char → Option (List Char)
  | [] => none
  | c :: rest =>
    if startsTag c then
      let body := rest.takeWhile fun c => c ≠ ']' && c ≠ '['
      if (rest.drop body.length).head? = some ']' then some (c :: body) else none
    else none

def slashes (n : Nat) : List Char := List.replicate n '\\'

def textPiece (cs : List Char) : List Piece := if cs = [] then [] else [.text cs]

/-- Cuts a text into pieces. `skip` characters belong to the tag before, `plain` is the text since
then, and `escapes` is the number of backslashes just read. -/
def piecesFrom (skip escapes : Nat) (plain : List Char) : List Char → List Piece
  | [] => textPiece (plain ++ slashes escapes)
  | c :: rest =>
    match skip with
    | skip + 1 => piecesFrom skip 0 [] rest
    | 0 =>
      if c = '\\' then piecesFrom 0 (escapes + 1) plain rest
      else if c = '[' then
        match content? rest with
        | none => piecesFrom 0 0 (plain ++ slashes (escapes - 1) ++ ['[']) rest
        | some content =>
          let here := if escapes % 2 = 1 then .text ('[' :: content ++ [']']) else .tag content
          textPiece plain ++ textPiece (slashes (escapes / 2)) ++
            here :: piecesFrom (content.length + 1) 0 [] rest
      else piecesFrom 0 0 (plain ++ slashes escapes ++ [c]) rest

def pieces (cs : List Char) : List Piece := piecesFrom 0 0 [] cs

/-- The name of a tag, which ends before an equals sign. -/
def tagName (content : List Char) : List Char := content.takeWhile (· ≠ '=')

/-- The open tags after closing one: the innermost of a name, or just the innermost. -/
def close? (name : List Char) (opened : List String) : Option (List String) :=
  match Chars.strip name, opened with
  | [], [] => none
  | [], _ :: outer => some outer
  | name, opened => (Style.normalize? name).bind fun style =>
    if opened.contains style then some (opened.erase style) else none

/-- The text that pieces show inside some open tags, innermost first. -/
def show? (opened : List String) : List Piece → Option (List Char)
  | [] => some []
  | .text cs :: rest => (show? opened rest).map (Emoji.replace cs ++ ·)
  | .tag content :: rest =>
    match tagName content with
    | '/' :: name => (close? name opened).bind fun opened => show? opened rest
    | name => (Style.normalize? name).bind fun style => show? (style :: opened) rest

/-- The text that a markup text shows; none if a tag closes what is not open. -/
def plainText? (cs : List Char) : Option (List Char) := show? [] (pieces cs)

def reader : Reader := ⟨plainText?, Emoji.replace⟩

end Markup

end ScriptLint
