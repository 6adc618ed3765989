/-
Names of text styles: words for attributes and colours, in any order.

Two names stand for one style when they set the same attributes and colours;
`normalize?` gives both the same text. A name that is no style stands for
itself, without blanks at its ends and in lower case. A name with a mix of
colours in it that lacks a number cannot be read at all.
-/
import ScriptLint.Json.Parser
import ScriptLint.Text.Blank
import ScriptLint.Text.Case
import ScriptLint.Text.Digits
import ScriptLint.Text.Split

namespace ScriptLint

namespace Style

/-- The attributes in the order in which they are written, with their short names. -/
def attributeNames : List (String × String) :=
  [("bold", "b"), ("dim", "d"), ("italic", "i"), ("underline", "u"), ("blink", "blink"),
   ("blink2", "blink2"), ("reverse", "r"), ("conceal", "c"), ("strike", "s"),
   ("underline2", "uu"), ("frame", "frame"), ("encircle", "encircle"), ("overline", "o")]

def attribute? (word : String) : Option String :=
  (attributeNames.find? fun (name, short) => word = name ∨ word = short).map Prod.fst

/-- The named colours of terminals, some on each line. -/
def colorTable : List String := [
  "default black red green yellow blue magenta cyan white bright_black bright_red",
  "bright_green bright_yellow bright_blue bright_magenta bright_cyan bright_white grey0 gray0",
  "navy_blue dark_blue blue3 blue1 dark_green deep_sky_blue4 dodger_blue3 dodger_blue2 green4",
  "spring_green4 turquoise4 deep_sky_blue3 dodger_blue1 green3 spring_green3 dark_cyan",
  "light_sea_green deep_sky_blue2 deep_sky_blue1 spring_green2 cyan3 dark_turquoise",
  "turquoise2 green1 spring_green1 medium_spring_green cyan2 cyan1 dark_red deep_pink4",
  "purple4 purple3 blue_violet orange4 grey37 gray37 medium_purple4 slate_blue3 royal_blue1",
  "chartreuse4 dark_sea_green4 pale_turquoise4 steel_blue steel_blue3 cornflower_blue",
  "chartreuse3 cadet_blue sky_blue3 steel_blue1 pale_green3 sea_green3 aquamarine3",
  "medium_turquoise chartreuse2 sea_green2 sea_green1 aquamarine1 dark_slate_gray2",
  "dark_magenta dark_violet purple light_pink4 plum4 medium_purple3 slate_blue1 yellow4",
  "wheat4 grey53 gray53 light_slate_grey light_slate_gray medium_purple light_slate_blue",
  "dark_olive_green3 dark_sea_green light_sky_blue3 sky_blue2 dark_sea_green3",
  "dark_slate_gray3 sky_blue1 chartreuse1 light_green pale_green1 dark_slate_gray1 red3",
  "medium_violet_red magenta3 dark_orange3 indian_red hot_pink3 medium_orchid3 medium_orchid",
  "medium_purple2 dark_goldenrod light_salmon3 rosy_brown grey63 gray63 medium_purple1 gold3",
  "dark_khaki navajo_white3 grey69 gray69 light_steel_blue3 light_steel_blue yellow3",
  "dark_sea_green2 light_cyan3 light_sky_blue1 green_yellow dark_olive_green2 dark_sea_green1",
  "pale_turquoise1 deep_pink3 magenta2 hot_pink2 orchid medium_orchid1 orange3 light_pink3",
  "pink3 plum3 violet light_goldenrod3 tan misty_rose3 thistle3 plum2 khaki3 light_goldenrod2",
  "light_yellow3 grey84 gray84 light_steel_blue1 yellow2 dark_olive_green1 honeydew2",
  "light_cyan1 red1 deep_pink2 deep_pink1 magenta1 orange_red1 indian_red1 hot_pink",
  "dark_orange salmon1 light_coral pale_violet_red1 orchid2 orchid1 orange1 sandy_brown",
  "light_salmon1 light_pink1 pink1 plum1 gold1 navajo_white1 misty_rose1 thistle1 yellow1",
  "light_goldenrod1 khaki1 wheat1 cornsilk1 grey100 gray100 grey3 gray3 grey7 gray7 grey11",
  "gray11 grey15 gray15 grey19 gray19 grey23 gray23 grey27 gray27 grey30 gray30 grey35 gray35",
  "grey39 gray39 grey42 gray42 grey46 gray46 grey50 gray50 grey54 gray54 grey58 gray58 grey62",
  "gray62 grey66 gray66 grey70 gray70 grey74 gray74 grey78 gray78 grey82 gray82 grey85 gray85",
  "grey89 gray89 grey93 gray93"]

def colorNames : List String :=
  colorTable.flatMap fun line => (Chars.splitOn ' ' line.toList).map String.ofList

def isLowerHex (c : Char) : Bool := ('0' ≤ c && c ≤ '9') || ('a' ≤ c && c ≤ 'f')

/-- A number from zero to 255. -/
def isByte (cs : List Char) : Bool :=
  !cs.isEmpty && cs.all Json.isAsciiDigit && Json.natOfDigits cs ≤ 255

/-- Why words do not name a style. -/
inductive Fault where
  /-- A word is neither an attribute nor a colour. -/
  | unknown
  /-- A part of a mix of colours is not a number that can be read. -/
  | noNumber
  deriving Repr, DecidableEq

/-- A part of a mix of colours; any decimal digits will do. -/
def readComponent (digits : List Char) : Except Fault Nat :=
  if digits.isEmpty || digitLimit < digits.length then .error .noNumber
  else (readDecimal? digits).elim (.error .unknown) .ok

/-- The three parts of a mix, between commas. -/
def readMix (cs : List Char) : Except Fault (List Nat) :=
  let parts := Chars.splitOn ',' cs
  if parts.length = 3 && parts.all (·.all isDecimal) then parts.mapM readComponent
  else .error .unknown

/-- Colours are named, numbered, or mixed from three parts. -/
def readColor (word : String) : Except Fault String := do
  let known ←
    if colorNames.contains word then pure true
    else
      match word.toList with
      | '#' :: digits => pure (digits.length = 6 && digits.all isLowerHex)
      | 'c' :: 'o' :: 'l' :: 'o' :: 'r' :: '(' :: rest =>
        pure (rest.getLast? = some ')' && rest.length ≤ 4 && isByte rest.dropLast)
      | 'r' :: 'g' :: 'b' :: '(' :: rest => do
        let parts ← if rest.getLast? = some ')' then readMix rest.dropLast else throw .unknown
        pure (parts.all (· ≤ 255))
      | _ => pure false
  if known then pure word else throw .unknown

end Style

/-- What a style name sets. -/
structure Style where
  attributes : List (String × Bool) := []
  color : Option String := none
  background : Option String := none
  link : Option String := none
  deriving Repr, DecidableEq

namespace Style

def setAttribute (style : Style) (name : String) (value : Bool) : Style :=
  { style with attributes := Keyed.set name value style.attributes }

/-- Reads the words of a style name one after another. -/
def ofWords (style : Style) : List String → Except Fault Style
  | [] => .ok style
  | word :: rest =>
    match lowerCase word, rest with
    | "on", name :: rest => do
      let background ← readColor (lowerCase name)
      ofWords { style with background := some background } rest
    | "on", [] => .error .unknown
    | "not", word :: rest =>
      match attribute? word with
      | some name => ofWords (style.setAttribute name false) rest
      | none => .error .unknown
    | "not", [] => .error .unknown
    | "link", target :: rest => ofWords { style with link := some target } rest
    | "link", [] => .error .unknown
    | word, rest =>
      match attribute? word with
      | some name => ofWords (style.setAttribute name true) rest
      | none => do
        let color ← readColor word
        ofWords { style with color := some color } rest

/-- The words of a style in their fixed order. -/
def words (style : Style) : List String :=
  let marks := attributeNames.filterMap fun (name, _) =>
    (Keyed.get? name style.attributes).map fun value => if value then name else "not " ++ name
  let background := style.background.map ("on " ++ ·)
  let link := style.link.map ("link " ++ ·)
  marks ++ style.color.toList ++ background.toList ++ link.toList

/-- The words of a text between its blanks. -/
def split (cs : List Char) : List String :=
  (((Chars.splitOn ' ' (cs.map fun c => if isBlank c then ' ' else c)).filter
    fun word => word ≠ []).map String.ofList)

/-- One text for all names of a style. -/
def normalize? (name : List Char) : Option String :=
  match ofWords {} (split name) with
  | .ok style => some (if style = {} then "none" else String.intercalate " " style.words)
  | .error .unknown => some (lowerCase (String.ofList (Chars.strip name)))
  | .error .noNumber => none

end Style

end ScriptLint
