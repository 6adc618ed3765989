/-
Reading JSON text. A parser takes the value at the front of a text and returns
it with the text that follows. Every step of the recursion takes at least one
character, so the length of the text bounds the depth.
-/
import ScriptLint.Json.Value
import ScriptLint.Text.Hex

namespace ScriptLint

namespace Json

def isSpace (c : Char) : Bool := c = ' ' || c = '\n' || c = '\r' || c = '\t'

def skipSpace (cs : List Char) : List Char := cs.dropWhile isSpace

/-- The character of one or two escaped UTF-16 units; a unit without its partner has none. -/
def ofUnits (high : Nat) (low : Option Nat) : Option Char :=
  match low with
  | none => if 0xd800 ≤ high ∧ high ≤ 0xdfff then none else some (Char.ofNat high)
  | some low =>
    if 0xd800 ≤ high ∧ high ≤ 0xdbff ∧ 0xdc00 ≤ low ∧ low ≤ 0xdfff then
      some (Char.ofNat (0x10000 + (high - 0xd800) * 0x400 + (low - 0xdc00)))
    else none

def simpleEscape? : Char → Option Char
  | '"' => some '"'
  | '\\' => some '\\'
  | '/' => some '/'
  | 'b' => some (Char.ofNat 8)
  | 'f' => some (Char.ofNat 12)
  | 'n' => some '\n'
  | 'r' => some '\r'
  | 't' => some '\t'
  | _ => none

/-- The characters up to the closing quote, and the text after it. -/
def stringBody : List Char → Option (List Char × List Char)
  | [] => none
  | '"' :: rest => some ([], rest)
  | '\\' :: 'u' :: a :: b :: c :: d :: '\\' :: 'u' :: e :: f :: g :: h :: rest =>
    match readHex? [a, b, c, d], readHex? [e, f, g, h] with
    | some high, some low =>
      match ofUnits high (some low), ofUnits high none with
      | some pair, _ => (stringBody rest).map fun (cs, after) => (pair :: cs, after)
      | none, some single =>
        (stringBody ('\\' :: 'u' :: e :: f :: g :: h :: rest)).map fun (cs, after) =>
          (single :: cs, after)
      | none, none => none
    | _, _ => none
  | '\\' :: 'u' :: a :: b :: c :: d :: rest =>
    match (readHex? [a, b, c, d]).bind (ofUnits · none) with
    | some single => (stringBody rest).map fun (cs, after) => (single :: cs, after)
    | none => none
  | '\\' :: c :: rest =>
    match simpleEscape? c with
    | some plain => (stringBody rest).map fun (cs, after) => (plain :: cs, after)
    | none => none
  | c :: rest =>
    if c.toNat < 32 || c = '\\' then none
    else (stringBody rest).map fun (cs, after) => (c :: cs, after)

def isAsciiDigit (c : Char) : Bool := '0' ≤ c && c ≤ '9'

def natOfDigits (cs : List Char) : Nat := cs.foldl (fun n c => 10 * n + (c.toNat - 48)) 0

/-- The digits after a point, if there is one. -/
def fractionPart : List Char → Option (List Char) × List Char
  | '.' :: rest =>
    match rest.takeWhile isAsciiDigit with
    | [] => (none, '.' :: rest)
    | digits => (some digits, rest.dropWhile isAsciiDigit)
  | rest => (none, rest)

/-- The exponent after an `e`, if there is one. -/
def exponentPart (cs : List Char) : Option Int × List Char :=
  match cs with
  | e :: rest =>
    if e = 'e' || e = 'E' then
      let (negative, body) := match rest with
        | '-' :: body => (true, body)
        | '+' :: body => (false, body)
        | body => (false, body)
      match body.takeWhile isAsciiDigit with
      | [] => (none, cs)
      | digits =>
        let size : Int := natOfDigits digits
        (some (if negative then -size else size), body.dropWhile isAsciiDigit)
    else (none, cs)
  | [] => (none, [])

def number (cs : List Char) : Option (Json × List Char) :=
  let (negative, body) := match cs with
    | '-' :: body => (true, body)
    | body => (false, body)
  match body.takeWhile isAsciiDigit with
  | [] => none
  | whole =>
    if whole.length ≠ 1 ∧ whole.head? = some '0' then none
    else
      let (fraction, rest) := fractionPart (body.dropWhile isAsciiDigit)
      let (exponent, rest) := exponentPart rest
      match fraction, exponent with
      | none, none =>
        let size : Int := natOfDigits whole
        some (.int (if negative then -size else size), rest)
      | _, _ =>
        let decimals := fraction.getD []
        some (.float (Binary64.ofDecimal negative (natOfDigits (whole ++ decimals))
          (exponent.getD 0 - decimals.length)), rest)

mutual

def value : Nat → List Char → Option (Json × List Char)
  | 0, _ => none
  | fuel + 1, cs =>
    match skipSpace cs with
    | 'n' :: 'u' :: 'l' :: 'l' :: rest => some (.null, rest)
    | 't' :: 'r' :: 'u' :: 'e' :: rest => some (.bool true, rest)
    | 'f' :: 'a' :: 'l' :: 's' :: 'e' :: rest => some (.bool false, rest)
    | '"' :: rest => (stringBody rest).map fun (s, after) => (.string (String.ofList s), after)
    | '[' :: rest =>
      match skipSpace rest with
      | ']' :: after => some (.array [], after)
      | _ => (elements fuel rest).map fun (items, after) => (.array items, after)
    | '\x7b' :: rest =>
      match skipSpace rest with
      | '\x7d' :: after => some (.object [], after)
      | _ => (members fuel rest).map fun (fields, after) => (.object (Keyed.ofPairs fields), after)
    | other => number other

/-- The items of a list from the first on, up to the closing bracket. -/
def elements : Nat → List Char → Option (List Json × List Char)
  | 0, _ => none
  | fuel + 1, cs =>
    match value fuel cs with
    | none => none
    | some (item, rest) =>
      match skipSpace rest with
      | ',' :: rest => (elements fuel rest).map fun (items, after) => (item :: items, after)
      | ']' :: after => some ([item], after)
      | _ => none

/-- The fields of an object from the first on, up to the closing bracket. -/
def members : Nat → List Char → Option (List (String × Json) × List Char)
  | 0, _ => none
  | fuel + 1, cs =>
    match skipSpace cs with
    | '"' :: rest =>
      match stringBody rest with
      | none => none
      | some (key, rest) =>
        match skipSpace rest with
        | ':' :: rest =>
          match value fuel rest with
          | none => none
          | some (item, rest) =>
            match skipSpace rest with
            | ',' :: rest =>
              (members fuel rest).map fun (fields, after) =>
                ((String.ofList key, item) :: fields, after)
            | '\x7d' :: after => some ([(String.ofList key, item)], after)
            | _ => none
        | _ => none
    | _ => none

end

/-- The value that a whole text stands for. -/
def parse? (text : String) : Option Json :=
  let cs := text.toList
  match value (cs.length + 1) cs with
  | some (result, rest) => if skipSpace rest = [] then some result else none
  | none => none

end Json

end ScriptLint
