/-
Reading patterns. A text is read from left to right, and its first fault counts: it is no pattern,
or a quantifier has a count past `countLimit`. What can only be told at the end comes last: a flag
that excludes another one, a condition on a group that there is not, what is looked for behind
without being of one width.

All forms of patterns over text are read: sets, classes and escapes, also by the names of
characters, greedy, lazy and possessive quantifiers, groups with and without names, references,
conditions, what is looked for ahead and behind, what is committed to, comments, and flags for the
whole pattern or for a group. Left out are warnings, and limits on how deeply groups may stand in
one another.

Every step takes at least one character, so the length of the text bounds the depth.
-/
import ScriptLint.Pattern.Basic
import ScriptLint.Text.CharacterNames
import ScriptLint.Text.Identifiers

namespace ScriptLint

namespace Pattern

/-- Why a text is not read as a pattern. -/
inductive Fault where
  | malformed
  | countTooLarge
  deriving Repr, DecidableEq

/-- A character, or a backslash and the character after it. -/
inductive Token where
  | plain (c : Char)
  | escaped (c : Char)
  /-- A backslash that nothing comes after. -/
  | stray
  deriving Repr, DecidableEq

def tokens : List Char → List Token
  | [] => []
  | '\\' :: [] => [.stray]
  | '\\' :: c :: rest => .escaped c :: tokens rest
  | c :: rest => .plain c :: tokens rest

def Token.chars : Token → List Char
  | .plain c => [c]
  | .escaped c => ['\\', c]
  | .stray => ['\\']

/-- How many characters a pattern matches: at least, and at most if there is a limit. -/
structure Width where
  least : Nat
  most : Option Nat
  deriving Repr, DecidableEq

namespace Width

def none : Width := ⟨0, some 0⟩

def one : Width := ⟨1, some 1⟩

def add (a b : Width) : Width :=
  ⟨a.least + b.least, a.most.bind fun m => b.most.map (m + ·)⟩

def either (a b : Width) : Width :=
  ⟨min a.least b.least, a.most.bind fun m => b.most.map (max m)⟩

/-- Numbers of rounds. No rounds, and rounds that match nothing, have no width, however many there may be. -/
def times (width : Width) (least : Nat) (most : Option Nat) : Width where
  least := least * width.least
  most :=
    if width.most = some 0 ∨ most = some 0 then some 0 else width.most.bind fun m => most.map (m * ·)

end Width

/-- What a quantifier may follow. -/
inductive Role where
  | repeatable
  | place
  | repetition
  deriving Repr, DecidableEq

/-- A part of a pattern. -/
structure Part where
  pattern : Pattern
  width : Width
  role : Role
  deriving Repr, DecidableEq

namespace Part

def sized (width : Width) (pattern : Pattern) : Part := ⟨pattern, width, .repeatable⟩

/-- A part that matches one character. -/
def unit (pattern : Pattern) : Part := sized .one pattern

def place (spot : Spot) : Part := ⟨.place spot, .none, .place⟩

def empty : Part := sized .none .empty

/-- Parts one after another, given from the last to the first. -/
def joined (parts : List Part) : Part :=
  parts.foldl (fun after part => sized (part.width.add after.width) (.seq part.pattern after.pattern)) empty

def either (a b : Part) : Part := sized (a.width.either b.width) (.alt a.pattern b.pattern)

end Part

/-- What is still to be read, and what the whole pattern is known to have so far. -/
structure Scan where
  tokens : List Token
  /-- The flags of the whole pattern, by their letters. Case is ignored from the start. -/
  flags : List Char := ['i']
  /-- The groups in the order in which they begin, those that have ended with their widths. -/
  groups : List (Option Width) := []
  names : List (List Char × Nat) := []
  /-- Inside of what is looked for behind, how many groups had begun before it. -/
  behind : Option Nat := none
  /-- The groups that conditions ask for by number. -/
  asked : List Nat := []
  repeats : Bool := false
  /-- Something is looked for behind that is not of one width, or too far off. -/
  uneven : Bool := false
  deriving Repr, DecidableEq

abbrev Scanner := StateT Scan (Except Fault)

namespace Scanner

def malformed {α : Type} : Scanner α := throw .malformed

def require (holds : Bool) : Scanner Unit := if holds then pure () else malformed

def moveTo (tokens : List Token) : Scanner Unit := do
  require (tokens.head? ≠ some .stray)
  modify ({ · with tokens })

def next? : Scanner (Option Token) := do
  match (← get).tokens with
  | [] => return none
  | token :: rest =>
    moveTo rest
    return some token

def isNext (c : Char) : Scanner Bool := return (← get).tokens.head? = some (.plain c)

/-- Takes a character if it comes next. -/
def accept (c : Char) : Scanner Bool := do
  let found ← isNext c
  if found then moveTo ((← get).tokens.drop 1)
  return found

def plainRun (test : Char → Bool) : List Token → List Char
  | .plain c :: rest => if test c then c :: plainRun test rest else []
  | _ => []

/-- The characters that meet a test, up to a number of them. -/
def takeUpTo (most : Nat) (test : Char → Bool) : Scanner (List Char) := do
  let tokens := (← get).tokens
  let run := (plainRun test tokens).take most
  moveTo (tokens.drop run.length)
  return run

def takeRun (test : Char → Bool) : Scanner (List Char) := do takeUpTo (← get).tokens.length test

/-- A name up to a character that ends it. -/
def nameUntil (stop : Char) : Scanner (List Char) := do
  let tokens := (← get).tokens
  let name := tokens.takeWhile (· ≠ .plain stop)
  require (name ≠ [] && name.length < tokens.length)
  moveTo (tokens.drop (name.length + 1))
  return name.flatMap Token.chars

/-- Leaves out what stands on the rest of a line. -/
def skipLine : Scanner Unit := do
  let tokens := (← get).tokens
  let line := tokens.takeWhile (· ≠ .plain '\n')
  require (!line.contains .stray)
  moveTo (tokens.drop (line.length + 1))

end Scanner

open Scanner

def isAsciiDigit (c : Char) : Bool := '0' ≤ c && c ≤ '9'

def isOctal (c : Char) : Bool := '0' ≤ c && c ≤ '7'

def natOfDigits (base : Nat) (cs : List Char) : Nat :=
  cs.foldl (fun n c => base * n + (c.toNat - 48)) 0

/-! ## Flags -/

def foldOf (flags : List Char) : Fold :=
  if flags.contains 'i' then if flags.contains 'a' then .ascii else .unicode else .exact

/-- Flags after some are set and some are taken away. Of the ones that say what a letter is, one is set. -/
def changeFlags (flags on off : List Char) : List Char :=
  let exclusive := ['a', 'u']
  let kept := if on.any exclusive.contains then flags.filter (!exclusive.contains ·) else flags
  (kept ++ on).filter (!off.contains ·)

def isLayout (c : Char) : Bool := [' ', '\t', '\n', '\r', Char.ofNat 11, Char.ofNat 12].contains c

/-! ## Escapes and sets -/

/-- What an escape stands for in a set and outside: a code point or a class. -/
inductive Escape where
  | char (code : Nat)
  | cls (cls : CharClass) (negated : Bool)
  deriving Repr, DecidableEq

/-- A code point given by a number of hexadecimal digits. -/
def hexEscape (width : Nat) : Scanner Escape := do
  let digits ← takeUpTo width fun c => (hexValue? c).isSome
  match readHex? digits with
  | some code =>
    require (digits.length = width && code ≤ 0x10ffff)
    return .char code
  | none => malformed

/-- A character given by its name in braces. -/
def nameEscape : Scanner Escape := do
  require (← accept '\x7b')
  match characterNamed? (← nameUntil '\x7d') with
  | some code => return .char code
  | none => malformed

def octalEscape (digits : List Char) : Scanner Escape := do
  require (natOfDigits 8 digits ≤ 0o377)
  return .char (natOfDigits 8 digits)

def escape (c : Char) : Scanner Escape :=
  match c with
  | 'd' => return .cls .digit false
  | 'D' => return .cls .digit true
  | 's' => return .cls .space false
  | 'S' => return .cls .space true
  | 'w' => return .cls .word false
  | 'W' => return .cls .word true
  | 'a' => return .char 7
  | 'f' => return .char 12
  | 'n' => return .char 10
  | 'r' => return .char 13
  | 't' => return .char 9
  | 'v' => return .char 11
  | 'x' => hexEscape 2
  | 'u' => hexEscape 4
  | 'U' => hexEscape 8
  | 'N' => nameEscape
  | c => do
    require (!c.isAlphanum)
    return .char c.toNat

/-- One member of a set. -/
def setMember : Token → Scanner Escape
  | .plain c => return .char c.toNat
  | .escaped 'b' => return .char 8
  | .escaped c => do
    if isOctal c then octalEscape (c :: (← takeUpTo 2 isOctal)) else escape c
  | .stray => malformed

def Escape.item (flags : List Char) : Escape → SetItem
  | .char code => .char code
  | .cls kind negated => .cls kind (flags.contains 'a') negated

/-- The items of a set up to the closing bracket, which is a plain character when it comes first. -/
def setItems (flags : List Char) : Nat → List SetItem → Scanner (List SetItem)
  | 0, _ => malformed
  | fuel + 1, items => do
    match ← next? with
    | none => malformed
    | some token =>
      if token = .plain ']' ∧ items ≠ [] then return items.reverse
      let low ← setMember token
      if ← accept '-' then
        match ← next? with
        | none => malformed
        | some (.plain ']') => return (.char '-'.toNat :: low.item flags :: items).reverse
        | some token =>
          match low, ← setMember token with
          | .char first, .char last =>
            require (first ≤ last)
            setItems flags fuel (.range first last :: items)
          | _, _ => malformed
      else setItems flags fuel (low.item flags :: items)

def setPart (flags : List Char) : Scanner Part := do
  let negated ← accept '^'
  let items ← setItems flags ((← get).tokens.length + 1) []
  return .unit (.set (foldOf flags) negated items)

/-! ## Groups -/

/-- The width of a group that has ended. -/
def widthOf? (number : Nat) : Scanner (Option Width) := return ((← get).groups[number - 1]?).join

/-- Inside of what is looked for behind, only groups from before it may be referred to. -/
def requireBefore (number : Nat) : Scanner Unit := do
  match (← get).behind with
  | some count => require ((← widthOf? number).isSome && number ≤ count)
  | none => pure ()

/-- What a group has matched, once more. -/
def reference (flags : List Char) (number : Nat) : Scanner Part := do
  match ← widthOf? number with
  | some width =>
    requireBefore number
    return .sized width (.again (foldOf flags) number)
  | none => malformed

/-- What a backslash and a digit begin: an octal number that has a leading zero or three digits, or the
number of a group. -/
def digitPart (flags : List Char) (c : Char) : Scanner Part := do
  let octal (digits : List Char) : Scanner Part := do
    match ← octalEscape digits with
    | .char code => return .unit (.char (foldOf flags) code)
    | .cls _ _ => malformed
  if c = '0' then octal (c :: (← takeUpTo 2 isOctal))
  else
    let digits := c :: (← takeUpTo 1 isAsciiDigit)
    let last ← takeUpTo (if digits.length = 2 && digits.all isOctal then 1 else 0) isOctal
    if last = [] then reference flags (natOfDigits 10 digits) else octal (digits ++ last)

/-- What a backslash and a character stand for outside of a set. -/
def escapedPart (flags : List Char) (c : Char) : Scanner Part := do
  match c with
  | 'A' => return .place .textStart
  | 'Z' => return .place .textEnd
  | 'b' => return .place (.boundary (flags.contains 'a') false)
  | 'B' => return .place (.boundary (flags.contains 'a') true)
  | c =>
    if isAsciiDigit c then digitPart flags c
    else
      match ← escape c with
      | .char code => return .unit (.char (foldOf flags) code)
      | .cls kind negated => return .unit (.set .exact negated [.cls kind (flags.contains 'a') false])

/-- What an opening bracket begins. -/
inductive Opening where
  | comment
  /-- Flags for the whole pattern. -/
  | flags (on : List Char)
  | again (number : Nat)
  | ifGroup (number : Nat)
  | look (behind wanted : Bool)
  | commit
  /-- A group without a number, and the flags that are set in it and taken away. -/
  | plain (on off : List Char)
  | capture (name : Option (List Char))
  deriving Repr, DecidableEq

def isFlag (c : Char) : Bool := ['i', 'L', 'm', 's', 'x', 'a', 't', 'u'].contains c

/-- What a flag or a minus sign after an opening bracket begins. -/
def flagOpening (first : Char) : Scanner Opening := do
  let (on, stop) ←
    if first = '-' then pure ([], some (.plain '-'))
    else
      let more ← takeRun isFlag
      pure (first :: more, ← next?)
  require (!on.contains 'L' && !(on.contains 'a' && on.contains 'u'))
  match stop with
  | some (.plain ')') => return .flags on
  | some (.plain ':') =>
    require (!on.contains 't')
    return .plain on []
  | some (.plain '-') =>
    let off ← takeRun isFlag
    require (!on.contains 't' && off ≠ [] && !off.any ['a', 'L', 'u', 't'].contains && !off.any on.contains)
    require (← accept ':')
    return .plain on off
  | _ => malformed

/-- Blanks that may stand around a number. -/
def isNumberBlank (c : Char) : Bool := isBlank c && !(28 ≤ c.toNat && c.toNat ≤ 31)

/-- A number in digits, between which there may be single underscores. -/
def groupNumber? (text : List Char) : Option Nat :=
  let digits := match Chars.stripWhere isNumberBlank text with
    | '+' :: digits => digits
    | digits => digits
  let pieces := Chars.splitOn '_' digits
  if pieces.contains [] || digitLimit < pieces.flatten.length then none else readDecimal? pieces.flatten

/-- The first number that no group can have. -/
def groupLimit : Nat := 1073741823

/-- The group that a condition asks for, by name or by number. -/
def condition : Scanner Nat := do
  let text ← nameUntil ')'
  let number ←
    if isIdentifier text then
      match (← get).names.lookup text with
      | some number => pure number
      | none => malformed
    else
      match groupNumber? text with
      | some number => do
        require (number ≠ 0 && number < groupLimit)
        modify fun scan => { scan with asked := number :: scan.asked }
        pure number
      | none => malformed
  requireBefore number
  return number

/-- What a mark for further forms of groups begins. -/
def namedOpening : Scanner Opening := do
  if ← accept '<' then
    let name ← nameUntil '>'
    require (isIdentifier name)
    return .capture (some name)
  else
    require (← accept '=')
    match (← get).names.lookup (← nameUntil ')') with
    | some number => return .again number
    | none => malformed

def opening : Scanner Opening := do
  if !(← accept '?') then return .capture none
  match ← next? with
  | some (.plain 'P') => namedOpening
  | some (.plain ':') => return .plain [] []
  | some (.plain '#') =>
    let tokens := (← get).tokens
    let comment := tokens.takeWhile (· ≠ .plain ')')
    require (comment.length < tokens.length)
    moveTo (tokens.drop (comment.length + 1))
    return .comment
  | some (.plain '=') => return .look false true
  | some (.plain '!') => return .look false false
  | some (.plain '<') =>
    if ← accept '=' then return .look true true
    require (← accept '!')
    return .look true false
  | some (.plain '(') => return .ifGroup (← condition)
  | some (.plain '>') => return .commit
  | some (.plain c) =>
    require (isFlag c || c = '-')
    flagOpening c
  | _ => malformed

/-- Begins a group and gives its number. -/
def enterGroup (name : Option (List Char)) : Scanner Nat := do
  let scan ← get
  let number := scan.groups.length + 1
  require (name.all fun name => (scan.names.lookup name).isNone)
  modify fun scan => { scan with
    groups := scan.groups ++ [none]
    names := (name.map (·, number)).toList ++ scan.names }
  return number

/-- Ends a group. -/
def leaveGroup (number : Nat) (body : Part) : Scanner Part := do
  modify fun scan => { scan with groups := scan.groups.set (number - 1) (some body.width) }
  return .sized body.width (.group number body.pattern)

/-- How far behind something can be looked for. -/
def behindLimit : Nat := 0xffffffff

/-- What is looked for. Behind a place it has to be of one width. -/
def lookPart (behind wanted : Bool) (body : Part) : Scanner Part := do
  let even := body.width.most = some body.width.least && body.width.least ≤ behindLimit
  if behind && !even then modify ({ · with uneven := true })
  return .sized .none (.look (if behind then some body.width.least else none) wanted body.pattern)

/-! ## Quantifiers -/

/-- The first number of rounds that a quantifier cannot ask for. -/
def countLimit : Nat := 0xffffffff

def count (digits : List Char) : Scanner Nat := do
  require (digits.length ≤ digitLimit)
  if countLimit ≤ natOfDigits 10 digits then throw .countTooLarge
  return natOfDigits 10 digits

/-- The least and the most rounds between braces. Without such numbers a brace is a plain character. -/
def counts? : Scanner (Option (Nat × Option Nat)) := do
  let start := (← get).tokens
  if ← isNext '\x7d' then return none
  let low ← takeRun isAsciiDigit
  let high ← if ← accept ',' then takeRun isAsciiDigit else pure low
  if ← accept '\x7d' then
    let least ← if low = [] then pure 0 else count low
    let most ← if high = [] then pure none else some <$> count high
    require (!most.any (· < least))
    return some (least, most)
  else
    moveTo start
    return none

/-- The least and the most rounds that a character asks for, with what stands after it. -/
def rounds? (c : Char) : Scanner (Option (Nat × Option Nat)) :=
  match c with
  | '*' => return some (0, none)
  | '+' => return some (1, none)
  | '?' => return some (0, some 1)
  | '\x7b' => counts?
  | _ => return none

def manner : Scanner Manner := do
  if ← accept '?' then return .lazy
  if ← accept '+' then return .possessive
  return .greedy

/-- Has the last part repeated. -/
def repeated (least : Nat) (most : Option Nat) : List Part → Scanner (List Part)
  | [] => malformed
  | part :: parts => do
    require (part.role = .repeatable)
    let manner ← manner
    modify ({ · with repeats := true })
    return ⟨.times part.pattern least most manner, part.width.times least most, .repetition⟩ :: parts

/-! ## Whole patterns -/

/-- A character that begins neither a group nor a quantifier. -/
def plainPart (flags : List Char) (c : Char) : Scanner Part :=
  match c with
  | '[' => setPart flags
  | '.' => return .unit (.any (flags.contains 's'))
  | '^' => return .place (if flags.contains 'm' then .lineStart else .textStart)
  | '$' => return .place (if flags.contains 'm' then .lineEnd else .lastLineEnd)
  | c => return .unit (.char (foldOf flags) c.toNat)

mutual

/-- Branches between bars. -/
def branches : Nat → List Char → Bool → Scanner Part
  | 0, _, _ => malformed
  | fuel + 1, flags, outermost => do
    let first ← branch fuel flags outermost []
    if ← accept '|' then return first.either (← furtherBranches fuel flags outermost) else return first

/-- Branches after the first one. Outside of all groups they have the flags of the whole pattern. -/
def furtherBranches : Nat → List Char → Bool → Scanner Part
  | 0, _, _ => malformed
  | fuel + 1, flags, outermost => do
    let current := (← get).flags
    let next ← branch fuel (if outermost then current else flags) false []
    if ← accept '|' then return next.either (← furtherBranches fuel flags outermost) else return next

/-- A branch after the parts that have been read of it. Only at the start may flags of the whole pattern be set. -/
def branch : Nat → List Char → Bool → List Part → Scanner Part
  | 0, _, _, _ => malformed
  | fuel + 1, flags, atStart, parts => do
    if (← get).tokens = [] ∨ (← isNext '|') ∨ (← isNext ')') then return .joined parts
    match ← next? with
    | some (.escaped c) => branch fuel flags atStart ((← escapedPart flags c) :: parts)
    | some (.plain c) =>
      if flags.contains 'x' && isLayout c then branch fuel flags atStart parts
      else if flags.contains 'x' && c = '#' then
        skipLine
        branch fuel flags atStart parts
      else if c = '(' then
        match ← opening with
        | .comment => branch fuel flags atStart parts
        | .flags on =>
          require (atStart && parts.isEmpty)
          modify fun scan => { scan with flags := scan.flags ++ on }
          branch fuel (flags ++ on) atStart parts
        | .again number => branch fuel flags atStart ((← reference flags number) :: parts)
        | form => branch fuel flags atStart ((← groupPart fuel flags form) :: parts)
      else
        match ← rounds? c with
        | some (least, most) => branch fuel flags atStart (← repeated least most parts)
        | none => branch fuel flags atStart ((← plainPart flags c) :: parts)
    | _ => malformed

/-- A group up to the bracket that closes it. -/
def groupPart : Nat → List Char → Opening → Scanner Part
  | 0, _, _ => malformed
  | fuel + 1, flags, opening => do
    match opening with
    | .ifGroup number =>
      let yes ← branch fuel flags false []
      let no ← if ← accept '|' then branch fuel flags false [] else pure .empty
      require (← accept ')')
      return .sized (yes.width.either no.width) (.ifGroup number yes.pattern no.pattern)
    | .look behind wanted =>
      let outer := (← get).behind
      if behind then modify fun scan => { scan with behind := outer.or (some scan.groups.length) }
      let body ← branches fuel flags false
      modify ({ · with behind := outer })
      require (← accept ')')
      lookPart behind wanted body
    | .commit =>
      let body ← branches fuel flags false
      require (← accept ')')
      return .sized body.width (.commit body.pattern)
    | .plain on off =>
      let body ← branches fuel (changeFlags flags on off) false
      require (← accept ')')
      return .sized body.width body.pattern
    | .capture name =>
      let number ← enterGroup name
      let body ← branches fuel flags false
      require (← accept ')')
      leaveGroup number body
    | _ => malformed

end

/-- What can only be told when a whole pattern has been read. -/
def Scan.isComplete (scan : Scan) : Bool :=
  scan.tokens = [] && scan.asked.all (· ≤ scan.groups.length) && !scan.uneven &&
    !(scan.flags.contains 'a' && scan.flags.contains 'u') && !(scan.flags.contains 't' && scan.repeats)

def whole : Scanner Pattern := do
  let scan ← get
  moveTo scan.tokens
  let body ← branches (3 * scan.tokens.length + 4) scan.flags true
  require (← get).isComplete
  return body.pattern

/-- Reads a whole text as a pattern. -/
def read (text : String) : Except Fault Pattern :=
  (StateT.run whole { tokens := tokens text.toList }).map (·.1)

example : read "(?<=a+)b" = .error .malformed := by cbv

example : read "(?=a\x7b4294967295\x7d)" = .error .countTooLarge := by cbv

/-- The pattern that a whole text stands for. -/
def parse? (text : String) : Option Pattern := (read text).toOption

end Pattern

end ScriptLint
