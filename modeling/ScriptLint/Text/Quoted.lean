/-
Quoted text for messages: a text between quotes, with backslash escapes for the
quote, the backslash and every character that cannot be shown as it is.
-/
import ScriptLint.Text.Hex
import ScriptLint.Text.Printable

namespace ScriptLint

namespace Quoted

/-- Single quotes, unless the text has single quotes and no double ones. -/
def quoteFor (cs : List Char) : Char :=
  if '\'' ∈ cs ∧ '"' ∉ cs then '"' else '\''

def escape (quote c : Char) : List Char :=
  if c = quote ∨ c = '\\' then ['\\', c]
  else if c = '\n' then ['\\', 'n']
  else if c = '\r' then ['\\', 'r']
  else if c = '\t' then ['\\', 't']
  else if isPrintable c then [c]
  else if c.toNat < 0x100 then '\\' :: 'x' :: hexDigits 2 c.toNat
  else if c.toNat < 0x10000 then '\\' :: 'u' :: hexDigits 4 c.toNat
  else '\\' :: 'U' :: hexDigits 8 c.toNat

def chars (cs : List Char) : List Char :=
  let quote := quoteFor cs
  quote :: cs.flatMap (escape quote) ++ [quote]

end Quoted

def quoted (s : String) : String := String.ofList (Quoted.chars s.toList)

end ScriptLint
