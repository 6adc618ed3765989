/-
Rules about the shape of objects and patterns: computed keys that are plain
literals, patterns that bind nothing, and blanks around the dot of a property.
-/
import ScriptLint.Rule.Basic

namespace ScriptLint

namespace Rules

/-! ## Computed keys -/

/-- The literal in a computed key, with no other code around it. -/
def computedLiteral? (key : Node) : Option Node :=
  if key.kind = "computed_property_name" then
    match key.namedChildren with
    | [inner] => if inner.kind = "string" ∨ inner.kind = "number" then some inner else none
    | _ => none
  else none

/-- As a plain key, this name sets the prototype and defines no property. -/
def isPrototypeKey (literal : String) : Bool :=
  Chars.stripWhere (fun c => c = '\'' || c = '"') literal.toList = "__proto__".toList

def checkComputedKey : Handler := fun node ctx =>
  match node.childByField? "key" with
  | none => []
  | some key =>
    match computedLiteral? key with
    | none => []
    | some inner =>
      let literal := ctx.text inner
      if isPrototypeKey literal then []
      else
        let fixes :=
          if key.walk.any (·.kind = "comment") then [] else [ctx.replace key literal]
        [ctx.report node s!"Unnecessarily computed property [{literal}] found." fixes]

def noUselessComputedKey : Rule where
  id := "no-useless-computed-key"
  name := "No useless computed keys"
  description := "A computed key holding a plain literal is just that literal."
  fixable := true
  visitors := [(.entering "pair", checkComputedKey)]

/-! ## Empty patterns -/

def checkEmptyPattern (word : String) : Handler := fun node ctx =>
  if node.namedChildren.isEmpty then [ctx.report node s!"Unexpected empty {word} pattern."] else []

def noEmptyPattern : Rule where
  id := "no-empty-pattern"
  name := "No empty destructuring"
  description := "`const \x7b\x7d = x` binds nothing; it is usually a mistaken default value."
  visitors :=
    [(.entering "object_pattern", checkEmptyPattern "object"),
     (.entering "array_pattern", checkEmptyPattern "array")]

/-! ## Blanks around the dot -/

def dotKinds : List String := [".", "?.", "optional_chain"]

def isAsciiSpace (byte : UInt8) : Bool := (9 ≤ byte && byte ≤ 13) || byte == 32

/-- Whether bytes hold blanks and nothing else, and do not break the line. -/
def blankOnLine (bytes : Bytes) : Bool := bytes.all fun byte => isAsciiSpace byte && byte != newline

def checkDot : Handler := fun node ctx =>
  match node.childByField? "object", node.childByField? "property",
      node.children.find? (fun child => dotKinds.contains child.kind) with
  | some object, some property, some dot =>
    let before := ctx.source.bytes.slice object.stop dot.start
    let after := ctx.source.bytes.slice dot.stop property.start
    if blankOnLine before && blankOnLine after && !(before.isEmpty && after.isEmpty) then
      let fixes :=
        if object.kind = "number" then []
        else [ctx.replaceRange object.stop property.start (ctx.text dot)]
      [ctx.report node s!"Unexpected whitespace before property {ctx.text property}." fixes]
    else []
  | _, _, _ => []

def noWhitespaceBeforeProperty : Rule where
  id := "no-whitespace-before-property"
  name := "No whitespace before property"
  description := "Whitespace around the dot of a property access hurts readability."
  fixable := true
  visitors := [(.entering "member_expression", checkDot)]

end Rules

end ScriptLint
