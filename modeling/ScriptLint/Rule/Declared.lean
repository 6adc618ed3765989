/-
Rules written down as data: which nodes they look at, under which conditions,
and what they report there.

`toRule` gives the rule that such a description stands for. Items are produced
one after another, so what comes before a failing item has been produced before
the call fails.
-/
import ScriptLint.Rules.Catalog

namespace ScriptLint

namespace Declared

/-- An edit relative to the node that a rule looks at. -/
inductive Edit where
  | replace (text : String)
  | remove
  | insertAfter (text : String)
  /-- Replaces a range counted from the start of the node. -/
  | range (start stop : Int) (text : String)
  deriving Repr, DecidableEq

inductive Item where
  | report (message : String) (edits : List Edit)
  /-- A finding without a node kind, as rules build by hand. -/
  | direct (message : String) (severity : Severity)
  | giveUp (message : String)
  /-- A value where a finding belongs. -/
  | junk (value : Json)
  deriving Repr

inductive Condition where
  | text (text : String)
  /-- Fewer than so many ancestors are of a kind. -/
  | fewerAncestors (kind : String) (count : Nat)
  deriving Repr, DecidableEq

structure Action where
  conditions : List Condition := []
  items : List Item
  deriving Repr

/-- The name of what a value is, for the message about it. -/
def typeName : Json → String
  | .null => "NoneType"
  | .bool _ => "bool"
  | .int _ => "int"
  | .float _ => "float"
  | .string _ => "str"
  | .array _ => "list"
  | .object _ => "dict"

/-- The mark in texts that stands for the text of the node. -/
def textMark : List Char := ['\x7b', 't', 'e', 'x', 't', '\x7d']

/-- Puts a text in place of every mark. -/
def fill (text : List Char) : List Char → List Char
  | '\x7b' :: 't' :: 'e' :: 'x' :: 't' :: '\x7d' :: rest => text ++ fill text rest
  | c :: rest => c :: fill text rest
  | [] => []

def fillIn (ctx : Context) (node : Node) (template : String) : String :=
  String.ofList (fill (ctx.text node).toList template.toList)

def Condition.holds (ctx : Context) (node : Node) : Condition → Bool
  | .text wanted => ctx.text node == wanted
  | .fewerAncestors kind count => node.ancestors.countP (·.kind = kind) < count

/-- The fix that an edit asks for; none starts or ends before the file. -/
def Edit.fix (ctx : Context) (node : Node) : Edit → Except Failure Fix
  | .replace text => .ok (ctx.replace node (fillIn ctx node text))
  | .remove => .ok (ctx.remove node)
  | .insertAfter text => .ok (ctx.insertAfter node (fillIn ctx node text))
  | .range start stop text =>
    let first := node.start + start
    let last := node.start + stop
    if first < 0 then .error (.negativeOffset first)
    else if last < 0 then .error (.negativeOffset last)
    else .ok (ctx.replaceRange first.toNat last.toNat (fillIn ctx node text))

def fixesOf (ctx : Context) (node : Node) : List Edit → Except Failure (List Fix)
  | [] => .ok []
  | edit :: rest =>
    match edit.fix ctx node with
    | .error failure => .error failure
    | .ok fix => (fixesOf ctx node rest).map (fix :: ·)

def Item.emission (ctx : Context) (node : Node) : Item → Emission
  | .report message edits =>
    match fixesOf ctx node edits with
    | .error failure => .failed failure
    | .ok fixes => ctx.report node (fillIn ctx node message) fixes
  | .direct message severity =>
    .finding
      { rule := ctx.rule, severity, message := fillIn ctx node message, path := ctx.source.path
        span := ctx.source.spanOf node }
  | .giveUp message => .failed (.gaveUp (fillIn ctx node message))
  | .junk value => .failed (.notAFinding (typeName value))

def Action.handler (action : Action) : Handler := fun node ctx =>
  if action.conditions.all (·.holds ctx node) then action.items.map (·.emission ctx node) else []

end Declared

structure DeclaredRule where
  id : String
  description : String := ""
  fixable : Bool := false
  /-- Actions by key; a key names a node kind or all kinds, and possibly the exit phase. -/
  actions : List (String × Declared.Action)
  deriving Repr

/-- Of two actions with one key the later one counts. -/
def DeclaredRule.toRule (rule : DeclaredRule) : Rule where
  id := rule.id
  name := rule.id
  description := rule.description
  fixable := rule.fixable
  visitors := (Keyed.ofPairs rule.actions).map fun (key, action) =>
    (Trigger.ofKey key, action.handler)

/-- The built-in rules together with declared ones, which may replace them. -/
def Catalog.extended (rules : List DeclaredRule) : Catalog :=
  Catalog.ofRules (Rules.builtin ++ rules.map DeclaredRule.toRule)

end ScriptLint
