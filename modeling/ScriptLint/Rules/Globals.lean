/-
Uses of global variables that the configuration names.
-/
import ScriptLint.Rule.Basic

namespace ScriptLint

namespace Rules

/-- Browser globals that are easy to use by accident in place of a local. -/
def confusingBrowserGlobals : List String :=
  ["addEventListener", "blur", "close", "closed", "confirm", "defaultStatus", "defaultstatus",
   "event", "external", "find", "focus", "frameElement", "frames", "history", "innerHeight",
   "innerWidth", "length", "location", "locationbar", "menubar", "moveBy", "moveTo", "name",
   "onblur", "onerror", "onfocus", "onload", "onresize", "onunload", "open", "opener", "opera",
   "outerHeight", "outerWidth", "pageXOffset", "pageYOffset", "parent", "print",
   "removeEventListener", "resizeBy", "resizeTo", "screen", "screenLeft", "screenTop", "screenX",
   "screenY", "scroll", "scrollbars", "scrollBy", "scrollTo", "scrollX", "scrollY", "self",
   "status", "statusbar", "stop", "toolbar", "top"]

def restrictedGlobals : RuleOptions → List RestrictedGlobal
  | .restricted globals => globals
  | _ => []

/-- The entry for a name; of several, the last. -/
def restriction? (globals : List RestrictedGlobal) (name : String) : Option RestrictedGlobal :=
  globals.reverse.find? (·.name = name)

def restrictionMessage (entry : RestrictedGlobal) : String :=
  let plain := s!"Unexpected use of '{entry.name}'."
  match entry.message with
  | none => plain
  | some "" => plain
  | some more => plain ++ " " ++ more

def checkGlobals : Handler := fun _ ctx =>
  match restrictedGlobals ctx.options with
  | [] => []
  | globals =>
    match ctx.scopes with
    | .error failure => [.failed failure]
    | .ok table =>
      table.unresolved.filterMap fun reference =>
        (restriction? globals reference.name).map fun entry =>
          ctx.report reference.identifier (restrictionMessage entry)

def noRestrictedGlobals : Rule where
  id := "no-restricted-globals"
  name := "Restricted globals"
  description :=
    "Some browser globals shadow a local the code almost certainly meant, such as a handler's " ++
      "event."
  readOptions := some Reading.readRestricted
  visitors := [(.leaving "program", checkGlobals)]

end Rules

end ScriptLint
