/-
The registry: the configured rules of one run.

Registering a rule again replaces its entry and keeps its place. A call that is
refused changes nothing, and a frozen registry refuses all (`register_frozen`).
-/
import ScriptLint.Config.Basic

namespace ScriptLint

structure Registry where
  catalog : Catalog
  entries : Keyed ActiveRule := []
  frozen : Bool := false

namespace Registry

def empty (catalog : Catalog) : Registry := { catalog }

/-- Adds or replaces the entry of a rule; `level` is its severity as written. -/
def register (registry : Registry) (id : String) (level options : Json) :
    Except SetupError Registry :=
  if registry.frozen then .error (.config (.frozen id))
  else
    match Keyed.get? id registry.catalog with
    | none => .error (.config (.unknownRule id))
    | some rule =>
      match Severity.parse level with
      | .error error => .error error
      | .ok severity =>
        match rule.checkOptions options with
        | .error error => .error error
        | .ok options =>
          .ok { registry with entries := Keyed.set id ⟨rule, severity, options⟩ registry.entries }

def freeze (registry : Registry) : Registry := { registry with frozen := true }

def severityOf (registry : Registry) (id : String) : Severity :=
  match Keyed.get? id registry.entries with
  | some entry => entry.severity
  | none => .off

/-- The rules that are not off, in order of first registration. -/
def activeRules (registry : Registry) : List ActiveRule :=
  (Keyed.values registry.entries).filter (·.severity ≠ .off)

def registerEntries : Registry → List (String × Json) → Except SetupError Registry
  | registry, [] => .ok registry
  | registry, (id, entry) :: rest =>
    match parseEntry entry with
    | .error error => .error error
    | .ok (severity, options) =>
      match registry.register id (.string severity.name) options with
      | .error error => .error error
      | .ok registry => registerEntries registry rest

/-- Registers every rule of a configuration and freezes the result. -/
def build (catalog : Catalog) (config : Config) : Except SetupError Registry :=
  (registerEntries (empty catalog) config.rules).map freeze

theorem register_frozen {registry : Registry} (h : registry.frozen = true) (id : String)
    (level options : Json) :
    registry.register id level options = .error (.config (.frozen id)) := by
  simp [register, h]

end Registry

end ScriptLint
