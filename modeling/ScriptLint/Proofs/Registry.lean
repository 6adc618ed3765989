/-
Registries as they come out of their histories.

A history is a list of calls, refused ones included; a refused call changes
nothing. Whatever the history, the entries have distinct names and each holds
the catalog's rule of its name (`coherent_replay`), so the rules that are active
are known, up to their order, from the severities and options of the entries
that are not off (`activeRules_perm`). The rules of a configuration are built in
or declared (`origin_of_build`).
-/
import Mathlib.Data.List.Nodup
import ScriptLint.Config.Registry
import ScriptLint.Rule.Declared

namespace ScriptLint

namespace Registry

/-! ## Histories -/

/-- A call on a registry. -/
inductive Request where
  | register (id : String) (level options : Json)
  | freeze

/-- The registry after a call; a refused call leaves it as it was. -/
def answer (registry : Registry) : Request → Registry
  | .register id level options =>
    match registry.register id level options with
    | .ok next => next
    | .error _ => registry
  | .freeze => registry.freeze

/-- The registry that calls lead to, one after another. -/
def replay (catalog : Catalog) (requests : List Request) : Registry :=
  requests.foldl answer (empty catalog)

/-- A rule is registered when the registry is not frozen, the catalog knows the rule, and its
severity and options can be read. -/
theorem register_eq_ok_iff {registry next : Registry} {id : String} {level options : Json} :
    registry.register id level options = .ok next ↔
      registry.frozen = false ∧ ∃ rule severity checked, Keyed.get? id registry.catalog = some rule ∧
        Severity.parse level = .ok severity ∧ rule.checkOptions options = .ok checked ∧
        next = { registry with entries := Keyed.set id ⟨rule, severity, checked⟩ registry.entries } := by
  constructor
  · intro h
    simp only [register] at h
    split at h
    · cases h
    next hfrozen =>
    split at h
    · cases h
    next rule hrule =>
    split at h
    · cases h
    next severity hseverity =>
    split at h
    · cases h
    next checked hchecked =>
    cases h
    exact ⟨by simpa using hfrozen, rule, severity, checked, hrule, hseverity, hchecked, rfl⟩
  · rintro ⟨hfrozen, rule, severity, checked, hrule, hseverity, hchecked, rfl⟩
    simp [register, hfrozen, hrule, hseverity, hchecked]

/-! ## What every history keeps -/

/-- The names of the entries are distinct and each entry is for the catalog's rule of its name. -/
structure Coherent (catalog : Catalog) (registry : Registry) : Prop where
  catalog_eq : registry.catalog = catalog
  nodup : (Keyed.keys registry.entries).Nodup
  rule : ∀ {id active}, Keyed.get? id registry.entries = some active →
    Keyed.get? id catalog = some active.rule

theorem coherent_empty (catalog : Catalog) : Coherent catalog (empty catalog) where
  catalog_eq := rfl
  nodup := List.nodup_nil
  rule h := by cases h

theorem Coherent.answer {catalog : Catalog} {registry : Registry} (h : Coherent catalog registry) :
    ∀ request, Coherent catalog (registry.answer request)
  | .freeze => ⟨h.catalog_eq, h.nodup, h.rule⟩
  | .register id level options => by
    simp only [Registry.answer]
    split
    · next next hnext =>
      obtain ⟨-, rule, severity, checked, hrule, -, -, rfl⟩ := register_eq_ok_iff.1 hnext
      refine ⟨h.catalog_eq, Keyed.nodup_keys_set h.nodup, fun {other active} hother => ?_⟩
      by_cases hid : other = id
      · subst hid
        rw [Keyed.get?_set_self] at hother
        cases hother
        rw [← h.catalog_eq, hrule]
      · rw [Keyed.get?_set_other hid] at hother
        exact h.rule hother
    · exact h

theorem coherent_foldl_answer {catalog : Catalog} : ∀ (requests : List Request) {registry : Registry},
    Coherent catalog registry → Coherent catalog (requests.foldl answer registry)
  | [], _, h => h
  | request :: requests, _, h => coherent_foldl_answer requests (h.answer request)

theorem coherent_replay (catalog : Catalog) (requests : List Request) :
    Coherent catalog (replay catalog requests) :=
  coherent_foldl_answer requests (coherent_empty catalog)

theorem coherent_registerEntries {catalog : Catalog} : ∀ {entries : List (String × Json)} {registry next : Registry},
    Coherent catalog registry → registerEntries registry entries = .ok next → Coherent catalog next
  | [], _, _, h, hnext => Except.ok.inj hnext ▸ h
  | (id, entry) :: _, registry, _, h, hnext => by
    simp only [registerEntries] at hnext
    split at hnext
    · cases hnext
    next severity options _ =>
    split at hnext
    · cases hnext
    next registered hregistered =>
    refine coherent_registerEntries ?_ hnext
    have hanswer := h.answer (.register id (.string severity.name) options)
    rwa [Registry.answer, hregistered] at hanswer

/-- The registry that a configuration builds is one that a history leads to. -/
theorem coherent_build {catalog : Catalog} {config : Config} {registry : Registry}
    (h : build catalog config = .ok registry) : Coherent catalog registry := by
  simp only [build] at h
  cases hregistered : registerEntries (empty catalog) config.rules with
  | error error =>
    rw [hregistered] at h
    cases h
  | ok registered =>
    rw [hregistered] at h
    cases h
    exact (coherent_registerEntries (coherent_empty catalog) hregistered).answer .freeze

/-! ## Active rules -/

/-- The severity and the options of an entry that is not off. -/
def configured? (registry : Registry) (id : String) : Option (Severity × RuleOptions) :=
  ((Keyed.get? id registry.entries).filter (·.severity ≠ .off)).map fun entry =>
    (entry.severity, entry.options)

theorem configured?_eq_some_iff {registry : Registry} {id : String} {severity : Severity}
    {options : RuleOptions} :
    registry.configured? id = some (severity, options) ↔
      ∃ entry, Keyed.get? id registry.entries = some entry ∧ entry.severity ≠ .off ∧
        entry.severity = severity ∧ entry.options = options := by
  simp [configured?, Option.filter_eq_some_iff, and_assoc]

/-- A rule is active when the catalog has it under a name whose entry is not off. -/
theorem Coherent.mem_activeRules_iff {catalog : Catalog} {registry : Registry}
    (h : Coherent catalog registry) {active : ActiveRule} :
    active ∈ registry.activeRules ↔ ∃ id, Keyed.get? id catalog = some active.rule ∧
      registry.configured? id = some (active.severity, active.options) := by
  simp only [activeRules, List.mem_filter, Keyed.values, List.mem_map, Prod.exists, configured?_eq_some_iff]
  constructor
  · rintro ⟨⟨id, entry, hentry, rfl⟩, hseverity⟩
    have hget := (Keyed.get?_eq_some_iff_mem h.nodup).2 hentry
    exact ⟨id, h.rule hget, entry, hget, by simpa using hseverity, rfl, rfl⟩
  · rintro ⟨id, hrule, entry, hget, hseverity, hsame, hoptions⟩
    have hrule' := h.rule hget
    rw [hrule] at hrule'
    obtain rfl : entry = active := by
      cases entry; cases active
      simp_all
    exact ⟨⟨id, entry, Keyed.mem_of_get?_eq_some hget, rfl⟩, by simpa using hseverity⟩

/-- In a catalog whose keys are the names of its rules, no two active rules share a name. -/
theorem Coherent.nodup_ids {catalog : Catalog} {registry : Registry} (h : Coherent catalog registry)
    (named : ∀ {id rule}, Keyed.get? id catalog = some rule → rule.id = id) :
    (registry.activeRules.map ActiveRule.id).Nodup := by
  have ids : (Keyed.values registry.entries).map ActiveRule.id = Keyed.keys registry.entries := by
    rw [Keyed.values, Keyed.keys, List.map_map]
    refine List.map_congr_left fun entry hentry => ?_
    exact named (h.rule ((Keyed.get?_eq_some_iff_mem h.nodup).2 hentry))
  have sub : ((Keyed.values registry.entries).filter (·.severity ≠ .off)).Sublist
      (Keyed.values registry.entries) := List.filter_sublist
  exact (sub.map ActiveRule.id).nodup (ids ▸ h.nodup)

/-- Histories that configure the same rules in the same way have the same active rules, in some
order. -/
theorem activeRules_perm {catalog : Catalog}
    (named : ∀ {id rule}, Keyed.get? id catalog = some rule → rule.id = id)
    {first second : List Request}
    (agree : ∀ id, (replay catalog first).configured? id = (replay catalog second).configured? id) :
    (replay catalog first).activeRules.Perm (replay catalog second).activeRules := by
  have hfirst := coherent_replay catalog first
  have hsecond := coherent_replay catalog second
  have distinct := (hfirst.nodup_ids named).of_map ActiveRule.id
  have distinct' := (hsecond.nodup_ids named).of_map ActiveRule.id
  refine (List.perm_ext_iff_of_nodup distinct distinct').2 fun active => ?_
  rw [hfirst.mem_activeRules_iff, hsecond.mem_activeRules_iff]
  simp only [agree]

/-! ## Where active rules come from -/

theorem mem_of_get?_ofRules {rules : List Rule} {id : String} {rule : Rule}
    (h : Keyed.get? id (Catalog.ofRules rules) = some rule) : rule ∈ rules := by
  obtain ⟨other, hother, heq⟩ := List.mem_map.1 (Keyed.mem_of_mem_ofPairs (Keyed.mem_of_get?_eq_some h))
  cases heq
  exact hother

/-- A configuration switches on built-in rules and declared ones. -/
theorem origin_of_build {declared : List DeclaredRule} {config : Config} {registry : Registry}
    (h : build (Catalog.extended declared) config = .ok registry) :
    ∀ active ∈ registry.activeRules,
      active.rule ∈ Rules.builtin ∨ ∃ source ∈ declared, source.toRule = active.rule := by
  intro active hactive
  obtain ⟨id, hrule, -⟩ := (coherent_build h).mem_activeRules_iff.1 hactive
  rcases List.mem_append.1 (mem_of_get?_ofRules hrule) with hbuiltin | hdeclared
  · exact .inl hbuiltin
  · exact .inr (List.mem_map.1 hdeclared)

end Registry

end ScriptLint
