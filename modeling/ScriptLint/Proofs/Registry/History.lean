/-
What a registry holds after any history of calls.

A call checks and writes one registry in place: it may give up after some of its
checks, and a caller that goes on has the registry as the call left it. Nothing
is written before the last check has passed, so a refused call leaves the
registry as it was (`perform_eq`). What is in a registry at the end is therefore
told by the calls that were accepted before it was frozen: the names in the order
of the first such call for each, and for every name what the last one for it said
(`Records`, kept by each call and so by every history).
-/
import Mathlib.Data.List.Induction
import ScriptLint.Proofs.Distinct
import ScriptLint.Proofs.Registry

namespace ScriptLint

namespace Registry

/-! ## Calls in place -/

/-- Goes on with a result or gives up. -/
def orGiveUp {α : Type} : Except SetupError α → EStateM SetupError Registry α
  | .ok x => pure x
  | .error error => throw error

/-- Registers a rule in place: checks one after another, then the write. -/
def registerInPlace (id : String) (level options : Json) : EStateM SetupError Registry Unit := do
  if (← get).frozen then throw (.config (.frozen id))
  match Keyed.get? id (← get).catalog with
  | none => throw (.config (.unknownRule id))
  | some rule =>
    let severity ← orGiveUp (Severity.parse level)
    let checked ← orGiveUp (rule.checkOptions options)
    modify fun registry => { registry with entries := Keyed.set id ⟨rule, severity, checked⟩ registry.entries }

/-- A call in place. -/
def perform : Request → EStateM SetupError Registry Unit
  | .register id level options => registerInPlace id level options
  | .freeze => modify freeze

/-- Makes calls one after another, whatever becomes of each. -/
def performAll : List Request → EStateM SetupError Registry Unit
  | [] => pure ()
  | request :: requests => do
    tryCatch (perform request) fun _ => pure ()
    performAll requests

/-- A registration in place does what `register` says, and nothing if it is refused. -/
theorem registerInPlace_eq (registry : Registry) (id : String) (level options : Json) :
    registerInPlace id level options registry =
      match registry.register id level options with
      | .ok next => .ok () next
      | .error error => .error error registry := by
  obtain ⟨catalog, entries, frozen⟩ := registry
  cases frozen with
  | true => rfl
  | false =>
    have hget : (EStateM.get : EStateM SetupError Registry Registry) ⟨catalog, entries, false⟩ =
        .ok ⟨catalog, entries, false⟩ ⟨catalog, entries, false⟩ := rfl
    simp only [registerInPlace, register, bind, EStateM.bind, get, getThe, MonadStateOf.get, hget,
      Bool.false_eq_true, if_false]
    cases Keyed.get? id catalog with
    | none => rfl
    | some rule =>
      dsimp only
      cases Severity.parse level with
      | error error => rfl
      | ok severity => cases rule.checkOptions options <;> rfl

/-- A call in place is accepted or leaves the registry as it was. -/
theorem perform_eq (registry : Registry) (request : Request) :
    perform request registry = .ok () (registry.answer request) ∨
      registry.answer request = registry ∧ ∃ error, perform request registry = .error error registry := by
  cases request with
  | freeze => exact .inl rfl
  | register id level options =>
    rw [perform, registerInPlace_eq, answer]
    cases registry.register id level options with
    | ok next => exact .inl rfl
    | error error => exact .inr ⟨rfl, error, rfl⟩

theorem performAll_eq : ∀ (requests : List Request) (registry : Registry),
    performAll requests registry = .ok () (requests.foldl answer registry)
  | [], _ => rfl
  | request :: requests, registry => by
    have hcaught : tryCatch (perform request) (fun _ => pure ()) registry = .ok () (registry.answer request) := by
      simp only [tryCatch, tryCatchThe, MonadExceptOf.tryCatch, EStateM.tryCatch]
      rcases perform_eq registry request with h | ⟨hsame, error, h⟩
      · rw [h]
      · rw [h, hsame]
        rfl
    simp only [performAll, bind, EStateM.bind, hcaught]
    exact performAll_eq requests _

/-! ## Accepted calls -/

def Request.isFreeze : Request → Bool
  | .freeze => true
  | .register _ _ _ => false

/-- The entry that a call asks for, if its rule is known and its severity and options can be read. -/
def Request.asked? (catalog : Catalog) : Request → Option (String × ActiveRule)
  | .freeze => none
  | .register id level options =>
    match Keyed.get? id catalog with
    | none => none
    | some rule =>
      match Severity.parse level, rule.checkOptions options with
      | .ok severity, .ok checked => some (id, ⟨rule, severity, checked⟩)
      | _, _ => none

/-- The entries of the accepted calls of a history, in the order of the calls. -/
def registrations (catalog : Catalog) (requests : List Request) : List (String × ActiveRule) :=
  (requests.takeWhile (!·.isFreeze)).filterMap (Request.asked? catalog)

/-- A registry with one more entry, or another one in its place. -/
def enter (registry : Registry) (entry : String × ActiveRule) : Registry :=
  { registry with entries := Keyed.set entry.1 entry.2 registry.entries }

/-- An open registry accepts just the calls that ask for an entry. -/
theorem register_of_open {registry : Registry} (h : registry.frozen = false) (id : String) (level options : Json) :
    (registry.register id level options).toOption =
      ((Request.register id level options).asked? registry.catalog).map registry.enter := by
  obtain ⟨catalog, entries, frozen⟩ := registry
  obtain rfl : frozen = false := h
  simp only [register, Bool.false_eq_true, if_false, Request.asked?]
  cases Keyed.get? id catalog with
  | none => rfl
  | some rule =>
    dsimp only
    cases Severity.parse level with
    | error error => rfl
    | ok severity =>
      dsimp only
      cases rule.checkOptions options <;> rfl

theorem answer_register (registry : Registry) (id : String) (level options : Json) :
    registry.answer (.register id level options) = (registry.register id level options).toOption.getD registry := by
  rw [answer]
  cases registry.register id level options <;> rfl

theorem answer_frozen {registry : Registry} (h : registry.frozen = true) (request : Request) :
    registry.answer request = registry := by
  cases request with
  | freeze =>
    obtain ⟨catalog, entries, frozen⟩ := registry
    exact congrArg (Registry.mk catalog entries) h.symm
  | register id level options => simp only [answer, register_frozen h]

theorem foldl_answer_frozen {registry : Registry} (h : registry.frozen = true) : ∀ requests : List Request,
    requests.foldl answer registry = registry
  | [] => rfl
  | request :: requests => by rw [List.foldl_cons, answer_frozen h, foldl_answer_frozen h requests]

/-! ## What entries come to -/

/-- The last entry for a name. -/
def lastFor (id : String) (entered : List (String × ActiveRule)) : Option ActiveRule :=
  ((entered.filter (·.1 = id)).getLast?).map Prod.snd

/-- Names in the order of the first entry for each, and each with its last entry. -/
structure Holds (entered : List (String × ActiveRule)) (registry : Registry) : Prop where
  keys : Keyed.keys registry.entries = (entered.map Prod.fst).eraseDups
  get? : ∀ id, Keyed.get? id registry.entries = lastFor id entered

theorem holds_empty (catalog : Catalog) : Holds [] (empty catalog) := ⟨rfl, fun _ => rfl⟩

theorem Holds.enter {entered : List (String × ActiveRule)} {registry : Registry} (h : Holds entered registry)
    (entry : String × ActiveRule) : Holds (entered ++ [entry]) (registry.enter entry) where
  keys := by
    rw [Registry.enter, Keyed.keys_set, h.keys, List.map_append, List.map_singleton, eraseDups_concat]
    exact if_congr List.mem_eraseDups rfl rfl
  get? id := by
    simp only [Registry.enter, lastFor, List.filter_append]
    by_cases hid : entry.1 = id
    · subst hid
      simp [Keyed.get?_set_self]
    · rw [Keyed.get?_set_other (Ne.symm hid), h.get?, lastFor]
      simp [hid]

/-- From an open registry on, a history adds its registrations to what the registry holds. -/
theorem Holds.foldl_answer {catalog : Catalog} : ∀ (requests : List Request) {entered : List (String × ActiveRule)}
    {registry : Registry}, registry.catalog = catalog → registry.frozen = false → Holds entered registry →
      Holds (entered ++ registrations catalog requests) (requests.foldl answer registry) ∧
        (requests.foldl answer registry).frozen = requests.any Request.isFreeze
  | [], entered, registry, _, hopen, h => by
    rw [registrations, List.takeWhile_nil, List.filterMap_nil, List.append_nil]
    exact ⟨h, hopen⟩
  | .freeze :: requests, entered, registry, _, _, h => by
    have hlog : registrations catalog (.freeze :: requests) = [] := rfl
    rw [List.foldl_cons, foldl_answer_frozen rfl, hlog, List.append_nil]
    exact ⟨⟨h.keys, h.get?⟩, rfl⟩
  | .register id level options :: requests, entered, registry, hcatalog, hopen, h => by
    have hlog : registrations catalog (.register id level options :: requests) =
        ((Request.register id level options).asked? catalog).toList ++ registrations catalog requests := by
      simp only [registrations]
      rw [List.takeWhile_cons_of_pos rfl, List.filterMap_cons]
      cases (Request.register id level options).asked? catalog <;> rfl
    have hanswer := answer_register registry id level options
    rw [register_of_open hopen, hcatalog] at hanswer
    rw [List.foldl_cons, hlog, hanswer]
    cases (Request.register id level options).asked? catalog with
    | none => exact Holds.foldl_answer requests hcatalog hopen h
    | some entry =>
      rw [Option.toList_some, ← List.append_assoc]
      exact Holds.foldl_answer requests hcatalog hopen (h.enter entry)

/-- With distinct keys, the values are found under the keys one after another. -/
theorem values_eq_filterMap {entries : Keyed ActiveRule} (h : (Keyed.keys entries).Nodup) :
    Keyed.values entries = (Keyed.keys entries).filterMap fun id => Keyed.get? id entries := by
  have hget : ∀ entry ∈ entries, Keyed.get? entry.1 entries = some entry.2 := fun entry hentry =>
    (Keyed.get?_eq_some_iff_mem h).2 hentry
  rw [Keyed.values, Keyed.keys, List.filterMap_map, ← List.filterMap_eq_map]
  exact List.filterMap_congr fun entry hentry => (hget entry hentry).symm

/-! ## Histories -/

/-- What a registry is after a history: its names stand in the order in which they were first
registered, every name has the severity and the options of its last registration, and the names whose
severity is not off are active, in that order. -/
structure Records (catalog : Catalog) (requests : List Request) (registry : Registry) : Prop where
  catalog_eq : registry.catalog = catalog
  frozen_eq : registry.frozen = requests.any Request.isFreeze
  keys : Keyed.keys registry.entries = ((registrations catalog requests).map Prod.fst).eraseDups
  get? : ∀ id, Keyed.get? id registry.entries = lastFor id (registrations catalog requests)
  active : registry.activeRules = ((registrations catalog requests).map Prod.fst).eraseDups.filterMap fun id =>
    (lastFor id (registrations catalog requests)).filter (·.severity ≠ .off)

theorem records_replay (catalog : Catalog) (requests : List Request) : Records catalog requests (replay catalog requests) := by
  have hcoherent := coherent_replay catalog requests
  obtain ⟨hholds, hfrozen⟩ : Holds ([] ++ registrations catalog requests) (replay catalog requests) ∧ _ :=
    Holds.foldl_answer requests rfl rfl (holds_empty catalog)
  rw [List.nil_append] at hholds
  refine ⟨hcoherent.catalog_eq, hfrozen, hholds.keys, hholds.get?, ?_⟩
  rw [activeRules, values_eq_filterMap hcoherent.nodup, List.filter_filterMap, ← hholds.keys]
  exact List.filterMap_congr fun id _ => congrArg (Option.filter _) (hholds.get? id)

/-- **A registry is determined by its history.** A call is accepted, or refused with the registry as it
was; a registration is accepted just when no call before it froze the registry and its name, severity and
options are right. After a freeze no call changes anything. All calls made one after another, refused ones
passed over, lead to a registry that records the accepted ones. -/
theorem performAll_determined (catalog : Catalog) :
    (∀ registry request, perform request registry = .ok () (registry.answer request) ∨
      ∃ error, perform request registry = .error error registry) ∧
    (∀ before id level options, (∃ next, perform (.register id level options) (replay catalog before) = .ok () next) ↔
      before.any Request.isFreeze = false ∧ ((Request.register id level options).asked? catalog).isSome) ∧
    (∀ before after registry, performAll (before ++ .freeze :: after) registry = performAll (before ++ [.freeze]) registry) ∧
    ∀ requests, ∃ registry, performAll requests (empty catalog) = .ok () registry ∧ Records catalog requests registry := by
  refine ⟨fun registry request => ?_, fun before id level options => ?_, fun before after registry => ?_,
    fun requests => ⟨replay catalog requests, performAll_eq requests _, records_replay catalog requests⟩⟩
  · exact (perform_eq registry request).imp_right And.right
  · have hrecords := records_replay catalog before
    rw [perform, registerInPlace_eq, ← hrecords.frozen_eq]
    cases hfrozen : (replay catalog before).frozen with
    | true => simp [register_frozen hfrozen]
    | false =>
      have hregister := register_of_open hfrozen id level options
      rw [hrecords.catalog_eq] at hregister
      rw [← Option.isSome_map, ← hregister]
      cases (replay catalog before).register id level options <;> simp [Except.toOption]
  · simp only [performAll_eq, List.foldl_append, List.foldl_cons, List.foldl_nil]
    rw [foldl_answer_frozen rfl]

end Registry

end ScriptLint
