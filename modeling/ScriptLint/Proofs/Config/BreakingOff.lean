/-
Where reading a configuration breaks off.

A configuration that is wrong somewhere is refused with an error about it. But
reading can also stop over a number: a severity in digits that cannot be read
(`Severity.Unreadable`), options that cannot be written into the message about
them, or a count in a comment pattern that is out of range
(`Rule.UnreadableOptions`). These are the only ways, for one entry, for
overrides and for a whole configuration, in which the first part that is not
accepted decides (`breaksOff_parseEntry`, `breaksOff_applyOverrides`,
`Registry.breaksOff_build`).
-/
import Mathlib.Data.List.TakeWhile
import ScriptLint.Proofs.Registry
import ScriptLint.Proofs.Rules.Options

namespace ScriptLint

/-! ## Breaking off -/

/-- Whether an error is one about the configuration. -/
def SetupError.isConfig : SetupError → Bool
  | .config _ => true
  | _ => false

theorem SetupError.isConfig_about (value : Json) (error : ConfigError) :
    (SetupError.about value error).isConfig = value.hasLiteral := by
  unfold SetupError.about
  split
  · next h => exact h.symm
  · next h => exact (Bool.eq_false_iff.2 h).symm

section BreaksOff

variable {α β : Type}

/-- A failure that is not an error about the configuration. -/
def BreaksOff (result : Except SetupError α) : Prop := ∃ error, result = .error error ∧ error.isConfig = false

@[simp] theorem not_breaksOff_ok (x : α) : ¬ BreaksOff (.ok x : Except SetupError α) := by
  rintro ⟨error, h, -⟩
  cases h

@[simp] theorem breaksOff_error {error : SetupError} :
    BreaksOff (.error error : Except SetupError α) ↔ error.isConfig = false := by
  constructor
  · rintro ⟨other, h, hother⟩
    cases h
    exact hother
  · exact fun h => ⟨error, rfl, h⟩

theorem breaksOff_map (f : α → β) (result : Except SetupError α) : BreaksOff (result.map f) ↔ BreaksOff result := by
  cases result <;> simp [Except.map]

theorem breaksOff_bind (result : Except SetupError α) (next : α → Except SetupError β) :
    BreaksOff (result.bind next) ↔ BreaksOff result ∨ ∃ x, result = .ok x ∧ BreaksOff (next x) := by
  cases result <;> simp [Except.bind]

/-- Of steps one after another the first that is not accepted decides. -/
theorem breaksOff_foldlM {σ : Type} {step : σ → α → Except SetupError σ} : ∀ {items : List α} {start : σ},
    BreaksOff (items.foldlM step start) ↔ ∃ before item after reached, items = before ++ item :: after ∧
      before.foldlM step start = .ok reached ∧ BreaksOff (step reached item)
  | [], start => by
    constructor
    · exact fun h => absurd h (not_breaksOff_ok start)
    · rintro ⟨before, item, after, -, h, -⟩
      cases before <;> cases h
  | first :: rest, start => by
    have hstep : ∀ items : List α, (first :: items).foldlM step start =
        (step start first).bind fun next => items.foldlM step next := fun _ => rfl
    rw [hstep, breaksOff_bind]
    constructor
    · rintro (h | ⟨next, hnext, h⟩)
      · exact ⟨[], first, rest, start, rfl, rfl, h⟩
      · obtain ⟨before, item, after, reached, rfl, hbefore, hitem⟩ := breaksOff_foldlM.1 h
        exact ⟨first :: before, item, after, reached, rfl, by rw [hstep, hnext]; exact hbefore, hitem⟩
    · rintro ⟨before, item, after, reached, hitems, hbefore, hitem⟩
      cases before with
      | nil =>
        cases hitems
        cases hbefore
        exact .inl hitem
      | cons other before =>
        cases hitems
        rw [hstep] at hbefore
        cases hnext : step start first with
        | error error =>
          rw [hnext] at hbefore
          cases hbefore
        | ok next =>
          rw [hnext] at hbefore
          exact .inr ⟨next, rfl, breaksOff_foldlM.2 ⟨before, item, after, reached, rfl, hbefore, hitem⟩⟩

end BreaksOff

/-! ## Severities -/

/-- Numbers with few enough digits can be written. -/
theorem Json.hasLiteral_of_lt {n digits : Nat} (h : n < Nat.pow 10 digits) (hdigits : digits ≤ digitLimit) :
    (Json.int n).hasLiteral = true := by
  unfold Json.hasLiteral
  generalize digitLimit = limit at hdigits
  exact decide_eq_true (Nat.lt_of_lt_of_le h (Nat.pow_le_pow_right (by decide) hdigits))

namespace Severity

/-- A text of digits that is not read as a number: one of them has no place value, or they are too
many. -/
def UnreadableText (text : String) : Prop :=
  let cs := (normalize text).toList
  cs ≠ [] ∧ (∀ c ∈ cs, isDigit c = true) ∧ ((∃ c ∈ cs, isDecimal c = false) ∨ digitLimit < cs.length)

instance (text : String) : Decidable (UnreadableText text) :=
  let cs := (normalize text).toList
  decidable_of_iff
    (cs ≠ [] ∧ cs.all isDigit = true ∧ (cs.all isDecimal = false ∨ digitLimit < cs.length))
    (by simp only [UnreadableText, List.all_eq_true, List.all_eq_false, Bool.not_eq_true, cs])

/-- A value that breaks reading a severity off. -/
def Unreadable : Json → Prop
  | .string text => UnreadableText text
  | value => value.hasLiteral = false

theorem breaksOff_parseNumber (n : Int) : BreaksOff (parseNumber n) ↔ (Json.int n).hasLiteral = false := by
  unfold parseNumber
  split
  · next severity h =>
    have hsmall : ∃ k : Nat, n = k ∧ k < 10 := by
      unfold ofNumber? at h
      split at h
      · exact ⟨0, ‹_›, by decide⟩
      · split at h
        · exact ⟨1, ‹_›, by decide⟩
        · split at h
          · exact ⟨2, ‹_›, by decide⟩
          · cases h
    obtain ⟨k, rfl, hk⟩ := hsmall
    have hten : k < Nat.pow 10 1 := hk
    rw [Json.hasLiteral_of_lt hten (by decide)]
    simp
  · rw [breaksOff_error, SetupError.isConfig_about]

theorem breaksOff_parseText (text : String) : BreaksOff (parseText text) ↔ UnreadableText text := by
  unfold parseText UnreadableText
  dsimp only
  generalize (normalize text).toList = cs
  split
  · next h =>
    obtain ⟨hsome, hdigits⟩ := h
    rw [List.all_eq_true] at hdigits
    by_cases hdecimal : ∀ c ∈ cs, isDecimal c = true
    · have hplaces : ¬ ∃ c ∈ cs, isDecimal c = false := by
        rintro ⟨c, hc, hplace⟩
        rw [hdecimal c hc] at hplace
        cases hplace
      rw [List.takeWhile_eq_self_iff.2 hdecimal]
      split
      · next hlong => exact iff_of_true (breaksOff_error.2 rfl) ⟨hsome, hdigits, .inr hlong⟩
      · next hshort =>
        obtain ⟨n, hn⟩ := Option.isSome_iff_exists.1 ((isSome_readDecimal? cs).trans (List.all_eq_true.2 hdecimal))
        rw [hn]
        refine iff_of_false ?_ fun hright => hright.2.2.elim hplaces hshort
        rw [breaksOff_parseNumber, Json.hasLiteral_of_lt (readDecimal?_lt hn) (Nat.le_of_not_lt hshort)]
        simp
    · have hplaces : ∃ c ∈ cs, isDecimal c = false := by simpa using hdecimal
      have hnone : readDecimal? cs = none := by
        rw [← Option.not_isSome_iff_eq_none, isSome_readDecimal?, List.all_eq_true]
        exact hdecimal
      rw [hnone]
      refine iff_of_true ?_ ⟨hsome, hdigits, .inl hplaces⟩
      split <;> exact breaksOff_error.2 rfl
  · next h =>
    refine iff_of_false ?_ fun hright => h ⟨hright.1, List.all_eq_true.2 hright.2.1⟩
    split
    · exact not_breaksOff_ok _
    · exact fun hbreaks => Bool.noConfusion (breaksOff_error.1 hbreaks)

/-- A severity breaks the reading off when it is made of digits that are not read, or when it is wrong
and cannot be written. -/
theorem breaksOff_parse (level : Json) : BreaksOff (parse level) ↔ Unreadable level := by
  cases level with
  | string text => exact breaksOff_parseText text
  | int n => exact breaksOff_parseNumber n
  | bool value => simp [parse, Unreadable, SetupError.isConfig, Json.hasLiteral]
  | null | float _ | array _ | object _ => simp only [parse, Unreadable, breaksOff_error, SetupError.isConfig_about]

theorem parse_name (severity : Severity) : parse (.string severity.name) = .ok severity := by
  have hname : normalize severity.name = severity.name := by cases severity <;> decide +kernel
  have hdigits : ¬ (severity.name.toList ≠ [] ∧ severity.name.toList.all isDigit) := by
    cases severity <;> decide +kernel
  simp only [parse, parseText, hname, if_neg hdigits, ofName?_name]

end Severity

/-! ## Entries -/

/-- The part of a rule entry that is its severity. -/
def levelOf? : Json → Option Json
  | .array [] => none
  | .array (level :: _) => some level
  | level => some level

/-- An entry is read when it has a severity that can be read. -/
theorem parseEntry_map_fst (entry : Json) : (parseEntry entry).map Prod.fst =
    ((levelOf? entry).elim (.error (.config .emptyEntry)) Severity.parse) := by
  cases entry with
  | array items =>
    cases items with
    | nil => rfl
    | cons level options =>
      simp only [parseEntry, levelOf?, Option.elim]
      cases Severity.parse level <;> rfl
  | null | bool _ | int _ | float _ | string _ | object _ =>
    simp only [parseEntry, levelOf?, Option.elim]
    split <;> simp only [*, Except.map]

/-- An entry that breaks the reading off. -/
def UnreadableSeverity (entry : Json) : Prop := ∃ level, levelOf? entry = some level ∧ Severity.Unreadable level

theorem breaksOff_parseEntry (entry : Json) : BreaksOff (parseEntry entry) ↔ UnreadableSeverity entry := by
  rw [← breaksOff_map Prod.fst, parseEntry_map_fst, UnreadableSeverity]
  cases levelOf? entry with
  | none => simp [SetupError.isConfig]
  | some level => simp [Severity.breaksOff_parse]

/-! ## Overrides -/

/-- An override that breaks the reading off. -/
def UnreadableOverride (item : String) : Prop :=
  ∃ before level, cutAt '=' item = (before, some level) ∧ strip before ≠ "" ∧ Severity.UnreadableText level

theorem breaksOff_parseOverride (item : String) : BreaksOff (parseOverride item) ↔ UnreadableOverride item := by
  unfold parseOverride UnreadableOverride
  split
  · next h => simp [h, SetupError.isConfig]
  · next before level h =>
    simp only [h, Prod.mk.injEq, Option.some.injEq]
    split
    · next hempty => simp [SetupError.isConfig, hempty]
    · next hrule =>
      have hmap : BreaksOff ((Severity.parseText level).map fun severity => (strip before, severity)) ↔
          Severity.UnreadableText level := by
        rw [breaksOff_map, Severity.breaksOff_parseText]
      trans Severity.UnreadableText level
      · rw [← hmap]
        cases Severity.parseText level <;> rfl
      · exact ⟨fun h => ⟨_, _, ⟨rfl, rfl⟩, hrule, h⟩, by rintro ⟨_, _, ⟨rfl, rfl⟩, -, h⟩; exact h⟩

/-- What one override does to the entries. -/
def overrideRule (rules : Keyed Json) (item : String) : Except SetupError (Keyed Json) :=
  (parseOverride item).map fun named => Keyed.set named.1 (withSeverity (Keyed.get? named.1 rules) named.2) rules

theorem overrideRules_eq_foldlM : ∀ (items : List String) (rules : Keyed Json),
    overrideRules rules items = items.foldlM overrideRule rules
  | [], _ => rfl
  | item :: items, rules => by
    rw [overrideRules, List.foldlM_cons, overrideRule]
    cases parseOverride item with
    | error error => rfl
    | ok named => exact overrideRules_eq_foldlM items _

theorem exists_overrideRules_eq_ok {items : List String} {rules : Keyed Json} :
    (∃ next, overrideRules rules items = .ok next) ↔ ∀ item ∈ items, ∃ named, parseOverride item = .ok named := by
  induction items generalizing rules with
  | nil => exact iff_of_true ⟨rules, rfl⟩ fun _ h => absurd h List.not_mem_nil
  | cons item items ih =>
    rw [List.forall_mem_cons, overrideRules]
    cases hitem : parseOverride item with
    | error error => simp
    | ok named => simpa using ih

/-- Overrides the first of which that is not accepted breaks the reading off. -/
def UnreadableOverrides (items : List String) : Prop :=
  ∃ before item after, items = before ++ item :: after ∧
    (∀ other ∈ before, ∃ named, parseOverride other = .ok named) ∧ UnreadableOverride item

theorem breaksOff_applyOverrides (config : Config) (items : List String) :
    BreaksOff (config.applyOverrides items) ↔ UnreadableOverrides items := by
  have hitem : ∀ rules item, BreaksOff (overrideRule rules item) ↔ UnreadableOverride item := fun _ _ =>
    (breaksOff_map _ _).trans (breaksOff_parseOverride _)
  rw [Config.applyOverrides, breaksOff_map, overrideRules_eq_foldlM, breaksOff_foldlM]
  constructor
  · rintro ⟨before, item, after, reached, hitems, hbefore, hbreaks⟩
    rw [← overrideRules_eq_foldlM] at hbefore
    exact ⟨before, item, after, hitems, exists_overrideRules_eq_ok.1 ⟨reached, hbefore⟩, (hitem _ _).1 hbreaks⟩
  · rintro ⟨before, item, after, hitems, hbefore, hbreaks⟩
    obtain ⟨reached, hreached⟩ := exists_overrideRules_eq_ok.2 hbefore
    rw [overrideRules_eq_foldlM] at hreached
    exact ⟨before, item, after, reached, hitems, hreached, (hitem _ _).2 hbreaks⟩

/-! ## Options -/

/-- Among the complaints is one about a count that is out of range. -/
def Reading.Overcounts {α : Type} (reading : Reading α) : Prop :=
  ∃ complaints, reading = .error complaints ∧ ∃ c ∈ complaints, c.requirement = .countInRange

/-- Raw options that break the reading off. -/
def Rule.UnreadableOptions (rule : Rule) (raw : Json) : Prop :=
  match rule.readOptions with
  | some read => (read raw).Overcounts
  | none => raw.hasLiteral = false

theorem Rule.breaksOff_checkOptions (rule : Rule) (raw : Json) :
    BreaksOff (rule.checkOptions raw) ↔ rule.UnreadableOptions raw := by
  unfold checkOptions UnreadableOptions
  cases rule.readOptions with
  | some read =>
    dsimp only [Reading.Overcounts]
    cases read raw with
    | ok options => simp
    | error complaints =>
      dsimp only
      split
      · next hany => simpa [SetupError.isConfig] using hany
      · next hnone => simpa [SetupError.isConfig] using hnone
  | none =>
    dsimp only
    split
    · simp [Json.hasLiteral]
    · simp [Json.hasLiteral, Json.fieldsHaveLiterals]
    · simp [Json.hasLiteral, Json.haveLiterals]
    · rw [breaksOff_error, SetupError.isConfig_about]

/-! ## Configurations -/

/-- An entry that is registered: its severity and its options are read, for a rule of the catalog. -/
def AcceptedEntry (catalog : Catalog) (entry : String × Json) : Prop :=
  ∃ severity options rule checked, parseEntry entry.2 = .ok (severity, options) ∧
    Keyed.get? entry.1 catalog = some rule ∧ rule.checkOptions options = .ok checked

/-- An entry over which building a registry breaks off. -/
def UnreadableEntry (catalog : Catalog) (entry : String × Json) : Prop :=
  UnreadableSeverity entry.2 ∨ ∃ severity options rule, parseEntry entry.2 = .ok (severity, options) ∧
    Keyed.get? entry.1 catalog = some rule ∧ rule.UnreadableOptions options

/-- Entries the first of which that is not registered breaks the building off. -/
def UnreadableEntries (catalog : Catalog) (entries : List (String × Json)) : Prop :=
  ∃ before entry after, entries = before ++ entry :: after ∧
    (∀ other ∈ before, AcceptedEntry catalog other) ∧ UnreadableEntry catalog entry

namespace Registry

/-- Registers one entry of a configuration. -/
def registerEntry (registry : Registry) (entry : String × Json) : Except SetupError Registry :=
  (parseEntry entry.2).bind fun parsed => registry.register entry.1 (.string parsed.1.name) parsed.2

theorem registerEntries_eq_foldlM : ∀ (entries : List (String × Json)) (registry : Registry),
    registerEntries registry entries = entries.foldlM registerEntry registry
  | [], _ => rfl
  | (id, entry) :: rest, registry => by
    rw [registerEntries, List.foldlM_cons, registerEntry]
    cases parseEntry entry with
    | error error => rfl
    | ok parsed =>
      obtain ⟨severity, options⟩ := parsed
      dsimp only [Except.bind]
      cases registry.register id (.string severity.name) options with
      | error error => rfl
      | ok next => exact registerEntries_eq_foldlM rest next

/-- Between registrations a registry is open and has the catalog it began with. -/
structure Open (catalog : Catalog) (registry : Registry) : Prop where
  catalog_eq : registry.catalog = catalog
  frozen : registry.frozen = false

variable {catalog : Catalog} {registry next : Registry} {entry : String × Json}

theorem Open.register_name (h : Open catalog registry) (id : String) (severity : Severity) (options : Json) :
    registry.register id (.string severity.name) options =
      match Keyed.get? id catalog with
      | none => .error (.config (.unknownRule id))
      | some rule => (rule.checkOptions options).map fun checked =>
          { registry with entries := Keyed.set id ⟨rule, severity, checked⟩ registry.entries } := by
  rw [register, h.frozen, h.catalog_eq, Severity.parse_name]
  cases Keyed.get? id catalog with
  | none => rfl
  | some rule => dsimp only; cases rule.checkOptions options <;> rfl

theorem Open.breaksOff_registerEntry (h : Open catalog registry) :
    BreaksOff (registry.registerEntry entry) ↔ UnreadableEntry catalog entry := by
  rw [registerEntry, breaksOff_bind, breaksOff_parseEntry, UnreadableEntry]
  refine or_congr_right ?_
  simp only [Prod.exists, h.register_name]
  refine exists_congr fun severity => exists_congr fun options => ?_
  cases Keyed.get? entry.1 catalog with
  | none => simp [SetupError.isConfig]
  | some rule => simp [breaksOff_map, Rule.breaksOff_checkOptions]

theorem Open.exists_registerEntry (h : Open catalog registry) :
    (∃ next, registry.registerEntry entry = .ok next) ↔ AcceptedEntry catalog entry := by
  rw [registerEntry, AcceptedEntry]
  cases parseEntry entry.2 with
  | error error => simp [Except.bind]
  | ok parsed =>
    simp only [Except.bind, h.register_name]
    cases Keyed.get? entry.1 catalog with
    | none => simp
    | some rule =>
      have haccepted : (∃ severity options other checked, (Except.ok parsed : Except SetupError _) = .ok (severity, options) ∧
          some rule = some other ∧ other.checkOptions options = .ok checked) ↔
          ∃ checked, rule.checkOptions parsed.2 = .ok checked := by
        constructor
        · rintro ⟨severity, options, other, checked, hparsed, hother, hchecked⟩
          cases hparsed
          cases hother
          exact ⟨checked, hchecked⟩
        · exact fun ⟨checked, hchecked⟩ => ⟨parsed.1, parsed.2, rule, checked, rfl, rfl, hchecked⟩
      rw [haccepted]
      dsimp only
      cases rule.checkOptions parsed.2 <;> simp [Except.map]

theorem Open.registerEntry (h : Open catalog registry) (hnext : registry.registerEntry entry = .ok next) :
    Open catalog next := by
  unfold Registry.registerEntry at hnext
  cases hparsed : parseEntry entry.2 with
  | error error =>
    rw [hparsed] at hnext
    cases hnext
  | ok parsed =>
    rw [hparsed, Except.bind] at hnext
    obtain ⟨-, rule, severity, checked, -, -, -, rfl⟩ := register_eq_ok_iff.1 hnext
    exact ⟨h.catalog_eq, h.frozen⟩

theorem Open.registerEntries (h : Open catalog registry) {entries : List (String × Json)}
    (hnext : registerEntries registry entries = .ok next) : Open catalog next := by
  rw [registerEntries_eq_foldlM] at hnext
  induction entries generalizing registry with
  | nil => exact Except.ok.inj hnext ▸ h
  | cons entry entries ih =>
    rw [List.foldlM_cons] at hnext
    cases hentry : registry.registerEntry entry with
    | error error =>
      rw [hentry] at hnext
      cases hnext
    | ok reached =>
      rw [hentry] at hnext
      exact ih (h.registerEntry hentry) hnext

theorem Open.exists_registerEntries (h : Open catalog registry) {entries : List (String × Json)} :
    (∃ next, Registry.registerEntries registry entries = .ok next) ↔ ∀ entry ∈ entries, AcceptedEntry catalog entry := by
  rw [registerEntries_eq_foldlM]
  induction entries generalizing registry with
  | nil => exact iff_of_true ⟨registry, rfl⟩ fun _ h => absurd h List.not_mem_nil
  | cons entry entries ih =>
    rw [List.forall_mem_cons, ← h.exists_registerEntry, List.foldlM_cons]
    cases hentry : registry.registerEntry entry with
    | error error => simp [bind, Except.bind]
    | ok reached => exact (ih (h.registerEntry hentry)).trans ⟨fun hrest => ⟨⟨reached, rfl⟩, hrest⟩, And.right⟩

theorem open_empty (catalog : Catalog) : Open catalog (empty catalog) := ⟨rfl, rfl⟩

theorem breaksOff_build (catalog : Catalog) (config : Config) :
    BreaksOff (build catalog config) ↔ UnreadableEntries catalog config.rules := by
  rw [build, breaksOff_map, registerEntries_eq_foldlM, breaksOff_foldlM]
  constructor
  · rintro ⟨before, entry, after, reached, hrules, hbefore, hbreaks⟩
    rw [← registerEntries_eq_foldlM] at hbefore
    exact ⟨before, entry, after, hrules, (open_empty catalog).exists_registerEntries.1 ⟨reached, hbefore⟩,
      ((open_empty catalog).registerEntries hbefore).breaksOff_registerEntry.1 hbreaks⟩
  · rintro ⟨before, entry, after, hrules, hbefore, hbreaks⟩
    obtain ⟨reached, hreached⟩ := (open_empty catalog).exists_registerEntries.2 hbefore
    have hopen := (open_empty catalog).registerEntries hreached
    rw [registerEntries_eq_foldlM] at hreached
    exact ⟨before, entry, after, reached, hrules, hreached, hopen.breaksOff_registerEntry.2 hbreaks⟩

end Registry

/-! ## Options of the built-in rules -/

namespace Reading

section Overcounts

variable {α β : Type}

@[simp] theorem not_overcounts_ok (x : α) : ¬ Overcounts (.ok x : Reading α) := by
  rintro ⟨_, h, -⟩
  cases h

@[simp] theorem overcounts_error {complaints : List Complaint} :
    Overcounts (.error complaints : Reading α) ↔ ∃ c ∈ complaints, c.requirement = .countInRange := by
  simp [Overcounts]

@[simp] theorem overcounts_fail {place : List Step} {requirement : Requirement} :
    Overcounts (fail place requirement : Reading α) ↔ requirement = .countInRange := by
  simp [fail]

@[simp] theorem overcounts_map (f : α → β) (reading : Reading α) : Overcounts (reading.map f) ↔ Overcounts reading := by
  cases reading <;> simp [Except.map]

@[simp] theorem overcounts_functor_map (f : α → β) (reading : Reading α) :
    Overcounts (f <$> reading) ↔ Overcounts reading := overcounts_map f reading

@[simp] theorem not_overcounts_pure (x : α) : ¬ Overcounts (pure x : Reading α) := not_overcounts_ok x

theorem overcounts_bind (reading : Reading α) (next : α → Reading β) :
    Overcounts (reading >>= next) ↔ Overcounts reading ∨ ∃ x, reading = .ok x ∧ Overcounts (next x) := by
  cases reading <;> simp [bind, Except.bind]

@[simp] theorem overcounts_both (first : Reading α) (second : Reading β) :
    Overcounts (both first second) ↔ Overcounts first ∨ Overcounts second := by
  cases first <;> cases second <;> simp [both, or_and_right, exists_or]

theorem overcounts_all : ∀ readings : List (Reading α), Overcounts (all readings) ↔ ∃ reading ∈ readings, Overcounts reading
  | [] => by simp [all]
  | reading :: readings => by simp [all, overcounts_all readings]

theorem overcounts_optional (key : String) (default : α) (read : List Step → Json → Reading α)
    (fields : List (String × Json)) : Overcounts (optional key default read fields) ↔
      ∃ value, Keyed.get? key fields = some value ∧ Overcounts (read [.field key] value) := by
  unfold optional
  cases Keyed.get? key fields <;> simp

@[simp] theorem not_overcounts_fields (value : Json) : ¬ Overcounts (fields value) := by
  unfold fields
  split <;> simp

@[simp] theorem not_overcounts_word (words : List (String × α)) (place : List Step) (value : Json) :
    ¬ Overcounts (word words place value) := by
  unfold word
  split
  · split <;> simp
  · simp

@[simp] theorem not_overcounts_text (place : List Step) (value : Json) : ¬ Overcounts (text place value) := by
  unfold text
  split <;> simp

@[simp] theorem not_overcounts_boolean (place : List Step) (value : Json) : ¬ Overcounts (boolean place value) := by
  unfold boolean
  dsimp only
  repeat' split
  all_goals simp

@[simp] theorem not_overcounts_readMessage (place : List Step) (value : Json) :
    ¬ Overcounts (readMessage place value) := by
  unfold readMessage
  split <;> simp

@[simp] theorem not_overcounts_readGlobal (place : List Step) (item : Json) : ¬ Overcounts (readGlobal place item) := by
  unfold readGlobal
  split
  · dsimp only
    repeat' split
    all_goals simp
  · simp

@[simp] theorem not_overcounts_readGlobals (place : List Step) (value : Json) :
    ¬ Overcounts (readGlobals place value) := by
  unfold readGlobals
  split
  · simp [overcounts_all]
  · simp

/-- Only a pattern has counts. -/
theorem overcounts_pattern (place : List Step) (value : Json) : Overcounts (pattern place value) ↔
    ∃ text, value = .string text ∧ Pattern.read text = .error .countTooLarge := by
  unfold pattern
  split
  · split <;> simp [*]
  · next hother => simpa using fun text h => absurd h (hother text)

theorem not_overcounts_readEquality (raw : Json) : ¬ Overcounts (readEquality raw) := by
  simp [readEquality, overcounts_bind, overcounts_optional]

theorem not_overcounts_readAssignment (raw : Json) : ¬ Overcounts (readAssignment raw) := by
  simp [readAssignment, overcounts_bind, overcounts_optional]

theorem not_overcounts_readRestricted (raw : Json) : ¬ Overcounts (readRestricted raw) := by
  simp [readRestricted, overcounts_bind, overcounts_optional]

theorem not_overcounts_readUnused (raw : Json) : ¬ Overcounts (readUnused raw) := by
  simp [readUnused, overcounts_bind, overcounts_optional]

theorem overcounts_readCommentPattern (raw : Json) : Overcounts (readCommentPattern raw) ↔
    ∃ fields text, expandCommentPattern raw = .object fields ∧
      Keyed.get? "comment_pattern" fields = some (.string text) ∧ Pattern.read text = .error .countTooLarge := by
  have hfields : ∀ fields, Reading.fields (expandCommentPattern raw) = .ok fields ↔ expandCommentPattern raw = .object fields := by
    intro fields
    cases expandCommentPattern raw <;> simp [Reading.fields, fail]
  simp only [readCommentPattern, overcounts_bind, not_overcounts_fields, false_or, hfields, overcounts_optional,
    overcounts_pattern, not_overcounts_pure, and_false, exists_false, or_false]
  refine exists_congr fun fields => ⟨?_, ?_⟩
  · rintro ⟨h, _, hget, text, rfl, hread⟩
    exact ⟨text, h, hget, hread⟩
  · rintro ⟨text, h, hget, hread⟩
    exact ⟨h, _, hget, text, rfl, hread⟩

end Overcounts

end Reading

namespace Rules

/-- Reading the options of a built-in rule breaks off over a value that the rule does not take and that
cannot be written, or over a count in a comment pattern. -/
theorem unreadableOptions_iff {rule : Rule} (hrule : rule ∈ builtin) (raw : Json) :
    rule.UnreadableOptions raw ↔ rule.readOptions.isNone ∧ raw.hasLiteral = false ∨
      rule.id = defaultCase.id ∧ ∃ fields text, Reading.expandCommentPattern raw = .object fields ∧
        Keyed.get? "comment_pattern" fields = some (.string text) ∧ Pattern.read text = .error .countTooLarge := by
  by_cases hid : rule.id = defaultCase.id
  · obtain rfl := eq_of_mem_builtin hrule (by simp [builtin]) hid
    rw [← Reading.overcounts_readCommentPattern]
    simp [Rule.UnreadableOptions, defaultCase]
  · have hreads : rule.readOptions = none ∨ ∃ read, rule.readOptions = some read ∧ ∀ raw, ¬ (read raw).Overcounts := by
      simp only [builtin, List.mem_cons, List.not_mem_nil, or_false] at hrule
      rcases hrule with rfl | rfl | rfl | rfl | rfl | rfl | rfl | rfl | rfl | rfl | rfl | rfl | rfl | rfl | rfl
      all_goals first
        | exact .inl rfl
        | exact .inr ⟨_, rfl, Reading.not_overcounts_readEquality⟩
        | exact .inr ⟨_, rfl, Reading.not_overcounts_readAssignment⟩
        | exact .inr ⟨_, rfl, Reading.not_overcounts_readRestricted⟩
        | exact .inr ⟨_, rfl, Reading.not_overcounts_readUnused⟩
        | exact absurd rfl hid
    rcases hreads with hnone | ⟨read, hread, hcounts⟩
    · simp [Rule.UnreadableOptions, hnone, hid]
    · simp [Rule.UnreadableOptions, hread, hid, hcounts raw]

end Rules

end ScriptLint
