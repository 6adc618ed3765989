/-
Shorthands for restricted globals.

An entry of `no-restricted-globals` lists globals behind its severity one by one, in a list, or
in a list under the key `globals` of an object; in the first two a name stands for an object with
that name. The ways differ in what the entry hands to the rule, most of all where there is
no global or only one, and meet when the rule has put the options into their full form
(`readRestricted_options`). What is read there is told item by item (`GlobalItem.meaning?`).
-/
import ScriptLint.Proofs.Config.BreakingOff

namespace ScriptLint

/-! ## Globals in an entry -/

/-- A global as an entry gives it: a name, or an object that does not itself list globals. -/
inductive GlobalItem where
  | name (text : String)
  | entry (fields : List (String × Json)) (single : Keyed.has "globals" fields = false)

namespace GlobalItem

/-- An item as it may be written in a shorthand. -/
def short : GlobalItem → Json
  | .name text => .string text
  | .entry fields _ => .object fields

/-- An item in its full form. -/
def full : GlobalItem → Json
  | .name text => .object [("name", .string text)]
  | .entry fields _ => .object fields

/-- The name and the message that an item gives, if it gives a name and the message is a text, null or missing. -/
def meaning? : GlobalItem → Option RestrictedGlobal
  | .name text => some ⟨text, none⟩
  | .entry fields _ =>
    match Keyed.get? "name" fields, Keyed.get? "message" fields with
    | some (.string text), none => some ⟨text, none⟩
    | some (.string text), some .null => some ⟨text, none⟩
    | some (.string text), some (.string message) => some ⟨text, some message⟩
    | _, _ => none

end GlobalItem

/-- A way to list globals in an entry. -/
inductive Shorthand where
  /-- One by one, behind the severity. -/
  | spread
  /-- In a list. -/
  | listed
  /-- In full, in an object. -/
  | spelledOut
  deriving Repr, DecidableEq

namespace Shorthand

def entry (shorthand : Shorthand) (level : Json) (items : List GlobalItem) : Json :=
  match shorthand with
  | .spread => .array (level :: items.map GlobalItem.short)
  | .listed => .array [level, .array (items.map GlobalItem.short)]
  | .spelledOut => .array [level, .object [("globals", .array (items.map GlobalItem.full))]]

/-- What an entry hands to the rule. -/
def options (shorthand : Shorthand) (items : List GlobalItem) : Json :=
  match shorthand, items with
  | .spread, [] => .null
  | .spread, [item] => item.short
  | .spread, first :: second :: more => .array ((first :: second :: more).map GlobalItem.short)
  | .listed, items => .array (items.map GlobalItem.short)
  | .spelledOut, items => .object [("globals", .array (items.map GlobalItem.full))]

theorem parseEntry_entry (shorthand : Shorthand) (level : Json) (items : List GlobalItem) :
    parseEntry (shorthand.entry level items) =
      (Severity.parse level).map fun severity => (severity, shorthand.options items) := by
  cases shorthand with
  | listed | spelledOut =>
    simp only [entry, parseEntry]
    cases Severity.parse level <;> rfl
  | spread =>
    simp only [entry, parseEntry]
    -- What is handed over depends on how many items there are.
    cases items with
    | nil => cases Severity.parse level <;> rfl
    | cons first items => cases items <;> cases Severity.parse level <;> rfl

end Shorthand

/-! ## Options in full -/

namespace Reading

theorem expandGlobal_short (item : GlobalItem) : expandGlobal item.short = item.full := by
  cases item <;> rfl

/-- A single item is taken for a list of one. -/
theorem expandGlobals_short (item : GlobalItem) :
    expandGlobals item.short = .object [("globals", .array [item.full])] := by
  cases item with
  | name text => rfl
  | entry fields single => simp [GlobalItem.short, expandGlobals, single, GlobalItem.full, expandGlobal]

theorem expandGlobals_array (items : List GlobalItem) :
    expandGlobals (.array (items.map GlobalItem.short)) =
      .object [("globals", .array (items.map GlobalItem.full))] := by
  have hitems : (items.map GlobalItem.short).map expandGlobal = items.map GlobalItem.full := by
    rw [List.map_map]
    exact List.map_congr_left fun item _ => expandGlobal_short item
  simp only [expandGlobals, hitems]

theorem readRestricted_globals (value : Json) :
    readRestricted (.object [("globals", value)]) = (readGlobals [.field "globals"] value).map .restricted := rfl

/-- However the globals are listed, the same list is read. -/
theorem readRestricted_options (shorthand : Shorthand) (items : List GlobalItem) :
    readRestricted (shorthand.options items) =
      (readGlobals [.field "globals"] (.array (items.map GlobalItem.full))).map .restricted := by
  have hexpand : ∀ raw, expandGlobals raw = .object [("globals", .array (items.map GlobalItem.full))] →
      readRestricted raw = readRestricted (.object [("globals", .array (items.map GlobalItem.full))]) := by
    intro raw h
    rw [readRestricted, h]
    rfl
  rw [← readRestricted_globals]
  cases shorthand with
  | listed => exact hexpand _ (expandGlobals_array items)
  | spelledOut => rfl
  | spread =>
    cases items with
    | nil => rfl
    | cons first rest =>
      cases rest with
      | nil => exact hexpand _ (expandGlobals_short first)
      | cons second more => exact hexpand _ (expandGlobals_array (first :: second :: more))

/-! ## What is read -/

theorem toOption_both {α β : Type} (first : Reading α) (second : Reading β) :
    (both first second).toOption = first.toOption.bind fun x => second.toOption.map fun y => (x, y) := by
  cases first <;> cases second <;> rfl

theorem toOption_map {α β : Type} (f : α → β) (reading : Reading α) :
    (reading.map f).toOption = reading.toOption.map f := by
  cases reading <;> rfl

theorem toOption_all {α : Type} : ∀ readings : List (Reading α),
    (all readings).toOption = readings.mapM Except.toOption
  | [] => rfl
  | reading :: readings => by
    rw [all, toOption_map, toOption_both, toOption_all readings, List.mapM_cons]
    cases reading <;> cases readings.mapM Except.toOption <;> rfl

theorem toOption_readGlobal (place : List Step) (item : GlobalItem) :
    (readGlobal place item.full).toOption = item.meaning? := by
  cases item with
  | name text => rfl
  | entry fields single =>
    rw [GlobalItem.full, readGlobal, GlobalItem.meaning?, toOption_map, toOption_both]
    cases Keyed.get? "name" fields with
    | none => rfl
    | some name =>
      cases Keyed.get? "message" fields with
      | none => cases name <;> rfl
      | some message => cases name <;> cases message <;> rfl

/-- The globals are read if each item gives one, and then in their order. -/
theorem toOption_readGlobals (place : List Step) (items : List GlobalItem) :
    (readGlobals place (.array (items.map GlobalItem.full))).toOption = items.mapM GlobalItem.meaning? := by
  have hfrom : ∀ (items : List GlobalItem) (first : Nat), (((items.map GlobalItem.full).zipIdx first).map
      fun indexed => readGlobal (place ++ [.item indexed.2]) indexed.1).mapM Except.toOption =
        items.mapM GlobalItem.meaning? := by
    intro items
    induction items with
    | nil => exact fun _ => rfl
    | cons item items ih =>
      intro first
      rw [List.map_cons, List.zipIdx_cons, List.map_cons, List.mapM_cons, List.mapM_cons, ih, toOption_readGlobal]
  rw [readGlobals, toOption_all]
  exact hfrom items 0

end Reading

/-! ## Registering -/

namespace Rules

/-- The rule takes the globals if each item gives one, and else complains. -/
theorem checkOptions_shorthand (items : List GlobalItem) :
    (∃ globals, items.mapM GlobalItem.meaning? = some globals ∧
      ∀ shorthand : Shorthand,
        noRestrictedGlobals.checkOptions (shorthand.options items) = .ok (.restricted globals)) ∨
    (items.mapM GlobalItem.meaning? = none ∧ ∃ complaints,
      ∀ shorthand : Shorthand, noRestrictedGlobals.checkOptions (shorthand.options items) =
        .error (.config (.invalidOptions noRestrictedGlobals.id complaints))) := by
  have hread := Reading.toOption_readGlobals [.field "globals"] items
  have hcounts : ¬ (Reading.readGlobals [.field "globals"] (.array (items.map GlobalItem.full))).Overcounts :=
    Reading.not_overcounts_readGlobals _ _
  have hcheck : ∀ shorthand : Shorthand, noRestrictedGlobals.checkOptions (shorthand.options items) =
      match (Reading.readGlobals [.field "globals"] (.array (items.map GlobalItem.full))).map RuleOptions.restricted with
      | .ok options => .ok options
      | .error complaints =>
        if complaints.any (·.requirement = .countInRange) then .error .countTooLarge
        else .error (.config (.invalidOptions noRestrictedGlobals.id complaints)) := by
    intro shorthand
    rw [← Reading.readRestricted_options shorthand]
    rfl
  cases hreading : Reading.readGlobals [.field "globals"] (.array (items.map GlobalItem.full)) with
  | ok globals =>
    rw [hreading] at hread hcheck
    exact .inl ⟨globals, hread.symm, hcheck⟩
  | error complaints =>
    rw [hreading] at hread hcheck hcounts
    have hany : ¬ complaints.any (·.requirement = .countInRange) = true := by
      simpa [Reading.overcounts_error] using hcounts
    refine .inr ⟨hread.symm, complaints, fun shorthand => ?_⟩
    rw [hcheck, Except.map]
    exact if_neg hany

end Rules

namespace Registry

open Rules (noRestrictedGlobals)

variable {catalog : Catalog} {registry : Registry}

theorem Open.registerEntry_shorthand (h : Open catalog registry)
    (known : Keyed.get? noRestrictedGlobals.id catalog = some noRestrictedGlobals) (shorthand : Shorthand)
    (level : Json) (items : List GlobalItem) :
    registry.registerEntry (noRestrictedGlobals.id, shorthand.entry level items) =
      (Severity.parse level).bind fun severity =>
        (noRestrictedGlobals.checkOptions (shorthand.options items)).map fun checked =>
          { registry with
            entries := Keyed.set noRestrictedGlobals.id ⟨noRestrictedGlobals, severity, checked⟩ registry.entries } := by
  rw [Registry.registerEntry, Shorthand.parseEntry_entry]
  cases Severity.parse level with
  | error error => rfl
  | ok severity =>
    simp only [Except.map, Except.bind, h.register_name, known]

theorem Open.registerEntry_congr (h : Open catalog registry)
    (known : Keyed.get? noRestrictedGlobals.id catalog = some noRestrictedGlobals) (first second : Shorthand)
    (level : Json) (items : List GlobalItem) :
    registry.registerEntry (noRestrictedGlobals.id, first.entry level items) =
      registry.registerEntry (noRestrictedGlobals.id, second.entry level items) := by
  have hsame : noRestrictedGlobals.checkOptions (first.options items) =
      noRestrictedGlobals.checkOptions (second.options items) := by
    obtain ⟨globals, -, haccepted⟩ | ⟨-, complaints, hrefused⟩ := Rules.checkOptions_shorthand items
    · rw [haccepted, haccepted]
    · rw [hrefused, hrefused]
  rw [h.registerEntry_shorthand known, h.registerEntry_shorthand known, hsame]

/-- **The shorthands for restricted globals agree.** For every severity and every list of names and of objects
that do not list globals themselves: whether they follow the severity one by one, in a list, or in full in an
object, the rule is registered at that severity with the same names and messages in order; or some item gives no
name or a message that is no text, and all three are refused with one configuration error. A value that is
no severity is refused in one way too. So in a configuration one may stand for the other. -/
theorem registerEntry_shorthands (h : Open catalog registry)
    (known : Keyed.get? noRestrictedGlobals.id catalog = some noRestrictedGlobals) (items : List GlobalItem) :
    (∀ level severity, Severity.parse level = .ok severity →
      (∃ globals, items.mapM GlobalItem.meaning? = some globals ∧ ∀ shorthand : Shorthand,
        registry.registerEntry (noRestrictedGlobals.id, shorthand.entry level items) =
          .ok { registry with
            entries := Keyed.set noRestrictedGlobals.id ⟨noRestrictedGlobals, severity, .restricted globals⟩
              registry.entries }) ∨
      (items.mapM GlobalItem.meaning? = none ∧ ∃ complaints, ∀ shorthand : Shorthand,
        registry.registerEntry (noRestrictedGlobals.id, shorthand.entry level items) =
          .error (.config (.invalidOptions noRestrictedGlobals.id complaints)))) ∧
    (∀ level error, Severity.parse level = .error error →
      (error.isConfig = true ∨ Severity.Unreadable level) ∧ ∀ shorthand : Shorthand,
        registry.registerEntry (noRestrictedGlobals.id, shorthand.entry level items) = .error error) ∧
    ∀ (config : Config) (before after : Keyed Json) (level : Json) (first second : Shorthand),
      build catalog { config with rules := before ++ (noRestrictedGlobals.id, first.entry level items) :: after } =
        build catalog { config with rules := before ++ (noRestrictedGlobals.id, second.entry level items) :: after } := by
  have hchecked := Rules.checkOptions_shorthand items
  refine ⟨fun level severity hlevel => ?_, fun level error hlevel => ⟨?_, fun shorthand => ?_⟩, ?_⟩
  · refine hchecked.imp ?_ ?_
    · rintro ⟨globals, hglobals, haccepted⟩
      refine ⟨globals, hglobals, fun shorthand => ?_⟩
      rw [h.registerEntry_shorthand known, hlevel, haccepted]
      rfl
    · rintro ⟨hnone, complaints, hrefused⟩
      refine ⟨hnone, complaints, fun shorthand => ?_⟩
      rw [h.registerEntry_shorthand known, hlevel, hrefused]
      rfl
  · rw [← Severity.breaksOff_parse, hlevel, breaksOff_error]
    cases error.isConfig <;> simp
  · rw [h.registerEntry_shorthand known, hlevel]
    rfl
  · intro config before after level first second
    rw [build, build, registerEntries_eq_foldlM, registerEntries_eq_foldlM, List.foldlM_append, List.foldlM_append]
    congr 1
    cases hbefore : before.foldlM Registry.registerEntry (empty catalog) with
    | error error => rfl
    | ok reached =>
      rw [← registerEntries_eq_foldlM] at hbefore
      have hreached := (open_empty catalog).registerEntries hbefore
      simp only [bind, Except.bind, List.foldlM_cons, hreached.registerEntry_congr known first second]

/-- A name, an object with a message, and one with a message that is null and a key that counts for nothing. -/
def mixedItems : List GlobalItem :=
  [.name "event", .entry [("name", .string "fdescribe"), ("message", .string "Do not focus tests.")] rfl,
    .entry [("message", .null), ("name", .string "top"), ("note", .int 1)] rfl]

theorem registerEntry_shorthands_mixedItems :
    (∀ shorthand : Shorthand,
      ((empty Catalog.builtin).registerEntry ("no-restricted-globals", shorthand.entry (.string "warn") mixedItems)).map
        (fun registry => registry.entries.map fun entry => (entry.1, entry.2.severity, entry.2.options)) =
        .ok [("no-restricted-globals", .warn, .restricted [⟨"event", none⟩, ⟨"fdescribe", some "Do not focus tests."⟩,
          ⟨"top", none⟩])]) ∧
      ∃ complaints, ∀ shorthand : Shorthand,
        (empty Catalog.builtin).registerEntry ("no-restricted-globals", shorthand.entry (.int 2) [.entry [] rfl]) =
          .error (.config (.invalidOptions "no-restricted-globals" complaints)) := by
  have known : Keyed.get? noRestrictedGlobals.id Catalog.builtin = some noRestrictedGlobals := rfl
  have hlevel : Severity.parse (.string "warn") = .ok .warn := Severity.parse_name .warn
  constructor
  · obtain ⟨globals, hglobals, hsame⟩ | ⟨hnone, -⟩ :=
      (registerEntry_shorthands (open_empty _) known mixedItems).1 _ _ hlevel
    · obtain rfl := Option.some.inj hglobals
      exact fun shorthand => (congrArg _ (hsame shorthand)).trans rfl
    · cases hnone
  · obtain ⟨globals, hglobals, -⟩ | ⟨-, hrefused⟩ :=
      (registerEntry_shorthands (open_empty _) known [.entry [] rfl]).1 (.int 2) .error rfl
    · cases hglobals
    · exact hrefused

end Registry

end ScriptLint
