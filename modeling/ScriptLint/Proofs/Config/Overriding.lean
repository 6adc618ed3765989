/-
What overrides do to a configuration.

An override names a rule and says a severity (`Override`). For each rule the last
override that names it counts (`lastSaid?`): its entry is the one it had, at that
severity, however often and in whatever order overrides come, since an entry
that is rewritten keeps what stands behind its severity and can be rewritten
again (`withSeverity_withSeverity`, `get?_overrideRules`). A rule that has no entry
gets a bare one, behind all others (`keys_overrideRules`). What a registry holds is
told entry by entry (`Registry.entries_build`), so that overrides change the
severities in it and nothing else (`Registry.overridden_of_build`).

Overrides are written into a copy of the entries. `Config.overrideHeld` does so in
place, among dictionaries in memory; those that were there stay as they are.
-/
import ScriptLint.Proofs.Config.BreakingOff
import ScriptLint.Proofs.Distinct

namespace ScriptLint

/-! ## What overrides say -/

theorem exists_of_isOk {α : Type} {result : Except SetupError α} (h : result.isOk = true) : ∃ x, result = .ok x := by
  cases result with
  | ok x => exact ⟨x, rfl⟩
  | error error => cases h

/-- What an override says: a rule, in front of the first equals sign and with blanks around it left out,
and a severity behind it. -/
structure Override (item id : String) (severity : Severity) : Prop where
  parts : ∃ before level : String, item.toList = before.toList ++ '=' :: level.toList ∧ '=' ∉ before.toList ∧
    strip before = id ∧ Severity.parseText level = .ok severity
  named : id ≠ ""

theorem cutAt_eq_iff {sep : Char} {text before after : String} :
    cutAt sep text = (before, some after) ↔
      text.toList = before.toList ++ sep :: after.toList ∧ sep ∉ before.toList := by
  have differs : ∀ {cs : List Char}, sep ∉ cs → ∀ c ∈ cs, decide (c ≠ sep) = true := by
    intro cs h c hc
    exact decide_eq_true fun hsame => h (hsame ▸ hc)
  simp only [cutAt, Prod.mk.injEq]
  constructor
  · rintro ⟨rfl, hafter⟩
    split at hafter
    · cases hafter
    · next c rest hrest =>
      obtain rfl := Option.some.inj hafter
      obtain rfl : c = sep := by simpa using Chars.dropWhile_head_not hrest
      rw [String.toList_ofList, String.toList_ofList, ← hrest, List.takeWhile_append_dropWhile]
      exact ⟨rfl, fun hmem => by simpa using List.mem_takeWhile_imp hmem⟩
  · rintro ⟨htext, hnot⟩
    rw [htext, List.takeWhile_append_of_pos (differs hnot), List.dropWhile_append_of_pos (differs hnot)]
    simp

theorem parseOverride_eq_ok_iff {item id : String} {severity : Severity} :
    parseOverride item = .ok (id, severity) ↔ Override item id severity := by
  constructor
  · intro h
    simp only [parseOverride] at h
    split at h
    · cases h
    · next before level hcut =>
      split at h
      · cases h
      · next hnamed =>
        split at h
        · cases h
        · next hlevel =>
          cases h
          obtain ⟨hitem, hfirst⟩ := cutAt_eq_iff.1 hcut
          exact ⟨⟨before, level, hitem, hfirst, rfl, hlevel⟩, hnamed⟩
  · rintro ⟨⟨before, level, hitem, hfirst, rfl, hlevel⟩, hnamed⟩
    simp only [parseOverride, cutAt_eq_iff.2 ⟨hitem, hfirst⟩, if_neg hnamed, hlevel]

/-- The severity of the last override that names a rule. -/
def lastSaid? (id : String) : List String → Option Severity
  | [] => none
  | item :: items =>
    match lastSaid? id items, parseOverride item with
    | some severity, _ => some severity
    | none, .ok (other, severity) => if other = id then some severity else none
    | none, .error _ => none

/-- No override names a rule. -/
def Unsaid (items : List String) (id : String) : Prop := ∀ item ∈ items, ∀ severity, ¬ Override item id severity

/-- The last of some overrides that names a rule says a severity. -/
def LastSays (items : List String) (id : String) (severity : Severity) : Prop :=
  ∃ before item after, items = before ++ item :: after ∧ Override item id severity ∧ Unsaid after id

theorem lastSaid?_eq_none_iff {id : String} : ∀ {items : List String}, lastSaid? id items = none ↔ Unsaid items id
  | [] => iff_of_true rfl fun _ h => absurd h List.not_mem_nil
  | item :: items => by
    have ih : lastSaid? id items = none ↔ Unsaid items id := lastSaid?_eq_none_iff
    rw [Unsaid, List.forall_mem_cons, ← Unsaid, ← ih, lastSaid?]
    simp only [← parseOverride_eq_ok_iff]
    cases lastSaid? id items with
    | some severity => simp
    | none =>
      cases parseOverride item with
      | error error => simp
      | ok named =>
        obtain ⟨other, level⟩ := named
        by_cases hother : other = id <;> simp [hother]

theorem lastSays_cons {id item : String} {items : List String} {severity : Severity} :
    LastSays (item :: items) id severity ↔
      LastSays items id severity ∨ Override item id severity ∧ Unsaid items id := by
  constructor
  · rintro ⟨before, last, after, hitems, hlast, hafter⟩
    cases before with
    | nil =>
      cases hitems
      exact .inr ⟨hlast, hafter⟩
    | cons first before =>
      cases hitems
      exact .inl ⟨before, last, after, rfl, hlast, hafter⟩
  · rintro (⟨before, last, after, rfl, hlast, hafter⟩ | ⟨hitem, hitems⟩)
    · exact ⟨item :: before, last, after, rfl, hlast, hafter⟩
    · exact ⟨[], item, items, rfl, hitem, hitems⟩

theorem lastSaid?_eq_some_iff {id : String} {severity : Severity} : ∀ {items : List String},
    lastSaid? id items = some severity ↔ LastSays items id severity
  | [] => by
    refine iff_of_false (fun h => by cases h) ?_
    rintro ⟨before, item, after, h, -⟩
    cases before <;> cases h
  | item :: items => by
    have ih : lastSaid? id items = some severity ↔ LastSays items id severity := lastSaid?_eq_some_iff
    rw [lastSays_cons, ← ih, ← lastSaid?_eq_none_iff, ← parseOverride_eq_ok_iff, lastSaid?]
    cases lastSaid? id items with
    | some level => simp
    | none =>
      cases parseOverride item with
      | error error => simp
      | ok named =>
        obtain ⟨other, level⟩ := named
        by_cases hother : other = id <;> simp [hother]

/-- The rules that overrides name, one after another. -/
def overriddenNames (items : List String) : List String :=
  items.filterMap fun item => (parseOverride item).toOption.map Prod.fst

/-! ## What overrides do to entries -/

/-- An entry without options is no more than its severity. -/
theorem withSeverity_bare {current : Option Json}
    (h : ∀ level option more, current ≠ some (.array (level :: option :: more))) (severity : Severity) :
    withSeverity current severity = .string severity.name := by
  unfold withSeverity
  split
  · next level option more => exact absurd rfl (h level option more)
  · rfl

/-- What stands behind its severity is all that an entry keeps. -/
theorem withSeverity_withSeverity (current : Option Json) (first second : Severity) :
    withSeverity (some (withSeverity current first)) second = withSeverity current second := by
  by_cases hoptions : ∃ level option more, current = some (.array (level :: option :: more))
  · obtain ⟨level, option, more, rfl⟩ := hoptions
    rfl
  · have hbare : ∀ level option more, current ≠ some (.array (level :: option :: more)) :=
      fun level option more h => hoptions ⟨level, option, more, h⟩
    rw [withSeverity_bare hbare, withSeverity_bare hbare]
    rfl

theorem parseEntry_name (severity : Severity) : parseEntry (.string severity.name) = .ok (severity, .null) := by
  simp only [parseEntry, Severity.parse_name]

theorem parseEntry_bare {entry options : Json} {severity : Severity}
    (hbare : ∀ level option more, entry ≠ .array (level :: option :: more))
    (h : parseEntry entry = .ok (severity, options)) : options = .null := by
  unfold parseEntry at h
  split at h
  · cases h
  · next level rest =>
    cases rest with
    | nil =>
      split at h
      · cases h
      · cases h
        rfl
    | cons option more => exact absurd rfl (hbare level option more)
  · split at h
    · cases h
    · cases h
      rfl

/-- An entry at another severity is read with the options that it had. -/
theorem parseEntry_withSeverity {entry options : Json} {old : Severity} (h : parseEntry entry = .ok (old, options))
    (severity : Severity) : parseEntry (withSeverity (some entry) severity) = .ok (severity, options) := by
  by_cases hoptions : ∃ level option more, entry = .array (level :: option :: more)
  · obtain ⟨level, option, more, rfl⟩ := hoptions
    simp only [withSeverity, parseEntry, Severity.parse_name] at h ⊢
    split at h
    · cases h
    · cases h
      rfl
  · have hbare : ∀ level option more, entry ≠ .array (level :: option :: more) :=
      fun level option more h => hoptions ⟨level, option, more, h⟩
    rw [withSeverity_bare fun level option more hsome => hbare level option more (Option.some.inj hsome),
      parseEntry_name, parseEntry_bare hbare h]

/-- The entry of a rule is the one it had, at the severity that overrides said last. -/
theorem get?_overrideRules : ∀ {items : List String} {rules next : Keyed Json}, overrideRules rules items = .ok next →
    ∀ id, Keyed.get? id next = (lastSaid? id items).elim (Keyed.get? id rules)
      fun severity => some (withSeverity (Keyed.get? id rules) severity)
  | [], _, _, h, _ => by
    cases h
    rfl
  | item :: items, rules, next, h, id => by
    rw [overrideRules] at h
    split at h
    · cases h
    · next other severity hitem =>
      rw [get?_overrideRules h id, lastSaid?, hitem]
      by_cases hother : other = id
      · subst hother
        cases lastSaid? other items with
        | none => simp [Keyed.get?_set_self]
        | some last => simp [Keyed.get?_set_self, withSeverity_withSeverity]
      · rw [Keyed.get?_set_other (Ne.symm hother)]
        cases lastSaid? id items <;> simp [hother]

/-- Rules that have no entry get one behind all others, in the order in which they are first named. -/
theorem keys_overrideRules {rules : Keyed Json} {items : List String} : ∀ {next : Keyed Json},
    overrideRules rules items = .ok next → Keyed.keys next =
      Keyed.keys rules ++ (overriddenNames items).eraseDups.filter fun id => id ∉ Keyed.keys rules := by
  induction items using List.reverseRecOn with
  | nil =>
    intro next h
    cases h
    simp [overriddenNames]
  | append_singleton items item ih =>
    intro next h
    rw [overrideRules_append] at h
    cases hreached : overrideRules rules items with
    | error error =>
      rw [hreached] at h
      cases h
    | ok reached =>
      rw [hreached] at h
      simp only [Except.bind, overrideRules] at h
      split at h
      · cases h
      · next id severity hitem =>
        cases h
        have hnames : overriddenNames (items ++ [item]) = overriddenNames items ++ [id] := by
          simp [overriddenNames, hitem, Except.toOption]
        rw [Keyed.keys_set, ih hreached, hnames, eraseDups_concat]
        by_cases hold : id ∈ Keyed.keys rules <;> by_cases hnamed : id ∈ overriddenNames items <;> simp [hold, hnamed]

/-! ## Lists of entries -/

/-- Entries with the same names in the same order, each made from the one with its name. -/
theorem Keyed.eq_map_of_keys_eq {α : Type} {f : String × α → α} : ∀ {m others : Keyed α}, keys others = keys m →
    (∀ entry ∈ m, ∀ other ∈ others, other.1 = entry.1 → other.2 = f entry) →
      others = m.map fun entry => (entry.1, f entry)
  | [], [], _, _ => rfl
  | [], _ :: _, hkeys, _ => by cases hkeys
  | _ :: _, [], hkeys, _ => by cases hkeys
  | entry :: m, other :: others, hkeys, h => by
    obtain ⟨hname, hkeys⟩ := List.cons_eq_cons.1 hkeys
    have hfirst : other = (entry.1, f entry) :=
      Prod.ext hname (h entry List.mem_cons_self other List.mem_cons_self hname)
    have hrest := eq_map_of_keys_eq hkeys fun entry hentry other hother =>
      h entry (List.mem_cons_of_mem _ hentry) other (List.mem_cons_of_mem _ hother)
    rw [List.map_cons, ← hfirst, ← hrest]

section Forall₂

variable {α β γ : Type} {R : α → β → Prop} {S : α → γ → Prop} {T : β → γ → Prop}

theorem forall₂_of_common (h : ∀ a b c, R a b → S a c → T b c) {as : List α} {bs : List β} {cs : List γ}
    (hR : List.Forall₂ R as bs) (hS : List.Forall₂ S as cs) : List.Forall₂ T bs cs := by
  induction hR generalizing cs with
  | nil =>
    cases hS
    exact .nil
  | cons hab _ ih =>
    cases hS with
    | cons hac hrest => exact .cons (h _ _ _ hab hac) (ih hrest)

theorem exists_of_forall₂_append {first rest : List α} {bs : List β} (h : List.Forall₂ R (first ++ rest) bs) :
    ∃ before after, List.Forall₂ R first before ∧ List.Forall₂ R rest after ∧ bs = before ++ after := by
  refine ⟨bs.take first.length, bs.drop first.length, ?_, ?_, (List.take_append_drop _ _).symm⟩
  · simpa using List.forall₂_take first.length h
  · simpa using List.forall₂_drop first.length h

theorem forall_mem_of_forall₂ {p : β → Prop} {as : List α} {bs : List β} (h : ∀ a ∈ as, ∀ b, R a b → p b)
    (hR : List.Forall₂ R as bs) : ∀ b ∈ bs, p b := by
  induction hR with
  | nil => exact fun b hb => absurd hb List.not_mem_nil
  | cons hab _ ih =>
    rw [List.forall_mem_cons] at h ⊢
    exact ⟨h.1 _ hab, ih h.2⟩

end Forall₂

/-! ## What a registry holds of entries -/

namespace Registry

variable {catalog : Catalog} {registry next : Registry}

/-- What a registry holds of an entry: the rule with its name, at its severity, with its options. -/
structure Registers (catalog : Catalog) (entry : String × Json) (held : String × ActiveRule) : Prop where
  named : held.1 = entry.1
  known : Keyed.get? entry.1 catalog = some held.2.rule
  read : ∃ raw, parseEntry entry.2 = .ok (held.2.severity, raw) ∧ held.2.rule.checkOptions raw = .ok held.2.options

theorem Open.exists_registers (h : Open catalog registry) {entry : String × Json}
    (hnew : entry.1 ∉ Keyed.keys registry.entries) (hnext : registry.registerEntry entry = .ok next) :
    ∃ held, Registers catalog entry held ∧ next.entries = registry.entries ++ [held] := by
  unfold Registry.registerEntry at hnext
  cases hparsed : parseEntry entry.2 with
  | error error =>
    rw [hparsed] at hnext
    cases hnext
  | ok parsed =>
    obtain ⟨severity, raw⟩ := parsed
    rw [hparsed, Except.bind] at hnext
    obtain ⟨-, rule, level, checked, hrule, hlevel, hchecked, rfl⟩ := register_eq_ok_iff.1 hnext
    rw [Severity.parse_name] at hlevel
    cases hlevel
    rw [h.catalog_eq] at hrule
    exact ⟨(entry.1, ⟨rule, severity, checked⟩), ⟨rfl, hrule, raw, hparsed, hchecked⟩,
      Keyed.set_of_get?_eq_none (Keyed.get?_eq_none_of_not_mem hnew)⟩

/-- Entries with new names are held one after another, behind what is there. -/
theorem Open.entries_registerEntries : ∀ {entries : List (String × Json)} {registry : Registry},
    Open catalog registry → (Keyed.keys registry.entries ++ entries.map Prod.fst).Nodup →
      Registry.registerEntries registry entries = .ok next →
        ∃ held, List.Forall₂ (Registers catalog) entries held ∧ next.entries = registry.entries ++ held
  | [], registry, _, _, hnext => ⟨[], .nil, by rw [List.append_nil, Except.ok.inj hnext]⟩
  | entry :: entries, registry, h, distinct, hnext => by
    rw [registerEntries_eq_foldlM, List.foldlM_cons] at hnext
    cases hreached : registry.registerEntry entry with
    | error error =>
      rw [hreached] at hnext
      cases hnext
    | ok reached =>
      rw [hreached] at hnext
      replace hnext : Registry.registerEntries reached entries = .ok next := (registerEntries_eq_foldlM _ _).trans hnext
      rw [List.map_cons] at distinct
      have hnew : entry.1 ∉ Keyed.keys registry.entries := fun hmem =>
        (List.nodup_append.1 distinct).2.2 _ hmem _ List.mem_cons_self rfl
      obtain ⟨first, hfirst, hentries⟩ := h.exists_registers hnew hreached
      have hkeys : Keyed.keys reached.entries = Keyed.keys registry.entries ++ [entry.1] := by
        rw [hentries, Keyed.keys, List.map_append, List.map_singleton, hfirst.named]
        rfl
      obtain ⟨held, hheld, hlast⟩ := entries_registerEntries (h.registerEntry hreached)
        (by rwa [hkeys, List.append_assoc, List.singleton_append]) hnext
      exact ⟨first :: held, .cons hfirst hheld, by rw [hlast, hentries, List.append_assoc, List.singleton_append]⟩

/-- A registry that is built holds the entries of the configuration in their order. -/
theorem entries_build {config : Config} (distinct : (Keyed.keys config.rules).Nodup)
    (h : build catalog config = .ok registry) :
    registry.catalog = catalog ∧ registry.frozen = true ∧
      List.Forall₂ (Registers catalog) config.rules registry.entries := by
  rw [build] at h
  cases hreached : registerEntries (empty catalog) config.rules with
  | error error =>
    rw [hreached] at h
    cases h
  | ok reached =>
    rw [hreached] at h
    cases h
    obtain ⟨held, hheld, hentries⟩ := (open_empty catalog).entries_registerEntries distinct hreached
    refine ⟨((open_empty catalog).registerEntries hreached).catalog_eq, rfl, ?_⟩
    obtain rfl : reached.entries = held := hentries
    exact hheld

/-- An entry after overrides: the same rule with the same options, at the severity that the last override
which names it says, or else at the one it had. -/
structure Kept (items : List String) (before after : String × ActiveRule) : Prop where
  named : after.1 = before.1
  rule : after.2.rule = before.2.rule
  options : after.2.options = before.2.options
  said : ∀ severity, LastSays items before.1 severity → after.2.severity = severity
  unsaid : Unsaid items before.1 → after.2.severity = before.2.severity

/-- An entry that overrides brought in: a rule of the catalog at the severity said last, with the options
of a bare entry. -/
structure Added (catalog : Catalog) (items : List String) (entry : String × ActiveRule) : Prop where
  known : Keyed.get? entry.1 catalog = some entry.2.rule
  said : LastSays items entry.1 entry.2.severity
  bare : entry.2.rule.checkOptions .null = .ok entry.2.options

/-- A registry after overrides: all entries that it had in their places, and behind them those of the
rules that only overrides name, in the order in which they are first named. -/
structure Overridden (items : List String) (base registry : Registry) : Prop where
  catalog_eq : registry.catalog = base.catalog
  frozen : registry.frozen = true
  entries : ∃ kept added, registry.entries = kept ++ added ∧ List.Forall₂ (Kept items) base.entries kept ∧
    Keyed.keys added = (overriddenNames items).eraseDups.filter (fun id => id ∉ Keyed.keys base.entries) ∧
    ∀ entry ∈ added, Added base.catalog items entry

theorem keys_of_registers {entries : List (String × Json)} {held : Keyed ActiveRule}
    (h : List.Forall₂ (Registers catalog) entries held) : Keyed.keys held = Keyed.keys entries := by
  induction h with
  | nil => rfl
  | cons hfirst _ ih => exact List.cons_eq_cons.2 ⟨hfirst.named, ih⟩

/-- What is held of an entry at another severity differs in the severity only. -/
theorem Registers.kept {items : List String} {entry : String × Json} {before after : String × ActiveRule}
    (hbefore : Registers catalog entry before) (hafter : Registers catalog
      (entry.1, (lastSaid? entry.1 items).elim entry.2 (withSeverity (some entry.2))) after) :
    Kept items before after := by
  obtain ⟨raw, hparse, hchecked⟩ := hbefore.read
  obtain ⟨raw', hparse', hchecked'⟩ := hafter.read
  have hrule : after.2.rule = before.2.rule := Option.some.inj (hafter.known.symm.trans hbefore.known)
  have hread : raw' = raw ∧ after.2.severity = (lastSaid? entry.1 items).getD before.2.severity := by
    cases hlast : lastSaid? entry.1 items with
    | none =>
      rw [hlast, Option.elim_none, hparse] at hparse'
      obtain ⟨hseverity, hraw⟩ := Prod.mk.inj (Except.ok.inj hparse')
      exact ⟨hraw.symm, hseverity.symm⟩
    | some severity =>
      rw [hlast, Option.elim_some, parseEntry_withSeverity hparse] at hparse'
      obtain ⟨hseverity, hraw⟩ := Prod.mk.inj (Except.ok.inj hparse')
      exact ⟨hraw.symm, hseverity.symm⟩
  obtain ⟨rfl, hseverity⟩ := hread
  rw [hrule] at hchecked'
  refine ⟨hafter.named.trans hbefore.named.symm, hrule, Except.ok.inj (hchecked'.symm.trans hchecked), ?_, ?_⟩
  · intro severity hsaid
    rw [hbefore.named, ← lastSaid?_eq_some_iff] at hsaid
    rw [hseverity, hsaid, Option.getD_some]
  · intro hunsaid
    rw [hbefore.named, ← lastSaid?_eq_none_iff] at hunsaid
    rw [hseverity, hunsaid, Option.getD_none]

/-- What is held of an entry that only overrides brought in. -/
theorem Registers.added {items : List String} {entry : String × Json} {held : String × ActiveRule} {severity : Severity}
    (h : Registers catalog entry held) (hentry : entry.2 = withSeverity none severity)
    (hlast : lastSaid? entry.1 items = some severity) : Added catalog items held := by
  obtain ⟨raw, hparse, hchecked⟩ := h.read
  rw [hentry, withSeverity_bare (by simp), parseEntry_name] at hparse
  obtain ⟨rfl, rfl⟩ := Prod.mk.inj (Except.ok.inj hparse)
  exact ⟨h.named ▸ h.known, h.named ▸ lastSaid?_eq_some_iff.1 hlast, hchecked⟩

theorem overridden_of_build {config next : Config} {base : Registry} {items : List String}
    (distinct : (Keyed.keys config.rules).Nodup) (hbase : build catalog config = .ok base)
    (hnext : overrideRules config.rules items = .ok next.rules) (hbuild : build catalog next = .ok registry) :
    Overridden items base registry := by
  have hkeys := keys_overrideRules hnext
  have distinct' : (Keyed.keys next.rules).Nodup := by
    rw [hkeys, List.nodup_append]
    refine ⟨distinct, (nodup_eraseDups _).filter _, fun id hold other hnew hsame => ?_⟩
    exact (of_decide_eq_true (List.mem_filter.1 hnew).2 : other ∉ _) (hsame ▸ hold)
  obtain ⟨hcatalog, -, hentries⟩ := entries_build distinct hbase
  obtain ⟨hcatalog', hfrozen, hentries'⟩ := entries_build distinct' hbuild
  -- the entries that were there stand in front
  obtain ⟨front, back, hrules, hfront, hback⟩ := List.map_eq_append_iff.1 hkeys
  have hget : ∀ entry ∈ next.rules, (lastSaid? entry.1 items).elim (Keyed.get? entry.1 config.rules)
      (fun severity => some (withSeverity (Keyed.get? entry.1 config.rules) severity)) = some entry.2 :=
    fun entry hentry => (get?_overrideRules hnext _).symm.trans ((Keyed.get?_eq_some_iff_mem distinct').2 hentry)
  have hold : front = config.rules.map fun entry =>
      (entry.1, (lastSaid? entry.1 items).elim entry.2 (withSeverity (some entry.2))) := by
    refine Keyed.eq_map_of_keys_eq hfront fun entry hentry other hother hsame => ?_
    have h := hget other (hrules ▸ List.mem_append_left _ hother)
    rw [hsame, (Keyed.get?_eq_some_iff_mem distinct).2 hentry] at h
    cases hlast : lastSaid? entry.1 items <;> simpa [hlast] using h.symm
  rw [hrules, hold] at hentries'
  obtain ⟨kept, added, hkept, hadded, hsplit⟩ := exists_of_forall₂_append hentries'
  rw [List.forall₂_map_left_iff] at hkept
  refine ⟨hcatalog'.trans hcatalog.symm, hfrozen, kept, added, hsplit, ?_, ?_, ?_⟩
  · refine forall₂_of_common ?_ hentries hkept
    exact fun entry before after hbefore hafter => hbefore.kept hafter
  · rw [keys_of_registers hadded, keys_of_registers hentries]
    exact hback
  · rw [hcatalog]
    refine forall_mem_of_forall₂ (fun entry hentry held hheld => ?_) hadded
    have hnew : Keyed.get? entry.1 config.rules = none := by
      have hmem : entry.1 ∈ back.map Prod.fst := List.mem_map_of_mem hentry
      rw [hback] at hmem
      exact Keyed.get?_eq_none_of_not_mem (of_decide_eq_true (List.mem_filter.1 hmem).2)
    have h := hget entry (hrules ▸ List.mem_append_right _ hentry)
    rw [hnew] at h
    cases hlast : lastSaid? entry.1 items with
    | none => simp [hlast] at h
    | some severity => exact hheld.added (by simpa [hlast] using h.symm) hlast

end Registry

/-! ## Overriding in place -/

/-- The dictionaries in memory, each in its place. -/
abbrev Shelf := List (Keyed Json)

namespace Config

/-- A configuration in memory: the place of its entries, and its numbers. -/
structure Held where
  place : Nat
  jobs : Nat
  fixPasses : Nat
  jobs_pos : 1 ≤ jobs
  fixPasses_pos : 1 ≤ fixPasses

/-- The configuration that is read off the dictionaries in memory. -/
def Held.read (held : Held) (shelf : Shelf) : Config where
  rules := shelf.getD held.place []
  jobs := held.jobs
  fixPasses := held.fixPasses
  jobs_pos := held.jobs_pos
  fixPasses_pos := held.fixPasses_pos

/-- Writes one override into the dictionary in a place. -/
def overrideAt (place : Nat) (item : String) : EStateM SetupError Shelf Unit :=
  match parseOverride item with
  | .error error => throw error
  | .ok (id, severity) => modify fun shelf =>
      shelf.modify place fun rules => Keyed.set id (withSeverity (Keyed.get? id rules) severity) rules

def overrideAllAt (place : Nat) : List String → EStateM SetupError Shelf Unit
  | [] => pure ()
  | item :: items => do
    overrideAt place item
    overrideAllAt place items

/-- Writes overrides into a copy of the entries, which is the entries of the configuration that results. -/
def overrideHeld (held : Held) (items : List String) : EStateM SetupError Shelf Held := do
  let shelf ← get
  set (shelf ++ [shelf.getD held.place []])
  overrideAllAt shelf.length items
  pure { held with place := shelf.length }

theorem overrideAt_eq (place : Nat) (item : String) (shelf : Shelf) : overrideAt place item shelf =
    match parseOverride item with
    | .error error => .error error shelf
    | .ok (id, severity) => .ok () (shelf.modify place fun rules =>
        Keyed.set id (withSeverity (Keyed.get? id rules) severity) rules) := by
  unfold overrideAt
  cases parseOverride item <;> rfl

/-- Overrides are written into the last dictionary; one that is refused leaves what was written before it. -/
theorem overrideAllAt_eq (shelf : Shelf) : ∀ (items : List String) (rules : Keyed Json),
    ∃ made, match overrideRules rules items with
      | .ok next => made = next ∧ overrideAllAt shelf.length items (shelf ++ [rules]) = .ok () (shelf ++ [made])
      | .error error => overrideAllAt shelf.length items (shelf ++ [rules]) = .error error (shelf ++ [made])
  | [], rules => ⟨rules, rfl, rfl⟩
  | item :: items, rules => by
    simp only [overrideAllAt, bind, EStateM.bind, overrideAt_eq, overrideRules]
    cases parseOverride item with
    | error error => exact ⟨rules, rfl⟩
    | ok named =>
      simp only [modify_concat]
      exact overrideAllAt_eq shelf items _

/-- What becomes of a configuration in memory that is overridden: what results is a configuration of its own,
in a new dictionary, and the one that was there reads as before, also where overrides are refused. -/
structure Held.Undisturbed (held : Held) (shelf : Shelf) (items : List String) : Prop where
  accepted : ∀ next, (held.read shelf).applyOverrides items = .ok next →
    ∃ made held', overrideHeld held items shelf = .ok held' (shelf ++ [made]) ∧ held'.read (shelf ++ [made]) = next
  refused : ∀ error, (held.read shelf).applyOverrides items = .error error →
    ∃ made, overrideHeld held items shelf = .error error (shelf ++ [made])
  same : ∀ made, held.read (shelf ++ [made]) = held.read shelf

theorem overrideHeld_eq (held : Held) (items : List String) (shelf : Shelf) : overrideHeld held items shelf =
    match overrideAllAt shelf.length items (shelf ++ [shelf.getD held.place []]) with
    | .ok _ after => .ok { held with place := shelf.length } after
    | .error error after => .error error after := by
  have hcopied : overrideHeld held items shelf = EStateM.bind (overrideAllAt shelf.length items)
      (fun _ => pure { held with place := shelf.length }) (shelf ++ [shelf.getD held.place []]) := rfl
  rw [hcopied, EStateM.bind]
  cases overrideAllAt shelf.length items (shelf ++ [shelf.getD held.place []]) <;> rfl

theorem undisturbed {held : Held} {shelf : Shelf} (hplace : held.place < shelf.length) (items : List String) :
    held.Undisturbed shelf items where
  accepted next h := by
    obtain ⟨made, hmade⟩ := overrideAllAt_eq shelf items (shelf.getD held.place [])
    rw [applyOverrides, Held.read] at h
    cases hrules : overrideRules (shelf.getD held.place []) items with
    | error error =>
      rw [hrules] at h
      cases h
    | ok rules =>
      rw [hrules] at h hmade
      cases h
      obtain ⟨rfl, hmade⟩ := hmade
      refine ⟨made, { held with place := shelf.length }, by rw [overrideHeld_eq, hmade], ?_⟩
      simp [Held.read]
  refused error h := by
    obtain ⟨made, hmade⟩ := overrideAllAt_eq shelf items (shelf.getD held.place [])
    rw [applyOverrides, Held.read] at h
    cases hrules : overrideRules (shelf.getD held.place []) items with
    | error other =>
      rw [hrules] at h hmade
      cases h
      exact ⟨made, by rw [overrideHeld_eq, hmade]⟩
    | ok rules =>
      rw [hrules] at h
      cases h
  same made := by
    have hrules : (shelf ++ [made]).getD held.place [] = shelf.getD held.place [] := by
      rw [List.getD_eq_getElem?_getD, List.getElem?_append_left hplace, ← List.getD_eq_getElem?_getD]
    simp only [Held.read, hrules]

theorem applyOverrides_append (config : Config) (xs ys : List String) :
    config.applyOverrides (xs ++ ys) = (config.applyOverrides xs).bind fun next => next.applyOverrides ys := by
  rw [applyOverrides, overrideRules_append, applyOverrides]
  cases overrideRules config.rules xs <;> rfl

end Config

/-- **Overrides change severities and nothing else.** Where a configuration and its overridden form both build
a registry, the second registry is the first one with other severities: each rule in its place, with its
options, at the severity that the last override which names it says; rules that only overrides name follow.
Numbers of jobs and passes stay. In memory the configuration stays as it is, and overrides can be applied in
one go or one list after another, to the same result or the same error. -/
theorem Registry.overridden_build {catalog : Catalog} {config : Config} {base : Registry}
    (distinct : (Keyed.keys config.rules).Nodup) (hbase : build catalog config = .ok base) :
    (∀ items next registry, config.applyOverrides items = .ok next → build catalog next = .ok registry →
      Overridden items base registry ∧ next.jobs = config.jobs ∧ next.fixPasses = config.fixPasses) ∧
    (∀ (held : Config.Held) shelf items, held.place < shelf.length → held.read shelf = config →
      held.Undisturbed shelf items) ∧
    ∀ xs ys, config.applyOverrides (xs ++ ys) = (config.applyOverrides xs).bind fun next => next.applyOverrides ys := by
  refine ⟨fun items next registry hnext hbuild => ?_, fun held shelf items hplace _ => Config.undisturbed hplace items,
    config.applyOverrides_append⟩
  rw [Config.applyOverrides] at hnext
  cases hrules : overrideRules config.rules items with
  | error error =>
    rw [hrules] at hnext
    cases hnext
  | ok rules =>
    rw [hrules] at hnext
    cases hnext
    exact ⟨overridden_of_build distinct hbase hrules hbuild, rfl, rfl⟩

namespace Config

/-- Entries of all shapes: a name, a number, a list of one, of two and of more. -/
def ofAllShapes : Config :=
  { default with
    rules := [("no-var", .string "error"), ("no-eval", .int 1),
      ("eqeqeq", .array [.string "Warning", .string "allow-null"]),
      ("no-restricted-globals", .array [.int 2, .string "event", .object [("name", .string "top")]]),
      ("new-parens", .array [.string "off"])] }

/-- Overrides with blanks, in several spellings, of rules with and without an entry, some of them twice. -/
def severalOverrides : List String :=
  ["eqeqeq=error", " no-caller =warn", "no-restricted-globals= WARN", "no-eval=0", "eqeqeq=2", "no-self-compare=1",
    "no-caller=off"]

end Config

theorem Registry.overridden_build_ofAllShapes : (Keyed.keys Config.ofAllShapes.rules).Nodup ∧
    ∃ base next registry, build Catalog.builtin Config.ofAllShapes = .ok base ∧
      Config.ofAllShapes.applyOverrides Config.severalOverrides = .ok next ∧ build Catalog.builtin next = .ok registry ∧
      Overridden Config.severalOverrides base registry ∧
      registry.entries.map (fun entry => (entry.1, entry.2.severity)) = [("no-var", .error), ("no-eval", .off),
        ("eqeqeq", .error), ("no-restricted-globals", .warn), ("new-parens", .off), ("no-caller", .off),
        ("no-self-compare", .warn)] := by
  have distinct : (Keyed.keys Config.ofAllShapes.rules).Nodup := by decide +kernel
  obtain ⟨base, hbase⟩ := exists_of_isOk
    (by decide +kernel : (build Catalog.builtin Config.ofAllShapes).isOk = true)
  obtain ⟨next, hnext⟩ := exists_of_isOk
    (by decide +kernel : (Config.ofAllShapes.applyOverrides Config.severalOverrides).isOk = true)
  have hseverities : ((Config.ofAllShapes.applyOverrides Config.severalOverrides).bind
      (build Catalog.builtin)).toOption.map (fun registry => registry.entries.map fun entry =>
        (entry.1, entry.2.severity)) = some [("no-var", .error), ("no-eval", .off), ("eqeqeq", .error),
          ("no-restricted-globals", .warn), ("new-parens", .off), ("no-caller", .off), ("no-self-compare", .warn)] := by
    decide +kernel
  rw [hnext, Except.bind] at hseverities
  cases hbuild : build Catalog.builtin next with
  | error error =>
    rw [hbuild] at hseverities
    cases hseverities
  | ok registry =>
    rw [hbuild] at hseverities
    obtain ⟨hoverridden, -, -⟩ := (overridden_build distinct hbase).1 _ next registry hnext hbuild
    exact ⟨distinct, base, next, registry, hbase, hnext, hbuild, hoverridden, Option.some.inj hseverities⟩

end ScriptLint
