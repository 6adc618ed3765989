/-
What the command line can set up.

The default configuration is accepted, and overrides change no more than
severities, so an override that is read is one that a registry can be built
with, if its rule is known (`Settled`). Setting up therefore breaks off over
an override or not at all (`breaksOff_setup`), and a setup that fails is the end
of the command, before any file is looked at (`lint_setup`).
-/
import ScriptLint.Command.Execute
import ScriptLint.Proofs.Config.Overriding

namespace ScriptLint

namespace Command

/-! ## Entries that can be registered -/

/-- An entry that can be read, with options that its rule accepts if it is a built-in one. -/
def Settled (entry : String × Json) : Prop :=
  ∃ severity options, parseEntry entry.2 = .ok (severity, options) ∧
    ∀ rule, Keyed.get? entry.1 Catalog.builtin = some rule → ∃ checked, rule.checkOptions options = .ok checked

theorem Settled.not_unreadable {entry : String × Json} (h : Settled entry) : ¬ UnreadableEntry Catalog.builtin entry := by
  obtain ⟨severity, options, hparse, haccepts⟩ := h
  rintro (hseverity | ⟨severity', options', rule, hparse', hrule, hoptions⟩)
  · rw [← breaksOff_parseEntry, hparse] at hseverity
    exact not_breaksOff_ok _ hseverity
  · rw [hparse] at hparse'
    cases hparse'
    obtain ⟨checked, hchecked⟩ := haccepts rule hrule
    rw [← Rule.breaksOff_checkOptions, hchecked] at hoptions
    exact not_breaksOff_ok _ hoptions

/-- Every built-in rule can do without options. -/
theorem exists_checkOptions_null {id : String} {rule : Rule} (h : Keyed.get? id Catalog.builtin = some rule) :
    ∃ checked, rule.checkOptions .null = .ok checked := by
  have haccepts : ∀ rule ∈ Rules.builtin, (rule.checkOptions .null).isOk = true := by decide +kernel
  exact exists_of_isOk (haccepts rule (Registry.mem_of_get?_ofRules h))

theorem settled_name (id : String) (severity : Severity) : Settled (id, .string severity.name) :=
  ⟨severity, .null, parseEntry_name severity, fun _ => exists_checkOptions_null⟩

/-- Another severity keeps an entry settled. -/
theorem Settled.withSeverity {id : String} {current : Json} (h : Settled (id, current)) (severity : Severity) :
    Settled (id, withSeverity (some current) severity) := by
  obtain ⟨old, options, hparse, haccepts⟩ := h
  exact ⟨severity, options, parseEntry_withSeverity hparse severity, haccepts⟩

/-- The entry is settled, by evaluation. -/
def isSettled (entry : String × Json) : Bool :=
  match parseEntry entry.2 with
  | .error _ => false
  | .ok (_, options) => (Keyed.get? entry.1 Catalog.builtin).all fun rule => (rule.checkOptions options).isOk

theorem settled_default : ∀ entry ∈ Config.defaultRules, Settled entry := by
  have hsettled : ∀ entry ∈ Config.defaultRules, isSettled entry = true := by decide +kernel
  intro entry hentry
  have h := hsettled entry hentry
  unfold isSettled at h
  split at h
  · cases h
  · next severity options hparse =>
    refine ⟨severity, options, hparse, fun rule hrule => ?_⟩
    rw [hrule, Option.all_some] at h
    exact exists_of_isOk h

/-- Overrides keep all entries settled. -/
theorem settled_overrideRules : ∀ {items : List String} {rules next : Keyed Json}, (∀ entry ∈ rules, Settled entry) →
    overrideRules rules items = .ok next → ∀ entry ∈ next, Settled entry
  | [], _, _, h, hnext => Except.ok.inj hnext ▸ h
  | item :: items, rules, next, h, hnext => by
    rw [overrideRules] at hnext
    split at hnext
    · cases hnext
    · next id severity hitem =>
      refine settled_overrideRules (fun entry hentry => ?_) hnext
      rcases Keyed.mem_set hentry with rfl | hentry
      · cases hget : Keyed.get? id rules with
        | none => exact settled_name id severity
        | some current => exact (h _ (Keyed.mem_of_get?_eq_some hget)).withSeverity severity
      · exact h entry hentry

/-! ## Setting up -/

/-- Numbers of jobs and passes are counted, so they can be written. -/
theorem not_breaksOff_make (rules : Keyed Json) (jobs fixPasses : Nat) : ¬ BreaksOff (Config.make rules jobs fixPasses) := by
  have hzero : ∀ n : Nat, (n : Int) < 1 → (Json.int n).hasLiteral = true := by
    intro n hn
    have hone : n < Nat.pow 10 0 := Int.ofNat_lt.1 hn
    exact Json.hasLiteral_of_lt hone (Nat.zero_le _)
  unfold Config.make
  split
  · next h => rw [breaksOff_error, SetupError.isConfig_about, hzero jobs h]; simp
  · split
    · next h => rw [breaksOff_error, SetupError.isConfig_about, hzero fixPasses h]; simp
    · exact not_breaksOff_ok _

theorem make_eq_ok_iff {rules : Keyed Json} {jobs fixPasses : Nat} {config : Config} :
    Config.make rules jobs fixPasses = .ok config ↔
      1 ≤ jobs ∧ 1 ≤ fixPasses ∧ config.rules = rules ∧ config.jobs = jobs ∧ config.fixPasses = fixPasses := by
  obtain ⟨other, n, m, hn, hm⟩ := config
  unfold Config.make
  split
  · next h => exact iff_of_false (fun h => by cases h) fun h' => by omega
  · split
    · next h => exact iff_of_false (fun h => by cases h) fun h' => by omega
    · next hj hp =>
      simp only [Int.toNat_natCast, Except.ok.injEq, Config.mk.injEq]
      constructor
      · rintro ⟨rfl, rfl, rfl⟩
        exact ⟨hn, hm, rfl, rfl, rfl⟩
      · rintro ⟨-, -, rfl, rfl, rfl⟩
        exact ⟨rfl, rfl, rfl⟩

/-- With the built-in rules and the default configuration, only overrides can break the setup off. -/
theorem breaksOff_setup (options : LintOptions) : BreaksOff (setup options) ↔
    1 ≤ options.jobs ∧ 1 ≤ options.fixPasses ∧ UnreadableOverrides options.overrides := by
  have hsetup : setup options = (Config.make Config.defaultRules options.jobs options.fixPasses).bind fun base =>
      (base.applyOverrides options.overrides).bind fun config =>
        (Registry.build Catalog.builtin config).map fun registry => (config, registry) := rfl
  have hbuild : ∀ (base config : Config), base.rules = Config.defaultRules →
      base.applyOverrides options.overrides = .ok config → ¬ BreaksOff (Registry.build Catalog.builtin config) := by
    intro base config hbase hconfig hbreaks
    obtain ⟨before, entry, after, hrules, -, hentry⟩ := (Registry.breaksOff_build _ _).1 hbreaks
    unfold Config.applyOverrides at hconfig
    cases hnext : overrideRules base.rules options.overrides with
    | error error =>
      rw [hnext] at hconfig
      cases hconfig
    | ok next =>
      rw [hnext] at hconfig
      cases hconfig
      have hsettled := settled_overrideRules (hbase ▸ settled_default) hnext
      have hmem : entry ∈ next := by
        rw [show next = before ++ entry :: after from hrules]
        simp
      exact (hsettled entry hmem).not_unreadable hentry
  rw [hsetup, breaksOff_bind]
  constructor
  · rintro (h | ⟨base, hbase, h⟩)
    · exact absurd h (not_breaksOff_make _ _ _)
    · obtain ⟨hjobs, hpasses, hrules, -, -⟩ := make_eq_ok_iff.1 hbase
      rcases (breaksOff_bind _ _).1 h with h | ⟨config, hconfig, h⟩
      · exact ⟨hjobs, hpasses, (breaksOff_applyOverrides _ _).1 h⟩
      · exact absurd ((breaksOff_map _ _).1 h) (hbuild base config hrules hconfig)
  · rintro ⟨hjobs, hpasses, h⟩
    exact .inr ⟨⟨_, _, _, hjobs, hpasses⟩, make_eq_ok_iff.2 ⟨hjobs, hpasses, rfl, rfl, rfl⟩,
      (breaksOff_bind _ _).2 (.inl ((breaksOff_applyOverrides _ _).2 h))⟩

/-! ## The command -/

/-- Whether all targets of a request exist. -/
def targetsExist (disk : Disk) (options : LintOptions) : Bool :=
  options.targets.all fun target => (disk.stat? (disk.realPath (Path.ofString target))).isSome

/-- A setup that fails is all that happens: no tree is asked for, no file is looked at, and the disk stays
as it was. -/
theorem lint_of_setup_eq_error {options : LintOptions} {error : SetupError} (h : setup options = .error error)
    (parser : Parser) (disk : Disk) :
    lint parser disk options = .ok (if targetsExist disk options then setupFailed disk error else misuse disk) := by
  have htargets : (options.targets.map fun target => disk.realPath (Path.ofString target)).all
      (fun target => (disk.stat? target).isSome) = targetsExist disk options := List.all_map
  unfold lint
  dsimp only
  rw [htargets]
  cases targetsExist disk options <;> simp [lintTargets, h]

theorem exitCode_setupFailed (disk : Disk) (error : SetupError) :
    (setupFailed disk error).exitCode = if error.isConfig then 2 else 1 := by
  cases error <;> rfl

theorem disk_setupFailed (disk : Disk) (error : SetupError) : (setupFailed disk error).disk = disk := by
  cases error <;> rfl

/-- A request to set a rule to a superscript digit. -/
def superscriptOptions : LintOptions := { targets := ["/"], overrides := ["no-var=²"] }

theorem unreadable_superscriptOptions : UnreadableOverrides superscriptOptions.overrides :=
  ⟨[], "no-var=²", [], rfl, fun _ h => absurd h List.not_mem_nil, "no-var", "²", by decide +kernel⟩

end Command

end ScriptLint
