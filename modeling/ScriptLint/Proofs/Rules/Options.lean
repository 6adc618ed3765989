/-
What the built-in rules find in their options.

Options that a rule has accepted are of the sort that the rule looks for, and a
comment pattern that was accepted can be searched for (`readsOwn_of_checkOptions`).
-/
import Mathlib.Data.List.Nodup
import ScriptLint.Rules.Catalog

namespace ScriptLint

namespace Reading

/-- A value that is read from the fields of an object. -/
theorem exists_of_bind {α β γ : Type} {first : Reading α} {second : α → Reading β} {wrap : β → γ} {value : γ}
    (h : (first >>= fun x => second x >>= fun y => pure (wrap y)) = .ok value) :
    ∃ x y, second x = .ok y ∧ value = wrap y := by
  cases first with
  | error => cases h
  | ok x =>
    simp only [bind, Except.bind] at h
    cases hsecond : second x with
    | error complaints =>
      rw [hsecond] at h
      cases h
    | ok y =>
      rw [hsecond] at h
      exact ⟨x, y, hsecond, (Except.ok.inj h).symm⟩

theorem readEquality_eq_ok {raw : Json} {options : RuleOptions} (h : readEquality raw = .ok options) :
    ∃ mode, options = .equality mode := by
  obtain ⟨_, mode, -, rfl⟩ := exists_of_bind h
  exact ⟨mode, rfl⟩

theorem readAssignment_eq_ok {raw : Json} {options : RuleOptions} (h : readAssignment raw = .ok options) :
    ∃ mode, options = .assignment mode := by
  obtain ⟨_, mode, -, rfl⟩ := exists_of_bind h
  exact ⟨mode, rfl⟩

theorem readRestricted_eq_ok {raw : Json} {options : RuleOptions} (h : readRestricted raw = .ok options) :
    ∃ globals, options = .restricted globals := by
  obtain ⟨_, globals, -, rfl⟩ := exists_of_bind h
  exact ⟨globals, rfl⟩

theorem readUnused_eq_ok {raw : Json} {options : RuleOptions} (h : readUnused raw = .ok options) :
    ∃ unused, options = .unused unused := by
  obtain ⟨_, ⟨vars, args, ignore⟩, -, rfl⟩ := exists_of_bind h
  exact ⟨_, rfl⟩

theorem pattern_eq_ok {place : List Step} {value : Json} {text : String} (h : pattern place value = .ok text) :
    (Pattern.parse? text).isSome = true := by
  unfold pattern at h
  split at h
  · split at h
    · next hread =>
      cases h
      rw [Pattern.parse?, hread]
      rfl
    · cases h
    · cases h
  · cases h

theorem isSome_parse?_default : (Pattern.parse? defaultCommentPattern).isSome = true := by decide +kernel

theorem readCommentPattern_eq_ok {raw : Json} {options : RuleOptions} (h : readCommentPattern raw = .ok options) :
    ∃ text, options = .commentPattern text ∧ (Pattern.parse? text).isSome = true := by
  obtain ⟨fields, text, htext, rfl⟩ := exists_of_bind h
  refine ⟨text, rfl, ?_⟩
  unfold optional at htext
  split at htext
  · exact pattern_eq_ok htext
  · cases htext
    exact isSome_parse?_default

end Reading

/-- What a rule with options has read. -/
theorem Rule.read_of_checkOptions {rule : Rule} {read : Json → Reading RuleOptions} {raw : Json} {options : RuleOptions}
    (hread : rule.readOptions = some read) (h : rule.checkOptions raw = .ok options) : read raw = .ok options := by
  unfold checkOptions at h
  rw [hread] at h
  dsimp only at h
  split at h
  · next hraw =>
    cases h
    exact hraw
  · split at h <;> cases h

namespace Rules

/-- The names of the built-in rules are distinct. -/
theorem nodup_ids_builtin : (builtin.map Rule.id).Nodup := by decide

theorem eq_of_mem_builtin {rule other : Rule} (hrule : rule ∈ builtin) (hother : other ∈ builtin)
    (h : rule.id = other.id) : rule = other :=
  List.inj_on_of_nodup_map nodup_ids_builtin hrule hother h

/-- The options are of the sort that the rule looks for, if it looks for any. -/
structure ReadsOwn (rule : Rule) (options : RuleOptions) : Prop where
  comment : rule.id = defaultCase.id → ∃ text, options = .commentPattern text ∧ (Pattern.parse? text).isSome = true
  equality : rule.id = eqeqeq.id → ∃ mode, options = .equality mode
  assignment : rule.id = noCondAssign.id → ∃ mode, options = .assignment mode
  restricted : rule.id = noRestrictedGlobals.id → ∃ globals, options = .restricted globals
  unused : rule.id = noUnusedVars.id → ∃ unused, options = .unused unused

theorem readsOwn_of_checkOptions {rule : Rule} (hrule : rule ∈ builtin) {raw : Json} {options : RuleOptions}
    (h : rule.checkOptions raw = .ok options) : ReadsOwn rule options := by
  have own : ∀ other ∈ builtin, ∀ read, other.readOptions = some read → rule.id = other.id → read raw = .ok options := by
    intro other hother read hread hid
    obtain rfl := eq_of_mem_builtin hrule hother hid
    exact Rule.read_of_checkOptions hread h
  constructor
  case comment =>
    exact fun hid => Reading.readCommentPattern_eq_ok (own defaultCase (by simp [builtin]) _ rfl hid)
  case equality => exact fun hid => Reading.readEquality_eq_ok (own eqeqeq (by simp [builtin]) _ rfl hid)
  case assignment => exact fun hid => Reading.readAssignment_eq_ok (own noCondAssign (by simp [builtin]) _ rfl hid)
  case restricted =>
    exact fun hid => Reading.readRestricted_eq_ok (own noRestrictedGlobals (by simp [builtin]) _ rfl hid)
  case unused => exact fun hid => Reading.readUnused_eq_ok (own noUnusedVars (by simp [builtin]) _ rfl hid)

end Rules

end ScriptLint
