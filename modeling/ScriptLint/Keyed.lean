/-
Lists of pairs with distinct text keys, in the order in which the keys came.
Setting a key that is present keeps its place. `get?_set_self` and
`get?_set_other` are the map laws; `keys_set` is the order law.
-/
namespace ScriptLint

abbrev Keyed (α : Type) := List (String × α)

namespace Keyed

variable {α : Type}

def get? (key : String) : Keyed α → Option α
  | [] => none
  | (k, v) :: rest => if k = key then some v else get? key rest

def set (key : String) (value : α) : Keyed α → Keyed α
  | [] => [(key, value)]
  | (k, v) :: rest => if k = key then (key, value) :: rest else (k, v) :: set key value rest

def keys (m : Keyed α) : List String := m.map Prod.fst

def values (m : Keyed α) : List α := m.map Prod.snd

def has (key : String) (m : Keyed α) : Bool := (get? key m).isSome

/-- The map that pairs build one after another. -/
def ofPairs (pairs : List (String × α)) : Keyed α :=
  pairs.foldl (fun m (key, value) => set key value m) []

theorem get?_set_self (key : String) (value : α) (m : Keyed α) :
    get? key (set key value m) = some value := by
  induction m with
  | nil => simp [set, get?]
  | cons p m ih => by_cases h : p.1 = key <;> simp [set, get?, h, ih]

theorem get?_set_other {key other : String} (h : other ≠ key) (value : α) (m : Keyed α) :
    get? other (set key value m) = get? other m := by
  induction m with
  | nil => simp [set, get?, Ne.symm h]
  | cons p m ih =>
    by_cases hk : p.1 = key
    · simp [set, get?, hk, Ne.symm h]
    · simp [set, get?, hk, ih]

theorem keys_set (key : String) (value : α) (m : Keyed α) :
    keys (set key value m) = if key ∈ keys m then keys m else keys m ++ [key] := by
  induction m with
  | nil => simp [set, keys]
  | cons p m ih =>
    by_cases hk : p.1 = key
    · simp [set, keys, hk]
    · have hk' : key ≠ p.1 := fun h => hk h.symm
      simp only [keys] at ih
      simp only [set, hk, keys, if_false, List.map_cons, ih, List.mem_cons, hk', false_or]
      split <;> rename_i h <;> simp [h]

/-- A new key comes last. -/
theorem set_of_get?_eq_none {key : String} {value : α} : ∀ {m : Keyed α},
    get? key m = none → set key value m = m ++ [(key, value)]
  | [], _ => rfl
  | (k, v) :: m, h => by
    simp only [get?] at h
    split at h
    · cases h
    · next hk => rw [set, if_neg hk, set_of_get?_eq_none h, List.cons_append]

theorem get?_eq_none_of_not_mem {key : String} : ∀ {m : Keyed α}, key ∉ keys m → get? key m = none
  | [], _ => rfl
  | (k, v) :: m, h => by
    rw [keys, List.map_cons, List.mem_cons, not_or] at h
    rw [get?, if_neg (Ne.symm h.1)]
    exact get?_eq_none_of_not_mem h.2

/-- Setting the last key leaves those before it alone. -/
theorem set_concat {key : String} (value old : α) : ∀ {m : Keyed α}, key ∉ keys m →
    set key value (m ++ [(key, old)]) = m ++ [(key, value)]
  | [], _ => by rw [List.nil_append, set, if_pos rfl, List.nil_append]
  | (k, v) :: m, h => by
    rw [keys, List.map_cons, List.mem_cons, not_or] at h
    rw [List.cons_append, set, if_neg (Ne.symm h.1), set_concat value old h.2, List.cons_append]

theorem mem_of_get?_eq_some {key : String} {value : α} : ∀ {m : Keyed α},
    get? key m = some value → (key, value) ∈ m
  | [], h => by cases h
  | (k, v) :: m, h => by
    simp only [get?] at h
    split at h
    · next hk => simp_all
    · exact List.mem_cons_of_mem _ (mem_of_get?_eq_some h)

theorem mem_set {key : String} {value : α} {pair : String × α} : ∀ {m : Keyed α},
    pair ∈ set key value m → pair = (key, value) ∨ pair ∈ m
  | [], h => .inl (List.mem_singleton.1 h)
  | (k, v) :: m, h => by
    simp only [set] at h
    split at h
    · exact (List.mem_cons.1 h).imp_right (List.mem_cons_of_mem _)
    · rcases List.mem_cons.1 h with rfl | h
      · exact .inr List.mem_cons_self
      · exact (mem_set h).imp_right (List.mem_cons_of_mem _)

/-- A map holds none but the pairs that it is built from. -/
theorem mem_of_mem_ofPairs {pairs : List (String × α)} {pair : String × α} (h : pair ∈ ofPairs pairs) :
    pair ∈ pairs := by
  have held : ∀ (pairs : List (String × α)) (m : Keyed α),
      pair ∈ pairs.foldl (fun m (key, value) => set key value m) m → pair ∈ m ∨ pair ∈ pairs := by
    intro pairs
    induction pairs with
    | nil => exact fun m h => .inl h
    | cons next pairs ih =>
      intro m h
      rcases ih _ h with h | h
      · rcases mem_set h with rfl | h
        · exact .inr List.mem_cons_self
        · exact .inl h
      · exact .inr (List.mem_cons_of_mem _ h)
  exact (held pairs [] h).resolve_left List.not_mem_nil

/-- With distinct keys, a look-up finds every pair. -/
theorem get?_eq_some_iff_mem {key : String} {value : α} : ∀ {m : Keyed α}, (keys m).Nodup →
    (get? key m = some value ↔ (key, value) ∈ m)
  | [], _ => by simp [get?]
  | (k, v) :: m, h => by
    have h' := List.nodup_cons.1 h
    refine ⟨mem_of_get?_eq_some, fun member => ?_⟩
    rcases List.mem_cons.1 member with heq | member
    · cases heq; simp [get?]
    · have hk : k ≠ key := by
        rintro rfl
        exact h'.1 (List.mem_map.2 ⟨(k, value), member, rfl⟩)
      simpa only [get?, hk, if_false] using (get?_eq_some_iff_mem h'.2).2 member

theorem nodup_keys_set {key : String} {value : α} {m : Keyed α} (h : (keys m).Nodup) :
    (keys (set key value m)).Nodup := by
  rw [keys_set]
  split
  · exact h
  · rename_i absent
    rw [List.nodup_append]
    exact ⟨h, by simp, by intro a ha b hb; simp at hb; subst hb; exact fun e => absent (e ▸ ha)⟩

theorem nodup_keys_ofPairs (pairs : List (String × α)) : (keys (ofPairs pairs)).Nodup := by
  have kept : ∀ (pairs : List (String × α)) (m : Keyed α), (keys m).Nodup →
      (keys (pairs.foldl (fun m (key, value) => set key value m) m)).Nodup := by
    intro pairs
    induction pairs with
    | nil => exact fun m h => h
    | cons pair pairs ih => exact fun m h => ih _ (nodup_keys_set h)
  exact kept pairs [] List.nodup_nil

end Keyed

end ScriptLint
