/-
Lists in which no key occurs twice.

The items with one key are then one item or none, in whatever order the list is
(`filter_key_perm`). Places in a list are such keys (`filter_flatMap_zipIdx`), and
leaving out repeated items makes a list of this kind.
-/
import Mathlib.Data.List.Dedup
import Mathlib.Data.List.Induction
import Mathlib.Data.List.Nodup

namespace ScriptLint

section Keys

variable {α κ : Type} [DecidableEq κ] {key : α → κ}

/-- No other item has the key of an item. -/
theorem filter_key_eq_singleton : ∀ {items : List α}, (items.map key).Nodup → ∀ {item : α}, item ∈ items →
    items.filter (fun other => key other = key item) = [item]
  | first :: rest, distinct, item, h => by
    rw [List.map_cons, List.nodup_cons] at distinct
    rw [List.filter_cons]
    rcases List.mem_cons.1 h with rfl | h
    · have others : rest.filter (fun other => key other = key item) = [] := by
        refine List.filter_eq_nil_iff.2 fun other hother hsame => distinct.1 ?_
        rw [← of_decide_eq_true hsame]
        exact List.mem_map_of_mem hother
      rw [if_pos (decide_eq_true rfl), others]
    · have hne : key first ≠ key item := by
        intro hsame
        rw [hsame] at distinct
        exact distinct.1 (List.mem_map_of_mem h)
      rw [if_neg (by simpa using hne), filter_key_eq_singleton distinct.2 h]

/-- The items with a key are the same in every order. -/
theorem filter_key_perm {items others : List α} (distinct : (items.map key).Nodup) (perm : items.Perm others)
    (k : κ) : items.filter (fun item => key item = k) = others.filter (fun item => key item = k) := by
  have same := perm.filter fun item => decide (key item = k)
  by_cases h : ∃ item ∈ items, key item = k
  · obtain ⟨item, hitem, rfl⟩ := h
    rw [filter_key_eq_singleton distinct hitem] at same ⊢
    exact (List.perm_singleton.1 same.symm).symm
  · have hnone : items.filter (fun item => key item = k) = [] :=
      List.filter_eq_nil_iff.2 fun item hitem hkey => h ⟨item, hitem, of_decide_eq_true hkey⟩
    rw [hnone] at same ⊢
    exact (List.perm_nil.1 same.symm).symm

/-- Where no key occurs twice, the item in a place is the one with its key. -/
theorem modify_eq_map {g : α → α} {k : κ} : ∀ {items : List α} {place : Nat}, (items.map key).Nodup →
    (items.map key)[place]? = some k →
      items.modify place g = items.map fun item => if key item = k then g item else item
  | [], place, _, h => by cases h
  | item :: rest, 0, distinct, h => by
    rw [List.map_cons, List.nodup_cons] at distinct
    obtain rfl : key item = k := by simpa using h
    have others : rest.map (fun other => if key other = key item then g other else other) = rest.map id := by
      refine List.map_congr_left fun other hother => if_neg fun hsame => distinct.1 ?_
      rw [← hsame]
      exact List.mem_map_of_mem hother
    rw [List.modify_zero_cons, List.map_cons, if_pos rfl, others, List.map_id]
  | item :: rest, place + 1, distinct, h => by
    rw [List.map_cons, List.nodup_cons] at distinct
    have hrest : (rest.map key)[place]? = some k := by simpa using h
    have hne : key item ≠ k := fun hsame => distinct.1 (hsame ▸ List.mem_of_getElem? hrest)
    rw [List.modify_succ_cons, modify_eq_map distinct.2 hrest, List.map_cons, if_neg hne]

/-- Items sorted out by their keys are the same items. -/
theorem perm_flatMap_filter_key : ∀ {keys : List κ} {items : List α}, keys.Nodup →
    (∀ item ∈ items, key item ∈ keys) → items.Perm (keys.flatMap fun k => items.filter fun item => key item = k)
  | [], items, _, h => by
    obtain rfl := List.eq_nil_iff_forall_not_mem.2 fun item hitem => List.not_mem_nil (h item hitem)
    exact .nil
  | k :: keys, items, distinct, h => by
    rw [List.nodup_cons] at distinct
    have others : ∀ item ∈ items.filter (fun item => !decide (key item = k)), key item ∈ keys := by
      intro item hitem
      obtain ⟨hmem, hother⟩ := List.mem_filter.1 hitem
      exact (List.mem_cons.1 (h item hmem)).resolve_left (by simpa using hother)
    have apart : ∀ l ∈ keys, (items.filter fun item => !decide (key item = k)).filter (fun item => key item = l) =
        items.filter fun item => key item = l := by
      intro l hl
      rw [List.filter_filter]
      refine List.filter_congr fun item _ => ?_
      rw [Bool.and_eq_left_iff_imp, decide_eq_true_eq, Bool.not_eq_true', decide_eq_false_iff_not]
      rintro rfl rfl
      exact distinct.1 hl
    have ih := perm_flatMap_filter_key distinct.2 others
    rw [List.flatMap_congr apart] at ih
    exact (List.filter_append_perm _ items).symm.trans (ih.append_left _)

/-- What comes from the items with one key, if nothing comes from the others. -/
theorem flatMap_eq_flatMap_filter {β : Type} {values : α → List β} (k : κ) : ∀ {items : List α},
    (∀ item ∈ items, key item ≠ k → values item = []) →
      items.flatMap values = (items.filter fun item => key item = k).flatMap values
  | [], _ => rfl
  | item :: rest, h => by
    have ih := flatMap_eq_flatMap_filter k fun other hother => h other (List.mem_cons_of_mem _ hother)
    rw [List.flatMap_cons, ih, List.filter_cons]
    split
    · rfl
    · next hother =>
      rw [h item List.mem_cons_self (by simpa using hother), List.nil_append]

/-- From a list without repeated keys comes what its item with a key gives. -/
theorem flatMap_key_eq {β : Type} {items : List α} (distinct : (items.map key).Nodup) {item : α} (h : item ∈ items)
    {values : α → List β} (hothers : ∀ other ∈ items, key other ≠ key item → values other = []) :
    items.flatMap values = values item := by
  rw [flatMap_eq_flatMap_filter (key item) hothers, filter_key_eq_singleton distinct h, List.flatMap_singleton]

end Keys

/-- A change in the place behind a list changes the item that follows it. -/
theorem modify_concat {α : Type} (g : α → α) (last : α) : ∀ items : List α,
    (items ++ [last]).modify items.length g = items ++ [g last]
  | [] => rfl
  | item :: rest => by
    rw [List.cons_append, List.length_cons, List.modify_succ_cons, modify_concat g last rest, List.cons_append]

section Places

variable {α β : Type} {items : List α} {values : α × Nat → List β} (place : β → Nat)

/-- Values that know the place of the item they come from: those with one place come from the item
there. -/
theorem filter_flatMap_zipIdx (known : ∀ item, ∀ value ∈ values item, place value = item.2) (k : Nat) :
    (items.zipIdx.flatMap values).filter (fun value => place value = k) =
      items[k]?.toList.flatMap fun item => values (item, k) := by
  have other : ∀ item : α × Nat, item.2 ≠ k → (values item).filter (fun value => place value = k) = [] := by
    intro item hother
    refine List.filter_eq_nil_iff.2 fun value hvalue hplace => hother ?_
    rw [← known item value hvalue, of_decide_eq_true hplace]
  rw [List.filter_flatMap]
  cases hitem : items[k]? with
  | none =>
    refine List.flatMap_eq_nil_iff.2 fun entry hentry => other entry ?_
    rintro rfl
    rw [List.mem_zipIdx_iff_getElem?.1 hentry] at hitem
    cases hitem
  | some item =>
    have distinct : (items.zipIdx.map Prod.snd).Nodup := by
      rw [List.zipIdx_map_snd]
      exact List.nodup_range'
    have member : (item, k) ∈ items.zipIdx := List.mem_zipIdx_iff_getElem?.2 hitem
    have own : (values (item, k)).filter (fun value => place value = k) = values (item, k) :=
      List.filter_eq_self.2 fun value hvalue => decide_eq_true (known (item, k) value hvalue)
    rw [flatMap_key_eq distinct member fun entry _ => other entry, own, Option.toList_some,
      List.flatMap_singleton]

end Places

section Dups

variable {α : Type} [BEq α] [LawfulBEq α]

theorem nodup_eraseDups : ∀ items : List α, items.eraseDups.Nodup
  | [] => List.nodup_nil
  | item :: rest => by
    rw [List.eraseDups_cons, List.nodup_cons, List.mem_eraseDups]
    exact ⟨by simp, nodup_eraseDups _⟩
termination_by items => items.length
decreasing_by
  exact Nat.lt_succ_of_le (List.length_filter_le _ _)

/-- A list without repeated items stays as it is. -/
theorem eraseDups_of_nodup : ∀ {items : List α}, items.Nodup → items.eraseDups = items
  | [], _ => rfl
  | item :: rest, distinct => by
    rw [List.nodup_cons] at distinct
    have others : rest.filter (fun other => !other == item) = rest := by
      refine List.filter_eq_self.2 fun other hother => ?_
      simpa using ne_of_mem_of_not_mem hother distinct.1
    rw [List.eraseDups_cons, others, eraseDups_of_nodup distinct.2]

/-- One more item at the end stays if it is a new one. -/
theorem eraseDups_concat [DecidableEq α] (items : List α) (item : α) :
    (items ++ [item]).eraseDups = if item ∈ items then items.eraseDups else items.eraseDups ++ [item] := by
  rw [List.eraseDups_append, List.removeAll]
  split <;> simp [*, List.eraseDups_cons]

/-- What is kept of items if of equal ones the first stays. -/
structure FirstOccurrences (items kept : List α) : Prop where
  mem_iff : ∀ item, item ∈ kept ↔ item ∈ items
  order : kept.Pairwise fun first second => items.idxOf first < items.idxOf second

theorem firstOccurrences_eraseDups [DecidableEq α] (items : List α) : FirstOccurrences items items.eraseDups := by
  refine ⟨fun _ => List.mem_eraseDups, ?_⟩
  induction items using List.reverseRecOn with
  | nil => exact .nil
  | append_singleton items item ih =>
    -- the items before keep their places, and a new one stands behind all of them
    have before : items.eraseDups.Pairwise fun first second =>
        (items ++ [item]).idxOf first < (items ++ [item]).idxOf second := by
      refine ih.imp_of_mem fun hfirst hsecond hlt => ?_
      rw [List.idxOf_append_of_mem (List.mem_eraseDups.1 hfirst),
        List.idxOf_append_of_mem (List.mem_eraseDups.1 hsecond)]
      exact hlt
    rw [eraseDups_concat]
    split
    · exact before
    · next hnew =>
      refine List.pairwise_append.2 ⟨before, List.pairwise_singleton _ _, fun first hfirst second hsecond => ?_⟩
      obtain rfl := List.mem_singleton.1 hsecond
      have hfirst := List.mem_eraseDups.1 hfirst
      rw [List.idxOf_append_of_mem hfirst, List.idxOf_append_of_notMem hnew]
      exact Nat.lt_of_lt_of_le (List.idxOf_lt_length_of_mem hfirst) (Nat.le_add_right _ _)

theorem eraseDups_perm {items others : List α} (perm : items.Perm others) :
    items.eraseDups.Perm others.eraseDups :=
  (List.perm_ext_iff_of_nodup (nodup_eraseDups items) (nodup_eraseDups others)).2 fun item => by
    rw [List.mem_eraseDups, List.mem_eraseDups, perm.mem_iff]

end Dups

end ScriptLint
