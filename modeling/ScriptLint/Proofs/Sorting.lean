/-
Stable sorting: what a sort by key keeps, and what determines its result.

The keys are in a linear order (`SortKey.le_trans`, `le_total`, `le_antisymm`).
A list in order is determined by the lists it holds for the single keys
(`eq_of_pairwise_of_filter_eq`), and sorting leaves these lists as they were
(`filter_sortByKey`). So two lists that agree key by key sort to the same list,
whatever the order in which their keys are mixed (`sortByKey_congr`). All that a
stable sort promises is `ArrangedBy`.
-/
import ScriptLint.SortKey

namespace ScriptLint

/-! ## Stability -/

/-- Sorting does not reorder items that are all in order with each other. -/
theorem filter_mergeSort {α : Type} {le : α → α → Bool}
    (trans : ∀ a b c, le a b = true → le b c = true → le a c = true)
    (total : ∀ a b, (le a b || le b a) = true) {p : α → Bool}
    (tied : ∀ a b, p a = true → p b = true → le a b = true) (items : List α) :
    (items.mergeSort le).filter p = items.filter p := by
  have tied_pairwise : (items.filter p).Pairwise (fun a b => le a b = true) := by
    rw [List.pairwise_iff_forall_sublist]
    intro a b h
    have ha : a ∈ items.filter p := h.subset (by simp)
    have hb : b ∈ items.filter p := h.subset (by simp)
    exact tied a b (List.mem_filter.1 ha).2 (List.mem_filter.1 hb).2
  have kept : (items.filter p).Sublist (items.mergeSort le) :=
    List.sublist_mergeSort trans total tied_pairwise List.filter_sublist
  have kept_filter : (items.filter p).Sublist ((items.mergeSort le).filter p) := by
    have h := kept.filter p
    rwa [List.filter_filter, show (fun a => p a && p a) = p by simp] at h
  have same_length : (items.filter p).length = ((items.mergeSort le).filter p).length :=
    ((List.mergeSort_perm items le).filter p).length_eq.symm
  exact (kept_filter.eq_of_length same_length).symm

namespace SortKey

/-! ## The order of keys -/

theorem le_iff {a b : SortKey} :
    a.le b = true ↔ a.path < b.path ∨
      (a.path = b.path ∧ (a.start < b.start ∨ (a.start = b.start ∧ a.rule ≤ b.rule))) := by
  simp [le]

theorem le_total (a b : SortKey) : (a.le b || b.le a) = true := by
  rw [Bool.or_eq_true, le_iff, le_iff]
  by_cases hp : a.path = b.path
  · rcases Nat.lt_trichotomy a.start b.start with hs | hs | hs
    · exact .inl (.inr ⟨hp, .inl hs⟩)
    · rcases String.le_total a.rule b.rule with hr | hr
      · exact .inl (.inr ⟨hp, .inr ⟨hs, hr⟩⟩)
      · exact .inr (.inr ⟨hp.symm, .inr ⟨hs.symm, hr⟩⟩)
    · exact .inr (.inr ⟨hp.symm, .inl hs⟩)
  · rcases String.le_total a.path b.path with h | h
    · exact .inl (.inl (String.not_le.1 fun h' => hp (String.le_antisymm h h')))
    · exact .inr (.inl (String.not_le.1 fun h' => hp (String.le_antisymm h' h)))

theorem le_refl (a : SortKey) : a.le a = true := by
  simpa using le_total a a

theorem le_trans (a b c : SortKey) (hab : a.le b = true) (hbc : b.le c = true) :
    a.le c = true := by
  rw [le_iff] at hab hbc ⊢
  rcases hab with hab | ⟨hab, hab'⟩ <;> rcases hbc with hbc | ⟨hbc, hbc'⟩
  · exact .inl (String.lt_trans hab hbc)
  · exact .inl (hbc ▸ hab)
  · exact .inl (hab ▸ hbc)
  · refine .inr ⟨hab.trans hbc, ?_⟩
    rcases hab' with hs | ⟨hs, hr⟩ <;> rcases hbc' with hs' | ⟨hs', hr'⟩
    · exact .inl (Nat.lt_trans hs hs')
    · exact .inl (hs' ▸ hs)
    · exact .inl (hs ▸ hs')
    · exact .inr ⟨hs.trans hs', String.le_trans hr hr'⟩

theorem le_antisymm {a b : SortKey} (hab : a.le b = true) (hba : b.le a = true) : a = b := by
  rw [le_iff] at hab hba
  rcases hab with hab | ⟨hp, hab⟩ <;> rcases hba with hba | ⟨hp', hba⟩
  · exact absurd hba (String.lt_asymm hab)
  · exact absurd (hp' ▸ hab) (String.lt_irrefl _)
  · exact absurd (hp ▸ hba) (String.lt_irrefl _)
  · rcases hab with hs | ⟨hs, hr⟩ <;> rcases hba with hs' | ⟨hs', hr'⟩
    · omega
    · omega
    · omega
    · have same_rule := String.le_antisymm hr hr'
      cases a; cases b
      simp_all

end SortKey

/-! ## Lists in order -/

/-- A list in the order of its keys is determined by what it holds for each key. -/
theorem eq_of_pairwise_of_filter_eq {α κ : Type} [DecidableEq κ] (key : α → κ) (le : κ → κ → Prop)
    (refl : ∀ k, le k k) (antisymm : ∀ {a b}, le a b → le b a → a = b) : ∀ {xs ys : List α},
    xs.Pairwise (fun a b => le (key a) (key b)) → ys.Pairwise (fun a b => le (key a) (key b)) →
      (∀ k, xs.filter (fun a => key a = k) = ys.filter (fun a => key a = k)) → xs = ys
  | [], [], _, _, _ => rfl
  | [], y :: ys, _, _, h => by simpa using h (key y)
  | x :: xs, [], _, _, h => by simpa using h (key x)
  | x :: xs, y :: ys, hx, hy, h => by
    have hx' := List.pairwise_cons.1 hx
    have hy' := List.pairwise_cons.1 hy
    -- Each head occurs in the other list, so neither head comes strictly first.
    have hxy : le (key x) (key y) := by
      have member : y ∈ (x :: xs).filter (fun a => key a = key y) := by rw [h]; simp
      rcases List.mem_cons.1 (List.mem_filter.1 member).1 with rfl | member
      · exact refl _
      · exact hx'.1 y member
    have hyx : le (key y) (key x) := by
      have member : x ∈ (y :: ys).filter (fun a => key a = key x) := by rw [← h]; simp
      rcases List.mem_cons.1 (List.mem_filter.1 member).1 with rfl | member
      · exact refl _
      · exact hy'.1 x member
    have same_key : key x = key y := antisymm hxy hyx
    have heads := h (key x)
    simp only [List.filter_cons, same_key, decide_true, if_true, List.cons.injEq] at heads
    obtain ⟨rfl, -⟩ := heads
    refine congrArg (x :: ·) (eq_of_pairwise_of_filter_eq key le refl antisymm hx'.2 hy'.2 fun k => ?_)
    have rest := h k
    simp only [List.filter_cons] at rest
    split at rest
    · exact (List.cons.inj rest).2
    · exact rest

/-- The items of another list in the order of their keys, those of one key in the order in which they
came. -/
structure ArrangedBy {α κ : Type} [DecidableEq κ] (key : α → κ) (le : κ → κ → Bool) (items arranged : List α) :
    Prop where
  perm : arranged.Perm items
  ordered : arranged.Pairwise fun a b => le (key a) (key b) = true
  stable : ∀ k, arranged.filter (fun a => key a = k) = items.filter (fun a => key a = k)

theorem arrangedBy_mergeSort {α κ : Type} [DecidableEq κ] {key : α → κ} {le : κ → κ → Bool}
    (trans : ∀ a b c, le a b = true → le b c = true → le a c = true) (total : ∀ a b, (le a b || le b a) = true)
    (items : List α) : ArrangedBy key le items (items.mergeSort fun a b => le (key a) (key b)) where
  perm := List.mergeSort_perm items _
  ordered := List.pairwise_mergeSort (fun a b c => trans (key a) (key b) (key c)) (fun a b => total (key a) (key b)) items
  stable k := by
    refine filter_mergeSort (fun a b c => trans (key a) (key b) (key c)) (fun a b => total (key a) (key b)) ?_ items
    intro a b ha hb
    rw [(of_decide_eq_true ha).trans (of_decide_eq_true hb).symm]
    simpa using total (key b) (key b)

/-! ## Sorting by a key -/

section ByKey

variable {α : Type} {key : α → SortKey}

/-- Lists in the order of their keys. -/
def SortedBy (key : α → SortKey) (items : List α) : Prop :=
  items.Pairwise fun a b => (key a).le (key b) = true

theorem arrangedBy_sortByKey (items : List α) : ArrangedBy key SortKey.le items (sortByKey key items) :=
  arrangedBy_mergeSort SortKey.le_trans SortKey.le_total items

theorem sortedBy_sortByKey (items : List α) : SortedBy key (sortByKey key items) :=
  (arrangedBy_sortByKey items).ordered

/-- The items of one key keep their order. -/
theorem filter_sortByKey (k : SortKey) (items : List α) :
    (sortByKey key items).filter (fun a => key a = k) = items.filter (fun a => key a = k) :=
  (arrangedBy_sortByKey items).stable k

/-- A sorted list is determined by what it holds for each key. -/
theorem eq_of_filter_key_eq {xs ys : List α} (hx : SortedBy key xs) (hy : SortedBy key ys)
    (h : ∀ k, xs.filter (fun a => key a = k) = ys.filter (fun a => key a = k)) : xs = ys :=
  eq_of_pairwise_of_filter_eq key (fun a b => a.le b = true) SortKey.le_refl SortKey.le_antisymm hx hy h

/-- Lists that agree key by key sort to the same list. -/
theorem sortByKey_congr {xs ys : List α}
    (h : ∀ k, xs.filter (fun a => key a = k) = ys.filter (fun a => key a = k)) :
    sortByKey key xs = sortByKey key ys :=
  eq_of_filter_key_eq (sortedBy_sortByKey xs) (sortedBy_sortByKey ys) fun k => by
    rw [filter_sortByKey, filter_sortByKey, h k]

/-- A list that is in order stays as it is. -/
theorem sortByKey_of_sortedBy {items : List α} (h : SortedBy key items) : sortByKey key items = items :=
  List.mergeSort_of_pairwise h

/-- Items can be changed before or after sorting if their keys stay. -/
theorem sortByKey_map {β : Type} {keyOf : β → SortKey} {f : β → α} (h : ∀ item, key (f item) = keyOf item)
    (items : List β) : sortByKey key (items.map f) = (sortByKey keyOf items).map f :=
  (List.map_mergeSort fun a _ b _ => by rw [h, h]).symm

/-- Items can be picked out before or after sorting. -/
theorem filter_sortByKey_comm (p : α → Bool) (items : List α) :
    (sortByKey key items).filter p = sortByKey key (items.filter p) := by
  refine eq_of_filter_key_eq ?_ (sortedBy_sortByKey _) fun k => ?_
  · exact (sortedBy_sortByKey items).sublist List.filter_sublist
  · have swap : ∀ items : List α, (items.filter p).filter (fun a => key a = k) =
        (items.filter fun a => key a = k).filter p := by
      intro items
      simp only [List.filter_filter, Bool.and_comm]
    rw [swap, filter_sortByKey, filter_sortByKey, swap]

end ByKey

end ScriptLint
