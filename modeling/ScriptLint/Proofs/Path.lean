/-
Paths and their texts.

A path in normal form is read back from its text (`ofString_toString`), so no two
of them have one text. What is read from a text is in normal form. Paths are in a
linear order by their components.
-/
import ScriptLint.Path

namespace ScriptLint

/-! ## Cutting what was joined -/

namespace Chars

variable {sep : Char}

theorem splitOn_of_not_mem : ∀ {piece : List Char}, sep ∉ piece → splitOn sep piece = [piece]
  | [], _ => rfl
  | c :: piece, h => by
    rw [List.mem_cons, not_or] at h
    rw [splitOn, if_neg (Ne.symm h.1), splitOn_of_not_mem h.2]

theorem splitOn_append_cons (rest : List Char) : ∀ {piece : List Char}, sep ∉ piece →
    splitOn sep (piece ++ sep :: rest) = piece :: splitOn sep rest
  | [], _ => by rw [List.nil_append, splitOn, if_pos rfl]
  | c :: piece, h => by
    rw [List.mem_cons, not_or] at h
    rw [List.cons_append, splitOn, if_neg (Ne.symm h.1), splitOn_append_cons rest h.2]

theorem splitOn_join : ∀ {pieces : List (List Char)}, pieces ≠ [] → (∀ piece ∈ pieces, sep ∉ piece) →
    splitOn sep (join sep pieces) = pieces
  | [], h, _ => absurd rfl h
  | [piece], _, h => splitOn_of_not_mem (h piece List.mem_cons_self)
  | piece :: next :: pieces, _, h => by
    have hrest := splitOn_join (List.cons_ne_nil next pieces) fun other hother => h other (List.mem_cons_of_mem _ hother)
    rw [join, splitOn_append_cons _ (h piece List.mem_cons_self), hrest]

end Chars

namespace Path

/-- A name that can stand between slashes: it is not empty, no `.`, and has no slash in it. -/
def IsName (part : String) : Prop := part ≠ "" ∧ part ≠ "." ∧ '/' ∉ part.toList

/-- A path whose components are names. -/
def Normal (path : Path) : Prop := ∀ part ∈ path.parts, IsName part

theorem normal_ofString (s : String) : (ofString s).Normal := by
  intro part hpart
  obtain ⟨hmem, hnames⟩ := List.mem_filter.1 hpart
  obtain ⟨piece, hpiece, rfl⟩ := List.mem_map.1 hmem
  obtain ⟨hempty, hpoint⟩ := of_decide_eq_true hnames
  refine ⟨hempty, hpoint, ?_⟩
  rw [String.toList_ofList]
  exact Chars.not_mem_of_mem_splitOn hpiece

/-! ## Reading a text back -/

theorem toList_intercalate (parts : List String) :
    (String.intercalate "/" parts).toList = Chars.join '/' (parts.map String.toList) := by
  induction parts with
  | nil => rfl
  | cons part parts ih =>
    cases parts with
    | nil => rw [String.intercalate_singleton, List.map_singleton, Chars.join]
    | cons next parts =>
      rw [String.intercalate_cons_cons, String.toList_append, String.toList_append, ih]
      simp [Chars.join]

/-- The components of joined names are these names. -/
theorem partsOf_join {parts : List String} (h : ∀ part ∈ parts, IsName part) :
    partsOf (Chars.join '/' (parts.map String.toList)) = parts := by
  cases parts with
  | nil => rfl
  | cons part parts =>
    have hsome : (part :: parts).map String.toList ≠ [] := List.cons_ne_nil _ _
    rw [partsOf, Chars.splitOn_join hsome, List.map_map]
    · have hsame : (String.ofList ∘ String.toList) = id := by
        funext name
        exact String.ofList_toList
      rw [hsame, List.map_id]
      refine List.filter_eq_self.2 fun name hname => ?_
      exact decide_eq_true ⟨(h name hname).1, (h name hname).2.1⟩
    · intro piece hpiece
      obtain ⟨name, hname, rfl⟩ := List.mem_map.1 hpiece
      exact (h name hname).2.2

/-- A slash in front adds no component. -/
theorem partsOf_cons_slash (cs : List Char) : partsOf ('/' :: cs) = partsOf cs := by
  rw [partsOf, partsOf, Chars.splitOn, if_pos rfl, List.map_cons, List.filter_cons]
  simp

/-- Joined names start with no slash. -/
theorem head?_join {parts : List String} (h : ∀ part ∈ parts, IsName part) :
    (Chars.join '/' (parts.map String.toList)).head? ≠ some '/' := by
  cases parts with
  | nil => nofun
  | cons part parts =>
    obtain ⟨hempty, -, hslash⟩ := h part List.mem_cons_self
    obtain ⟨c, cs, hcs⟩ := List.exists_cons_of_ne_nil (mt String.toList_eq_nil_iff.1 hempty)
    have hc : c ≠ '/' := by
      rintro rfl
      exact hslash (by rw [hcs]; exact List.mem_cons_self)
    cases parts with
    | nil => simp [Chars.join, hcs, hc]
    | cons next parts => simp [Chars.join, hcs, hc]

theorem anchorOf_of_head? {cs : List Char} (h : cs.head? ≠ some '/') :
    anchorOf cs = .here ∧ anchorOf ('/' :: cs) = .root ∧ anchorOf ('/' :: '/' :: cs) = .doubleRoot := by
  cases cs with
  | nil => exact ⟨rfl, rfl, rfl⟩
  | cons c cs =>
    have hc : c ≠ '/' := fun heq => h (by rw [heq, List.head?_cons])
    simp [anchorOf, hc]

/-- A path in normal form is read back from its text. -/
theorem ofString_toString {path : Path} (h : path.Normal) : ofString path.toString = path := by
  obtain ⟨anchor, parts⟩ := path
  obtain ⟨hhere, hroot, hdouble⟩ := anchorOf_of_head? (head?_join h)
  cases anchor with
  | here =>
    by_cases hnone : parts = []
    · subst hnone
      rfl
    · simp only [ofString, toString, if_neg hnone, toList_intercalate, hhere, partsOf_join h]
  | root =>
    have htext : ("/" ++ String.intercalate "/" parts).toList = '/' :: Chars.join '/' (parts.map String.toList) := by
      rw [String.toList_append, toList_intercalate]
      rfl
    simp only [ofString, toString, htext, hroot, partsOf_cons_slash, partsOf_join h]
  | doubleRoot =>
    have htext : ("//" ++ String.intercalate "/" parts).toList =
        '/' :: '/' :: Chars.join '/' (parts.map String.toList) := by
      rw [String.toList_append, toList_intercalate]
      rfl
    simp only [ofString, toString, htext, hdouble, partsOf_cons_slash, partsOf_join h]

/-- No two paths in normal form have one text. -/
theorem toString_inj {first second : Path} (hfirst : first.Normal) (hsecond : second.Normal) :
    first.toString = second.toString ↔ first = second := by
  refine ⟨fun h => ?_, fun h => congrArg toString h⟩
  rw [← ofString_toString hfirst, h, ofString_toString hsecond]

/-! ## The order of components -/

theorem partsLe_cons_iff {a b : String} {as bs : List String} :
    partsLe (a :: as) (b :: bs) = true ↔ a < b ∨ (a = b ∧ partsLe as bs = true) := by
  simp [partsLe]

theorem partsLe_trans : ∀ {as bs cs : List String}, partsLe as bs = true → partsLe bs cs = true →
    partsLe as cs = true
  | [], _, _, _, _ => rfl
  | a :: as, b :: bs, c :: cs, hab, hbc => by
    rw [partsLe_cons_iff] at hab hbc ⊢
    obtain hab | ⟨hab, habs⟩ := hab <;> obtain hbc | ⟨hbc, hbcs⟩ := hbc
    · exact .inl (String.lt_trans hab hbc)
    · exact .inl (hbc ▸ hab)
    · exact .inl (hab ▸ hbc)
    · exact .inr ⟨hab.trans hbc, partsLe_trans habs hbcs⟩

theorem partsLe_total : ∀ as bs : List String, (partsLe as bs || partsLe bs as) = true
  | [], _ => rfl
  | _ :: _, [] => rfl
  | a :: as, b :: bs => by
    have ih := partsLe_total as bs
    rw [Bool.or_eq_true] at ih ⊢
    rw [partsLe_cons_iff, partsLe_cons_iff]
    by_cases hab : a = b
    · exact ih.imp (fun h => .inr ⟨hab, h⟩) fun h => .inr ⟨hab.symm, h⟩
    · by_cases hlt : a < b
      · exact .inl (.inl hlt)
      · refine .inr (.inl (String.not_le.1 fun hle => hab ?_))
        exact String.le_antisymm hle (String.not_lt.1 hlt)

theorem partsLe_antisymm : ∀ {as bs : List String}, partsLe as bs = true → partsLe bs as = true → as = bs
  | [], [], _, _ => rfl
  | a :: as, b :: bs, hab, hba => by
    rw [partsLe_cons_iff] at hab hba
    obtain hab | ⟨rfl, habs⟩ := hab <;> obtain hba | ⟨hsame, hbas⟩ := hba
    · exact absurd hba (String.lt_asymm hab)
    · exact absurd (hsame ▸ hab) (String.lt_irrefl _)
    · exact absurd hba (String.lt_irrefl _)
    · rw [partsLe_antisymm habs hbas]

theorem before_trans (path middle later : Path) (h : path.before middle = true) (h' : middle.before later = true) :
    path.before later = true :=
  partsLe_trans h h'

theorem before_total (path later : Path) : (path.before later || later.before path) = true :=
  partsLe_total path.parts later.parts

theorem before_antisymm {path later : Path} (same : path.anchor = later.anchor) (h : path.before later = true)
    (h' : later.before path = true) : path = later := by
  obtain ⟨anchor, parts⟩ := path
  obtain ⟨anchor', parts'⟩ := later
  rw [mk.injEq]
  exact ⟨same, partsLe_antisymm h h'⟩

theorem pairwise_mergeSort (paths : List Path) :
    (paths.mergeSort before).Pairwise fun path later => path.before later = true :=
  List.pairwise_mergeSort before_trans before_total paths

end Path

end ScriptLint
