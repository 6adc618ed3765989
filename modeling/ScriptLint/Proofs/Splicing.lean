/-
Splicing is substitution.

Fixes are spliced in one after another, from the last to the first, each into
the bytes that the splices before it have left. Fixes that keep clear of each
other can be put in all at once instead: `substituted` copies the text up to a
range, puts in the text of the fix and goes on after the range, and gives the
same bytes (`editedBytes_eq_substituted`). The order in which the fixes were
selected is of no account for this (`firstToLast_eq_of_perm`). Where all ranges
end between characters, these are the bytes of a text, whose characters are
substituted in the same way (`replaced_onBytes`, `decode?_editedBytes`). For the
fixes of findings all of this is `applyFixes_substitutes`.
-/
import ScriptLint.Proofs.Selection
import ScriptLint.Proofs.Text.Boundary
import ScriptLint.Proofs.Text.Decoding

namespace ScriptLint

/-- A fix whose range lies within so many bytes. -/
structure Fix.Within (size : Nat) (fix : Fix) : Prop where
  ordered : fix.span.start ≤ fix.span.stop
  bounded : fix.span.stop ≤ size

/-- A fix that starts before another and has ended when that one starts. -/
structure Fix.Before (first second : Fix) : Prop where
  starts : first.span.start < second.span.start
  ends : first.span.stop ≤ second.span.start

/-- The bytes from an offset on, with the texts of fixes in place of their ranges. -/
def substituted (bytes : Bytes) (first : Nat) : List Fix → Bytes
  | [] => bytes.drop first
  | fix :: rest =>
    bytes.slice first fix.span.start ++ Utf8.encode fix.text ++ substituted bytes fix.span.stop rest

theorem Bytes.take_append_slice (bytes : Bytes) {start stop : Nat} (h : start ≤ stop) :
    bytes.take start ++ bytes.slice start stop = bytes.take stop := by
  rw [slice, ← List.take_add, Nat.add_sub_cancel' h]

theorem Bytes.slice_append_slice (bytes : Bytes) {start middle stop : Nat} (hstart : start ≤ middle)
    (hstop : middle ≤ stop) : bytes.slice start middle ++ bytes.slice middle stop = bytes.slice start stop := by
  have hdrop : bytes.drop middle = (bytes.drop start).drop (middle - start) := by
    rw [List.drop_drop, Nat.add_sub_cancel' hstart]
  have hsize : stop - start = middle - start + (stop - middle) := by omega
  rw [slice, slice, slice, hdrop, hsize, List.take_add]

theorem Bytes.slice_append_drop (bytes : Bytes) {start stop : Nat} (h : start ≤ stop) :
    bytes.slice start stop ++ bytes.drop stop = bytes.drop start := by
  have hdrop : bytes.drop stop = (bytes.drop start).drop (stop - start) := by
    rw [List.drop_drop, Nat.add_sub_cancel' h]
  rw [slice, hdrop, List.take_append_drop]

theorem Bytes.slice_take (bytes : Bytes) (start : Nat) {stop size : Nat} (h : stop ≤ size) :
    Bytes.slice (bytes.take size) start stop = bytes.slice start stop := by
  rw [slice, slice, List.drop_take, List.take_take, Nat.min_eq_left (Nat.sub_le_sub_right h start)]

/-- Splicing into bytes that are still those of the text up to the end of the range. -/
theorem splice_append {bytes rest : Bytes} {fix : Fix} (h : fix.Within bytes.length) :
    splice (bytes.take fix.span.stop ++ rest) fix =
      bytes.take fix.span.start ++ Utf8.encode fix.text ++ rest := by
  have hlength : (bytes.take fix.span.stop).length = fix.span.stop := List.length_take_of_le h.bounded
  have hbefore : (bytes.take fix.span.stop ++ rest).take fix.span.start = bytes.take fix.span.start := by
    rw [List.take_append_of_le_length (by rw [hlength]; exact h.ordered), List.take_take, Nat.min_eq_left h.ordered]
  have hafter : (bytes.take fix.span.stop ++ rest).drop fix.span.stop = rest :=
    List.drop_left' hlength
  rw [splice, Nat.max_eq_right h.ordered, hbefore, hafter]

/-- From the back: once the fixes after an offset are spliced in, the bytes are those of the text up
to the offset and the substituted ones from there on. -/
theorem foldr_splice {bytes : Bytes} : ∀ {fixes : List Fix} (first : Nat), fixes.Pairwise Fix.Before →
    (∀ fix ∈ fixes, fix.Within bytes.length ∧ first ≤ fix.span.start) →
      fixes.foldr (fun fix bytes => splice bytes fix) bytes = bytes.take first ++ substituted bytes first fixes
  | [], first, _, _ => (List.take_append_drop first bytes).symm
  | fix :: rest, first, inOrder, within => by
    obtain ⟨hfix, hfirst⟩ := within fix List.mem_cons_self
    obtain ⟨hbefore, inOrder⟩ := List.pairwise_cons.1 inOrder
    have hrest := foldr_splice fix.span.stop inOrder fun other hother =>
      ⟨(within other (List.mem_cons_of_mem _ hother)).1, (hbefore other hother).ends⟩
    rw [List.foldr_cons, hrest, splice_append hfix, substituted, ← Bytes.take_append_slice bytes hfirst]
    simp only [List.append_assoc]

/-- A fix in the midst of others puts its text between what those before make of the bytes up to its range, and
what those after make of the bytes from the end of its range on. -/
theorem substituted_append_cons {bytes : Bytes} {fix : Fix} {after : List Fix} : ∀ {before : List Fix} (first : Nat),
    (∀ other ∈ before, other.span.start ≤ fix.span.start) → substituted bytes first (before ++ fix :: after) =
      substituted (bytes.take fix.span.start) first before ++ Utf8.encode fix.text ++
        substituted bytes fix.span.stop after
  | [], first, _ => by rw [List.nil_append, substituted, substituted, List.drop_take, Bytes.slice]
  | other :: before, first, starts => by
    obtain ⟨hother, hbefore⟩ := List.forall_mem_cons.1 starts
    rw [List.cons_append, substituted, substituted, substituted_append_cons other.span.stop hbefore,
      Bytes.slice_take bytes first hother]
    simp only [List.append_assoc]

/-- Some items in place of those from one index up to another. -/
structure Replacement (α : Type) where
  start : Nat
  stop : Nat
  items : List α
  deriving DecidableEq

/-- The items of a list from an index on, with others in place of some. -/
def replaced {α : Type} (items : List α) (first : Nat) : List (Replacement α) → List α
  | [] => items.drop first
  | replacement :: rest =>
    (items.drop first).take (replacement.start - first) ++ replacement.items ++ replaced items replacement.stop rest

/-! ## The order of splicing -/

/-- The fixes in the order of their ranges. -/
def firstToLast (fixes : List Fix) : List Fix := (lastFirst fixes).reverse

theorem mem_firstToLast {fixes : List Fix} {fix : Fix} : fix ∈ firstToLast fixes ↔ fix ∈ fixes := by
  rw [firstToLast, List.mem_reverse, lastFirst, List.mem_mergeSort]

theorem firstToLast_perm (fixes : List Fix) : (firstToLast fixes).Perm fixes :=
  (List.reverse_perm _).trans (List.mergeSort_perm fixes _)

/-- Whether fixes overlap does not depend on the order in which they are listed. -/
theorem apart_of_perm {fixes order : List Fix} (h : order.Perm fixes)
    (apart : fixes.Pairwise fun first second => first.span.overlaps second.span = false) :
    order.Pairwise fun first second => first.span.overlaps second.span = false := by
  refine (h.pairwise_iff ?_).2 apart
  intro first second hapart
  rwa [Span.overlaps_comm]

theorem pairwise_start_firstToLast (fixes : List Fix) :
    (firstToLast fixes).Pairwise fun first second => first.span.start ≤ second.span.start := by
  refine List.pairwise_reverse.2 (List.Pairwise.imp ?_ (List.pairwise_mergeSort ?_ ?_ fixes))
  · intro first second h
    simp only [Bool.or_eq_true, Bool.and_eq_true, beq_iff_eq, decide_eq_true_eq] at h
    omega
  · intro a b c hab hbc
    simp only [Bool.or_eq_true, Bool.and_eq_true, beq_iff_eq, decide_eq_true_eq] at *
    omega
  · intro a b
    simp only [Bool.or_eq_true, Bool.and_eq_true, beq_iff_eq, decide_eq_true_eq]
    omega

/-- Fixes that do not overlap stand one before the other. -/
theorem pairwise_firstToLast {fixes : List Fix} {size : Nat}
    (apart : fixes.Pairwise fun first second => first.span.overlaps second.span = false)
    (within : ∀ fix ∈ fixes, fix.Within size) : (firstToLast fixes).Pairwise Fix.Before := by
  have apart := apart_of_perm (firstToLast_perm fixes) apart
  refine List.Pairwise.imp_of_mem ?_ ((pairwise_start_firstToLast fixes).and apart)
  rintro earlier later - hlater ⟨hle, hapart⟩
  have hordered := (within later (mem_firstToLast.1 hlater)).ordered
  simp only [Span.overlaps, Bool.or_eq_false_iff, Bool.and_eq_false_iff, beq_eq_false_iff_ne,
    decide_eq_false_iff_not] at hapart
  constructor <;> omega

/-- Fixes that do not overlap are put in the same order of ranges, however they are listed. -/
theorem firstToLast_eq_of_perm {fixes order : List Fix} {size : Nat} (h : order.Perm fixes)
    (apart : fixes.Pairwise fun first second => first.span.overlaps second.span = false)
    (within : ∀ fix ∈ fixes, fix.Within size) : firstToLast order = firstToLast fixes := by
  have sorted := pairwise_firstToLast apart within
  have sorted' : (firstToLast order).Pairwise Fix.Before :=
    pairwise_firstToLast (apart_of_perm h apart) fun fix hfix => within fix (h.mem_iff.1 hfix)
  refine List.Perm.eq_of_pairwise (fun first second _ _ hfirst hsecond => ?_) sorted' sorted
    (((firstToLast_perm order).trans h).trans (firstToLast_perm fixes).symm)
  exact absurd (Nat.lt_trans hfirst.starts hsecond.starts) (Nat.lt_irrefl _)

/-- Fixes that do not overlap leave the text outside their ranges as it is, and put their texts in
place of the ranges. -/
theorem editedBytes_eq_substituted {text : String} {fixes : List Fix}
    (apart : fixes.Pairwise fun first second => first.span.overlaps second.span = false)
    (within : ∀ fix ∈ fixes, fix.Within (Utf8.encode text).length) :
    editedBytes text fixes = substituted (Utf8.encode text) 0 (firstToLast fixes) := by
  have hfolded := foldr_splice 0 (pairwise_firstToLast apart within)
    fun fix hfix => ⟨within fix (mem_firstToLast.1 hfix), Nat.zero_le _⟩
  rwa [firstToLast, List.foldr_reverse, List.take_zero, List.nil_append] at hfolded

/-! ## Whole characters -/

/-- A fix whose range is cut out of a text between characters. -/
structure Fix.Cuts (text : String) (fix : Fix) : Prop where
  ordered : fix.span.start ≤ fix.span.stop
  start : Utf8.Boundary text fix.span.start
  stop : Utf8.Boundary text fix.span.stop

theorem Fix.Cuts.within {text : String} {fix : Fix} (h : fix.Cuts text) : fix.Within (Utf8.encode text).length :=
  ⟨h.ordered, h.stop.le_length⟩

/-- What a fix replaces among the bytes. -/
def Fix.onBytes (fix : Fix) : Replacement UInt8 := ⟨fix.span.start, fix.span.stop, Utf8.encode fix.text⟩

/-- What a fix replaces among the characters. -/
def Fix.onChars (text : String) (fix : Fix) : Replacement Char :=
  ⟨Utf8.charsBefore text fix.span.start, Utf8.charsBefore text fix.span.stop, fix.text.toList⟩

theorem substituted_eq_replaced (bytes : Bytes) : ∀ (first : Nat) (fixes : List Fix),
    substituted bytes first fixes = replaced bytes first (fixes.map Fix.onBytes)
  | _, [] => rfl
  | first, fix :: rest => by
    rw [substituted, substituted_eq_replaced bytes fix.span.stop rest]
    rfl

/-- Ranges that end between characters are replaced among the characters as they are among the bytes. -/
theorem replaced_onBytes {text : String} : ∀ {fixes : List Fix} {first : Nat}, Utf8.Boundary text first →
    (∀ fix ∈ fixes, fix.Cuts text) → replaced (Utf8.encode text) first (fixes.map Fix.onBytes) =
      Utf8.encodeChars (replaced text.toList (Utf8.charsBefore text first) (fixes.map (Fix.onChars text)))
  | [], _, hfirst, _ => hfirst.drop_eq
  | fix :: rest, first, hfirst, cuts => by
    have hfix := cuts fix List.mem_cons_self
    have hrest := replaced_onBytes hfix.stop fun other hother => cuts other (List.mem_cons_of_mem _ hother)
    calc replaced (Utf8.encode text) first ((fix :: rest).map Fix.onBytes)
      _ = (Utf8.encode text).slice first fix.span.start ++ Utf8.encode fix.text ++
            replaced (Utf8.encode text) fix.span.stop (rest.map Fix.onBytes) := rfl
      _ = _ := by
        rw [hfirst.slice_eq hfix.start, hrest, Utf8.encode, ← Utf8.encodeChars_append, ← Utf8.encodeChars_append]
        rfl

/-- Fixes that cut between characters can be applied together: the edited bytes are those of a text, in
which the fixes have replaced characters. -/
theorem decode?_editedBytes {text : String} {fixes : List Fix}
    (apart : fixes.Pairwise fun first second => first.span.overlaps second.span = false)
    (cuts : ∀ fix ∈ fixes, fix.Cuts text) : Utf8.decode? (editedBytes text fixes) =
      some (String.ofList (replaced text.toList 0 ((firstToLast fixes).map (Fix.onChars text)))) := by
  have hchars := replaced_onBytes (Utf8.boundary_zero text) fun fix hfix => cuts fix (mem_firstToLast.1 hfix)
  rw [editedBytes_eq_substituted apart fun fix hfix => (cuts fix hfix).within, substituted_eq_replaced, hchars,
    ← Utf8.encode_ofList, Utf8.decode?_encode]
  rfl

/-- So fixes of findings can be applied as long as all candidates cut between characters. -/
theorem applyFixes_of_cuts {text : String} {findings : List Finding}
    (cuts : ∀ finding ∈ findings, ∀ fix ∈ finding.fixes, fix.Cuts text) :
    ∃ fixed, applyFixes text findings = .ok fixed := by
  have hcuts : ∀ fix ∈ (selectFixes findings).fixes, fix.Cuts text := by
    intro fix hfix
    obtain ⟨finding, hfinding, hmem⟩ := exists_of_mem_fixes_selectFixes hfix
    exact cuts finding hfinding fix hmem
  exact ⟨⟨_, _, _⟩, applyFixes_eq_ok_iff.2 ⟨decode?_editedBytes (pairwise_fixes_selectFixes findings) hcuts, rfl, rfl⟩⟩

/-! ## Applying fixes -/

/-- Where the applied fixes cut between characters, they stand one before the other, and the output is the text
with their texts in place of their ranges. -/
theorem encode_output_of_cuts {text : String} {findings : List Finding} {fixed : FixOutcome}
    (h : applyFixes text findings = .ok fixed) (cuts : ∀ fix ∈ fixed.applied, fix.Cuts text) :
    (firstToLast fixed.applied).Pairwise Fix.Before ∧
      Utf8.encode fixed.output = substituted (Utf8.encode text) 0 (firstToLast fixed.applied) := by
  obtain ⟨hdecoded, happlied, -⟩ := applyFixes_eq_ok_iff.1 h
  have apart : fixed.applied.Pairwise fun first second => first.span.overlaps second.span = false := by
    rw [happlied]
    exact pairwise_fixes_selectFixes findings
  have within : ∀ fix ∈ fixed.applied, fix.Within (Utf8.encode text).length := fun fix hfix => (cuts fix hfix).within
  refine ⟨pairwise_firstToLast apart within, ?_⟩
  rw [Utf8.encode_of_decode? hdecoded, ← happlied, editedBytes_eq_substituted apart within]

/-- **Applying fixes is simultaneous substitution.** Where all ranges lie in the text, the selected
fixes can be listed so that each ends before the next one starts, and no two start together. The
edited bytes are those of the text with the texts of the fixes in place of their ranges, in
whatever order the fixes were selected. Where the ranges end between characters, there is an
output, and its characters are those of the text with the same replacements. -/
theorem applyFixes_substitutes (text : String) (findings : List Finding)
    (within : ∀ finding ∈ findings, ∀ fix ∈ finding.fixes, fix.Within (Utf8.encode text).length) :
    let selected := (selectFixes findings).fixes
    let listed := firstToLast selected
    let edited := replaced (Utf8.encode text) 0 (listed.map Fix.onBytes)
    listed.Perm selected ∧ listed.Pairwise Fix.Before ∧
    (∀ order, order.Perm selected → editedBytes text order = edited) ∧
    (∀ fixed, applyFixes text findings = .ok fixed → fixed.applied = selected ∧ Utf8.encode fixed.output = edited) ∧
    ((∀ fix ∈ selected, Utf8.Boundary text fix.span.start ∧ Utf8.Boundary text fix.span.stop) →
      ∃ fixed, applyFixes text findings = .ok fixed ∧
        fixed.output.toList = replaced text.toList 0 (listed.map (Fix.onChars text))) := by
  intro selected listed edited
  have apart := pairwise_fixes_selectFixes findings
  have inside : ∀ fix ∈ selected, fix.Within (Utf8.encode text).length := by
    intro fix hfix
    obtain ⟨finding, hfinding, hmem⟩ := exists_of_mem_fixes_selectFixes hfix
    exact within finding hfinding fix hmem
  have hedited : ∀ order, order.Perm selected → editedBytes text order = edited := by
    intro order h
    rw [editedBytes_eq_substituted (apart_of_perm h apart) fun fix hfix => inside fix (h.mem_iff.1 hfix),
      firstToLast_eq_of_perm h apart inside, substituted_eq_replaced]
  refine ⟨firstToLast_perm selected, pairwise_firstToLast apart inside, hedited, fun fixed h => ?_, fun ends => ?_⟩
  · obtain ⟨hdecoded, happlied, -⟩ := applyFixes_eq_ok_iff.1 h
    exact ⟨happlied, (Utf8.encode_of_decode? hdecoded).trans (hedited selected (List.Perm.refl _))⟩
  · have cuts : ∀ fix ∈ selected, fix.Cuts text := fun fix hfix =>
      ⟨(inside fix hfix).ordered, (ends fix hfix).1, (ends fix hfix).2⟩
    refine ⟨⟨_, _, _⟩, applyFixes_eq_ok_iff.2 ⟨decode?_editedBytes apart cuts, rfl, rfl⟩, ?_⟩
    exact String.toList_ofList

/-- A statement whose name takes two bytes. -/
def accentText : String := "var é;"

/-- An edit of the name, an insertion right behind the keyword, an edit of the keyword, and one of the
whole statement that comes too late. -/
def accentFindings : List Finding :=
  [("ascii", 4, 6, "e"), ("behind", 3, 3, "/*ü*/"), ("keyword", 0, 3, "let"), ("whole", 0, 7, "")].map
    fun (rule, start, stop, text) =>
      { rule, severity := .warn, message := rule, path := .ofString "x.js", span := ⟨0, 7, 1, 1, none, none⟩
        fixes := [⟨⟨start, stop, 1, 1, none, none⟩, text⟩] }

theorem applyFixes_substitutes_accent :
    (∀ finding ∈ accentFindings, ∀ fix ∈ finding.fixes, fix.Within (Utf8.encode accentText).length) ∧
    ∃ fixed, applyFixes accentText accentFindings = .ok fixed ∧ fixed.output = "let/*ü*/ e;" ∧
      fixed.applied.map (fun fix => fix.span.start) = [4, 3, 0] ∧
      fixed.output.toList = replaced accentText.toList 0
        [⟨0, 3, "let".toList⟩, ⟨3, 3, "/*ü*/".toList⟩, ⟨4, 5, "e".toList⟩] := by
  have within : ∀ finding ∈ accentFindings, ∀ fix ∈ finding.fixes, fix.Within (Utf8.encode accentText).length := by
    have all : ∀ finding ∈ accentFindings, ∀ fix ∈ finding.fixes,
        fix.span.start ≤ fix.span.stop ∧ fix.span.stop ≤ (Utf8.encode accentText).length := by decide +kernel
    exact fun finding hfinding fix hfix => ⟨(all finding hfinding fix hfix).1, (all finding hfinding fix hfix).2⟩
  let edit (start stop : Nat) (text : String) : Fix := ⟨⟨start, stop, 1, 1, none, none⟩, text⟩
  have hselected : (selectFixes accentFindings).fixes = [edit 4 6 "e", edit 3 3 "/*ü*/", edit 0 3 "let"] := by
    have hsorted : SortedBy Finding.key accentFindings := by
      rw [SortedBy]
      decide +kernel
    rw [selectFixes, canonicalOrder, sortByKey_of_sortedBy hsorted]
    decide +kernel
  have hlisted : firstToLast (selectFixes accentFindings).fixes = [edit 0 3 "let", edit 3 3 "/*ü*/", edit 4 6 "e"] := by
    rw [hselected, firstToLast, lastFirst, List.mergeSort_of_pairwise (by decide)]
    rfl
  have boundary : ∀ before after, accentText.toList = before ++ after →
      Utf8.Boundary accentText (Utf8.encodeChars before).length := fun before after h => ⟨before, after, h, rfl⟩
  have ends : ∀ fix ∈ (selectFixes accentFindings).fixes,
      Utf8.Boundary accentText fix.span.start ∧ Utf8.Boundary accentText fix.span.stop := by
    rw [hselected]
    simp only [List.forall_mem_cons]
    exact ⟨⟨boundary "var ".toList "é;".toList rfl, boundary "var é".toList ";".toList rfl⟩,
      ⟨boundary "var".toList " é;".toList rfl, boundary "var".toList " é;".toList rfl⟩,
      ⟨boundary "".toList "var é;".toList rfl, boundary "var".toList " é;".toList rfl⟩, List.forall_mem_nil _⟩
  obtain ⟨-, -, -, happlied, hfixed⟩ := applyFixes_substitutes accentText accentFindings within
  obtain ⟨fixed, happly, houtput⟩ := hfixed ends
  have hchars : [edit 0 3 "let", edit 3 3 "/*ü*/", edit 4 6 "e"].map (Fix.onChars accentText) =
      [⟨0, 3, "let".toList⟩, ⟨3, 3, "/*ü*/".toList⟩, ⟨4, 5, "e".toList⟩] := by decide +kernel
  rw [hlisted, hchars] at houtput
  refine ⟨within, fixed, happly, ?_, ?_, houtput⟩
  · have hspelt : String.ofList fixed.output.toList = "let/*ü*/ e;" := by
      rw [houtput]
      decide +kernel
    rwa [String.ofList_toList] at hspelt
  · rw [(happlied fixed happly).1, hselected]
    rfl

end ScriptLint
