/-
Edits stay where they were reported.

A report refuses a fix that reaches out of its node (`Context.fixes_of_report`).
The check compares the start of the range with the start of the node and the
end with the end, so it says that both ends are inside only of a range that
does not end before it starts (`Span.holds_of_contains`). A range that does is a
place for an insertion, and that place may lie elsewhere.

What fixes do to a text is `Framed`: the bytes are kept one by one, except for
ranges that are rewritten. For fixes that keep clear of each other these are
their own ranges, whatever they look like (`framed_editedBytes`). So no fix of a
run removes a byte outside the range of its finding, and one that is not
reversed changes nothing there at all (`edits_stay_inside`).
-/
import ScriptLint.Proofs.Isolation
import ScriptLint.Proofs.Rules.Reports
import ScriptLint.Proofs.Splicing
import ScriptLint.Proofs.Tree.Nesting
import ScriptLint.Rule.Declared

namespace ScriptLint

/-! ## Ranges -/

/-- A range that ends before it starts. -/
def Span.Reversed (span : Span) : Prop := span.stop < span.start

instance (span : Span) : Decidable span.Reversed := inferInstanceAs (Decidable (span.stop < span.start))

/-- Both ends of a range lie between those of another. -/
structure Span.Holds (outer inner : Span) : Prop where
  start : outer.start ≤ inner.start ∧ inner.start ≤ outer.stop
  stop : outer.start ≤ inner.stop ∧ inner.stop ≤ outer.stop

theorem Span.holds_iff {outer inner : Span} : outer.Holds inner ↔
    (outer.start ≤ inner.start ∧ inner.start ≤ outer.stop) ∧ outer.start ≤ inner.stop ∧ inner.stop ≤ outer.stop :=
  ⟨fun h => ⟨h.start, h.stop⟩, fun h => ⟨h.1, h.2⟩⟩

instance (outer inner : Span) : Decidable (outer.Holds inner) := decidable_of_iff' _ Span.holds_iff

/-- What a check of start against start and end against end is worth. -/
theorem Span.holds_of_contains {outer inner : Span} (h : outer.contains inner = true) :
    inner.Reversed ∨ outer.Holds inner := by
  obtain ⟨hstart, hstop⟩ := Span.contains_iff.1 h
  by_cases hreversed : inner.Reversed
  · exact .inl hreversed
  · have hordered : inner.start ≤ inner.stop := Nat.le_of_not_lt hreversed
    exact .inr ⟨⟨hstart, Nat.le_trans hordered hstop⟩, Nat.le_trans hstart hordered, hstop⟩

/-! ## Frames -/

/-- Bytes from an offset on, and what they have become: each is kept, except for allowed ranges, which
hold something else. -/
inductive Framed (allowed : Nat → Nat → Prop) : Nat → Bytes → Bytes → Prop where
  | nil {first : Nat} : Framed allowed first [] []
  | keep {first : Nat} {bytes after : Bytes} (byte : UInt8) (rest : Framed allowed (first + 1) bytes after) :
    Framed allowed first (byte :: bytes) (byte :: after)
  | rewrite {first : Nat} {bytes after : Bytes} (removed inserted : Bytes)
    (range : allowed first (first + removed.length)) (rest : Framed allowed (first + removed.length) bytes after) :
    Framed allowed first (removed ++ bytes) (inserted ++ after)

namespace Framed

variable {allowed : Nat → Nat → Prop}

theorem refl : ∀ (bytes : Bytes) (first : Nat), Framed allowed first bytes bytes
  | [], _ => .nil
  | byte :: bytes, first => .keep byte (refl bytes (first + 1))

theorem kept {bytes after : Bytes} : ∀ (same : Bytes) {first : Nat}, Framed allowed (first + same.length) bytes after →
    Framed allowed first (same ++ bytes) (same ++ after)
  | [], _, h => h
  | byte :: same, first, h => by
    refine .keep byte (kept same ?_)
    rwa [Nat.add_assoc, Nat.add_comm 1]

theorem mono {wider : Nat → Nat → Prop} (h : ∀ start stop, allowed start stop → wider start stop) {first : Nat}
    {bytes after : Bytes} (framed : Framed allowed first bytes after) : Framed wider first bytes after := by
  induction framed with
  | nil => exact .nil
  | keep byte _ ih => exact .keep byte ih
  | rewrite removed inserted range _ ih => exact .rewrite removed inserted (h _ _ range) ih

/-- Where only insertions start before some offset, what is left behind as many bytes is the frame of what
is behind the offset, with remains of insertions in front. -/
theorem drop {first : Nat} {bytes after : Bytes} (framed : Framed allowed first bytes after) : ∀ {count many : Nat},
    many ≤ count → (∀ start stop, allowed start stop → start < first + count → stop = start) →
      ∃ remains rest, after.drop many = remains ++ rest ∧
        Framed allowed (first + min count bytes.length) (bytes.drop count) rest := by
  induction framed with
  | nil =>
    intro count many _ _
    exact ⟨[], [], by simp, by simpa using Framed.nil⟩
  | @keep first bytes after byte framed ih =>
    intro count many hmany insertions
    match count, many with
    | 0, many => exact ⟨[], byte :: after, by simp [Nat.le_zero.1 hmany], by simpa using Framed.keep byte framed⟩
    | count + 1, many =>
      have hbehind : ∀ start stop, allowed start stop → start < first + 1 + count → stop = start :=
        fun start stop h hstart => insertions start stop h (by omega)
      have hoffset : first + 1 + min count bytes.length = first + min (count + 1) (byte :: bytes).length := by
        rw [List.length_cons]
        omega
      match many with
      | 0 =>
        obtain ⟨remains, rest, hafter, hrest⟩ := ih (Nat.zero_le count) hbehind
        rw [List.drop_zero] at hafter
        exact ⟨byte :: remains, rest, by rw [List.drop_zero, hafter, List.cons_append], hoffset ▸ hrest⟩
      | many + 1 =>
        obtain ⟨remains, rest, hafter, hrest⟩ := ih (Nat.le_of_succ_le_succ hmany) hbehind
        exact ⟨remains, rest, hafter, hoffset ▸ hrest⟩
  | @rewrite first bytes after removed inserted range framed ih =>
    intro count many hmany insertions
    match count with
    | 0 =>
      have hzero : many = 0 := Nat.le_zero.1 hmany
      exact ⟨[], inserted ++ after, by simp [hzero], by simpa using Framed.rewrite removed inserted range framed⟩
    | count + 1 =>
      have hnone : removed = [] := by
        have hsame := insertions _ _ range (by omega)
        exact List.length_eq_zero_iff.1 (by omega)
      subst hnone
      have hless : many - inserted.length ≤ count + 1 := Nat.le_trans (Nat.sub_le _ _) hmany
      obtain ⟨remains, rest, hafter, hrest⟩ := ih hless insertions
      refine ⟨inserted.drop many ++ remains, rest, ?_, hrest⟩
      rw [List.drop_append, hafter, List.append_assoc]

end Framed

/-- The bytes at offsets that are not inside, counted from an offset on. -/
def outside (inside : Nat → Bool) (first : Nat) : Bytes → Bytes
  | [] => []
  | byte :: bytes => if inside first then outside inside (first + 1) bytes else byte :: outside inside (first + 1) bytes

theorem outside_append {inside : Nat → Bool} {bytes : Bytes} : ∀ {removed : Bytes} {first : Nat},
    (∀ offset, first ≤ offset → offset < first + removed.length → inside offset = true) →
      outside inside first (removed ++ bytes) = outside inside (first + removed.length) bytes
  | [], _, _ => rfl
  | byte :: removed, first, h => by
    have hlength : first + (byte :: removed).length = first + 1 + removed.length := by
      rw [List.length_cons]
      omega
    have hhead : inside first = true := h first (Nat.le_refl _) (by rw [hlength]; omega)
    rw [List.cons_append, outside, if_pos hhead, hlength]
    exact outside_append fun offset hfirst hlast => h offset (by omega) (by omega)

/-- What no allowed range holds is still there, in order. -/
theorem Framed.outside_sublist {allowed : Nat → Nat → Prop} {inside : Nat → Bool}
    (h : ∀ start stop, allowed start stop → ∀ offset, start ≤ offset → offset < stop → inside offset = true)
    {first : Nat} {bytes after : Bytes} (framed : Framed allowed first bytes after) : (outside inside first bytes).Sublist after := by
  induction framed with
  | nil => exact .slnil
  | keep byte _ ih =>
    rw [outside]
    split
    · exact ih.cons byte
    · exact ih.cons_cons byte
  | rewrite removed inserted range _ ih =>
    rw [outside_append (h _ _ range)]
    exact ih.trans (List.sublist_append_right inserted _)

/-! ## Splicing -/

/-- The ranges that fixes rewrite among so many bytes. What ends before it starts is an insertion, and
what lies behind the end is at the end. -/
def Rewrites (size : Nat) (fixes : List Fix) (start stop : Nat) : Prop :=
  ∃ fix ∈ fixes, start = min fix.span.start size ∧ stop = min (max fix.span.start fix.span.stop) size

theorem Rewrites.cons {size : Nat} {fix : Fix} {rest : List Fix} {start stop : Nat}
    (h : Rewrites size rest start stop) : Rewrites size (fix :: rest) start stop := by
  obtain ⟨other, hother, hrange⟩ := h
  exact ⟨other, List.mem_cons_of_mem _ hother, hrange⟩

/-- What starts inside the range of an earlier fix, and does not overlap it, is an insertion. -/
theorem Rewrites.insertion {size : Nat} {fix : Fix} {rest : List Fix}
    (ordered : ∀ other ∈ rest, fix.span.start ≤ other.span.start)
    (apart : ∀ other ∈ rest, fix.span.overlaps other.span = false) {start stop : Nat}
    (h : Rewrites size rest start stop) (hstart : start < max fix.span.start fix.span.stop) : stop = start := by
  obtain ⟨other, hother, rfl, rfl⟩ := h
  have hle := ordered other hother
  have hapart := apart other hother
  simp only [Span.overlaps, Bool.or_eq_false_iff, Bool.and_eq_false_iff, beq_eq_false_iff_ne,
    decide_eq_false_iff_not] at hapart
  omega

section Fold

variable {bytes : Bytes}

/-- Splicing into bytes that are still those of the text up to the start of the range. -/
theorem framed_splice {tail : Bytes} {fix : Fix} {rest : List Fix}
    (ordered : ∀ other ∈ rest, fix.span.start ≤ other.span.start)
    (apart : ∀ other ∈ rest, fix.span.overlaps other.span = false) :
    let start := min fix.span.start bytes.length
    Framed (Rewrites bytes.length rest) start (bytes.drop start) tail →
      ∃ spliced, splice (bytes.take start ++ tail) fix = bytes.take start ++ spliced ∧
        Framed (Rewrites bytes.length (fix :: rest)) start (bytes.drop start) spliced := by
  intro start framed
  let stop := max fix.span.start fix.span.stop
  have hlength : (bytes.take start).length = start := List.length_take_of_le (Nat.min_le_right _ _)
  by_cases hinside : fix.span.start ≤ bytes.length
  · have hstart : start = fix.span.start := Nat.min_eq_left hinside
    have hle : start ≤ stop := by
      rw [hstart]
      exact Nat.le_max_left _ _
    obtain ⟨remains, rest', htail, hrest⟩ := framed.drop (Nat.le_refl (stop - start)) fun first last h hbefore =>
      Rewrites.insertion ordered apart h (by omega)
    have htake : (bytes.take start ++ tail).take fix.span.start = bytes.take start :=
      List.take_left' (hlength.trans hstart)
    have hdrop : (bytes.take start ++ tail).drop stop = remains ++ rest' := by
      rw [List.drop_append, hlength, htail, List.drop_of_length_le (Nat.le_trans (Nat.le_of_eq hlength) hle),
        List.nil_append]
    refine ⟨Utf8.encode fix.text ++ remains ++ rest', ?_, ?_⟩
    · rw [splice, htake, hdrop]
      simp only [List.append_assoc]
    · have hrest : Framed (Rewrites bytes.length (fix :: rest)) _ _ rest' :=
        hrest.mono fun first last => Rewrites.cons
      rw [← List.length_take] at hrest
      rw [← List.take_append_drop (stop - start) (bytes.drop start)]
      refine .rewrite _ _ ⟨fix, List.mem_cons_self, rfl, ?_⟩ hrest
      rw [List.length_take, List.length_drop]
      omega
  · -- Behind the end there are only insertions to splice into.
    have hstart : start = bytes.length := Nat.min_eq_right (Nat.le_of_not_le hinside)
    have htake : bytes.take start = bytes := by rw [hstart, List.take_length]
    refine ⟨tail.take (fix.span.start - bytes.length) ++ Utf8.encode fix.text ++ (bytes ++ tail).drop stop, ?_, ?_⟩
    · rw [htake, splice, List.take_append, List.take_of_length_le (Nat.le_of_not_le hinside)]
      simp only [List.append_assoc]
      rfl
    · have hnone : bytes.drop start = [] ++ [] := List.drop_of_length_le (Nat.le_of_eq hstart.symm)
      rw [hnone, ← List.append_nil (_ ++ _ ++ _)]
      refine .rewrite _ _ ⟨fix, List.mem_cons_self, rfl, ?_⟩ .nil
      rw [List.length_nil]
      omega

/-- From the back: once the fixes after an offset are spliced in, the bytes are those of the text up to
the offset, and framed from there on. -/
theorem framed_foldr : ∀ {fixes : List Fix} {first : Nat},
    fixes.Pairwise (fun first second => first.span.start ≤ second.span.start) →
    fixes.Pairwise (fun first second => first.span.overlaps second.span = false) → first ≤ bytes.length →
    (∀ fix ∈ fixes, first ≤ fix.span.start) →
      ∃ tail, fixes.foldr (fun fix bytes => splice bytes fix) bytes = bytes.take first ++ tail ∧
        Framed (Rewrites bytes.length fixes) first (bytes.drop first) tail
  | [], first, _, _, _, _ => ⟨bytes.drop first, (List.take_append_drop first bytes).symm, .refl _ _⟩
  | fix :: rest, first, ordered, apart, hfirst, hstarts => by
    obtain ⟨hordered, ordered⟩ := List.pairwise_cons.1 ordered
    obtain ⟨hapart, apart⟩ := List.pairwise_cons.1 apart
    let start := min fix.span.start bytes.length
    have hstart : first ≤ start := Nat.le_min.2 ⟨hstarts fix List.mem_cons_self, hfirst⟩
    have hend : start ≤ bytes.length := Nat.min_le_right _ _
    obtain ⟨tail, hfold, hframed⟩ := framed_foldr ordered apart hend
      fun other hother => Nat.le_trans (Nat.min_le_left _ _) (hordered other hother)
    obtain ⟨spliced, hsplice, hspliced⟩ := framed_splice hordered hapart hframed
    have hslice : bytes.drop first = bytes.slice first start ++ bytes.drop start := by
      rw [Bytes.slice, ← Nat.add_sub_of_le hstart, ← List.drop_drop, Nat.add_sub_cancel_left, List.take_append_drop]
    have hlength : first + (bytes.slice first start).length = start := by
      rw [Bytes.slice, List.length_take, List.length_drop]
      omega
    refine ⟨bytes.slice first start ++ spliced, ?_, ?_⟩
    · rw [List.foldr_cons, hfold, hsplice, ← List.append_assoc, Bytes.take_append_slice bytes hstart]
    · rw [hslice]
      refine .kept _ ?_
      rwa [hlength]

end Fold

/-- Fixes that do not overlap rewrite their ranges and keep every other byte. -/
theorem framed_editedBytes (text : String) {fixes : List Fix}
    (apart : fixes.Pairwise fun first second => first.span.overlaps second.span = false) :
    Framed (Rewrites (Utf8.encode text).length fixes) 0 (Utf8.encode text) (editedBytes text fixes) := by
  obtain ⟨tail, hfold, hframed⟩ := @framed_foldr (Utf8.encode text) _ 0 (pairwise_start_firstToLast fixes)
    (apart_of_perm (firstToLast_perm fixes) apart) (Nat.zero_le _) fun _ _ => Nat.zero_le _
  rw [firstToLast, List.foldr_reverse, List.take_zero, List.nil_append] at hfold
  rw [editedBytes, hfold]
  refine hframed.mono fun start stop => ?_
  rintro ⟨fix, hfix, hrange⟩
  exact ⟨fix, mem_firstToLast.1 hfix, hrange⟩

/-! ## Runs -/

/-- What a handler emits when it builds findings in no other way than with `report`. The fixes may be any;
they come with nodes of the file. -/
inductive Reported (ctx : Context) : Emission → Prop where
  | report {target : Node} (message : String) (fixes : List Fix) (h : fixes ≠ [] → target ∈ ctx.source.root.walk) :
    Reported ctx (ctx.report target message fixes)
  | failed (failure : Failure) : Reported ctx (.failed failure)

/-- In the contexts of a run all handlers of a rule build their findings with `report`. -/
def Rule.ReportsOnly (rule : Rule) : Prop :=
  ∀ visitor ∈ rule.visitors, ∀ ctx, ctx.scopes = Scope.analyze ctx.source → ∀ node ∈ ctx.source.root.walk,
    ∀ emission ∈ visitor.2 node ctx, Reported ctx emission

theorem Rules.reportsOnly_builtin : ∀ rule ∈ builtin, rule.ReportsOnly := by
  intro rule hrule visitor hvisitor ctx _ node hnode emission hemission
  cases issued_builtin rule hrule visitor hvisitor node ctx emission hemission with
  | about => exact .report _ _ fun hfixes => absurd rfl hfixes
  | fixable htarget => exact .report _ _ fun _ => Node.cons_children_subset_walk hnode _ htarget
  | failed => exact .failed _

/-- A report with a fix that is not inside, and not reversed, is a failure. -/
theorem Context.report_of_not_holds (ctx : Context) {target : Node} (message : String) {fixes : List Fix} {fix : Fix}
    (hfix : fix ∈ fixes) (hordered : ¬ fix.span.Reversed) (houtside : ¬ (ctx.source.spanOf target).Holds fix.span) :
    ∃ failure, ctx.report target message fixes = .failed failure := by
  cases hreport : ctx.report target message fixes with
  | failed failure => exact ⟨failure, rfl⟩
  | finding finding =>
    obtain ⟨hspan, rfl, hcontains⟩ := Context.fixes_of_report hreport
    have hinside := Span.holds_of_contains (hspan ▸ hcontains fix hfix)
    exact absurd hinside (not_or.2 ⟨hordered, houtside⟩)

/-- A rule given as data builds no finding by hand unless one of its items says so. -/
theorem DeclaredRule.reportsOnly_toRule {rule : DeclaredRule} (h : ∀ action ∈ rule.actions,
    ∀ item ∈ action.2.items, ∀ message severity, item ≠ .direct message severity) : rule.toRule.ReportsOnly := by
  intro visitor hvisitor ctx _ node hnode emission hemission
  obtain ⟨action, haction, rfl⟩ := List.mem_map.1 hvisitor
  have hitems := h action (Keyed.mem_of_mem_ofPairs haction)
  simp only [Declared.Action.handler] at hemission
  split at hemission
  · obtain ⟨item, hitem, rfl⟩ := List.mem_map.1 hemission
    cases item with
    | report message edits =>
      simp only [Declared.Item.emission]
      split
      · exact .failed _
      · exact .report _ _ fun _ => hnode
    | direct message severity => exact absurd rfl (hitems _ hitem message severity)
    | giveUp message => exact .failed _
    | junk value => exact .failed _
  · cases hemission

/-- Ranges inside the range of a finding whose fix was chosen. -/
def Selection.Spans (selection : Selection) (start stop : Nat) : Prop :=
  ∃ choice ∈ selection.choices, choice.owner.span.start ≤ start ∧ stop ≤ choice.owner.span.stop

/-- Whether an offset is in the range of a finding whose fix was chosen. -/
def Selection.covers (selection : Selection) (offset : Nat) : Bool :=
  selection.choices.any fun choice => choice.owner.span.start ≤ offset && offset < choice.owner.span.stop

theorem Selection.Spans.covers {selection : Selection} {start stop offset : Nat} (h : selection.Spans start stop)
    (hstart : start ≤ offset) (hstop : offset < stop) : selection.covers offset = true := by
  obtain ⟨choice, hchoice, hfirst, hlast⟩ := h
  refine List.any_eq_true.2 ⟨choice, hchoice, ?_⟩
  simp only [Bool.and_eq_true, decide_eq_true_eq]
  exact ⟨Nat.le_trans hfirst hstart, Nat.lt_of_lt_of_le hstop hlast⟩

section Runs

variable {source : Source} {rules : List ActiveRule}

/-- Fixes come with the range of a node of the file, which contains them. -/
theorem contains_of_mem_runRules (reports : ∀ active ∈ rules, active.rule.ReportsOnly) {finding : Finding}
    (h : finding ∈ runRules source rules) : ∀ fix ∈ finding.fixes,
      (∃ target ∈ source.root.walk, finding.span = source.spanOf target) ∧ finding.span.contains fix.span = true := by
  obtain ⟨active, hactive, call, hcall, ⟨emitted, hemitted, rfl⟩ | ⟨failure, -, rfl⟩⟩ := exists_call_of_mem_runRules h
  · obtain ⟨hnode, visitor, hvisitor, hhandler, -⟩ := ActiveRule.mem_calls hcall
    rw [hhandler] at hemitted
    have hreported := reports active hactive visitor hvisitor _ rfl call.node hnode _ hemitted
    generalize hemission : Emission.finding emitted = emission at hreported
    intro fix hfix
    cases hreported with
    | failed => cases hemission
    | @report target message fixes htarget =>
      obtain ⟨hspan, rfl, hcontains⟩ := Context.fixes_of_report hemission.symm
      exact ⟨⟨target, htarget (List.ne_nil_of_mem hfix), hspan⟩, hcontains fix hfix⟩
  · exact List.forall_mem_nil _

/-- A call that asks for a range that is not inside, and not reversed, adds an error and nothing else,
and it is the last of its rule that adds anything. -/
theorem entriesOf_of_outside {place : Nat} {active : ActiveRule} (hactive : rules[place]? = some active)
    {before after : List Call} {call : Call} (hcalls : active.calls source.root = before ++ call :: after) :
    let ctx := Dispatch.contextFor source (Scope.analyze source) active
    (∀ earlier ∈ before, ∃ findings, earlier.result ctx = .ok findings) →
      ∀ target message fixes, ctx.report target message fixes ∈ call.handler call.node ctx →
        ∀ fix ∈ fixes, ¬ fix.span.Reversed → ¬ (source.spanOf target).Holds fix.span →
          ∃ failure, entriesOf place (attributedRun source rules) =
            contribution ctx before ++ [failureFinding ctx call.node failure] := by
  intro ctx hbefore target message fixes hreport fix hfix hordered houtside
  obtain ⟨failure, hfailed⟩ := ctx.report_of_not_holds message hfix hordered houtside
  obtain ⟨first, hfirst⟩ : ∃ first, call.result ctx = .error first := exists_collect_eq_error (hfailed ▸ hreport)
  refine ⟨first, ?_⟩
  rw [entriesOf_attributedRun hactive, hcalls, contribution_append hfirst hbefore]

/-- Where a fix of a run rewrites the text, no bytes are removed or bytes of the finding are; unless the fix
is reversed, this is in the range of the finding. -/
theorem spans_of_rewrites (nested : source.Nested) (sized : source.root.stop ≤ source.bytes.length)
    (reports : ∀ active ∈ rules, active.rule.ReportsOnly) {start stop : Nat} :
    let selection := selectFixes (runRules source rules)
    Rewrites source.bytes.length selection.fixes start stop →
      (start = stop ∨ selection.Spans start stop) ∧
        ((∀ fix ∈ selection.fixes, ¬ fix.span.Reversed) → selection.Spans start stop) := by
  rintro selection ⟨fix, hfix, rfl, rfl⟩
  obtain ⟨choice, hchoice, rfl⟩ := List.mem_map.1 hfix
  obtain ⟨howner, hmem⟩ := (sound_selectFixes _).offered choice hchoice
  obtain ⟨⟨target, htarget, hspan⟩, hcontains⟩ := contains_of_mem_runRules reports howner _ hmem
  obtain ⟨hstart, hstop⟩ := Span.contains_iff.1 hcontains
  have hend : choice.owner.span.stop ≤ source.bytes.length := by
    rw [hspan]
    exact Nat.le_trans (Node.covers_iff.1 (Node.covers_of_mem_walk nested target htarget)).2 sized
  by_cases hreversed : choice.fix.span.Reversed
  · exact ⟨.inl (by rw [Nat.max_eq_left (Nat.le_of_lt hreversed)]), fun h => absurd hreversed (h _ hfix)⟩
  · have hordered : choice.fix.span.start ≤ choice.fix.span.stop := Nat.le_of_not_lt hreversed
    have hspans : selection.Spans (min choice.fix.span.start source.bytes.length)
        (min (max choice.fix.span.start choice.fix.span.stop) source.bytes.length) :=
      ⟨choice, hchoice, by omega, by omega⟩
    exact ⟨.inr hspans, fun _ => hspans⟩

/-- **Edits stay inside what was reported.** In a nested tree that ends in the text, for rules that build
their findings with `report`: a fix of a finding has both ends in the range of the finding, unless
it is reversed. A call that asks for a range that has not adds only an error. Applying the fixes
of the run keeps every byte outside the ranges of the findings whose fix is applied, in order, and
where no applied fix is reversed nothing is put in between them either. -/
theorem edits_stay_inside (source : Source) (rules : List ActiveRule) (nested : source.Nested)
    (sized : source.root.stop ≤ source.bytes.length) (reports : ∀ active ∈ rules, active.rule.ReportsOnly) :
    (∀ finding ∈ runRules source rules, ∀ fix ∈ finding.fixes,
      fix.span.Reversed ∨ finding.span.Holds fix.span) ∧
    (∀ place active, rules[place]? = some active →
      let ctx := Dispatch.contextFor source (Scope.analyze source) active
      ∀ before call after, active.calls source.root = before ++ call :: after →
        (∀ earlier ∈ before, ∃ findings, earlier.result ctx = .ok findings) →
          ∀ target message fixes, ctx.report target message fixes ∈ call.handler call.node ctx →
            ∀ fix ∈ fixes, ¬ fix.span.Reversed → ¬ (source.spanOf target).Holds fix.span →
              ∃ failure, entriesOf place (attributedRun source rules) =
                contribution ctx before ++ [failureFinding ctx call.node failure]) ∧
    ∀ text strict fixed, Utf8.encode text = source.bytes →
      applyFixes text (runRules source rules) strict = .ok fixed →
        let selection := selectFixes (runRules source rules)
        fixed.applied = selection.fixes ∧
        Framed (fun start stop => start = stop ∨ selection.Spans start stop) 0 source.bytes
          (Utf8.encode fixed.output) ∧
        (outside selection.covers 0 source.bytes).Sublist (Utf8.encode fixed.output) ∧
        ((∀ fix ∈ fixed.applied, ¬ fix.span.Reversed) →
          Framed selection.Spans 0 source.bytes (Utf8.encode fixed.output)) := by
  refine ⟨fun finding hfinding fix hfix => ?_, fun place active hactive before call after hcalls =>
    entriesOf_of_outside hactive hcalls, fun text strict fixed hbytes happly => ?_⟩
  · exact Span.holds_of_contains (contains_of_mem_runRules reports hfinding fix hfix).2
  · intro selection
    obtain ⟨hdecoded, happlied, -⟩ := applyFixes_eq_ok_iff.1 (applyFixes_of_strict happly)
    have hframed := framed_editedBytes text (pairwise_fixes_selectFixes (runRules source rules))
    rw [hbytes, ← Utf8.encode_of_decode? hdecoded] at hframed
    have hkept : Framed (fun start stop => start = stop ∨ selection.Spans start stop) 0 source.bytes
        (Utf8.encode fixed.output) := hframed.mono fun start stop h => (spans_of_rewrites nested sized reports h).1
    refine ⟨happlied, hkept, hkept.outside_sublist fun start stop h offset hstart hstop => ?_, fun hordered => ?_⟩
    · rcases h with rfl | h
      · exact absurd hstop (Nat.not_lt.2 hstart)
      · exact h.covers hstart hstop
    · exact hframed.mono fun start stop h => (spans_of_rewrites nested sized reports h).2 (happlied ▸ hordered)

/-- An assignment of a number, and a name behind it. -/
def assignmentSource : Source :=
  .ofParsed (.ofString "x.js") (Utf8.encode "a = 1;b")
    (.node { kind := "program", start := 0, stop := 7 }
      [.node { kind := "assignment_expression", start := 0, stop := 5 }
        [.node { kind := "identifier", start := 0, stop := 1, field := some "left" } [],
         .node { kind := "number", start := 4, stop := 5, field := some "right" } []],
       .node { kind := "identifier", start := 6, stop := 7 } []])

def assignedNumber : Node :=
  let assignment := (assignmentSource.root.childOfKind? "assignment_expression").getD assignmentSource.root
  (assignment.childOfKind? "number").getD assignment

/-- Reports a number twice, the second time with a fix for a range that is counted from its start. -/
def rangeAction (message : String) (start stop : Int) : Declared.Action :=
  { items := [.report message [], .report message [.range start stop "x"]] }

def rangeRule (id : String) (start stop : Int) : DeclaredRule :=
  { id, actions := [("number", rangeAction id start stop)] }

theorem reportsOnly_rangeRule (id : String) (start stop : Int) : (rangeRule id start stop).toRule.ReportsOnly := by
  refine DeclaredRule.reportsOnly_toRule fun action haction item hitem => ?_
  obtain rfl := List.mem_singleton.1 haction
  rcases List.mem_cons.1 hitem with rfl | hitem
  · simp
  · obtain rfl := List.mem_singleton.1 hitem
    simp

/-- One rule that rewrites the number, and one that asks for the range behind it. -/
def rangeRules : List ActiveRule :=
  [⟨(rangeRule "inside" 0 1).toRule, .warn, .none⟩, ⟨(rangeRule "outside" 1 2).toRule, .warn, .none⟩]

theorem edits_stay_inside_assignment :
    let found := runRules assignmentSource rangeRules
    found.map Finding.message = ["inside", "inside",
      "Rule 'outside' failed on number node: ValueError: fix range 5..6 is outside number 4..5"] ∧
    (∃ failure, entriesOf 1 (attributedRun assignmentSource rangeRules) = [failure]) ∧
    ∃ fixed, applyFixes "a = 1;b" found = .ok fixed ∧ fixed.output = "a = x;b" ∧
      Framed (selectFixes found).Spans 0 (Utf8.encode "a = 1;b") (Utf8.encode "a = x;b") := by
  intro found
  have nested : assignmentSource.Nested := by decide +kernel
  have sized : assignmentSource.root.stop ≤ assignmentSource.bytes.length := by decide +kernel
  have reports : ∀ active ∈ rangeRules, active.rule.ReportsOnly := by
    simp only [rangeRules, List.forall_mem_cons]
    exact ⟨reportsOnly_rangeRule _ _ _, reportsOnly_rangeRule _ _ _, List.forall_mem_nil _⟩
  obtain ⟨-, hcalls, happlied⟩ := edits_stay_inside assignmentSource rangeRules nested sized reports
  have hselected : (selectFixes found).fixes = [⟨assignmentSource.spanBetween 4 5, "x"⟩] := by
    have hsorted : SortedBy Finding.key found := by
      rw [SortedBy]
      decide +kernel
    rw [selectFixes, canonicalOrder, sortByKey_of_sortedBy hsorted]
    decide +kernel
  have happly : applyFixes "a = 1;b" found =
      .ok ⟨"a = x;b", (selectFixes found).fixes, (selectFixes found).conflicts⟩ := by
    refine applyFixes_eq_ok_iff.2 ⟨?_, rfl, rfl⟩
    rw [hselected]
    decide +kernel
  refine ⟨by decide +kernel, ?_, _, happly, rfl, ?_⟩
  · let active : ActiveRule := ⟨(rangeRule "outside" 1 2).toRule, .warn, .none⟩
    let ctx := Dispatch.contextFor assignmentSource (Scope.analyze assignmentSource) active
    have hcall : active.calls assignmentSource.root =
        [] ++ ⟨assignedNumber, (rangeAction "outside" 1 2).handler⟩ :: [] := by
      rw [ActiveRule.calls, visits_eq_tour]
      rfl
    obtain ⟨failure, hfailure⟩ := hcalls 1 active rfl [] _ [] hcall (List.forall_mem_nil _) assignedNumber
      (Declared.fillIn ctx assignedNumber "outside")
      [ctx.replaceRange 5 6 (Declared.fillIn ctx assignedNumber "x")] (.tail _ (.head _)) _ (.head _)
      (by decide +kernel) (by decide +kernel)
    exact ⟨_, hfailure⟩
  · refine (happlied _ false _ rfl happly).2.2.2 fun fix hfix => ?_
    rw [hselected, List.mem_singleton] at hfix
    rw [hfix]
    decide +kernel

/-- A reversed range outside the number is let through: it starts behind the start of the number and ends
before its end. -/
theorem not_holds_backwards : ¬ ∀ (source : Source) (rules : List ActiveRule), source.Nested →
    source.root.stop ≤ source.bytes.length → (∀ active ∈ rules, active.rule.ReportsOnly) →
      ∀ finding ∈ runRules source rules, ∀ fix ∈ finding.fixes, finding.span.Holds fix.span := by
  intro h
  have hall := h assignmentSource [⟨(rangeRule "backwards" 2 0).toRule, .warn, .none⟩] (by decide +kernel)
    (by decide +kernel) fun active hactive => by
      obtain rfl := List.mem_singleton.1 hactive
      exact reportsOnly_rangeRule _ _ _
  have hnot : ¬ ∀ finding ∈ runRules assignmentSource [⟨(rangeRule "backwards" 2 0).toRule, .warn, .none⟩],
      ∀ fix ∈ finding.fixes, finding.span.Holds fix.span := by decide +kernel
  exact hnot hall

end Runs

end ScriptLint
