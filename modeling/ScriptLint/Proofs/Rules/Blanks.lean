/-
What the fixes for blanks around a dot take out of a text.

Each fix puts the text of a dot in place of what stands between the object and
the property of a member expression, which is the dot with blanks of one line
around it (`Tightens`). So a text that such fixes are applied to loses blanks
that do not break a line and nothing else (`Thinned`): each range does, and with
the ranges the whole text (`thinned_substituted`), with each pass the text that
fixing ends with (`thinned_of_accepts`). As no other fix reaches into its range,
an applied fix leaves the dot and nothing else there (`LeavesDot`).
-/
import ScriptLint.Proofs.Rules.Encoding

namespace ScriptLint

namespace Rules

/-! ## Blanks that are left out -/

/-- What stays of bytes from which blanks are taken out that do not break a line. -/
def steady (bytes : Bytes) : Bytes := bytes.filter fun byte => !isAsciiSpace byte || byte == newline

/-- Bytes that are others without some blanks, none of which breaks a line. -/
structure Thinned (bytes others : Bytes) : Prop where
  sublist : bytes.Sublist others
  kept : steady bytes = steady others

theorem Thinned.refl (bytes : Bytes) : Thinned bytes bytes := ⟨.refl bytes, rfl⟩

theorem Thinned.trans {first second third : Bytes} (h : Thinned first second) (h' : Thinned second third) :
    Thinned first third := ⟨h.sublist.trans h'.sublist, h.kept.trans h'.kept⟩

theorem steady_append (first second : Bytes) : steady (first ++ second) = steady first ++ steady second :=
  List.filter_append ..

theorem Thinned.append {first second first' second' : Bytes} (h : Thinned first first') (h' : Thinned second second') :
    Thinned (first ++ second) (first' ++ second') :=
  ⟨h.sublist.append h'.sublist, by rw [steady_append, steady_append, h.kept, h'.kept]⟩

theorem steady_eq_nil {bytes : Bytes} (h : blankOnLine bytes = true) : steady bytes = [] := by
  refine List.filter_eq_nil_iff.2 fun byte hbyte => ?_
  have hblank := List.all_eq_true.1 h byte hbyte
  simp only [Bool.and_eq_true, bne_iff_ne] at hblank
  simp [hblank.1, hblank.2]

/-- Blanks around some bytes. -/
theorem thinned_of_blanks {before bytes after : Bytes} (hbefore : blankOnLine before = true)
    (hafter : blankOnLine after = true) : Thinned bytes (before ++ bytes ++ after) where
  sublist := (List.sublist_append_right before bytes).trans (List.sublist_append_left _ after)
  kept := by
    rw [steady_append, steady_append, steady_eq_nil hbefore, steady_eq_nil hafter, List.nil_append, List.append_nil]

/-- So what is no blank stays, ... -/
theorem Thinned.solid {bytes others : Bytes} (h : Thinned bytes others) :
    bytes.filter (fun byte => !isAsciiSpace byte) = others.filter fun byte => !isAsciiSpace byte := by
  have hsolid : ∀ bytes : Bytes, bytes.filter (fun byte => !isAsciiSpace byte) =
      (steady bytes).filter fun byte => !isAsciiSpace byte := by
    intro bytes
    rw [steady, List.filter_filter]
    refine List.filter_congr fun byte _ => ?_
    cases isAsciiSpace byte <;> simp
  rw [hsolid bytes, hsolid others, h.kept]

/-- ... and every line break. -/
theorem Thinned.count_newline {bytes others : Bytes} (h : Thinned bytes others) :
    bytes.count newline = others.count newline := by
  have hcount : ∀ bytes : Bytes, bytes.count newline = (steady bytes).count newline := by
    intro bytes
    exact (List.count_filter (by simp)).symm
  rw [hcount bytes, hcount others, h.kept]

/-- Where each range loses such blanks only, the whole text does. -/
theorem thinned_substituted {bytes : Bytes} : ∀ {fixes : List Fix} (first : Nat), fixes.Pairwise Fix.Before →
    (∀ fix ∈ fixes, fix.span.start ≤ fix.span.stop ∧ first ≤ fix.span.start ∧
      Thinned (Utf8.encode fix.text) (bytes.slice fix.span.start fix.span.stop)) →
      Thinned (substituted bytes first fixes) (bytes.drop first)
  | [], first, _, _ => .refl _
  | fix :: rest, first, inOrder, thinned => by
    obtain ⟨hordered, hfirst, hfix⟩ := thinned fix List.mem_cons_self
    obtain ⟨hbefore, inOrder⟩ := List.pairwise_cons.1 inOrder
    have hrest := thinned_substituted fix.span.stop inOrder fun other hother =>
      ⟨(thinned other (List.mem_cons_of_mem _ hother)).1, (hbefore other hother).ends,
        (thinned other (List.mem_cons_of_mem _ hother)).2.2⟩
    rw [substituted, ← Bytes.slice_append_drop bytes hfirst, ← Bytes.slice_append_drop bytes hordered,
      ← List.append_assoc]
    exact ((Thinned.refl _).append hfix).append hrest

/-! ## What a fix puts together -/

/-- A fix that puts a dot in place of what stands between object and property of a member expression, which
is the dot and blanks of one line before and after it. -/
structure Tightens (source : Source) (fix : Fix) (object dot property : Node) : Prop where
  member : ∃ node ∈ source.root.walk, node.kind = "member_expression" ∧ node.childByField? "object" = some object ∧
    node.childByField? "property" = some property ∧
    node.children.find? (fun child => dotKinds.contains child.kind) = some dot
  replaces : fix = ⟨source.spanBetween object.stop property.start, source.textOf dot⟩
  before : blankOnLine (source.bytes.slice object.stop dot.start) = true
  after : blankOnLine (source.bytes.slice dot.stop property.start) = true

/-- The rule alone. -/
def blanksAlone (severity : Severity) (options : RuleOptions) : ActiveRule :=
  ⟨noWhitespaceBeforeProperty, severity, options⟩

section Source

variable {source : Source} {fix : Fix} {object dot property : Node}

theorem tightens_of_checkDot {ctx : Context} {node : Node} (hnode : node ∈ ctx.source.root.walk)
    (hkind : node.kind = "member_expression") {finding : Finding} (h : .finding finding ∈ checkDot node ctx)
    (hfix : fix ∈ finding.fixes) : ∃ object dot property, Tightens ctx.source fix object dot property := by
  unfold checkDot at h
  split at h
  · next object property dot hobject hproperty hdot =>
    dsimp only at h
    split at h
    · next hblank =>
      rw [(Context.fixes_of_report (List.mem_singleton.1 h).symm).2.1] at hfix
      simp only [Bool.and_eq_true] at hblank
      split at hfix
      · cases hfix
      · obtain rfl := List.mem_singleton.1 hfix
        exact ⟨object, dot, property, ⟨node, hnode, hkind, hobject, hproperty, hdot⟩, rfl, hblank.1.1, hblank.1.2⟩
    · cases h
  · cases h

theorem tightens_of_mem_runRules {severity : Severity} {options : RuleOptions} {finding : Finding}
    (h : finding ∈ runRules source [blanksAlone severity options]) (hfix : fix ∈ finding.fixes) :
    ∃ object dot property, Tightens source fix object dot property := by
  obtain ⟨active, hactive, call, hcall, ⟨emitted, hemitted, rfl⟩ | ⟨failure, -, rfl⟩⟩ := exists_call_of_mem_runRules h
  · obtain rfl := List.mem_singleton.1 hactive
    obtain ⟨hnode, visitor, hvisitor, hhandler, hkind⟩ := ActiveRule.mem_calls hcall
    obtain rfl := List.mem_singleton.1 hvisitor
    rw [hhandler] at hemitted
    exact tightens_of_checkDot hnode (hkind _ rfl) hemitted hfix
  · cases hfix

variable {text : String} (fits : source.root.Fits text) (hbytes : source.bytes = Utf8.encode text)
include fits hbytes

/-- In a text that the tree fits, such a fix takes out the blanks around the dot. -/
theorem Tightens.thinned (h : Tightens source fix object dot property) : fix.Cuts text ∧
    Utf8.encode fix.text = source.bytes.slice dot.start dot.stop ∧
    Thinned (Utf8.encode fix.text) (source.bytes.slice fix.span.start fix.span.stop) := by
  obtain ⟨⟨node, hnode, hkind, hobject, hproperty, hdot⟩, rfl, hbefore, hafter⟩ := h
  obtain ⟨⟨hobject', hdot', hproperty'⟩, hobjectDot, hordered, hdotProperty⟩ :=
    fits.member hnode hkind hobject hproperty hdot
  obtain ⟨hstart, hstop⟩ := fits.boundaries dot hdot'
  have htext : Utf8.encode (source.textOf dot) = source.bytes.slice dot.start dot.stop := by
    rw [Source.textOf, Source.textBetween, hbytes, hstart.encode_lossy hstop]
  have hrange : source.bytes.slice object.stop property.start = source.bytes.slice object.stop dot.start ++
      source.bytes.slice dot.start dot.stop ++ source.bytes.slice dot.stop property.start := by
    rw [Bytes.slice_append_slice _ hobjectDot hordered,
      Bytes.slice_append_slice _ (Nat.le_trans hobjectDot hordered) hdotProperty]
  refine ⟨⟨Nat.le_trans hobjectDot (Nat.le_trans hordered hdotProperty), (fits.boundaries object hobject').2,
    (fits.boundaries property hproperty').1⟩, htext, ?_⟩
  change Thinned (Utf8.encode (source.textOf dot)) (source.bytes.slice object.stop property.start)
  rw [htext, hrange]
  exact thinned_of_blanks hbefore hafter

end Source

/-! ## A pass -/

/-- What an applied fix has left between an object and a property is the dot: up to the end of the object the
output is made of the text and the fixes before, and from the start of the property on of the text and those
after. -/
structure LeavesDot (source : Source) (fixed : FixOutcome) (object dot property : Node) (before : List Fix) (fix : Fix)
    (after : List Fix) : Prop where
  tightens : Tightens source fix object dot property
  listed : firstToLast fixed.applied = before ++ fix :: after
  ends : ∀ other ∈ before, other.span.stop ≤ object.stop
  starts : ∀ other ∈ after, property.start ≤ other.span.start
  output : Utf8.encode fixed.output = substituted (source.bytes.take object.stop) 0 before ++
    source.bytes.slice dot.start dot.stop ++ substituted source.bytes property.start after

section Pass

variable {text : String} {source : Source} {findings : List Finding} {fixed : FixOutcome}
  (fits : source.root.Fits text) (hbytes : source.bytes = Utf8.encode text)
  (tightens : ∀ fix ∈ fixed.applied, ∃ object dot property, Tightens source fix object dot property)
  (h : applyFixes text findings = .ok fixed)
include fits hbytes tightens h

theorem output_of_tightens : (firstToLast fixed.applied).Pairwise Fix.Before ∧
    Utf8.encode fixed.output = substituted source.bytes 0 (firstToLast fixed.applied) := by
  rw [hbytes]
  refine encode_output_of_cuts h fun fix hfix => ?_
  obtain ⟨object, dot, property, htight⟩ := tightens fix hfix
  exact (htight.thinned fits hbytes).1

/-- A pass with fixes around dots takes blanks out. -/
theorem thinned_of_applyFixes : Thinned (Utf8.encode fixed.output) (Utf8.encode text) := by
  obtain ⟨inOrder, houtput⟩ := output_of_tightens fits hbytes tightens h
  rw [houtput, ← hbytes]
  refine thinned_substituted 0 inOrder fun fix hfix => ?_
  obtain ⟨object, dot, property, htight⟩ := tightens fix (mem_firstToLast.1 hfix)
  obtain ⟨hcut, -, hthinned⟩ := htight.thinned fits hbytes
  exact ⟨hcut.ordered, Nat.zero_le _, hthinned⟩

/-- What it leaves is the dots. -/
theorem leavesDot_of_applyFixes : ∀ fix ∈ fixed.applied, ∃ object dot property before after,
    LeavesDot source fixed object dot property before fix after := by
  intro fix hfix
  obtain ⟨inOrder, houtput⟩ := output_of_tightens fits hbytes tightens h
  obtain ⟨object, dot, property, htight⟩ := tightens fix hfix
  obtain ⟨before, after, hlisted⟩ := List.append_of_mem (mem_firstToLast.2 hfix)
  rw [hlisted, List.pairwise_append, List.pairwise_cons] at inOrder
  have hbefore : ∀ other ∈ before, other.Before fix := fun other hother =>
    inOrder.2.2 other hother fix List.mem_cons_self
  have hspan : fix.span.start = object.stop ∧ fix.span.stop = property.start := by
    rw [htight.replaces]
    exact ⟨rfl, rfl⟩
  refine ⟨object, dot, property, before, after, htight, hlisted, fun other hother => ?_, fun other hother => ?_, ?_⟩
  · exact hspan.1 ▸ (hbefore other hother).ends
  · exact hspan.2 ▸ (inOrder.2.1.1 other hother).ends
  · rw [houtput, hlisted, substituted_append_cons 0 fun other hother => Nat.le_of_lt (hbefore other hother).starts,
      hspan.1, hspan.2, (htight.thinned fits hbytes).2.1]

end Pass

/-! ## Fixing -/

section Passes

variable {linter : Linter} {path : Path} {severity : Severity} {options : RuleOptions}
  (alone : linter.rules = [blanksAlone severity options]) (fits : linter.parser.Fits)
include alone fits

/-- An accepted pass takes blanks out of a text that is opened, and leaves the dots. -/
theorem thinned_of_accepted {text : String} {fixed : FixOutcome} (h : linter.Accepted path text fixed) :
    Thinned (Utf8.encode fixed.output) (Utf8.encode text) ∧
      ∃ source, Source.ofBytes linter.parser path (Utf8.encode text) = .ok source ∧
        ∀ fix ∈ fixed.applied, ∃ object dot property before after,
          LeavesDot source fixed object dot property before fix after := by
  obtain ⟨findings, hlint, happly⟩ := h.applies
  rcases Linter.lint_eq_ok hlint with ⟨source, hsource, rfl⟩ | ⟨error, -, rfl⟩
  · obtain ⟨hbytes, hfits⟩ := fits.of_ofBytes hsource
    have tightens : ∀ fix ∈ fixed.applied, ∃ object dot property, Tightens source fix object dot property := by
      intro fix hfix
      rw [(applyFixes_eq_ok_iff.1 happly).2.1] at hfix
      obtain ⟨finding, hfinding, hmem⟩ := exists_of_mem_fixes_selectFixes hfix
      exact tightens_of_mem_runRules (alone ▸ List.mem_mergeSort.1 hfinding) hmem
    exact ⟨thinned_of_applyFixes hfits hbytes tightens happly, source, hsource,
      leavesDot_of_applyFixes hfits hbytes tightens happly⟩
  · -- The finding about a parse error has no fix.
    refine absurd ((applied_eq_nil_iff happly).2 fun finding hfinding => ?_) h.applied_ne_nil
    obtain rfl := List.mem_singleton.1 hfinding
    rfl

/-- Pass by pass, only blanks are taken out. -/
theorem thinned_of_accepts {text last : String} {accepted : List FixOutcome}
    (h : linter.Accepts path text accepted last) : Thinned (Utf8.encode last) (Utf8.encode text) := by
  induction h with
  | done text => exact .refl _
  | pass first _ ih => exact ih.trans (thinned_of_accepted alone fits first).1

end Passes

/-- **Fixing blanks around dots removes blanks only.** With a parser whose trees fit their texts and however many
passes, fixing returns. Its output is the text without some blanks, and has all its line breaks. It is reached
by accepted passes, each of which leaves nothing but the dot between the object and the property that an
applied fix is about. -/
theorem blanksAlone_thins (parser : Parser) (fits : parser.Fits) (passes : Nat) (severity : Severity)
    (options : RuleOptions) (path : Path) (text : String) :
    let linter : Linter := ⟨parser, [blanksAlone severity options], passes⟩
    (∃ result accepted, linter.fix text path = .ok result ∧ accepted.length ≤ passes ∧
      linter.Accepts path text accepted result.output ∧ result.applied = Linter.totalApplied accepted ∧
      Thinned (Utf8.encode result.output) (Utf8.encode text) ∧
      (Utf8.encode result.output).filter (fun byte => !isAsciiSpace byte) =
        (Utf8.encode text).filter (fun byte => !isAsciiSpace byte) ∧
      (Utf8.encode result.output).count newline = (Utf8.encode text).count newline) ∧
    ∀ start fixed, linter.Accepted path start fixed →
      ∃ source, Source.ofBytes parser path (Utf8.encode start) = .ok source ∧
        ∀ fix ∈ fixed.applied, ∃ object dot property before after,
          LeavesDot source fixed object dot property before fix after := by
  intro linter
  have builtin : ∀ active ∈ linter.rules, active.rule ∈ Rules.builtin := by
    simp [linter, blanksAlone, Rules.builtin]
  have hfits : linter.parser.Fits := fits
  obtain ⟨findings, hlint⟩ := Linter.exists_lint hfits text path
  obtain ⟨result, hpasses⟩ := Linter.exists_passes builtin hfits passes ⟨text, findings, [], 0⟩ hlint
  have hresult : linter.fix text path = .ok result := by
    unfold Linter.fix
    rw [hlint]
    exact hpasses
  obtain ⟨-, accepted, hlength, haccepts, happlied, -⟩ := Linter.fix_eq_ok hresult
  have hthinned := thinned_of_accepts rfl hfits haccepts
  exact ⟨⟨result, accepted, hresult, hlength, haccepts, happlied, hthinned, hthinned.solid,
    hthinned.count_newline⟩, fun start fixed h => (thinned_of_accepted rfl hfits h).2⟩

/-- A member of a member, with a blank before the one dot and one after the other. -/
def spacedText : String := "a .b. c"

def spacedTree : ParseTree :=
  .node { kind := "program", start := 0, stop := 7 }
    [.node { kind := "member_expression", start := 0, stop := 7 }
      [.node { kind := "member_expression", start := 0, stop := 4, field := some "object" }
        [.node { kind := "identifier", start := 0, stop := 1, field := some "object" } [],
         .node { kind := ".", start := 2, stop := 3, named := false } [],
         .node { kind := "property_identifier", start := 3, stop := 4, field := some "property" } []],
       .node { kind := ".", start := 4, stop := 5, named := false } [],
       .node { kind := "property_identifier", start := 6, stop := 7, field := some "property" } []]]

/-- A parser that knows this text only, and sees a program without statements in all others. -/
def spacedParser : Parser := fun text =>
  if text = spacedText then some spacedTree
  else some (.node { kind := "program", start := 0, stop := (Utf8.encode text).length } [])

def spacedLinter : Linter := ⟨spacedParser, [blanksAlone .warn .none], 2⟩

theorem spacedTree_fits : (Node.root (Tree.number 0 spacedTree)).Fits spacedText := by
  have boundary : ∀ offset ≤ 7, Utf8.Boundary spacedText offset := by
    have hlength : ∀ offset ≤ 7, (Utf8.encodeChars (spacedText.toList.take offset)).length = offset := by decide +kernel
    exact fun offset h => ⟨_, _, (List.take_append_drop offset _).symm, hlength offset h⟩
  have hends : ∀ node ∈ (Node.root (Tree.number 0 spacedTree)).walk, node.start ≤ 7 ∧ node.stop ≤ 7 := by
    decide +kernel
  have hmembers : ∀ node ∈ (Node.root (Tree.number 0 spacedTree)).walk,
      ∀ dot ∈ node.children.find? (fun child => dotKinds.contains child.kind),
        (∀ object ∈ node.childByField? "object", object.stop ≤ dot.start) ∧
        ∀ property ∈ node.childByField? "property", dot.stop ≤ property.start := by decide +kernel
  constructor
  · decide +kernel
  · exact fun node hnode => ⟨boundary _ (hends node hnode).1, boundary _ (hends node hnode).2⟩
  · exact fun node hnode _ object dot property hobject hproperty hdot =>
      ⟨(hmembers node hnode dot hdot).1 object hobject, (hmembers node hnode dot hdot).2 property hproperty⟩

theorem spacedParser_fits : spacedParser.Fits := by
  intro text
  by_cases h : text = spacedText
  · exact ⟨spacedTree, if_pos h, h ▸ spacedTree_fits⟩
  · refine ⟨_, if_neg h, ?_⟩
    have hstart := Utf8.boundary_zero text
    have hstop := Utf8.boundary_length text
    constructor <;>
      simp [Node.root, Tree.number, Tree.numberAll, Node.walk, Node.walkTree, Node.walkTrees, Node.nested_iff,
        Node.children, Tree.children, Node.start, Node.stop, Node.label, Tree.label, Node.kind, hstart, hstop]

def spacedSource : Source := .ofParsed (.ofString "x.js") (Utf8.encode spacedText) spacedTree

/-- The finding about a member expression, with the edit of what stands around its dot. -/
def spacedFinding (stop : Nat) (property : String) (first last : Nat) : Finding :=
  { rule := noWhitespaceBeforeProperty.id, severity := .warn
    message := s!"Unexpected whitespace before property {property}.", path := spacedSource.path
    span := spacedSource.spanBetween 0 stop, nodeKind := some "member_expression"
    fixes := [⟨spacedSource.spanBetween first last, "."⟩] }

def spacedFindings : List Finding := [spacedFinding 7 "c" 4 6, spacedFinding 4 "b" 1 3]

theorem sortedBy_spacedFindings : SortedBy Finding.key spacedFindings := by
  rw [SortedBy]
  decide +kernel

theorem lint_spaced : spacedLinter.lint spacedText (.ofString "x.js") = .ok spacedFindings := by
  have hsource : Source.ofBytes spacedLinter.parser (.ofString "x.js") (Utf8.encode spacedText) = .ok spacedSource :=
    rfl
  have hrun : runRules spacedSource spacedLinter.rules = spacedFindings := by decide +kernel
  simp only [Linter.lint, hsource]
  rw [hrun, canonicalOrder, sortByKey_of_sortedBy sortedBy_spacedFindings]

theorem applyFixes_spaced : applyFixes spacedText spacedFindings =
    .ok ⟨"a.b.c", [⟨spacedSource.spanBetween 4 6, "."⟩, ⟨spacedSource.spanBetween 1 3, "."⟩], []⟩ := by
  have hselected : selectFixes spacedFindings = spacedFindings.foldl selectStep ⟨[], []⟩ := by
    rw [selectFixes, canonicalOrder, sortByKey_of_sortedBy sortedBy_spacedFindings]
  have hedited : editedBytes spacedText (selectFixes spacedFindings).fixes = Utf8.encode "a.b.c" := by
    rw [hselected, editedBytes, lastFirst, List.mergeSort_of_pairwise (by decide +kernel)]
    decide +kernel
  refine applyFixes_eq_ok_iff.2 ⟨?_, ?_, ?_⟩
  · rw [hedited, Utf8.decode?_encode]
  · rw [hselected]
    decide +kernel
  · rw [hselected]
    decide +kernel

theorem blanksAlone_thins_spaced : spacedParser.Fits ∧
    spacedLinter.fix spacedText (.ofString "x.js") = .ok ⟨"a.b.c", [], [], 2⟩ ∧
    ∃ fixed, spacedLinter.Accepted (.ofString "x.js") spacedText fixed ∧ fixed.applied.length = 2 ∧
      ∃ source, Source.ofBytes spacedParser (.ofString "x.js") (Utf8.encode spacedText) = .ok source ∧
        ∀ fix ∈ fixed.applied, ∃ object dot property before after,
          LeavesDot source fixed object dot property before fix after := by
  have hagain : spacedLinter.lint "a.b.c" (.ofString "x.js") = .ok [] := by decide +kernel
  have hfirst : spacedLinter.Accepted (.ofString "x.js") spacedText _ :=
    ⟨⟨_, lint_spaced, applyFixes_spaced⟩, List.cons_ne_nil _ _, [], hagain, List.forall_mem_nil _⟩
  refine ⟨spacedParser_fits, ?_, _, hfirst, rfl,
    (blanksAlone_thins spacedParser spacedParser_fits 2 .warn .none (.ofString "x.js") spacedText).2 _ _ hfirst⟩
  have hpass : spacedLinter.pass (.ofString "x.js") ⟨spacedText, spacedFindings, [], 0⟩ =
      .ok (.accepted ⟨"a.b.c", [], [], 2⟩) := by
    simp only [Linter.pass, applyFixes_spaced, hagain]
    rfl
  have hlast : spacedLinter.passes (.ofString "x.js") 1 ⟨"a.b.c", [], [], 2⟩ = .ok ⟨"a.b.c", [], [], 2⟩ :=
    Linter.passes_of_unfixable (List.forall_mem_nil _) rfl 1
  simp only [Linter.fix, lint_spaced]
  change spacedLinter.passes (.ofString "x.js") 2 _ = _
  simp only [Linter.passes, hpass]
  exact hlast

end Rules

end ScriptLint
