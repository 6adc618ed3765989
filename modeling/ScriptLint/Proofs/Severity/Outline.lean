/-
Runs before severities are put on.

A finding of a rule gets the severity that is configured for the rule; a finding
about a failed call has its own. `runOutline` is a run with that step left out:
it notes the place of the rule instead. Stamping its notes gives the run itself
(`runRules_eq_stamped`), and rules that do not look at their severity have the
same outline at any (`runOutline_unstamped`), so severities come in at the end and
nowhere else.
-/
import ScriptLint.Proofs.Isolation

namespace ScriptLint

/-! ## Leaving severities out -/

/-- A finding at another severity. -/
def Finding.stamped (severity : Severity) (finding : Finding) : Finding := { finding with severity }

/-- A finding apart from its severity. -/
def Finding.unstamped (finding : Finding) : Finding := finding.stamped .off

def Emission.unstamped : Emission → Emission
  | .finding emitted => .finding emitted.unstamped
  | .failed failure => .failed failure

def Context.unstamped (ctx : Context) : Context := { ctx with severity := .off }

def ActiveRule.unstamped (active : ActiveRule) : ActiveRule := { active with severity := .off }

def Slot.unstamped (slot : Slot) : Slot := { slot with context := slot.context.unstamped }

@[simp] theorem Finding.stamped_stamped (severity other : Severity) (finding : Finding) :
    (finding.stamped other).stamped severity = finding.stamped severity := rfl

/-- A handler that emits the same at every severity, up to the severities of its findings. -/
def Handler.Blind (handler : Handler) : Prop :=
  ∀ node ctx, (handler node ctx).map Emission.unstamped = (handler node ctx.unstamped).map Emission.unstamped

/-- A rule none of whose handlers looks at the severity. -/
def Rule.Blind (rule : Rule) : Prop := ∀ visitor ∈ rule.visitors, Handler.Blind visitor.2

/-! ## What a context without its severity still tells -/

namespace Context

variable (ctx : Context)

@[simp] theorem source_unstamped : ctx.unstamped.source = ctx.source := rfl

@[simp] theorem scopes_unstamped : ctx.unstamped.scopes = ctx.scopes := rfl

@[simp] theorem options_unstamped : ctx.unstamped.options = ctx.options := rfl

@[simp] theorem text_unstamped : ctx.unstamped.text = ctx.text := rfl

@[simp] theorem replace_unstamped : ctx.unstamped.replace = ctx.replace := rfl

@[simp] theorem replaceRange_unstamped : ctx.unstamped.replaceRange = ctx.replaceRange := rfl

@[simp] theorem insertAfter_unstamped : ctx.unstamped.insertAfter = ctx.insertAfter := rfl

@[simp] theorem remove_unstamped : ctx.unstamped.remove = ctx.remove := rfl

/-- A report is the same up to its severity. -/
@[simp] theorem unstamped_report (node : Node) (message : String) (fixes : List Fix) :
    (ctx.unstamped.report node message fixes).unstamped = (ctx.report node message fixes).unstamped := by
  unfold report
  rw [source_unstamped]
  dsimp only
  split <;> rfl

end Context

@[simp] theorem Emission.unstamped_failed (failure : Failure) :
    (Emission.failed failure).unstamped = .failed failure := rfl

/-- Both sides take the same branch. -/
theorem map_unstamped_ite {c d : Prop} [Decidable c] [Decidable d] (h : c ↔ d) {xs ys zs ws : List Emission}
    (hthen : xs.map Emission.unstamped = ys.map Emission.unstamped)
    (helse : zs.map Emission.unstamped = ws.map Emission.unstamped) :
    (if c then xs else zs).map Emission.unstamped = (if d then ys else ws).map Emission.unstamped := by
  by_cases hc : c
  · rw [if_pos hc, if_pos (h.1 hc), hthen]
  · rw [if_neg hc, if_neg (mt h.2 hc), helse]

/-! ## One call -/

/-- The severity is put on the findings of a call that are the same at any. -/
theorem collect_eq_map (severity : Severity) : ∀ emissions : List Emission,
    collect severity emissions = (collect .off emissions).map fun findings => findings.map (Finding.stamped severity)
  | [] => rfl
  | .failed _ :: _ => rfl
  | .finding finding :: rest => by
    rw [collect, collect, collect_eq_map severity rest]
    cases collect .off rest <;> rfl

theorem collect_map_unstamped : ∀ emissions : List Emission,
    collect .off (emissions.map Emission.unstamped) = collect .off emissions
  | [] => rfl
  | .failed _ :: _ => rfl
  | .finding finding :: rest => by
    rw [List.map_cons, Emission.unstamped, collect, collect, collect_map_unstamped rest]
    rfl

/-! ## Notes -/

/-- What becomes a finding: one of the rule at a place, still without its severity, or one about a failure. -/
inductive Note where
  | own (order : Nat) (finding : Finding)
  | failure (finding : Finding)

/-- The finding, with the severity of the rule that it comes from. -/
def Note.stamp (rules : List ActiveRule) : Note → Finding
  | .own order finding => finding.stamped ((rules[order]?).elim .off ActiveRule.severity)
  | .failure finding => finding

/-- Notes that rules of a list leave: places are places of rules, and failures are errors. -/
def Note.Valid (rules : List ActiveRule) : Note → Prop
  | .own order _ => order < rules.length
  | .failure finding => finding.severity = .error

/-- The state of a run that leaves severities out. -/
structure Notebook where
  notes : List Note
  failed : List Nat

def Notebook.progress (rules : List ActiveRule) (book : Notebook) : Progress :=
  ⟨book.notes.map (Note.stamp rules), book.failed⟩

/-- Calls a handler and notes what comes of it. -/
def noteCall (node : Node) (book : Notebook) (slot : Slot) : Notebook :=
  if book.failed.contains slot.order then book
  else
    match collect .off (slot.handler node slot.context) with
    | .ok findings => { book with notes := book.notes ++ findings.map (.own slot.order) }
    | .error failure =>
      ⟨book.notes ++ [.failure (failureFinding slot.context node failure)], slot.order :: book.failed⟩

def noteVisit (dispatch : Dispatch) (book : Notebook) (visit : Visit) : Notebook :=
  (dispatch.handlersFor visit).foldl (noteCall visit.node) book

/-- A run without severities. -/
def runOutline (source : Source) (rules : List ActiveRule) : List Note :=
  ((visits source.root).foldl (noteVisit (Dispatch.build source rules)) ⟨[], []⟩).notes

/-! ## Severities come last -/

section Stamping

variable {rules : List ActiveRule}

/-- A slot for the rule at its place. -/
def Slot.For (rules : List ActiveRule) (slot : Slot) : Prop :=
  ∃ active, rules[slot.order]? = some active ∧ slot.context.severity = active.severity

theorem Dispatch.for_of_mem_handlersFor {source : Source} {visit : Visit} {slot : Slot}
    (h : slot ∈ (Dispatch.build source rules).handlersFor visit) : slot.For rules := by
  obtain ⟨active, hactive, hcontext⟩ := Dispatch.exists_of_mem_handlersFor h
  exact ⟨active, hactive, by rw [hcontext]; rfl⟩

theorem progress_noteCall {slot : Slot} (h : slot.For rules) (node : Node) (book : Notebook) :
    (noteCall node book slot).progress rules = callSlot node (book.progress rules) slot := by
  obtain ⟨active, hactive, hseverity⟩ := h
  have hown : Note.stamp rules ∘ Note.own slot.order = Finding.stamped slot.context.severity := by
    funext finding
    simp only [Function.comp_apply, Note.stamp, hactive, Option.elim, hseverity]
  unfold noteCall callSlot
  rw [collect_eq_map slot.context.severity]
  by_cases hfailed : slot.order ∈ book.failed
  · simp [Notebook.progress, hfailed]
  · cases collect .off (slot.handler node slot.context) with
    | error failure => simp [Notebook.progress, hfailed, Except.map, Note.stamp]
    | ok findings => simp [Notebook.progress, hfailed, Except.map, hown]

theorem progress_noteCalls (node : Node) : ∀ {slots : List Slot} (book : Notebook), (∀ slot ∈ slots, slot.For rules) →
    (slots.foldl (noteCall node) book).progress rules = slots.foldl (callSlot node) (book.progress rules)
  | [], _, _ => rfl
  | slot :: slots, book, h => by
    rw [List.foldl_cons, List.foldl_cons, progress_noteCalls node _ fun _ hs => h _ (List.mem_cons_of_mem _ hs),
      progress_noteCall (h slot List.mem_cons_self)]

theorem progress_noteVisits (source : Source) : ∀ (visits : List Visit) (book : Notebook),
    (visits.foldl (noteVisit (Dispatch.build source rules)) book).progress rules =
      visits.foldl (serve (Dispatch.build source rules)) (book.progress rules)
  | [], _ => rfl
  | visit :: visits, book => by
    rw [List.foldl_cons, List.foldl_cons, progress_noteVisits source visits, noteVisit,
      progress_noteCalls visit.node book fun _ => Dispatch.for_of_mem_handlersFor, serve]

/-- A run is its outline with the severities put on. -/
theorem runRules_eq_stamped (source : Source) (rules : List ActiveRule) :
    runRules source rules = (runOutline source rules).map (Note.stamp rules) :=
  congrArg Progress.findings (progress_noteVisits source (visits source.root) ⟨[], []⟩).symm

theorem valid_noteCall {slot : Slot} (h : slot.For rules) {node : Node} {book : Notebook}
    (hbook : ∀ note ∈ book.notes, note.Valid rules) : ∀ note ∈ (noteCall node book slot).notes, note.Valid rules := by
  obtain ⟨active, hactive, -⟩ := h
  unfold noteCall
  split
  · exact hbook
  · split
    · refine List.forall_mem_append.2 ⟨hbook, fun note hnote => ?_⟩
      obtain ⟨finding, -, rfl⟩ := List.mem_map.1 hnote
      exact (List.getElem?_eq_some_iff.1 hactive).1
    · refine List.forall_mem_append.2 ⟨hbook, fun note hnote => ?_⟩
      obtain rfl := List.mem_singleton.1 hnote
      rfl

theorem valid_noteCalls (node : Node) : ∀ {slots : List Slot} {book : Notebook}, (∀ slot ∈ slots, slot.For rules) →
    (∀ note ∈ book.notes, note.Valid rules) → ∀ note ∈ (slots.foldl (noteCall node) book).notes, note.Valid rules
  | [], _, _, hbook => hbook
  | slot :: slots, book, h, hbook => by
    rw [List.foldl_cons]
    exact valid_noteCalls node (fun _ hs => h _ (List.mem_cons_of_mem _ hs))
      (valid_noteCall (h slot List.mem_cons_self) hbook)

theorem valid_noteVisits (source : Source) : ∀ {visits : List Visit} {book : Notebook},
    (∀ note ∈ book.notes, note.Valid rules) →
    ∀ note ∈ (visits.foldl (noteVisit (Dispatch.build source rules)) book).notes, note.Valid rules
  | [], _, hbook => hbook
  | visit :: visits, book, hbook => by
    rw [List.foldl_cons]
    exact valid_noteVisits source
      (valid_noteCalls visit.node (fun _ => Dispatch.for_of_mem_handlersFor) hbook)

theorem valid_runOutline (source : Source) (rules : List ActiveRule) : ∀ note ∈ runOutline source rules, note.Valid rules :=
  valid_noteVisits source fun _ h => absurd h List.not_mem_nil

end Stamping

/-! ## Outlines do not depend on severities -/

namespace Dispatch

theorem slots_unstamped (source : Source) (rules : List ActiveRule) :
    (build source (rules.map ActiveRule.unstamped)).slots =
      (build source rules).slots.map fun entry => (entry.1, entry.2.unstamped) := by
  simp only [slots_build, List.zipIdx_map, List.flatMap_map, List.map_flatMap]
  refine congrArg List.flatten (List.map_congr_left fun active _ => ?_)
  rw [slotsOf, slotsOf, List.map_map]
  rfl

theorem lookup_unstamped (source : Source) (rules : List ActiveRule) (trigger : Trigger) :
    (build source (rules.map ActiveRule.unstamped)).lookup trigger =
      ((build source rules).lookup trigger).map Slot.unstamped := by
  rw [lookup, slots_unstamped, List.filter_map, List.map_map, lookup, List.map_map]
  rfl

theorem handlersFor_unstamped (source : Source) (rules : List ActiveRule) (visit : Visit) :
    (build source (rules.map ActiveRule.unstamped)).handlersFor visit =
      ((build source rules).handlersFor visit).map Slot.unstamped := by
  unfold handlersFor
  dsimp only
  rw [lookup_unstamped, lookup_unstamped, ← List.map_append, List.isEmpty_map]
  split
  · rfl
  · exact (List.map_mergeSort (f := Slot.unstamped) fun _ _ _ _ => rfl).symm

/-- The handlers that are called at a visit are handlers of the rules. -/
theorem blind_of_mem_handlersFor {source : Source} {rules : List ActiveRule}
    (blind : ∀ active ∈ rules, active.rule.Blind) {visit : Visit} {slot : Slot}
    (h : slot ∈ (build source rules).handlersFor visit) : slot.handler.Blind := by
  obtain ⟨entry, hentry, rfl⟩ := mem_handlersFor h
  rw [slots_build] at hentry
  obtain ⟨active, hactive, hentry⟩ := List.mem_flatMap.1 hentry
  obtain ⟨visitor, hvisitor, rfl⟩ := List.mem_map.1 hentry
  exact blind active.1 (List.fst_mem_of_mem_zipIdx hactive) visitor hvisitor

end Dispatch

/-- What a blind handler comes to does not depend on its severity. -/
theorem noteCall_unstamped {slot : Slot} (h : slot.handler.Blind) (node : Node) (book : Notebook) :
    noteCall node book slot.unstamped = noteCall node book slot := by
  have hcollect : collect .off (slot.handler node slot.context.unstamped) = collect .off (slot.handler node slot.context) := by
    rw [← collect_map_unstamped, ← h, collect_map_unstamped]
  unfold noteCall
  simp only [Slot.unstamped, hcollect]
  rfl

theorem noteCalls_unstamped (node : Node) : ∀ {slots : List Slot} (book : Notebook),
    (∀ slot ∈ slots, slot.handler.Blind) →
      (slots.map Slot.unstamped).foldl (noteCall node) book = slots.foldl (noteCall node) book
  | [], _, _ => rfl
  | slot :: slots, book, h => by
    rw [List.map_cons, List.foldl_cons, List.foldl_cons, noteCall_unstamped (h slot List.mem_cons_self),
      noteCalls_unstamped node _ fun _ hs => h _ (List.mem_cons_of_mem _ hs)]

/-- Blind rules have the same outline at any severities. -/
theorem runOutline_unstamped {rules : List ActiveRule} (blind : ∀ active ∈ rules, active.rule.Blind) (source : Source) :
    runOutline source (rules.map ActiveRule.unstamped) = runOutline source rules := by
  have hvisit : noteVisit (Dispatch.build source (rules.map ActiveRule.unstamped)) =
      noteVisit (Dispatch.build source rules) := by
    funext book visit
    rw [noteVisit, noteVisit, Dispatch.handlersFor_unstamped,
      noteCalls_unstamped visit.node book fun _ => Dispatch.blind_of_mem_handlersFor blind]
  rw [runOutline, runOutline, hvisit]

end ScriptLint
