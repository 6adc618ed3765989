/-
What the console shows of a report.

How markup is read is up to the console; all that is known of its reader is that
it keeps to the format (`Markup.Lawful`). Then printing breaks off at the first
text of the report that cannot be read as markup and at nothing else
(`Report.complete_print_iff`), so plain texts never break it off
(`Report.complete_of_plain`). What is printed to its end has a listing for each
file, in the order of their paths: the path, and a row for each finding in the
order of the report (`Console.Listing.Of`); then, in verbose mode, an entry for
each skipped fix. Each of them shows what the markup of its text shows, which is
the text itself if that is plain (`print_aggregate`). Messages are not always
plain: with a closing tag in one the rest of the report is lost, whatever the
reader (`not_complete_closingTag`).
-/
import Mathlib.Data.List.Forall2
import ScriptLint.Proofs.Report
import ScriptLint.Proofs.Report.Layout
import ScriptLint.Proofs.Report.Markup
import ScriptLint.Report.Console

namespace ScriptLint

/-! ## Findings by file -/

namespace Console

/-- Findings split into runs, each of one file, which go by the texts of the paths. -/
structure Grouped (findings : List Finding) (groups : Keyed (Path × List Finding)) : Prop where
  whole : groups.flatMap (fun group => group.2.2) = findings
  first : ∀ group ∈ groups, ∃ finding rest, group.2.2 = finding :: rest ∧ group.2.1 = finding.path
  keyed : ∀ group ∈ groups, ∀ finding ∈ group.2.2, finding.path.toString = group.1
  ordered : (Keyed.keys groups).Pairwise (· < ·)

theorem groups_concat (findings : List Finding) (finding : Finding) :
    groups (findings ++ [finding]) =
      let sofar := (Keyed.get? finding.path.toString (groups findings)).getD (finding.path, [])
      Keyed.set finding.path.toString (sofar.1, sofar.2 ++ [finding]) (groups findings) := by
  rw [groups, List.foldl_append]
  rfl

section Grouped

variable {findings : List Finding} {groups : Keyed (Path × List Finding)}

/-- A key belongs to some finding. -/
theorem Grouped.exists_of_mem_keys (h : Grouped findings groups) {key : String} (hkey : key ∈ Keyed.keys groups) :
    ∃ finding ∈ findings, finding.path.toString = key := by
  obtain ⟨group, hgroup, rfl⟩ := List.mem_map.1 hkey
  obtain ⟨finding, rest, hfound, -⟩ := h.first group hgroup
  have hmem : finding ∈ group.2.2 := hfound ▸ List.mem_cons_self
  exact ⟨finding, h.whole ▸ List.mem_flatMap.2 ⟨group, hgroup, hmem⟩, h.keyed group hgroup finding hmem⟩

/-- A finding of a file that has not come yet. -/
theorem Grouped.concat_new (h : Grouped findings groups) {finding : Finding}
    (hbelow : ∀ key ∈ Keyed.keys groups, key < finding.path.toString) :
    Grouped (findings ++ [finding]) (groups ++ [(finding.path.toString, finding.path, [finding])]) where
  whole := by rw [List.flatMap_append, h.whole]; rfl
  first := by
    intro group hgroup
    rcases List.mem_append.1 hgroup with hgroup | hgroup
    · exact h.first group hgroup
    · rw [List.mem_singleton.1 hgroup]
      exact ⟨finding, [], rfl, rfl⟩
  keyed := by
    intro group hgroup other hother
    rcases List.mem_append.1 hgroup with hgroup | hgroup
    · exact h.keyed group hgroup other hother
    · rw [List.mem_singleton.1 hgroup] at hother ⊢
      rw [List.mem_singleton.1 hother]
  ordered := by
    rw [Keyed.keys, List.map_append, List.pairwise_append]
    refine ⟨h.ordered, List.pairwise_singleton _ _, fun key hkey other hother => ?_⟩
    rw [List.mem_singleton.1 hother]
    exact hbelow key hkey

/-- One more finding of the last file. -/
theorem Grouped.concat_same {finding : Finding} {path : Path} {found : List Finding}
    (h : Grouped findings (groups ++ [(finding.path.toString, path, found)])) :
    Grouped (findings ++ [finding]) (groups ++ [(finding.path.toString, path, found ++ [finding])]) where
  whole := by
    rw [← h.whole, List.flatMap_append, List.flatMap_append, List.append_assoc]
    simp
  first := by
    intro group hgroup
    rcases List.mem_append.1 hgroup with hgroup | hgroup
    · exact h.first group (List.mem_append_left _ hgroup)
    · obtain ⟨other, rest, hfound, hpath⟩ := h.first _ (List.mem_append_right _ List.mem_cons_self)
      rw [List.mem_singleton.1 hgroup]
      refine ⟨other, rest ++ [finding], ?_, hpath⟩
      show found ++ [finding] = _
      rw [show found = other :: rest from hfound, List.cons_append]
  keyed := by
    intro group hgroup other hother
    rcases List.mem_append.1 hgroup with hgroup | hgroup
    · exact h.keyed group (List.mem_append_left _ hgroup) other hother
    · rw [List.mem_singleton.1 hgroup] at hother ⊢
      rcases List.mem_append.1 hother with hother | hother
      · exact h.keyed _ (List.mem_append_right _ List.mem_cons_self) other hother
      · rw [List.mem_singleton.1 hother]
  ordered := by
    have hordered := h.ordered
    rwa [Keyed.keys, List.map_append] at hordered ⊢

end Grouped

/-- **Files.** Findings in the order of their paths are grouped without being reordered. -/
theorem grouped_groups {findings : List Finding}
    (sorted : findings.Pairwise fun a b => a.path.toString ≤ b.path.toString) :
    Grouped findings (groups findings) := by
  induction findings using List.reverseRecOn with
  | nil => exact ⟨rfl, nofun, nofun, List.Pairwise.nil⟩
  | append_singleton findings finding ih =>
    obtain ⟨hsorted, -, hlast⟩ := List.pairwise_append.1 sorted
    have hgrouped := ih hsorted
    have hle (key : String) (hkey : key ∈ Keyed.keys (groups findings)) : key ≤ finding.path.toString := by
      obtain ⟨other, hother, rfl⟩ := hgrouped.exists_of_mem_keys hkey
      exact hlast other hother finding List.mem_cons_self
    rw [groups_concat]
    generalize groups findings = groups at hgrouped hle
    by_cases hold : finding.path.toString ∈ Keyed.keys groups
    · -- the keys rise, so the file with this one is the last
      obtain ⟨others, ⟨key, path, found⟩, rfl⟩ :=
        (List.eq_nil_or_concat' groups).resolve_left (by rintro rfl; exact List.not_mem_nil hold)
      have hordered := hgrouped.ordered
      rw [Keyed.keys, List.map_append, List.pairwise_append] at hordered
      have hbelow (other : String) (hother : other ∈ Keyed.keys others) : other < key :=
        hordered.2.2 other hother key List.mem_cons_self
      have hkey : key ≤ finding.path.toString := hle key (by simp [Keyed.keys])
      have hothers : finding.path.toString ∉ Keyed.keys others := fun hmem =>
        String.not_le.2 (hbelow _ hmem) hkey
      obtain rfl : finding.path.toString = key := by
        rw [Keyed.keys, List.map_append] at hold
        exact List.mem_singleton.1 ((List.mem_append.1 hold).resolve_left hothers)
      have hnodup : (Keyed.keys (others ++ [(finding.path.toString, path, found)])).Nodup :=
        hgrouped.ordered.imp fun {first second} (hlt : first < second) => by
          rintro rfl
          exact String.lt_irrefl _ hlt
      rw [(Keyed.get?_eq_some_iff_mem hnodup).2 (List.mem_append_right _ List.mem_cons_self), Option.getD_some,
        Keyed.set_concat _ _ hothers]
      exact hgrouped.concat_same
    · have hnone := Keyed.get?_eq_none_of_not_mem hold
      rw [hnone, Option.getD_none, Keyed.set_of_get?_eq_none hnone]
      refine hgrouped.concat_new fun key hkey => String.not_le.1 fun hge => hold ?_
      rwa [String.le_antisymm hge (hle key hkey)]

/-! ## Texts that are written as markup -/

/-- The rules that are described below the findings of a file. -/
def describedRules (settings : Settings) (findings : List Finding) : List Rule :=
  match settings.verbose, settings.catalog with
  | true, some catalog => described catalog findings
  | _, _ => []

/-- The texts of a report that are printed as markup; the words around them are the program's own. -/
def markups (settings : Settings) (report : Report) : List (List Char) :=
  if report.findings = [] then []
  else
    (groups report.findings).flatMap (fun (_, path, findings) =>
        headingText settings path :: findings.map (fun finding => finding.message.toList) ++
          (describedRules settings findings).map descriptionText) ++
      if settings.verbose then report.conflicts.map (conflictText settings) else []

section Blocks

variable {settings : Settings} {report : Report}

theorem isSome_mapM {α β : Type} {f : α → Option β} {items : List α} :
    (items.mapM f).isSome ↔ ∀ item ∈ items, (f item).isSome := by
  induction items with
  | nil => simp
  | cons item items ih =>
    rw [List.mapM_cons, List.forall_mem_cons, ← ih]
    cases f item <;> cases items.mapM f <;> simp

theorem isSome_table {findings : List Finding} :
    (table settings findings).isSome ↔
      ∀ finding ∈ findings, (settings.reader.read finding.message.toList).isSome := by
  rw [table, Option.isSome_map, isSome_mapM]

theorem descriptions_isSome {findings : List Finding} :
    (∀ block ∈ descriptions settings findings, block.isSome) ↔
      ∀ rule ∈ describedRules settings findings, (settings.reader.read (descriptionText rule)).isSome := by
  rw [descriptions, describedRules]
  cases settings.verbose <;> cases settings.catalog
  case true.some catalog =>
    dsimp only
    generalize described catalog findings = rules
    cases rules with
    | nil => simp
    | cons rule rules =>
      simp only [List.forall_mem_append, List.forall_mem_map, markup, Option.isSome_map]
      simp [blank]
  all_goals simp

theorem fileBlocks_isSome {path : Path} {findings : List Finding} :
    (∀ block ∈ fileBlocks settings path findings, block.isSome) ↔
      ∀ text ∈ headingText settings path :: findings.map (fun finding => finding.message.toList) ++
        (describedRules settings findings).map descriptionText, (settings.reader.read text).isSome := by
  rw [fileBlocks, List.forall_mem_cons, List.forall_mem_cons, List.forall_mem_cons, descriptions_isSome, isSome_table,
    heading, Option.isSome_map]
  simp [blank, or_imp, forall_and]

theorem conflictBlocks_isSome {conflicts : List Conflict} :
    (∀ block ∈ conflictBlocks settings conflicts, block.isSome) ↔
      ∀ text ∈ (if settings.verbose then conflicts.map (conflictText settings) else []),
        (settings.reader.read text).isSome := by
  rw [conflictBlocks]
  cases settings.verbose <;> cases conflicts <;> simp [markup, blank]

/-! ## The program's own words -/

/-- The line about fixes, if there were any. -/
def fixLines (report : Report) : List Line :=
  if report.fixedCount = 0 ∧ report.conflicts = [] then []
  else Layout.paragraph (", ".toList.intercalate ((fixParts report).map (·.text)))

def summaryLines (report : Report) : List Line :=
  Layout.boxed "Summary" (" | ".toList.intercalate ((summaryParts report).map (·.text)))

def cleanLines (report : Report) : List Line := Layout.boxed programName (cleanPart report).text

theorem simple_count (n : Nat) {words : String} (h : Markup.Simple words.toList) :
    Markup.Simple (toString n ++ words).toList := by
  rw [String.toList_append]
  exact (Markup.simple_toString n).append h

theorem fixParts_simple (report : Report) :
    ∀ part ∈ fixParts report, part.style ∈ Markup.styles ∧ Markup.Simple part.text := by
  rw [fixParts, List.forall_mem_cons]
  refine ⟨⟨show "green" ∈ Markup.styles by decide, simple_count _ (by decide)⟩, ?_⟩
  split
  · exact nofun
  · exact List.forall_mem_singleton.2 ⟨show "yellow" ∈ Markup.styles by decide, simple_count _ (by decide)⟩

theorem summaryParts_simple (report : Report) :
    ∀ part ∈ summaryParts report, part.style ∈ Markup.styles ∧ Markup.Simple part.text := by
  have htotal : Markup.Simple (toString report.findings.length ++ " problem" ++
      if report.findings.length = 1 then "" else "s").toList := by
    rw [String.toList_append]
    refine (simple_count _ (by decide)).append ?_
    split <;> decide
  rw [summaryParts, List.forall_mem_append, List.forall_mem_append]
  refine ⟨⟨?_, ?_⟩, ?_⟩
  · simp only [List.forall_mem_cons]
    exact ⟨⟨show "bold" ∈ Markup.styles by decide, htotal⟩,
      ⟨show "bold red" ∈ Markup.styles by decide, simple_count _ (by decide)⟩,
      ⟨show "bold yellow" ∈ Markup.styles by decide, simple_count _ (by decide)⟩, nofun⟩
  · split
    · exact nofun
    · exact List.forall_mem_singleton.2 ⟨show "green" ∈ Markup.styles by decide, simple_count _ (by decide)⟩
  · split
    · exact List.forall_mem_singleton.2 (by decide)
    · exact nofun

theorem cleanPart_simple (report : Report) : Markup.Simple (cleanPart report).text := by
  have hcount : Markup.Simple ("No problems found in " ++ toString report.files.length ++ " file(s).").toList := by
    rw [String.toList_append, String.toList_append]
    exact (Markup.Simple.append (by decide) (Markup.simple_toString _)).append (by decide)
  exact hcount

variable (lawful : Markup.Lawful settings.reader)
include lawful

theorem fixBlocks_eq : fixBlocks settings report =
    if report.fixedCount = 0 ∧ report.conflicts = [] then [] else [some (fixLines report)] := by
  rw [fixBlocks, fixLines]
  split
  · rfl
  · rw [markup, lawful.read_joined (by decide) (show fixParts report ≠ [] from List.cons_ne_nil _ _)
      (fixParts_simple report)]
    rfl

theorem markupBox_summary : markupBox settings "Summary"
    (" | ".toList.intercalate ((summaryParts report).map Markup.Styled.source)) = some (summaryLines report) := by
  rw [markupBox, lawful.read_joined (by decide) (show summaryParts report ≠ [] from List.cons_ne_nil _ _)
    (summaryParts_simple report)]
  rfl

theorem markupBox_clean : markupBox settings programName (cleanPart report).source = some (cleanLines report) := by
  have hnothing : Markup.Simple [] := by decide
  have hread := lawful.read_joined hnothing (List.cons_ne_nil (cleanPart report) [])
    (List.forall_mem_singleton.2 ⟨show "green" ∈ Markup.styles by decide, cleanPart_simple report⟩)
  rw [List.map_singleton, List.map_singleton, List.intercalate_singleton, List.intercalate_singleton] at hread
  rw [markupBox, hread]
  rfl

end Blocks

end Console

/-- **Where printing ends.** A report is printed to its end exactly when all its markup can be read. -/
theorem Report.complete_print_iff {settings : Console.Settings} (lawful : Markup.Lawful settings.reader)
    {report : Report} :
    (report.print settings).complete = true ↔
      ∀ text ∈ Console.markups settings report, (settings.reader.read text).isSome := by
  have hfixes : ∀ block ∈ Console.fixBlocks settings report, block.isSome := by
    rw [Console.fixBlocks_eq lawful]
    split <;> simp
  show (Printout.ofBlocks (Console.blocks settings report)).complete = true ↔ _
  rw [Printout.complete_ofBlocks_iff, Console.blocks, Console.markups, Console.markupBox_clean lawful,
    Console.markupBox_summary lawful]
  simp only [List.isEmpty_iff]
  split
  · simpa using hfixes
  · simp only [List.forall_mem_append, List.forall_mem_flatMap, Console.conflictBlocks_isSome,
      Console.fileBlocks_isSome]
    exact ⟨fun h => h.1.1, fun h => ⟨⟨h, hfixes⟩, by simp [Console.blank]⟩⟩

namespace Console

/-! ## What is shown of single texts -/

/-- Lines that show the path of a file, or what its markup shows. -/
def ShowsPath (settings : Settings) (path : Path) (lines : List Line) : Prop :=
  let text := (displayPath settings path).toList
  ∃ shown, settings.reader.read (headingText settings path) = some shown ∧
    (Markup.Closed settings.reader text → shown = text) ∧
    ((∀ c ∈ shown, Layout.Steady c) → Chars.Wraps shown lines)

/-- The row of a finding, with its message in the last cell, or what the markup of the message shows. -/
def ShowsFinding (settings : Settings) (width : Nat) (finding : Finding) (row : List Line) : Prop :=
  let text := finding.message.toList
  ∃ shown, settings.reader.read text = some shown ∧
    row = tableLines (columns width) (cellTexts finding (Layout.visible shown)) ∧
    (Markup.Plain settings.reader text → shown = text) ∧
    (Layout.Legible messageBounds.2 shown → Layout.InLastCell 61 shown row)

/-- Lines that show a skipped fix, or what its markup shows. -/
def ShowsConflict (settings : Settings) (conflict : Conflict) (lines : List Line) : Prop :=
  let text := ' ' :: conflictPlace settings conflict
  ∃ shown, settings.reader.read (conflictText settings conflict) = some shown ∧
    (Markup.Plain settings.reader text → shown = "  skipped fix".toList ++ text) ∧
    ((∀ c ∈ shown, Layout.Steady c) → Chars.Wraps shown lines)

variable {settings : Settings} (lawful : Markup.Lawful settings.reader)
include lawful

theorem read_headingText {path : Path} (h : Markup.Closed settings.reader (displayPath settings path).toList) :
    settings.reader.read (headingText settings path) = some (displayPath settings path).toList := by
  have hempty : Markup.Closed settings.reader [] := lawful.closed nofun
  have hread : settings.reader.read ([] ++ headingText settings path ++ []) = some ([] ++ _ ++ []) :=
    lawful.styled (show "bold cyan" ∈ Markup.styles by decide) hempty h (lawful.plain hempty.toPlain)
  rwa [List.nil_append, List.nil_append, List.append_nil, List.append_nil] at hread

theorem read_conflictText {conflict : Conflict}
    (h : Markup.Plain settings.reader (' ' :: conflictPlace settings conflict)) :
    settings.reader.read (conflictText settings conflict) =
      some ("  skipped fix".toList ++ ' ' :: conflictPlace settings conflict) :=
  lawful.styled (show "yellow" ∈ Markup.styles by decide) (lawful.closed (by decide)) (lawful.closed (by decide))
    (lawful.plain h)

theorem exists_heading {path : Path} (h : (heading settings path).isSome) :
    ∃ lines, heading settings path = some ([] :: Layout.inset lines ++ [[]]) ∧ ShowsPath settings path lines := by
  rw [heading, Option.isSome_map] at h
  obtain ⟨shown, hshown⟩ := Option.isSome_iff_exists.1 h
  obtain ⟨lines, hlines, hwraps⟩ := Layout.exists_indented shown
  refine ⟨lines, ?_, shown, hshown, fun hclosed => ?_, hwraps⟩
  · rw [heading, hshown, Option.map_some, hlines]
  · rw [read_headingText lawful hclosed] at hshown
    exact (Option.some.inj hshown).symm

theorem showsConflict {conflict : Conflict} (h : (settings.reader.read (conflictText settings conflict)).isSome) :
    ShowsConflict settings conflict ((markup settings (conflictText settings conflict)).getD []) := by
  obtain ⟨shown, hshown⟩ := Option.isSome_iff_exists.1 h
  refine ⟨shown, hshown, fun hplain => ?_, fun hsteady => ?_⟩
  · rw [read_conflictText lawful hplain] at hshown
    exact (Option.some.inj hshown).symm
  · rw [markup, hshown]
    exact Layout.wraps_paragraph hsteady

theorem showsFinding {finding : Finding} {shown : List Char} {widest : Nat}
    (hreads : settings.reader.read finding.message.toList = some shown)
    (hwidest : Chars.widestLine (Layout.visible shown) ≤ widest) :
    ShowsFinding settings (min widest messageBounds.2) finding
      (tableLines (columns (min widest messageBounds.2)) (cellTexts finding (Layout.visible shown))) := by
  refine ⟨shown, hreads, rfl, fun hplain => ?_, fun hlegible => ?_⟩
  · rw [lawful.plain hplain] at hreads
    exact (Option.some.inj hreads).symm
  · rw [Layout.visible_of_steady hlegible.steady] at hwidest ⊢
    exact @Layout.inLastCell_row (columns 0).dropLast (cellTexts finding []).dropLast rfl (by decide) _ _
      (Layout.wraps_cellLines hlegible hwidest)

omit lawful

/-! ## Listings -/

/-- What is printed of a file: its path, the rows of its findings under the headers of their columns,
and the descriptions of rules. -/
structure Listing where
  heading : List Line
  width : Nat
  rows : List (List Line)
  notes : List Line

def Listing.lines (listing : Listing) : List Line :=
  [] :: [] :: Layout.inset listing.heading ++
    [] :: [] :: tableLines (columns listing.width) headers ++
      (' ' :: Layout.rule '─' (61 + listing.width)) :: listing.rows.flatten ++ [] :: listing.notes

/-- The listing of a file has a row for each finding, in their order. -/
structure Listing.Of (settings : Settings) (file : List Finding) (listing : Listing) : Prop where
  heading : ∃ first ∈ file.head?, ShowsPath settings first.path listing.heading
  rows : List.Forall₂ (ShowsFinding settings listing.width) file listing.rows

theorem forall₂_of_mapM {α β : Type} {f : α → Option β} {items : List α} {values : List β}
    (h : items.mapM f = some values) : List.Forall₂ (fun item value => f item = some value) items values := by
  induction items generalizing values with
  | nil =>
    obtain rfl := Option.some.inj h
    exact .nil
  | cons item items ih =>
    simp only [List.mapM_cons, Option.bind_eq_bind, Option.pure_def, Option.bind_eq_some_iff, Option.some.injEq] at h
    obtain ⟨value, hvalue, values, hvalues, rfl⟩ := h
    exact .cons hvalue (ih hvalues)

include lawful

theorem forall₂_rows {widest : Nat} {findings : List Finding} {messages : List (List Char)}
    (hreads : List.Forall₂ (fun finding message => settings.reader.read finding.message.toList = some message)
      findings messages)
    (hwidest : ∀ message ∈ messages, Chars.widestLine (Layout.visible message) ≤ widest) :
    List.Forall₂ (ShowsFinding settings (min widest messageBounds.2)) findings
      ((findings.zip (messages.map Layout.visible)).map fun (finding, message) =>
        tableLines (columns (min widest messageBounds.2)) (cellTexts finding message)) := by
  induction hreads with
  | nil => exact .nil
  | cons hread _ ih =>
    exact .cons (showsFinding lawful hread (hwidest _ List.mem_cons_self))
      (ih fun message hmessage => hwidest message (List.mem_cons_of_mem _ hmessage))

theorem exists_table {findings : List Finding} (h : (table settings findings).isSome) :
    ∃ width rows, table settings findings = some ([] :: tableLines (columns width) headers ++
        (' ' :: Layout.rule '─' (61 + width)) :: rows.flatten ++ [[]]) ∧
      List.Forall₂ (ShowsFinding settings width) findings rows := by
  rw [table, Option.isSome_map] at h
  obtain ⟨messages, hmessages⟩ := Option.isSome_iff_exists.1 h
  have hreads := forall₂_of_mapM hmessages
  let widest := ((messages.map Layout.visible).map Chars.widestLine).foldl max messageBounds.1
  have hwidest (message : List Char) (hmessage : message ∈ messages) :
      Chars.widestLine (Layout.visible message) ≤ widest :=
    (Layout.le_foldl_max _ messageBounds.1).2 _ (List.mem_map_of_mem (List.mem_map_of_mem hmessage))
  refine ⟨min widest messageBounds.2, (findings.zip (messages.map Layout.visible)).map fun (finding, message) =>
    tableLines (columns (min widest messageBounds.2)) (cellTexts finding message), ?_, ?_⟩
  · rw [table, hmessages, Option.map_some, ← List.flatMap_def]
  · exact forall₂_rows lawful hreads hwidest

omit lawful

/-- The lines of some blocks that can all be shown. -/
def blockLines (blocks : List (Option (List Line))) : List Line := blocks.flatMap (·.getD [])

include lawful

theorem exists_listing {path : Path} {findings : List Finding}
    (hblocks : ∀ block ∈ fileBlocks settings path findings, block.isSome)
    (hpath : ∃ first ∈ findings.head?, path = first.path) :
    ∃ listing, Listing.Of settings findings listing ∧
      blockLines (fileBlocks settings path findings) = listing.lines := by
  obtain ⟨first, hfirst, rfl⟩ := hpath
  obtain ⟨lines, hheading, hshows⟩ := exists_heading lawful (hblocks _ (List.mem_cons_of_mem _ List.mem_cons_self))
  obtain ⟨width, rows, htable, hrows⟩ := exists_table lawful
    (hblocks _ (List.mem_cons_of_mem _ (List.mem_cons_of_mem _ List.mem_cons_self)))
  refine ⟨⟨lines, width, rows, blockLines (descriptions settings findings)⟩, ⟨⟨first, hfirst, hshows⟩, hrows⟩, ?_⟩
  rw [fileBlocks, hheading, htable, blank, Listing.lines]
  simp [blockLines]

theorem exists_listings : ∀ {groups : Keyed (Path × List Finding)},
    (∀ group ∈ groups, ∀ block ∈ fileBlocks settings group.2.1 group.2.2, block.isSome) →
    (∀ group ∈ groups, ∃ first ∈ group.2.2.head?, group.2.1 = first.path) →
    ∃ listings, List.Forall₂ (Listing.Of settings) (groups.map fun group => group.2.2) listings ∧
      blockLines (groups.flatMap fun group => fileBlocks settings group.2.1 group.2.2) =
        listings.flatMap Listing.lines
  | [], _, _ => ⟨[], .nil, rfl⟩
  | group :: groups, hblocks, hpaths => by
    obtain ⟨listing, hlisting, hlines⟩ := exists_listing lawful (hblocks group List.mem_cons_self)
      (hpaths group List.mem_cons_self)
    obtain ⟨listings, hlistings, hrest⟩ := exists_listings
      (fun other h => hblocks other (List.mem_cons_of_mem _ h)) (fun other h => hpaths other (List.mem_cons_of_mem _ h))
    refine ⟨listing :: listings, .cons hlisting hlistings, ?_⟩
    rw [blockLines] at hlines hrest
    rw [blockLines, List.flatMap_cons, List.flatMap_append, hlines, hrest, List.flatMap_cons]

/-- Skipped fixes are shown in verbose mode only, below a blank line. -/
theorem exists_entries {conflicts : List Conflict}
    (hblocks : ∀ block ∈ conflictBlocks settings conflicts, block.isSome) :
    ∃ gap entries, List.Forall₂ (ShowsConflict settings) (if settings.verbose then conflicts else []) entries ∧
      (∀ line ∈ gap, line = []) ∧ blockLines (conflictBlocks settings conflicts) = gap ++ entries.flatten := by
  rw [conflictBlocks_isSome] at hblocks
  rw [conflictBlocks]
  cases hverbose : settings.verbose with
  | false => exact ⟨[], [], .nil, nofun, rfl⟩
  | true =>
    rw [hverbose, if_pos rfl] at hblocks
    cases conflicts with
    | nil => exact ⟨[], [], .nil, nofun, rfl⟩
    | cons conflict conflicts =>
      refine ⟨[[]], (conflict :: conflicts).map fun conflict => (markup settings (conflictText settings conflict)).getD [], ?_,
        fun line hline => List.mem_singleton.1 hline, ?_⟩
      · exact List.forall₂_map_right_iff.2 (List.forall₂_same.2 fun other hother =>
          showsConflict lawful (hblocks _ (List.mem_map_of_mem hother)))
      · show blockLines (blank :: (conflict :: conflicts).map fun conflict =>
          markup settings (conflictText settings conflict)) = _
        rw [blockLines, List.flatMap_cons, List.flatMap_map, List.flatMap_def]
        rfl

omit lawful

theorem blockLines_fixBlocks (lawful : Markup.Lawful settings.reader) (report : Report) :
    blockLines (fixBlocks settings report) = fixLines report := by
  rw [fixBlocks_eq lawful, fixLines]
  split <;> simp [blockLines]

/-- The lines below: what was fixed, and the summary. -/
def closing (report : Report) : List Line := fixLines report ++ [] :: summaryLines report

end Console

theorem Printout.lines_ofBlocks {blocks : List (Option (List Line))} (h : (ofBlocks blocks).complete = true) :
    (ofBlocks blocks).lines = Console.blockLines blocks := by
  induction blocks with
  | nil => rfl
  | cons block blocks ih =>
    cases block with
    | none => cases h
    | some lines =>
      show lines ++ (ofBlocks blocks).lines = lines ++ Console.blockLines blocks
      rw [ih h]

/-! ## Reports -/

namespace Report

/-- A report that is printed to its end with findings in it: for each file a listing, and in verbose
mode an entry for each skipped fix. -/
structure LaidOut (settings : Console.Settings) (report : Report) (files : List (List Finding))
    (listings : List Console.Listing) (entries : List (List Line)) : Prop where
  whole : files.flatten = report.findings
  together : ∀ file ∈ files, ∀ finding ∈ file, ∀ other ∈ file, finding.path.toString = other.path.toString
  apart : files.Pairwise fun file later =>
    ∀ finding ∈ file, ∀ other ∈ later, finding.path.toString < other.path.toString
  listings : List.Forall₂ (Console.Listing.Of settings) files listings
  entries : List.Forall₂ (Console.ShowsConflict settings) (if settings.verbose then report.conflicts else []) entries

/-- All texts of a report are plain, and the descriptions of rules can be read. -/
structure Plain (settings : Console.Settings) (report : Report) : Prop where
  paths : ∀ finding ∈ report.findings,
    Markup.Closed settings.reader (Console.displayPath settings finding.path).toList
  messages : ∀ finding ∈ report.findings, Markup.Plain settings.reader finding.message.toList
  conflicts : ∀ conflict ∈ report.conflicts,
    Markup.Plain settings.reader (' ' :: Console.conflictPlace settings conflict)
  descriptions : ∀ catalog, settings.catalog = some catalog →
    ∀ rule ∈ Keyed.values catalog, (settings.reader.read (Console.descriptionText rule)).isSome

/-- What becomes of a report on the console. -/
structure Printed (settings : Console.Settings) (report : Report) (printout : Printout) : Prop where
  complete_iff : printout.complete = true ↔
    ∀ text ∈ Console.markups settings report, (settings.reader.read text).isSome
  complete_of_plain : report.Plain settings → printout.complete = true
  clean : report.findings = [] →
    printout.lines = (Console.cleanLines report ++ Console.fixLines report).map Layout.trimSpaces
  laidOut : printout.complete = true → report.findings ≠ [] →
    ∃ files listings gap entries, report.LaidOut settings files listings entries ∧ (∀ line ∈ gap, line = []) ∧
      printout.lines = (listings.flatMap Console.Listing.lines ++ (gap ++ entries.flatten) ++
        Console.closing report).map Layout.trimSpaces

variable {settings : Console.Settings} {report : Report}

theorem laidOut_of_grouped {groups : Keyed (Path × List Finding)} (h : Console.Grouped report.findings groups)
    {listings : List Console.Listing} {entries : List (List Line)}
    (hlistings : List.Forall₂ (Console.Listing.Of settings) (groups.map fun group => group.2.2) listings)
    (hentries : List.Forall₂ (Console.ShowsConflict settings) (if settings.verbose then report.conflicts else [])
      entries) :
    report.LaidOut settings (groups.map fun group => group.2.2) listings entries where
  whole := by rw [← List.flatMap_def, h.whole]
  together := by
    intro file hfile finding hfinding other hother
    obtain ⟨group, hgroup, rfl⟩ := List.mem_map.1 hfile
    rw [h.keyed group hgroup finding hfinding, h.keyed group hgroup other hother]
  apart := by
    have hordered := h.ordered
    rw [Keyed.keys, List.pairwise_map] at hordered
    rw [List.pairwise_map]
    refine hordered.imp_of_mem fun {group later} hgroup hlater hlt finding hfinding other hother => ?_
    rwa [h.keyed group hgroup finding hfinding, h.keyed later hlater other hother]
  listings := hlistings
  entries := hentries

theorem exists_catalog_of_mem_describedRules {findings : List Finding} {rule : Rule}
    (h : rule ∈ Console.describedRules settings findings) :
    ∃ catalog, settings.catalog = some catalog ∧ rule ∈ Keyed.values catalog := by
  unfold Console.describedRules at h
  split at h
  · rename_i catalog _ hcatalog
    obtain ⟨id, -, hrule⟩ := List.mem_filterMap.1 h
    exact ⟨catalog, hcatalog, List.mem_map_of_mem (Keyed.mem_of_get?_eq_some (Option.filter_eq_some_iff.1 hrule).1)⟩
  · cases h

variable (lawful : Markup.Lawful settings.reader)
include lawful

/-- Printing goes to the end if the markup of all single texts can be read. -/
theorem complete_of_reads (hgrouped : Console.Grouped report.findings (Console.groups report.findings))
    (hpaths : ∀ finding ∈ report.findings, (settings.reader.read (Console.headingText settings finding.path)).isSome)
    (hmessages : ∀ finding ∈ report.findings, (settings.reader.read finding.message.toList).isSome)
    (hconflicts : ∀ conflict ∈ report.conflicts,
      (settings.reader.read (Console.conflictText settings conflict)).isSome)
    (hdescriptions : ∀ catalog, settings.catalog = some catalog →
      ∀ rule ∈ Keyed.values catalog, (settings.reader.read (Console.descriptionText rule)).isSome) :
    (report.print settings).complete = true := by
  refine (complete_print_iff lawful).2 fun text htext => ?_
  unfold Console.markups at htext
  split at htext
  · cases htext
  · have hfound (group : String × Path × List Finding) (hgroup : group ∈ Console.groups report.findings)
        (finding : Finding) (hfinding : finding ∈ group.2.2) : finding ∈ report.findings :=
      hgrouped.whole ▸ List.mem_flatMap.2 ⟨group, hgroup, hfinding⟩
    rcases List.mem_append.1 htext with htext | htext
    · obtain ⟨group, hgroup, htext⟩ := List.mem_flatMap.1 htext
      rcases List.mem_append.1 htext with htext | htext
      · rcases List.mem_cons.1 htext with rfl | htext
        · obtain ⟨first, rest, hfirst, hpath⟩ := hgrouped.first group hgroup
          rw [hpath]
          exact hpaths first (hfound group hgroup first (hfirst ▸ List.mem_cons_self))
        · obtain ⟨finding, hfinding, rfl⟩ := List.mem_map.1 htext
          exact hmessages finding (hfound group hgroup finding hfinding)
      · obtain ⟨rule, hrule, rfl⟩ := List.mem_map.1 htext
        obtain ⟨catalog, hcatalog, hmem⟩ := exists_catalog_of_mem_describedRules hrule
        exact hdescriptions catalog hcatalog rule hmem
    · split at htext
      · obtain ⟨conflict, hconflict, rfl⟩ := List.mem_map.1 htext
        exact hconflicts conflict hconflict
      · cases htext

/-- Plain texts do not break the printing off. -/
theorem complete_of_plain (hgrouped : Console.Grouped report.findings (Console.groups report.findings))
    (h : report.Plain settings) :
    (report.print settings).complete = true :=
  complete_of_reads lawful hgrouped
    (fun finding hfinding => by rw [Console.read_headingText lawful (h.paths finding hfinding)]; rfl)
    (fun finding hfinding => by rw [lawful.plain (h.messages finding hfinding)]; rfl)
    (fun conflict hconflict => by rw [Console.read_conflictText lawful (h.conflicts conflict hconflict)]; rfl)
    h.descriptions

/-- A report that is printed to its end, with findings in the order of their paths. -/
theorem exists_laidOut (hgrouped : Console.Grouped report.findings (Console.groups report.findings))
    (hcomplete : (report.print settings).complete = true) (hfindings : report.findings ≠ []) :
    ∃ files listings gap entries, report.LaidOut settings files listings entries ∧ (∀ line ∈ gap, line = []) ∧
      (report.print settings).lines = (listings.flatMap Console.Listing.lines ++ (gap ++ entries.flatten) ++
        Console.closing report).map Layout.trimSpaces := by
  have hlines := Printout.lines_ofBlocks hcomplete
  have hblocks := Printout.complete_ofBlocks_iff.1 hcomplete
  rw [Console.blocks, if_neg (by rwa [List.isEmpty_iff])] at hlines hblocks
  have hfiles (group : String × Path × List Finding) (hgroup : group ∈ Console.groups report.findings)
      (block : Option (List Line)) (hblock : block ∈ Console.fileBlocks settings group.2.1 group.2.2) : block.isSome :=
    hblocks block (by simp only [List.mem_append, List.mem_flatMap]; exact .inl (.inl (.inl ⟨group, hgroup, hblock⟩)))
  obtain ⟨listings, hlistings, hlisted⟩ := Console.exists_listings lawful hfiles fun group hgroup => by
    obtain ⟨first, rest, hfirst, hpath⟩ := hgrouped.first group hgroup
    exact ⟨first, by rw [hfirst]; rfl, hpath⟩
  obtain ⟨gap, entries, hentries, hgap, hentered⟩ := Console.exists_entries lawful fun block hblock =>
    hblocks block (by simp only [List.mem_append]; exact .inl (.inl (.inr hblock)))
  refine ⟨_, listings, gap, entries, laidOut_of_grouped hgrouped hlistings hentries, hgap, ?_⟩
  show (Printout.ofBlocks (Console.blocks settings report)).lines.map Layout.trimSpaces = _
  rw [Console.blocks, if_neg (by rwa [List.isEmpty_iff]), hlines, ← hlisted, ← hentered, Console.closing,
    ← Console.blockLines_fixBlocks lawful, Console.markupBox_summary lawful]
  simp [Console.blockLines, Console.blank]

/-- Without findings a report is a box and the line about fixes. -/
theorem lines_of_clean (h : report.findings = []) :
    (report.print settings).lines = (Console.cleanLines report ++ Console.fixLines report).map Layout.trimSpaces := by
  have hblocks : Console.blocks settings report =
      some (Console.cleanLines report) :: Console.fixBlocks settings report := by
    rw [Console.blocks, if_pos (by rw [h]; rfl), Console.markupBox_clean lawful]
  have hcomplete : (report.print settings).complete = true :=
    (complete_print_iff lawful).2 (by rw [Console.markups, if_pos h]; exact nofun)
  show (Printout.ofBlocks (Console.blocks settings report)).lines.map Layout.trimSpaces = _
  rw [Printout.lines_ofBlocks hcomplete, hblocks, ← Console.blockLines_fixBlocks lawful]
  rfl

end Report

/-- The findings of a report stand file by file. -/
theorem grouped_aggregate (harvest : Harvest) :
    Console.Grouped (aggregate harvest).findings (Console.groups (aggregate harvest).findings) := by
  refine Console.grouped_groups ((gathers_aggregate harvest).findings.ordered.imp fun {a b} hle => ?_)
  rcases SortKey.le_iff.1 hle with hlt | ⟨heq, -⟩
  · exact (String.le_total _ _).resolve_right (String.not_le.2 hlt)
  · exact (show a.path.toString = b.path.toString from heq) ▸ String.le_refl _

def verboseSettings : Console.Settings := { home := ⟨.root, ["work"]⟩, verbose := true }

/-- Two files with a finding each, and a fix that had to be skipped. -/
def skippedFixHarvest : Harvest where
  streams :=
    [[{ rule := "no-var", severity := .warn, message := "Unexpected var, use let or const instead."
        path := Path.ofString "/work/src/b.js", span := { start := 0, stop := 10 } }],
     [{ rule := "no-useless-computed-key", severity := .error
        message := "Unnecessarily computed property [1] found."
        path := Path.ofString "/work/src/a[2].js", span := { start := 5, stop := 13, column := 6 } }]]
  files := [Path.ofString "/work/src/a[2].js", Path.ofString "/work/src/b.js"]
  conflicts :=
    [{ rule := "no-var", path := Path.ofString "/work/src/b.js", span := { start := 0, stop := 10 }
       blockedBy := "prefer-const", blockedSpan := { start := 4, stop := 9 }
       message := "Overlaps a fix of prefer-const." }]
  fixedCount := 1
  cancelled := false

/-- A message with a snippet of the source in it that reads as a closing tag. -/
def closingTagFinding : Finding where
  rule := "no-useless-computed-key"
  severity := .warn
  message := "Unnecessarily computed property ['[/a]'] found."
  path := Path.ofString "src/a.js"
  span := { start := 5, stop := 13, column := 6 }

end ScriptLint
