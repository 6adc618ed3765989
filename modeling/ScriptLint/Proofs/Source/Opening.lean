/-
Opening a file, and linting it.

Linting a file reads and decodes it, and then opens the text, which is encoded and
decoded once more on the way. A file that cannot be read or decoded has the same error
by either way (`ofFile_of_textOf_error`), and any other opens as its text does
(`ofFile_of_textOf`), since encoding gives the bytes back that were decoded. So linting
a file comes to opening it and running the rules (`examineAll_ofFile`).

A file that cannot be decoded is reported at the offset at which its text ends, but
always in the first line and column, which is the position of that offset only where
there is no text before it (`notUtf8_exact_iff`).
-/
import ScriptLint.Proofs.Run.Results
import ScriptLint.Proofs.Text.Positions
import ScriptLint.Proofs.Text.Undecodable

namespace ScriptLint

variable {linter : Linter} {disk : Disk} {path : Path} {bytes : Bytes}

/-! ## Two ways to the bytes -/

theorem Source.ofFile_of_read (parser : Parser) (h : disk.read path = .ok bytes) :
    Source.ofFile parser disk path = Source.ofBytes parser path bytes := by
  simp [Source.ofFile, h]

/-- A file without a text does not open, for the same reason. -/
theorem Source.ofFile_of_textOf_error {error : ParseError} (parser : Parser)
    (h : Linter.textOf disk path = .error error) : Source.ofFile parser disk path = .error (.parse error) := by
  cases hread : disk.read path with
  | error reason =>
    simp only [Linter.textOf, hread, Except.error.injEq] at h
    simp [Source.ofFile, hread, h]
  | ok bytes =>
    cases hdecode : Utf8.decode? bytes with
    | none =>
      simp only [Linter.textOf, hread, hdecode, Except.error.injEq] at h
      simp [Source.ofFile_of_read parser hread, Source.ofBytes, hdecode, h]
    | some text => simp [Linter.textOf, hread, hdecode] at h

/-- A file with a text opens as the text does. -/
theorem Source.ofFile_of_textOf {text : String} (parser : Parser) (h : Linter.textOf disk path = .ok text) :
    Source.ofFile parser disk path = Source.ofBytes parser path (Utf8.encode text) := by
  obtain ⟨held, hread, hdecode⟩ := Linter.textOf_eq_ok h
  rw [Source.ofFile_of_read parser hread, Utf8.encode_of_decode? hdecode]

/-! ## Linting a file -/

namespace Linter

/-- A file that does not open has one finding, about the error. -/
theorem examine_of_parseError {error : ParseError} (h : Source.ofFile linter.parser disk path = .error (.parse error)) :
    ∃ source, linter.examine false disk path =
      .ok { path, findings := [parseErrorFinding path error], source } := by
  cases htext : textOf disk path with
  | error reason =>
    rw [Source.ofFile_of_textOf_error linter.parser htext] at h
    cases h
    exact ⟨none, by simp only [examine, htext]⟩
  | ok text =>
    rw [Source.ofFile_of_textOf linter.parser htext] at h
    have hlint : linter.lint text path = .ok [parseErrorFinding path error] := by simp only [lint, h]
    exact ⟨some text, by simp [examine, htext, hlint, Except.map]⟩

/-- A file that opens has the findings of the rules, in report order. -/
theorem examine_of_opened {source : Source} (h : Source.ofFile linter.parser disk path = .ok source) :
    ∃ text, linter.examine false disk path =
      .ok { path, findings := canonicalOrder (runRules source linter.rules), source := some text } := by
  cases htext : textOf disk path with
  | error reason =>
    rw [Source.ofFile_of_textOf_error linter.parser htext] at h
    cases h
  | ok text =>
    rw [Source.ofFile_of_textOf linter.parser htext] at h
    have hlint : linter.lint text path = .ok (canonicalOrder (runRules source linter.rules)) := by simp only [lint, h]
    exact ⟨text, by simp [examine, htext, hlint, Except.map]⟩

/-- Where the parser has no tree there is no result. -/
theorem examine_of_noTree {text : String} (h : Source.ofFile linter.parser disk path = .error (.noTree text)) :
    linter.examine false disk path = .error (.noTree text) := by
  cases htext : textOf disk path with
  | error reason =>
    rw [Source.ofFile_of_textOf_error linter.parser htext] at h
    cases h
  | ok read =>
    rw [Source.ofFile_of_textOf linter.parser htext] at h
    have hlint : linter.lint read path = .error (.noTree text) := by simp only [lint, h]
    simp [examine, htext, hlint, Except.map]

/-- One file that is linted and not fixed is left as it is. -/
theorem examineAll_of_examine {findings : List Finding} {source : Option String}
    (h : linter.examine false disk path = .ok { path, findings, source }) :
    linter.examineAll false none disk [path] = (disk, .ok [{ path, findings, source }]) := by
  rw [examineAll_cons_eq_ok_iff]
  exact ⟨_, [], h, rfl, rfl⟩

/-- **Linting a file agrees with opening it.** If it cannot be read or decoded, or has a syntax error, the
one finding is fatal, an error, and has the message and the offset of that error. Otherwise the findings are
those of the rules over the opened source, in report order, and none is fatal if no rule emits a
fatal one. The disk stays as it is. -/
theorem examineAll_ofFile (linter : Linter) (disk : Disk) (path : Path) :
    (∀ error, Source.ofFile linter.parser disk path = .error (.parse error) →
      ∃ result finding, linter.examineAll false none disk [path] = (disk, .ok [result]) ∧
        result.path = path ∧ result.findings = [finding] ∧ finding.rule = Finding.parseErrorRule ∧
        finding.severity = .error ∧ finding.fatal = true ∧ finding.path = path ∧
        finding.message = error.message ∧ finding.span.start = error.offset ∧ finding.span.stop = error.offset) ∧
    (∀ source, Source.ofFile linter.parser disk path = .ok source →
      ∃ result, linter.examineAll false none disk [path] = (disk, .ok [result]) ∧
        result.path = path ∧ result.findings = canonicalOrder (runRules source linter.rules) ∧
        ((∀ active ∈ linter.rules, active.rule.NeverFatal) →
          ∀ finding ∈ result.findings, finding.fatal = false)) ∧
    ∀ text, Source.ofFile linter.parser disk path = .error (.noTree text) →
      linter.examineAll false none disk [path] = (disk, .error (.noTree text)) := by
  refine ⟨fun error h => ?_, fun source h => ?_, fun text h => ?_⟩
  · obtain ⟨source, hexamine⟩ := examine_of_parseError h
    exact ⟨_, parseErrorFinding path error, examineAll_of_examine hexamine,
      rfl, rfl, rfl, rfl, rfl, rfl, rfl, rfl, rfl⟩
  · obtain ⟨text, hexamine⟩ := examine_of_opened h
    refine ⟨_, examineAll_of_examine hexamine, rfl, rfl, fun quiet finding hfinding => ?_⟩
    exact fatal_of_mem_runRules quiet finding (List.mem_mergeSort.1 hfinding)
  · simp only [examineAll, examine_of_noTree h]

/-- A file that is missing, one with a syntax error, and one that the shortening rule finds too long. -/
theorem examineAll_ofFile_mixedDisk :
    (∃ result finding, shorteningLinter.examineAll false none mixedDisk [.ofString "c.js"] = (mixedDisk, .ok [result]) ∧
      result.findings = [finding] ∧ finding.fatal = true ∧
      finding.message = "Cannot read file: No such file or directory") ∧
    (∃ result finding, shorteningLinter.examineAll false none mixedDisk [.ofString "b.js"] = (mixedDisk, .ok [result]) ∧
      result.findings = [finding] ∧ finding.fatal = true ∧ finding.message = "Parsing error: unexpected token '('") ∧
    ∃ result, shorteningLinter.examineAll false none mixedDisk [.ofString "a.js"] = (mixedDisk, .ok [result]) ∧
      result.findings.map Finding.message = ["long"] ∧ ∀ finding ∈ result.findings, finding.fatal = false := by
  obtain ⟨ha, hb, hc⟩ := read_mixedDisk
  have quiet : ∀ active ∈ shorteningLinter.rules, active.rule.NeverFatal := by
    intro active hactive
    obtain rfl := List.mem_singleton.1 hactive
    exact shortening_neverFatal
  refine ⟨?_, ?_, ?_⟩
  · have hopen : Source.ofFile bracketParser mixedDisk (.ofString "c.js") =
        .error (.parse { cause := .unreadable .noSuchFile }) := by simp [Source.ofFile, hc]
    obtain ⟨result, finding, hexamine, -, hfindings, -, -, hfatal, -, hmessage, -⟩ :=
      (examineAll_ofFile shorteningLinter mixedDisk _).1 _ hopen
    exact ⟨result, finding, hexamine, hfindings, hfatal, hmessage⟩
  · have hopen : Source.ofFile bracketParser mixedDisk (.ofString "b.js") =
        .error (.parse { cause := .unexpectedToken "(" }) := by
      rw [Source.ofFile_of_read _ hb]
      exact Source.ofBytes_of_syntaxError rfl (by decide +kernel)
    obtain ⟨result, finding, hexamine, -, hfindings, -, -, hfatal, -, hmessage, -⟩ :=
      (examineAll_ofFile shorteningLinter mixedDisk _).1 _ hopen
    exact ⟨result, finding, hexamine, hfindings, hfatal, hmessage⟩
  · have hopen : ∃ source, Source.ofFile bracketParser mixedDisk (.ofString "a.js") = .ok source ∧
        (canonicalOrder (runRules source shorteningLinter.rules)).map Finding.message = ["long"] := by
      rw [Source.ofFile_of_read _ ha]
      exact ⟨_, rfl, by decide +kernel⟩
    obtain ⟨source, hsource, hmessages⟩ := hopen
    obtain ⟨result, hexamine, -, hfindings, hclean⟩ := (examineAll_ofFile shorteningLinter mixedDisk _).2.1 _ hsource
    exact ⟨result, hexamine, by rw [hfindings, hmessages], hclean quiet⟩

end Linter

/-! ## Files that cannot be decoded -/

/-- Nothing but the empty text comes to the first line and column. -/
theorem endPosition_eq_first_iff (text : String) : (⟨1, 1⟩ : Position) = endPosition text.toList ↔ text = "" := by
  constructor
  · intro h
    by_cases hempty : text.toList = []
    · simpa using hempty
    · exact absurd h (endPosition_before [] hempty).ne
  · intro h
    subst h
    rfl

/-- **Undecodable bytes are reported where they break, but for line and column.** Bytes that are not UTF-8
start with a text and go on with bytes that start no character. As a source and as the content of a
file they have one error, and linting the file or fixing it gives one fatal finding, both with the
offset at which the text ends. The line and the column are always the first, and so those of the offset just
when there is no text before it. -/
theorem Source.notUtf8_exact_iff (h : Utf8.decode? bytes = none) :
    ∃ before error, Utf8.BreaksAfter before bytes ∧ error.cause = .notUtf8 ∧
      error.offset = (Utf8.encode before).length ∧ error.position = ⟨1, 1⟩ ∧
      (error.position = endPosition before.toList ↔ before = "") ∧
      (∀ parser path, Source.ofBytes parser path bytes = .error (.parse error)) ∧
      ∀ (disk : Disk) (path : Path), disk.read path = .ok bytes →
        (∀ parser, Source.ofFile parser disk path = .error (.parse error)) ∧
        ∀ (linter : Linter) (fixing : Bool), ∃ finding,
          linter.examine fixing disk path = .ok { path, findings := [finding] } ∧ finding.fatal = true ∧
          finding.message = error.message ∧
          finding.span = { start := error.offset, stop := error.offset, line := 1, column := 1 } := by
  obtain ⟨before, hbreaks⟩ := Utf8.breaksAfter_of_decode?_eq_none h
  have hoffset : Utf8.errorOffset? bytes = some (Utf8.encode before).length :=
    Utf8.errorOffset?_eq_some_iff.2 ⟨before, hbreaks, rfl⟩
  refine ⟨before, { cause := .notUtf8, offset := (Utf8.encode before).length }, hbreaks, rfl, rfl, rfl,
    endPosition_eq_first_iff before, ?_, ?_⟩
  · intro parser path
    simp [Source.ofBytes, h, hoffset]
  · intro disk path hread
    refine ⟨fun parser => ?_, fun linter fixing => ⟨parseErrorFinding path _, ?_, rfl, rfl, rfl⟩⟩
    · simp [Source.ofFile_of_read parser hread, Source.ofBytes, h, hoffset]
    · simp [Linter.examine, Linter.textOf, hread, h, hoffset]

/-- A letter, a line break and a byte that starts no character. -/
def brokenLine : Bytes := [0x61, 0x0a, 0xff]

/-- A disk with a file of these bytes. -/
def brokenLineDisk : Disk := ⟨[], [(["a.js"], .file brokenLine)]⟩

theorem Source.notUtf8_exact_iff_brokenLine :
    Utf8.decode? brokenLine = none ∧ brokenLineDisk.read (.ofString "a.js") = .ok brokenLine ∧
      ∃ before error, Utf8.BreaksAfter before brokenLine ∧ error.offset = (Utf8.encode before).length ∧
        Source.ofFile Linter.bracketParser brokenLineDisk (.ofString "a.js") = .error (.parse error) := by
  have hdecode : Utf8.decode? brokenLine = none := by decide +kernel
  have hread : brokenLineDisk.read (.ofString "a.js") = .ok brokenLine := by cbv
  obtain ⟨before, error, hbreaks, -, hoffset, -, -, -, hfile⟩ := Source.notUtf8_exact_iff hdecode
  exact ⟨hdecode, hread, before, error, hbreaks, hoffset, (hfile _ _ hread).1 _⟩

/-- The byte stands at the start of the second line and is reported at the start of the first. -/
theorem Source.not_exact_brokenLine :
    Utf8.BreaksAfter "a\n" brokenLine ∧ endPosition "a\n".toList = ⟨2, 1⟩ ∧
      Source.ofBytes Linter.bracketParser (.ofString "a.js") brokenLine =
        .error (.parse { cause := .notUtf8, position := ⟨1, 1⟩, offset := 2 }) := by
  have hpieces : Utf8.pieces [0xff] = [.illFormed 1] := rfl
  have hdecode : Utf8.decode? brokenLine = none := by decide +kernel
  have hoffset : Utf8.errorOffset? brokenLine = some 2 := by decide +kernel
  refine ⟨⟨[0xff], by decide +kernel, Utf8.startsNone_of_pieces hpieces⟩, by decide +kernel, ?_⟩
  simp [Source.ofBytes, hdecode, hoffset]

end ScriptLint
