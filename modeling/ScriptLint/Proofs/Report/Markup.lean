/-
Readers of markup that keep to its format.

A plain text has no tags, no backslash before a bracket and no names of emoji
(`Markup.Plain`). Which names of emoji there are and what becomes of unusual tags
differs from reader to reader, but all of them show plain texts as they are and
the text of a styled part without its tags, and none can read a tag that closes
what is not open (`Markup.Lawful`). The reader defined here is one of them
(`lawful_reader`).
-/
import Mathlib.Data.List.Basic
import ScriptLint.Report.Markup

namespace ScriptLint

namespace Markup

/-! ## Plain texts -/

/-- No bracket of a text opens a tag or stands behind a backslash. -/
def Untagged (cs : List Char) : Prop :=
  ∀ before rest, cs = before ++ '[' :: rest → content? rest = none ∧ before.getLast? ≠ some '\\'

theorem Untagged.of_append {start cs : List Char} (h : Untagged (start ++ cs)) : Untagged cs := by
  rintro before rest rfl
  obtain ⟨hcontent, hslash⟩ := h (start ++ before) rest (by rw [List.append_assoc])
  refine ⟨hcontent, fun hlast => hslash ?_⟩
  rw [List.getLast?_append, hlast]
  rfl

/-- Character by character: a bracket opens no tag, and a backslash stands before no bracket. -/
theorem untagged_cons {c : Char} {cs : List Char} : Untagged (c :: cs) ↔
    (c = '[' → content? cs = none) ∧ (c = '\\' → cs.head? ≠ some '[') ∧ Untagged cs := by
  constructor
  · refine fun h => ⟨?_, ?_, @Untagged.of_append [c] cs h⟩
    · rintro rfl
      exact (h [] cs rfl).1
    · rintro rfl hhead
      obtain ⟨rest, rfl⟩ := List.head?_eq_some_iff.1 hhead
      exact (h ['\\'] rest rfl).2 rfl
  · rintro ⟨hcontent, hslash, h⟩ (_ | ⟨d, before⟩) rest hsplit
    · obtain ⟨rfl, rfl⟩ := List.cons.inj hsplit
      exact ⟨hcontent rfl, nofun⟩
    · obtain ⟨rfl, rfl⟩ := List.cons.inj hsplit
      obtain ⟨hrest, hlast⟩ := h before rest rfl
      refine ⟨hrest, ?_⟩
      cases before with
      | nil => exact fun heq => hslash (Option.some.inj heq) rfl
      | cons e before => rwa [List.getLast?_cons_cons]

instance decidableUntagged : ∀ cs, Decidable (Untagged cs)
  | [] => .isTrue fun before rest h => absurd h.symm (by simp)
  | _ :: cs =>
    have := decidableUntagged cs
    decidable_of_iff _ untagged_cons.symm

/-- A text that holds no markup. -/
structure Plain (reader : Reader) (cs : List Char) : Prop where
  untagged : Untagged cs
  noEmoji : reader.emoji cs = cs

/-- A plain text that tags may follow, for a backslash at its end would escape them. -/
structure Closed (reader : Reader) (cs : List Char) : Prop extends Plain reader cs where
  noSlash : cs.getLast? ≠ some '\\'

/-- The styles in which reports are printed. -/
def styles : List String :=
  ["bold", "dim", "bold red", "bold yellow", "bold cyan", "red", "yellow", "green"]

/-- What every reader of markup does. -/
structure Lawful (reader : Reader) : Prop where
  /-- The names of emoji stand between colons. -/
  emoji {cs : List Char} : ':' ∉ cs → reader.emoji cs = cs
  /-- A text without markup shows as it is. -/
  plain {cs : List Char} : Plain reader cs → reader.read cs = some cs
  /-- Tags around a text show nothing and have no influence on what follows. -/
  styled {part : Styled} {before rest shown : List Char} : part.style ∈ styles → Closed reader before →
    Closed reader part.text → reader.read rest = some shown →
    reader.read (before ++ part.source ++ rest) = some (before ++ part.text ++ shown)
  /-- A closing tag without an opening one cannot be read. -/
  unopened {before name rest : List Char} : Closed reader before → (∀ c ∈ name, c ≠ '[' ∧ c ≠ ']') →
    reader.read (before ++ tag ('/' :: name) ++ rest) = none

/-! ## What lawful readers show -/

/-- No character of a text is part of any markup. -/
def Simple (cs : List Char) : Prop := ∀ c ∈ cs, c ≠ '[' ∧ c ≠ ':' ∧ c ≠ '\\'

instance (cs : List Char) : Decidable (Simple cs) := List.decidableBAll _ cs

theorem Simple.append {start cs : List Char} (hstart : Simple start) (h : Simple cs) : Simple (start ++ cs) :=
  List.forall_mem_append.2 ⟨hstart, h⟩

theorem simple_toString (n : Nat) : Simple (toString n).toList := by
  intro c hc
  have hdigit : c.isDigit = true := by
    rw [Nat.toString_eq_repr, Nat.toList_repr] at hc
    exact Nat.isDigit_of_mem_toDigits (by decide) (by decide) hc
  refine ⟨?_, ?_, ?_⟩ <;> rintro rfl <;> exact absurd hdigit (by decide)

section Lawful

variable {reader : Reader} (lawful : Lawful reader)
include lawful

theorem Lawful.closed {cs : List Char} (h : Simple cs) : Closed reader cs where
  untagged := by
    rintro before rest rfl
    exact absurd rfl (h '[' (by simp)).1
  noEmoji := lawful.emoji fun hcolon => (h ':' hcolon).2.1 rfl
  noSlash := fun hlast => (h '\\' (List.mem_of_getLast? hlast)).2.2 rfl

/-- Styled parts with a separator between them show as their texts. -/
theorem Lawful.read_parts {separator : List Char} (hseparator : Closed reader separator) {part : Styled}
    {parts : List Styled} (hparts : ∀ other ∈ part :: parts, other.style ∈ styles ∧ Closed reader other.text)
    {before : List Char} (hbefore : Closed reader before) :
    reader.read (before ++ separator.intercalate ((part :: parts).map Styled.source)) =
      some (before ++ separator.intercalate ((part :: parts).map (·.text))) := by
  induction parts generalizing part before with
  | nil =>
    obtain ⟨⟨hstyle, htext⟩, -⟩ := List.forall_mem_cons.1 hparts
    have hempty : Closed reader [] := lawful.closed nofun
    have hread := lawful.styled hstyle hbefore htext (lawful.plain hempty.toPlain)
    simpa using hread
  | cons next parts ih =>
    obtain ⟨⟨hstyle, htext⟩, hrest⟩ := List.forall_mem_cons.1 hparts
    have hread := lawful.styled hstyle hbefore htext (ih hrest hseparator)
    simpa only [List.map_cons, List.intercalate_cons_cons, List.append_assoc] using hread

/-- Styled parts of simple texts. -/
theorem Lawful.read_joined {separator : List Char} (hseparator : Simple separator) {parts : List Styled}
    (hsome : parts ≠ []) (hparts : ∀ part ∈ parts, part.style ∈ styles ∧ Simple part.text) :
    reader.read (separator.intercalate (parts.map Styled.source)) =
      some (separator.intercalate (parts.map (·.text))) := by
  obtain ⟨part, parts, rfl⟩ := List.exists_cons_of_ne_nil hsome
  have hempty : Simple [] := by decide
  exact lawful.read_parts (lawful.closed hseparator)
    (fun other hother => ⟨(hparts other hother).1, lawful.closed (hparts other hother).2⟩) (lawful.closed hempty)

end Lawful

/-! ## Texts without tags -/

/-- The characters that a tag is made of, after the first. -/
def inTag (c : Char) : Bool := c ≠ ']' && c ≠ '['

theorem content?_eq_none_iff {c : Char} {rest : List Char} :
    content? (c :: rest) = none ↔ startsTag c = true → (rest.dropWhile inTag).head? ≠ some ']' := by
  have hdrop : rest.drop (rest.takeWhile inTag).length = rest.dropWhile inTag := by
    conv_lhs => arg 2; rw [← List.takeWhile_append_dropWhile (p := inTag) (l := rest)]
    exact List.drop_left
  show (if startsTag c = true then
    if (rest.drop (rest.takeWhile inTag).length).head? = some ']' then some (c :: rest.takeWhile inTag) else none
    else none) = none ↔ _
  rw [hdrop]
  by_cases hstart : startsTag c = true <;> by_cases hend : (rest.dropWhile inTag).head? = some ']' <;>
    simp [hstart, hend]

/-- What begins with a bracket closes no tag that is open before it. -/
theorem content?_append {cs tail : List Char} (h : content? cs = none)
    (htail : tail = [] ∨ tail.head? = some '[') : content? (cs ++ tail) = none := by
  cases cs with
  | nil =>
    rcases tail with _ | ⟨c, tail⟩
    · rfl
    · obtain rfl : c = '[' := by simpa using htail
      exact content?_eq_none_iff.2 fun hstart => absurd hstart (by decide)
  | cons c cs =>
    rw [List.cons_append]
    refine content?_eq_none_iff.2 fun hstart => ?_
    have hopen := content?_eq_none_iff.1 h hstart
    rw [List.dropWhile_append]
    split
    · rcases tail with _ | ⟨d, tail⟩
      · exact nofun
      · obtain rfl : d = '[' := by simpa using htail
        rw [List.dropWhile_cons_of_neg (by decide)]
        exact fun h => absurd (Option.some.inj h) (by decide)
    · rename_i hsome
      match hrest : cs.dropWhile inTag with
      | [] => exact absurd (by rw [hrest]; rfl) hsome
      | e :: rest => rwa [hrest] at hopen

/-- Reading a text without tags keeps all of it; its last backslashes are still to be read as such. -/
theorem exists_piecesFrom_append {tail : List Char} (htail : tail = [] ∨ tail.head? = some '[') :
    ∀ (escapes : Nat) {cs : List Char}, Untagged (slashes escapes ++ cs) → ∀ plain : List Char,
      ∃ kept n, kept ++ slashes n = plain ++ (slashes escapes ++ cs) ∧
        piecesFrom 0 escapes plain (cs ++ tail) = piecesFrom 0 n kept tail
  | escapes, [], _, plain => ⟨plain, escapes, by rw [List.append_nil], rfl⟩
  | escapes, c :: cs, h, plain => by
    by_cases hslash : c = '\\'
    · subst hslash
      have hmore : slashes escapes ++ '\\' :: cs = slashes (escapes + 1) ++ cs := by
        rw [slashes, slashes, List.replicate_succ', List.append_assoc]
        rfl
      obtain ⟨kept, n, hkept, hread⟩ := exists_piecesFrom_append htail (escapes + 1) (hmore ▸ h) plain
      refine ⟨kept, n, by rw [hkept, hmore], ?_⟩
      rw [List.cons_append, piecesFrom, if_pos rfl, hread]
    · have hlater : Untagged (slashes 0 ++ cs) := by
        rw [show slashes escapes ++ c :: cs = slashes escapes ++ [c] ++ cs by simp] at h
        exact h.of_append
      obtain ⟨kept, n, hkept, hread⟩ := exists_piecesFrom_append htail 0 hlater (plain ++ slashes escapes ++ [c])
      refine ⟨kept, n, by rw [hkept]; simp [slashes], ?_⟩
      rw [List.cons_append, piecesFrom, if_neg hslash]
      split
      · rename_i hbracket
        subst hbracket
        obtain ⟨hcontent, hlast⟩ := h (slashes escapes) cs rfl
        obtain rfl : escapes = 0 := by
          by_contra hescapes
          exact hlast (by rw [slashes, List.getLast?_replicate, if_neg hescapes])
        rw [content?_append hcontent htail]
        exact hread
      · exact hread

theorem pieces_of_untagged {cs : List Char} (h : Untagged cs) : pieces cs = textPiece cs := by
  obtain ⟨kept, n, hkept, hread⟩ := @exists_piecesFrom_append [] (.inl rfl) 0 cs h []
  rw [List.append_nil] at hread
  rw [pieces, hread, piecesFrom, hkept]
  rfl

/-! ## Tags -/

theorem content?_tag {c : Char} {body : List Char} (hstart : startsTag c = true)
    (hbody : ∀ d ∈ body, d ≠ '[' ∧ d ≠ ']') (rest : List Char) :
    content? (c :: body ++ ']' :: rest) = some (c :: body) := by
  have htaken : (body ++ ']' :: rest).takeWhile (fun c => c ≠ ']' && c ≠ '[') = body := by
    rw [List.takeWhile_append_of_pos fun d hd => by simp [hbody d hd]]
    simp
  rw [List.cons_append, content?, if_pos hstart, htaken]
  simp

/-- The characters of a tag are passed over. -/
theorem piecesFrom_skip (tag rest : List Char) (c : Char) :
    piecesFrom (tag.length + 1) 0 [] (tag ++ c :: rest) = pieces rest := by
  induction tag with
  | nil => rfl
  | cons d tag ih => exact ih

/-- A text that ends in no backslash has no backslashes split off its end. -/
theorem eq_of_append_slashes {kept cs : List Char} {n : Nat} (h : kept ++ slashes n = cs)
    (hslash : cs.getLast? ≠ some '\\') : n = 0 ∧ kept = cs := by
  cases n with
  | zero => exact ⟨rfl, by rw [← h, slashes, List.replicate_zero, List.append_nil]⟩
  | succ n =>
    refine absurd ?_ hslash
    rw [← h, slashes, List.replicate_succ', ← List.append_assoc, List.getLast?_concat]

/-- A text is cut at a tag in it. -/
theorem pieces_tag {before : List Char} (huntagged : Untagged before) (hslash : before.getLast? ≠ some '\\')
    {c : Char} {body : List Char} (hstart : startsTag c = true) (hbody : ∀ d ∈ body, d ≠ '[' ∧ d ≠ ']')
    (rest : List Char) :
    pieces (before ++ tag (c :: body) ++ rest) = textPiece before ++ .tag (c :: body) :: pieces rest := by
  have htail : tag (c :: body) ++ rest = '[' :: (c :: body ++ ']' :: rest) := by simp [tag]
  obtain ⟨kept, n, hkept, hread⟩ :=
    @exists_piecesFrom_append ('[' :: (c :: body ++ ']' :: rest)) (.inr rfl) 0 before huntagged []
  obtain ⟨rfl, rfl⟩ := eq_of_append_slashes hkept hslash
  rw [pieces, List.append_assoc, htail, hread, piecesFrom, if_neg (by decide), if_pos rfl,
    content?_tag hstart hbody]
  show textPiece kept ++ textPiece [] ++ .tag (c :: body) ::
    piecesFrom ((c :: body).length + 1) 0 [] (c :: body ++ ']' :: rest) = _
  rw [piecesFrom_skip, show textPiece [] = [] from rfl, List.append_nil]

/-! ## What pieces show -/

theorem show?_textPiece (opened : List String) (cs : List Char) (rest : List Piece) :
    show? opened (textPiece cs ++ rest) = (show? opened rest).map (Emoji.replace cs ++ ·) := by
  by_cases h : cs = []
  · subst h
    cases hrest : show? opened rest <;> simp [textPiece, hrest, Emoji.replace, Emoji.replaceFrom]
  · rw [textPiece, if_neg h, List.singleton_append, show?]

/-- Names of styles as they are written in tags. -/
structure StyleName (name : List Char) : Prop where
  starts : name.head?.any (fun c => startsTag c && c ≠ '/') = true
  noBracket : ∀ c ∈ name, c ≠ '[' ∧ c ≠ ']'
  whole : tagName name = name
  stripped : Chars.strip name = name
  known : (Style.normalize? name).isSome

theorem styleName_of_mem {style : String} (h : style ∈ styles) : StyleName style.toList := by
  have hwritten : ∀ style ∈ styles, style.toList.head?.any (fun c => startsTag c && c ≠ '/') = true ∧
      style.toList.all (fun c => c ≠ '[' ∧ c ≠ ']') = true ∧ tagName style.toList = style.toList ∧
      Chars.strip style.toList = style.toList := by decide +kernel
  have hknown : ∀ style ∈ styles, (Style.normalize? style.toList).isSome := by decide +kernel
  obtain ⟨hstarts, hbracket, hwhole, hstrip⟩ := hwritten style h
  exact ⟨hstarts, fun c hc => of_decide_eq_true (List.all_eq_true.1 hbracket c hc), hwhole, hstrip, hknown style h⟩

theorem StyleName.exists_cons {name : List Char} (h : StyleName name) :
    ∃ c body, startsTag c = true ∧ c ≠ '/' ∧ name = c :: body := by
  have hstarts := h.starts
  cases name with
  | nil => cases hstarts
  | cons c body =>
    simp only [List.head?_cons, Option.any_some, Bool.and_eq_true, decide_eq_true_eq] at hstarts
    exact ⟨c, body, hstarts.1, hstarts.2, rfl⟩

/-- A styled part is cut into its tags and its text. -/
theorem pieces_styled {part : Styled} (hname : StyleName part.style.toList) {before : List Char}
    (hbefore : Closed reader before) (htext : Closed reader part.text) (rest : List Char) :
    pieces (before ++ part.source ++ rest) = textPiece before ++ .tag part.style.toList ::
      (textPiece part.text ++ .tag ('/' :: if part.briefly then [] else part.style.toList) :: pieces rest) := by
  have hclosing : ∀ c ∈ if part.briefly then [] else part.style.toList, c ≠ '[' ∧ c ≠ ']' := by
    split
    · exact nofun
    · exact hname.noBracket
  obtain ⟨c, body, hstarts, -, hcons⟩ := hname.exists_cons
  have hbody : ∀ d ∈ body, d ≠ '[' ∧ d ≠ ']' := fun d hd => hname.noBracket d (hcons ▸ List.mem_cons_of_mem c hd)
  rw [← pieces_tag htext.untagged htext.noSlash (by decide) hclosing, hcons,
    ← pieces_tag hbefore.untagged hbefore.noSlash hstarts hbody, ← hcons]
  simp [Styled.source]

/-- The tags of a style show nothing, whether the closing one names it or not. -/
theorem show?_styled {name : List Char} (hname : StyleName name) (briefly : Bool) (cs : List Char)
    (rest : List Piece) :
    show? [] (.tag name :: (textPiece cs ++ .tag ('/' :: if briefly then [] else name) :: rest)) =
      (show? [] rest).map (Emoji.replace cs ++ ·) := by
  obtain ⟨c, body, -, hslash, rfl⟩ := hname.exists_cons
  obtain ⟨style, hstyle⟩ := Option.isSome_iff_exists.1 hname.known
  have hclose : close? (tagName (if briefly then [] else c :: body)) [style] = some [] := by
    cases briefly with
    | true => rfl
    | false =>
      rw [if_neg Bool.false_ne_true, hname.whole]
      unfold close?
      rw [hname.stripped]
      show (Style.normalize? (c :: body)).bind _ = some []
      rw [hstyle]
      simp
  have hclosed : show? [style] (.tag ('/' :: if briefly then [] else c :: body) :: rest) = show? [] rest := by
    show (close? (tagName (if briefly then [] else c :: body)) [style]).bind (fun opened => show? opened rest) = _
    rw [hclose, Option.bind_some]
  rw [show?, hname.whole]
  split
  · rename_i heq
    exact absurd (List.cons.inj heq).1 hslash
  · rw [hstyle, Option.bind_some, show?_textPiece, hclosed]

theorem close?_nil (name : List Char) : close? name [] = none := by
  unfold close?
  split
  · rfl
  · rename_i heq
    cases heq
  · cases Style.normalize? _ <;> rfl

/-- The reader keeps to the format. -/
theorem lawful_reader : Lawful reader where
  emoji := Emoji.replace_of_noColon
  plain := by
    intro cs h
    have hshow := show?_textPiece [] cs []
    rw [List.append_nil] at hshow
    show plainText? cs = some cs
    rw [plainText?, pieces_of_untagged h.untagged, hshow, show?, show Emoji.replace cs = cs from h.noEmoji]
    exact congrArg some (List.append_nil cs)
  styled := by
    intro part before rest shown hstyle hbefore htext hrest
    have hname := styleName_of_mem hstyle
    have hshown : show? [] (pieces rest) = some shown := hrest
    show plainText? _ = some _
    rw [plainText?, pieces_styled hname hbefore htext, show?_textPiece, show?_styled hname, hshown, Option.map_some,
      Option.map_some, show Emoji.replace before = before from hbefore.noEmoji,
      show Emoji.replace part.text = part.text from htext.noEmoji, List.append_assoc]
  unopened := by
    intro before name rest hbefore hname
    show plainText? _ = none
    rw [plainText?, pieces_tag hbefore.untagged hbefore.noSlash (by decide) hname, show?_textPiece]
    show Option.map _ ((close? (tagName name) []).bind _) = none
    rw [close?_nil]
    rfl

example : plainText? "Computed property ['[b]'] found.".toList = some "Computed property [''] found.".toList := by
  decide +kernel

end Markup

end ScriptLint
