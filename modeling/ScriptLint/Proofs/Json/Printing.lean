/-
What the printer writes is JSON text for the value that it was given.

`Printable` leaves out what has no text of its own: fractional numbers, which are written by
their shortest digits, and objects with a key twice. All other values are read back from
their text (`parse?_render`), whatever the indent, which only puts in blanks; so no two
of them have one text (`render_inj`).
-/
import Mathlib.Data.List.Basic
import Mathlib.Data.List.Induction
import ScriptLint.Json.Printer
import ScriptLint.Proofs.Json.Grammar

namespace ScriptLint

/-- Pairs with distinct keys are a map as they stand. -/
theorem Keyed.ofPairs_of_nodup {α : Type} {pairs : List (String × α)} (h : (keys pairs).Nodup) :
    ofPairs pairs = pairs := by
  induction pairs using List.reverseRecOn with
  | nil => rfl
  | append_singleton pairs last ih =>
    rw [keys, List.map_append, List.map_singleton, List.nodup_append] at h
    have hlast : get? last.1 pairs = none :=
      get?_eq_none_of_not_mem fun hmem => h.2.2 _ hmem _ (List.mem_singleton_self _) rfl
    rw [ofPairs, List.foldl_append, ← ofPairs, ih h.1]
    exact set_of_get?_eq_none hlast

namespace Json

/-! ## Strings -/

theorem spelled_escapeChar (c : Char) : Spelled c (escapeChar c) := by
  rw [escapeChar]
  split_ifs with hquote hbackslash hnewline hreturn htab hbackspace hfeed hcontrol
  · exact .letter (by rw [hquote]; rfl)
  · exact .letter (by rw [hbackslash]; rfl)
  · exact .letter (by rw [hnewline]; rfl)
  · exact .letter (by rw [hreturn]; rfl)
  · exact .letter (by rw [htab]; rfl)
  · exact .letter (by rw [← Char.ofNat_toNat c, hbackspace]; rfl)
  · exact .letter (by rw [← Char.ofNat_toNat c, hfeed]; rfl)
  · exact .unit (length_hexDigits 4 c.toNat) (readHex?_hexDigits (Nat.lt_trans hcontrol (by decide)))
  · exact .plain (Nat.not_lt.1 hcontrol) hquote hbackslash

theorem contents_flatMap_escapeChar (cs : List Char) : Contents cs (cs.flatMap escapeChar) := by
  induction cs with
  | nil => exact .nil
  | cons c cs ih => exact .cons (spelled_escapeChar c) ih

/-! ## Whole numbers -/

theorem digits_toDigits (n : Nat) : Digits (Nat.toDigits 10 n) :=
  ⟨Nat.toDigits_ne_nil, fun _ h => Nat.isDigit_of_mem_toDigits (by decide) (by decide) h⟩

theorem natOfDigits_toDigits (n : Nat) : natOfDigits (Nat.toDigits 10 n) = n :=
  Nat.ofDigitChars_toDigits (by decide) (by decide)

/-- Only zero has digits that begin with a zero. -/
theorem head?_toDigits {n : Nat} (hn : 0 < n) : (Nat.toDigits 10 n).head? ≠ some '0' := by
  induction n using Nat.strongRecOn with
  | ind n ih =>
    rw [Nat.toDigits_eq_if (by decide)]
    split
    · next hsmall =>
      have hdigit : ∀ d : Fin 10, d.val ≠ 0 → [d.val.digitChar].head? ≠ some '0' := by decide
      exact hdigit ⟨n, hsmall⟩ (Nat.ne_of_gt hn)
    · next hlarge =>
      rw [List.head?_append_of_ne_nil _ Nat.toDigits_ne_nil]
      exact ih (n / 10) (by omega) (by omega)

theorem noZeros_toDigits (n : Nat) : (Nat.toDigits 10 n).length = 1 ∨ (Nat.toDigits 10 n).head? ≠ some '0' := by
  cases n with
  | zero => exact .inl rfl
  | succ n => exact .inr (head?_toDigits (Nat.succ_pos n))

theorem numeral_toDigits (negative : Bool) (n : Nat) :
    Numeral (.int (if negative then -n else n)) ((if negative then ['-'] else []) ++ Nat.toDigits 10 n) := by
  have h := Numeral.intro negative (digits_toDigits n) (noZeros_toDigits n) .none .none
  rwa [numberOf, natOfDigits_toDigits, List.append_nil, List.append_nil] at h

theorem numeral_toString (value : Int) : Numeral (.int value) (toString value).toList := by
  rw [Int.toString_eq_repr]
  cases value with
  | ofNat n =>
    have h := numeral_toDigits false n
    rwa [if_neg Bool.false_ne_true, if_neg Bool.false_ne_true, List.nil_append, ← Nat.toList_repr] at h
  | negSucc n =>
    have h := numeral_toDigits true (n + 1)
    rw [if_pos rfl, if_pos rfl, ← Nat.toList_repr] at h
    rw [Int.repr, String.toList_append]
    exact h

/-! ## Values -/

mutual

/-- Whether a value has no fractional number and no object with a key twice. -/
def Printable : Json → Prop
  | .float _ => False
  | .array items => AllPrintable items
  | .object fields => (Keyed.keys fields).Nodup ∧ FieldsPrintable fields
  | _ => True

def AllPrintable : List Json → Prop
  | [] => True
  | item :: items => Printable item ∧ AllPrintable items

def FieldsPrintable : List (String × Json) → Prop
  | [] => True
  | (_, value) :: fields => Printable value ∧ FieldsPrintable fields

end

theorem allPrintable_map {α : Type} {encode : α → Json} {items : List α}
    (h : ∀ item ∈ items, Printable (encode item)) : AllPrintable (items.map encode) := by
  induction items with
  | nil => exact trivial
  | cons item items ih => exact ⟨h _ List.mem_cons_self, ih fun other hother => h _ (List.mem_cons_of_mem _ hother)⟩

theorem blanks_lineBreak (indent : Option Nat) (depth : Nat) : Blanks (lineBreak indent depth) := by
  cases indent with
  | none => exact blanks_nil
  | some width =>
    intro c hc
    rcases List.mem_cons.1 hc with rfl | hc
    · rfl
    · rw [(List.mem_replicate.1 hc).2]
      rfl

/-- The blank behind the colon of a key, when there is an indent. -/
def keyGap (indent : Option Nat) : List Char := if indent.isSome then [' '] else []

theorem blanks_keyGap (indent : Option Nat) : Blanks (keyGap indent) := by
  cases indent with
  | none => exact blanks_nil
  | some _ =>
    intro c hc
    rw [List.mem_singleton.1 hc]
    rfl

theorem colon_eq (indent : Option Nat) : colon indent = ':' :: keyGap indent := by
  cases indent <;> rfl

theorem label_stringChars {before : List Char} (hbefore : Blanks before) (key : String) :
    Label key (before ++ (stringChars key ++ [':'])) := by
  have h := Label.intro hbefore (contents_flatMap_escapeChar key.toList) blanks_nil
  rw [String.ofList_toList] at h
  simpa [stringChars] using h

mutual

theorem written_chars (indent : Option Nat) (depth : Nat) : ∀ {v : Json}, Printable v →
    Written (.value v) (chars indent depth v)
  | .null, _ => .null
  | .bool true, _ => .isTrue
  | .bool false, _ => .isFalse
  | .int value, _ => .number (numeral_toString value)
  | .string value, _ => by
    have h := Written.string (contents_flatMap_escapeChar value.toList)
    rwa [String.ofList_toList] at h
  | .array [], _ => .noItems blanks_nil
  | .array (item :: items), h => by
    obtain ⟨inside, htext, hinside⟩ := written_itemsChars indent depth h.2 (blanks_lineBreak indent (depth + 1))
      (written_chars indent (depth + 1) h.1)
    rw [chars, List.cons_append, List.cons_append, List.append_assoc, htext]
    exact .array hinside
  | .object [], _ => .noFields blanks_nil
  | .object ((key, value) :: fields), h => by
    obtain ⟨inside, htext, hinside⟩ := written_fieldsChars indent depth h.2.2
      (label_stringChars (blanks_lineBreak indent (depth + 1)) key) (written_chars indent (depth + 1) h.2.1)
    have hobject := Written.object hinside
    rw [Keyed.ofPairs_of_nodup h.1] at hobject
    simp only [List.append_assoc, List.singleton_append] at htext
    simpa [chars, colon_eq, htext] using hobject

/-- An item and those after it, up to the closing bracket. -/
theorem written_itemsChars (indent : Option Nat) (depth : Nat) : ∀ {item : Json} {items : List Json}
    {before cs : List Char}, AllPrintable items → Blanks before → Written (.value item) cs →
      ∃ inside, before ++ (cs ++ itemsChars indent depth items) = inside ++ [']'] ∧
        Written (.items (item :: items)) inside
  | _, [], before, cs, _, hbefore, h =>
    ⟨before ++ (cs ++ lineBreak indent depth), by simp [itemsChars],
      .lastItem (.item hbefore h (blanks_lineBreak indent depth))⟩
  | _, next :: items, before, cs, hitems, hbefore, h => by
    obtain ⟨inside, htext, hinside⟩ := written_itemsChars indent depth hitems.2 (blanks_lineBreak indent (depth + 1))
      (written_chars indent (depth + 1) hitems.1)
    refine ⟨_, ?_, .moreItems (.item hbefore h blanks_nil) hinside⟩
    simp [itemsChars, htext]

/-- A field and those after it, up to the closing bracket. -/
theorem written_fieldsChars (indent : Option Nat) (depth : Nat) : ∀ {key : String} {value : Json}
    {fields : List (String × Json)} {label cs : List Char}, FieldsPrintable fields → Label key label →
      Written (.value value) cs →
        ∃ inside, label ++ (keyGap indent ++ (cs ++ fieldsChars indent depth fields)) = inside ++ ['\x7d'] ∧
          Written (.fields ((key, value) :: fields)) inside
  | _, _, [], label, cs, _, hlabel, h =>
    ⟨label ++ (keyGap indent ++ (cs ++ lineBreak indent depth)), by simp [fieldsChars],
      .lastField hlabel (.item (blanks_keyGap indent) h (blanks_lineBreak indent depth))⟩
  | _, _, (key, value) :: fields, label, cs, hfields, hlabel, h => by
    obtain ⟨inside, htext, hinside⟩ := written_fieldsChars indent depth hfields.2
      (label_stringChars (blanks_lineBreak indent (depth + 1)) key) (written_chars indent (depth + 1) hfields.1)
    refine ⟨_, ?_, .moreFields hlabel (.item (blanks_keyGap indent) h blanks_nil) hinside⟩
    simp only [List.append_assoc, List.singleton_append] at htext
    simp [fieldsChars, colon_eq, htext]

end

/-! ## Texts -/

variable {v w : Json}

theorem text_render (h : Printable v) (indent : Option Nat) : Text v (v.render indent) := by
  have hitem := Written.item blanks_nil (written_chars indent 0 h) blanks_nil
  rw [List.nil_append, List.append_nil] at hitem
  rwa [Text, render, String.toList_ofList]

theorem parse?_render (h : Printable v) (indent : Option Nat) : parse? (v.render indent) = some v :=
  parse?_of_text (text_render h indent)

theorem render_inj (hv : Printable v) (hw : Printable w) (indent : Option Nat) :
    v.render indent = w.render indent ↔ v = w := by
  constructor
  · intro h
    have hread := parse?_render hv indent
    rw [h, parse?_render hw indent] at hread
    exact (Option.some.inj hread).symm
  · rintro rfl
    rfl

end Json

end ScriptLint
