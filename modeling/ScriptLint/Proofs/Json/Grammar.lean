/-
The grammar of JSON texts.

A text stands for a value when it can be written for it (`Written`): with blanks between the
parts, characters of strings as themselves or escaped, whole numbers without needless
zeros. The reader finds that value in every such text (`parse?_of_text`), so no text
stands for two values (`Text.unique`).
-/
import ScriptLint.Json.Parser

namespace ScriptLint

namespace Json

/-! ## Texts -/

/-- Blanks, which may stand between any two parts of a text. -/
def Blanks (cs : List Char) : Prop := ∀ c ∈ cs, isSpace c = true

/-- A character as it may be written in a string: as itself, by a letter, by its number in four hexadecimal
digits, or by the two UTF-16 units of a number that has more. -/
inductive Spelled : Char → List Char → Prop where
  | plain {c : Char} (visible : 32 ≤ c.toNat) (noQuote : c ≠ '"') (noBackslash : c ≠ '\\') : Spelled c [c]
  | letter {c letter : Char} (meaning : simpleEscape? letter = some c) : Spelled c ['\\', letter]
  | unit {c : Char} {digits : List Char} (four : digits.length = 4) (number : readHex? digits = some c.toNat) :
    Spelled c ('\\' :: 'u' :: digits)
  | pair {c : Char} {high low : List Char} (large : 0x10000 ≤ c.toNat) (four : high.length = 4)
    (four' : low.length = 4) (number : readHex? high = some (0xd800 + (c.toNat - 0x10000) / 0x400))
    (number' : readHex? low = some (0xdc00 + (c.toNat - 0x10000) % 0x400)) :
    Spelled c ('\\' :: 'u' :: high ++ '\\' :: 'u' :: low)

/-- Characters as they may be written in a string, one after another. -/
inductive Contents : List Char → List Char → Prop where
  | nil : Contents [] []
  | cons {c : Char} {cs spelling text : List Char} (first : Spelled c spelling) (rest : Contents cs text) :
    Contents (c :: cs) (spelling ++ text)

/-- One digit or more. -/
def Digits (cs : List Char) : Prop := cs ≠ [] ∧ ∀ c ∈ cs, isAsciiDigit c = true

/-- The digits behind a point, if there is one. -/
inductive Fraction : Option (List Char) → List Char → Prop where
  | none : Fraction none []
  | some {digits : List Char} (h : Digits digits) : Fraction (some digits) ('.' :: digits)

/-- A power of ten, if there is one. -/
inductive Exponent : Option Int → List Char → Prop where
  | none : Exponent none []
  | unsigned {e : Char} {digits : List Char} (he : e = 'e' ∨ e = 'E') (h : Digits digits) :
    Exponent (some (natOfDigits digits)) (e :: digits)
  | plus {e : Char} {digits : List Char} (he : e = 'e' ∨ e = 'E') (h : Digits digits) :
    Exponent (some (natOfDigits digits)) (e :: '+' :: digits)
  | minus {e : Char} {digits : List Char} (he : e = 'e' ∨ e = 'E') (h : Digits digits) :
    Exponent (some (-natOfDigits digits)) (e :: '-' :: digits)

/-- The number that digits stand for: a whole one without a fraction and an exponent. -/
def numberOf (negative : Bool) (whole : List Char) : Option (List Char) → Option Int → Json
  | none, none => .int (if negative then -natOfDigits whole else natOfDigits whole)
  | fraction, exponent =>
    .float (Binary64.ofDecimal negative (natOfDigits (whole ++ fraction.getD []))
      (exponent.getD 0 - (fraction.getD []).length))

inductive Numeral : Json → List Char → Prop where
  | intro (negative : Bool) {whole after after' : List Char} {fraction : Option (List Char)} {exponent : Option Int}
    (digits : Digits whole) (noZeros : whole.length = 1 ∨ whole.head? ≠ some '0')
    (hfraction : Fraction fraction after) (hexponent : Exponent exponent after') :
    Numeral (numberOf negative whole fraction exponent)
      ((if negative then ['-'] else []) ++ (whole ++ (after ++ after')))

/-- What a piece of text can stand for. -/
inductive Part where
  | value (value : Json)
  /-- A value with blanks around it. -/
  | item (value : Json)
  | items (items : List Json)
  | fields (fields : List (String × Json))

/-- A key as it may be written in front of a value. -/
inductive Label : String → List Char → Prop where
  | intro {key : List Char} {before text between : List Char} (hbefore : Blanks before) (h : Contents key text)
    (hbetween : Blanks between) :
    Label (String.ofList key) (before ++ '"' :: (text ++ '"' :: (between ++ [':'])))

/-- A piece of text that can be written for a part. Of several fields with one key the last counts, in the
place of the first. -/
inductive Written : Part → List Char → Prop where
  | null : Written (.value .null) ['n', 'u', 'l', 'l']
  | isTrue : Written (.value (.bool true)) ['t', 'r', 'u', 'e']
  | isFalse : Written (.value (.bool false)) ['f', 'a', 'l', 's', 'e']
  | number {value : Json} {cs : List Char} (h : Numeral value cs) : Written (.value value) cs
  | string {s cs : List Char} (h : Contents s cs) :
    Written (.value (.string (String.ofList s))) ('"' :: (cs ++ ['"']))
  | noItems {inside : List Char} (h : Blanks inside) : Written (.value (.array [])) ('[' :: (inside ++ [']']))
  | array {items : List Json} {cs : List Char} (h : Written (.items items) cs) :
    Written (.value (.array items)) ('[' :: (cs ++ [']']))
  | noFields {inside : List Char} (h : Blanks inside) : Written (.value (.object [])) ('\x7b' :: (inside ++ ['\x7d']))
  | object {fields : List (String × Json)} {cs : List Char} (h : Written (.fields fields) cs) :
    Written (.value (.object (Keyed.ofPairs fields))) ('\x7b' :: (cs ++ ['\x7d']))
  | item {value : Json} {before cs after : List Char} (hbefore : Blanks before) (h : Written (.value value) cs)
    (hafter : Blanks after) : Written (.item value) (before ++ (cs ++ after))
  | lastItem {item : Json} {cs : List Char} (h : Written (.item item) cs) : Written (.items [item]) cs
  | moreItems {item : Json} {items : List Json} {cs more : List Char} (h : Written (.item item) cs)
    (rest : Written (.items items) more) : Written (.items (item :: items)) (cs ++ ',' :: more)
  | lastField {key : String} {item : Json} {label cs : List Char} (hlabel : Label key label)
    (h : Written (.item item) cs) : Written (.fields [(key, item)]) (label ++ cs)
  | moreFields {key : String} {item : Json} {fields : List (String × Json)} {label cs more : List Char}
    (hlabel : Label key label) (h : Written (.item item) cs) (rest : Written (.fields fields) more) :
    Written (.fields ((key, item) :: fields)) (label ++ (cs ++ ',' :: more))

/-- A text that stands for a value. -/
def Text (value : Json) (text : String) : Prop := Written (.item value) text.toList

/-! ## Blanks -/

variable {cs rest : List Char}

theorem blanks_nil : Blanks [] := fun _ h => absurd h List.not_mem_nil

theorem skipSpace_append {blanks : List Char} (h : Blanks blanks) (cs : List Char) :
    skipSpace (blanks ++ cs) = skipSpace cs :=
  List.dropWhile_append_of_pos h

theorem skipSpace_of_not {c : Char} (h : isSpace c = false) (cs : List Char) : skipSpace (c :: cs) = c :: cs :=
  List.dropWhile_cons_of_neg (by rw [h]; exact Bool.false_ne_true)

theorem skipSpace_blanks {blanks : List Char} (h : Blanks blanks) : skipSpace blanks = [] := by
  rw [← List.append_nil blanks, skipSpace_append h]
  rfl

theorem value_append {blanks : List Char} (h : Blanks blanks) (fuel : Nat) (cs : List Char) :
    value fuel (blanks ++ cs) = value fuel cs := by
  cases fuel with
  | zero => rfl
  | succ fuel => rw [value, value, skipSpace_append h]

/-! ## Strings -/

theorem ofUnits_single (c : Char) : ofUnits c.toNat none = some c := by
  have hscalar : ¬ (0xd800 ≤ c.toNat ∧ c.toNat ≤ 0xdfff) := by
    have hvalid : c.toNat < 0xd800 ∨ 0xdfff < c.toNat ∧ c.toNat < 0x110000 := c.valid
    omega
  rw [ofUnits, if_neg hscalar, Char.ofNat_toNat]

theorem ofUnits_scalar (c : Char) (low : Nat) : ofUnits c.toNat (some low) = none := by
  have hvalid : c.toNat < 0xd800 ∨ 0xdfff < c.toNat ∧ c.toNat < 0x110000 := c.valid
  rw [ofUnits]
  exact if_neg (by omega)

theorem ofUnits_pair {c : Char} (large : 0x10000 ≤ c.toNat) :
    ofUnits (0xd800 + (c.toNat - 0x10000) / 0x400) (some (0xdc00 + (c.toNat - 0x10000) % 0x400)) = some c := by
  have hvalid : c.toNat < 0xd800 ∨ 0xdfff < c.toNat ∧ c.toNat < 0x110000 := c.valid
  have hnumber : 0x10000 + (0xd800 + (c.toNat - 0x10000) / 0x400 - 0xd800) * 0x400 +
      (0xdc00 + (c.toNat - 0x10000) % 0x400 - 0xdc00) = c.toNat := by omega
  rw [ofUnits, if_pos (by omega), hnumber, Char.ofNat_toNat]

theorem stringBody_plain {c : Char} (visible : 32 ≤ c.toNat) (noQuote : c ≠ '"') (noBackslash : c ≠ '\\')
    (cs : List Char) : stringBody (c :: cs) = (stringBody cs).map fun (s, after) => (c :: s, after) := by
  have hctrl : ¬ c.toNat < 32 := by omega
  simp [stringBody, noBackslash, hctrl]

theorem stringBody_letter {c letter : Char} (meaning : simpleEscape? letter = some c) (cs : List Char) :
    stringBody ('\\' :: letter :: cs) = (stringBody cs).map fun (s, after) => (c :: s, after) := by
  have hletter : letter ≠ 'u' := by
    rintro rfl
    cases meaning
  simp [stringBody, hletter, meaning]

theorem stringBody_badUnit {x y z w : Char} (bad : readHex? [x, y, z, w] = none) (cs : List Char) :
    stringBody ('\\' :: 'u' :: x :: y :: z :: w :: cs) = none := by
  rw [stringBody.eq_def]
  split
  · rfl
  · next h => cases h
  · next h =>
    cases h
    rw [bad]
  · next h =>
    cases h
    rw [bad]
    rfl
  · next other h =>
    cases h
    exact absurd rfl (other _ _ _ _ _ rfl)
  · next other h =>
    cases h
    exact absurd rfl (other _ _ rfl)

/-- A single unit is read as its character; an escape behind it is its own. -/
theorem stringBody_unit {c : Char} {digits s : List Char} (four : digits.length = 4)
    (number : readHex? digits = some c.toNat) {cs after : List Char} (h : stringBody cs = some (s, after)) :
    stringBody ('\\' :: 'u' :: (digits ++ cs)) = some (c :: s, after) := by
  match digits, four with
  | [x, y, z, w], _ =>
    by_cases hnext : ∃ e f g i more, cs = '\\' :: 'u' :: e :: f :: g :: i :: more
    · obtain ⟨e, f, g, i, more, rfl⟩ := hnext
      cases hlow : readHex? [e, f, g, i] with
      | none =>
        rw [stringBody_badUnit hlow] at h
        cases h
      | some low =>
        simp only [List.cons_append, List.nil_append]
        rw [stringBody, number, hlow]
        dsimp only
        rw [ofUnits_scalar, ofUnits_single, h]
        rfl
    · simp only [List.cons_append, List.nil_append]
      rw [stringBody, number, h]
      · simp [ofUnits_single]
      · rintro e f g i more rfl
        exact hnext ⟨e, f, g, i, more, rfl⟩

theorem stringBody_pair {c : Char} {high low : List Char} {first second : Nat} (four : high.length = 4)
    (four' : low.length = 4) (number : readHex? high = some first) (number' : readHex? low = some second)
    (hpair : ofUnits first (some second) = some c) (cs : List Char) :
    stringBody ('\\' :: 'u' :: (high ++ '\\' :: 'u' :: (low ++ cs))) =
      (stringBody cs).map fun (s, after) => (c :: s, after) := by
  match high, four, low, four' with
  | [x, y, z, w], _, [e, f, g, i], _ =>
    simp only [List.cons_append, List.nil_append]
    rw [stringBody, number, number']
    dsimp only
    rw [hpair]

/-- What is written in a string is read up to the closing quote. -/
theorem stringBody_contents {s text : List Char} (h : Contents s text) (rest : List Char) :
    stringBody (text ++ '"' :: rest) = some (s, rest) := by
  induction h with
  | nil => simp [stringBody]
  | @cons c s spelling text first contents ih =>
    rw [List.append_assoc]
    cases first with
    | plain visible noQuote noBackslash =>
      rw [List.singleton_append, stringBody_plain visible noQuote noBackslash, ih]
      rfl
    | letter meaning =>
      rw [List.cons_append, List.singleton_append, stringBody_letter meaning, ih]
      rfl
    | unit four number => exact stringBody_unit four number ih
    | pair large four four' number number' =>
      rw [List.cons_append, List.cons_append, List.append_assoc, List.cons_append, List.cons_append, List.cons_append,
        stringBody_pair four four' number number' (ofUnits_pair large), ih]
      rfl

/-! ## Numbers -/

/-- A text that does not go on with a character of a sort. -/
def Stops (p : Char → Bool) (cs : List Char) : Prop := ∀ c ∈ cs.head?, p c = false

theorem takeWhile_stops {p : Char → Bool} (hcs : ∀ c ∈ cs, p c = true) (hrest : Stops p rest) :
    (cs ++ rest).takeWhile p = cs ∧ (cs ++ rest).dropWhile p = rest := by
  rw [List.takeWhile_append_of_pos hcs, List.dropWhile_append_of_pos hcs]
  cases rest with
  | nil => simp
  | cons c rest =>
    have hc : ¬ p c = true := Bool.eq_false_iff.1 (hrest c rfl)
    rw [List.takeWhile_cons_of_neg hc, List.dropWhile_cons_of_neg hc, List.append_nil]
    exact ⟨rfl, rfl⟩

theorem Digits.exists_cons (h : Digits cs) : ∃ c tail, cs = c :: tail ∧ isAsciiDigit c = true := by
  cases cs with
  | nil => exact absurd rfl h.1
  | cons c tail => exact ⟨c, tail, rfl, h.2 c List.mem_cons_self⟩

/-- What may go on a number. -/
def inNumber (c : Char) : Bool := isAsciiDigit c || c = '.' || c = 'e' || c = 'E'

theorem Stops.mono {p q : Char → Bool} (h : Stops p cs) (hsub : ∀ c, q c = true → p c = true) : Stops q cs :=
  fun c hc => Bool.eq_false_iff.2 fun hq => Bool.eq_false_iff.1 (h c hc) (hsub c hq)

/-- What an exponent is read as, once the sign of its digits is known. -/
theorem exponentPart_digits {e : Char} (he : e = 'e' ∨ e = 'E') {digits : List Char} (hdigits : Digits digits)
    (hrest : Stops isAsciiDigit rest) :
    exponentPart (e :: (digits ++ rest)) = (some (natOfDigits digits : Int), rest) ∧
      exponentPart (e :: '+' :: (digits ++ rest)) = (some (natOfDigits digits : Int), rest) ∧
      exponentPart (e :: '-' :: (digits ++ rest)) = (some (-(natOfDigits digits : Int)), rest) := by
  obtain ⟨htake, hdrop⟩ := takeWhile_stops hdigits.2 hrest
  obtain ⟨c, tail, rfl, hc⟩ := hdigits.exists_cons
  have hmark : (decide (e = 'e') || decide (e = 'E')) = true := by simpa using he
  have hplus : c ≠ '+' := by rintro rfl; cases hc
  have hminus : c ≠ '-' := by rintro rfl; cases hc
  rw [List.cons_append] at htake hdrop
  refine ⟨?_, ?_, ?_⟩ <;> simp [exponentPart, hmark, htake, hdrop, hplus, hminus]

theorem exponentPart_exponent {exponent : Option Int} (h : Exponent exponent cs) (hrest : Stops inNumber rest) :
    exponentPart (cs ++ rest) = (exponent, rest) := by
  have hstops : Stops isAsciiDigit rest := hrest.mono fun c hc => by simp [inNumber, hc]
  cases h with
  | none =>
    cases rest with
    | nil => rfl
    | cons c rest =>
      have hc := hrest c rfl
      simp only [inNumber, Bool.or_eq_false_iff, decide_eq_false_iff_not] at hc
      simp [exponentPart, hc]
  | unsigned he digits => exact (exponentPart_digits he digits hstops).1
  | plus he digits => exact (exponentPart_digits he digits hstops).2.1
  | minus he digits => exact (exponentPart_digits he digits hstops).2.2

theorem fractionPart_fraction {fraction : Option (List Char)} (h : Fraction fraction cs)
    (hrest : Stops (fun c => isAsciiDigit c || c = '.') rest) : fractionPart (cs ++ rest) = (fraction, rest) := by
  cases h with
  | none =>
    cases rest with
    | nil => rfl
    | cons c rest =>
      have hc := hrest c rfl
      simp only [Bool.or_eq_false_iff, decide_eq_false_iff_not] at hc
      rw [List.nil_append, fractionPart]
      rintro other h
      exact hc.2 (List.cons.inj h).1
  | some digits =>
    obtain ⟨htake, hdrop⟩ := takeWhile_stops digits.2 (hrest.mono fun c hc => by simp [hc])
    rw [List.cons_append, fractionPart, htake, hdrop]
    split
    · exact absurd rfl digits.1
    · rfl

/-- What is behind the digits of a number does not go on with a digit. -/
theorem stops_exponent {exponent : Option Int} (h : Exponent exponent cs) (hrest : Stops inNumber rest) :
    Stops (fun c => isAsciiDigit c || c = '.') (cs ++ rest) := by
  have hmark : ∀ {e : Char}, e = 'e' ∨ e = 'E' → (isAsciiDigit e || e = '.') = false := by
    rintro e (rfl | rfl) <;> decide
  cases h with
  | none => exact hrest.mono fun c hc => by simp [inNumber, hc]
  | unsigned he _ | plus he _ | minus he _ =>
    intro c hc
    obtain rfl := Option.some.inj hc
    exact hmark he

theorem number_numeral {value : Json} (h : Numeral value cs) (hrest : Stops inNumber rest) :
    number (cs ++ rest) = some (value, rest) := by
  cases h with
  | @intro negative whole after after' fraction exponent digits noZeros hfraction hexponent =>
    have hlater := stops_exponent hexponent hrest
    have hafter : Stops isAsciiDigit (after ++ (after' ++ rest)) := by
      cases hfraction with
      | none => exact hlater.mono fun c hc => by simp [hc]
      | some _ =>
        intro c hc
        obtain rfl := Option.some.inj hc
        rfl
    obtain ⟨htake, hdrop⟩ := takeWhile_stops digits.2 hafter
    have hzeros : ¬ (whole.length ≠ 1 ∧ whole.head? = some '0') := fun h => noZeros.elim h.1 fun hne => hne h.2
    obtain ⟨c, tail, rfl, hc⟩ := digits.exists_cons
    have hminus : c ≠ '-' := by rintro rfl; cases hc
    rw [List.cons_append] at htake hdrop
    have hsigned : number ((if negative then ['-'] else []) ++ (c :: tail ++ (after ++ after')) ++ rest) =
        if (c :: tail).length ≠ 1 ∧ (c :: tail).head? = some '0' then none
        else
          some (numberOf negative (c :: tail) (fractionPart (after ++ (after' ++ rest))).1
            (exponentPart (fractionPart (after ++ (after' ++ rest))).2).1,
            (exponentPart (fractionPart (after ++ (after' ++ rest))).2).2) := by
      cases negative with
      | true =>
        simp only [if_true, List.cons_append, List.nil_append, List.append_assoc, number, htake, hdrop]
        split
        · rfl
        · split <;> simp_all [numberOf]
      | false =>
        simp only [Bool.false_eq_true, if_false, List.cons_append, List.nil_append, List.append_assoc, number, hminus,
          List.cons.injEq, false_and, imp_false, not_false_eq_true, implies_true, htake, hdrop]
        split
        · rfl
        · split <;> simp_all [numberOf]
    rw [hsigned, if_neg hzeros, fractionPart_fraction hfraction hlater]
    dsimp only
    rw [exponentPart_exponent hexponent hrest]

/-! ## Values -/

theorem value_number {c : Char} (h : isAsciiDigit c = true ∨ c = '-') (fuel : Nat) (cs : List Char) :
    value (fuel + 1) (c :: cs) = number (c :: cs) := by
  have hother : ∀ d : Char, isAsciiDigit d = false → d ≠ '-' → c ≠ d := by
    rintro d hdigit hminus rfl
    rcases h with h | h
    · rw [hdigit] at h
      cases h
    · exact hminus h
  have hspace : isSpace c = false := by
    simp [isSpace, hother ' ' (by decide) (by decide), hother '\n' (by decide) (by decide),
      hother '\r' (by decide) (by decide), hother '\t' (by decide) (by decide)]
  rw [value, skipSpace_of_not hspace]
  split
  · next h => cases h; exact absurd rfl (hother 'n' (by decide) (by decide))
  · next h => cases h; exact absurd rfl (hother 't' (by decide) (by decide))
  · next h => cases h; exact absurd rfl (hother 'f' (by decide) (by decide))
  · next h => cases h; exact absurd rfl (hother '"' (by decide) (by decide))
  · next h => cases h; exact absurd rfl (hother '[' (by decide) (by decide))
  · next h => cases h; exact absurd rfl (hother '\x7b' (by decide) (by decide))
  · rfl

/-- A number begins with a digit or a minus sign. -/
theorem Numeral.exists_cons {value : Json} (h : Numeral value cs) :
    ∃ c tail, cs = c :: tail ∧ (isAsciiDigit c = true ∨ c = '-') := by
  cases h with
  | @intro negative whole after after' fraction exponent digits noZeros hfraction hexponent =>
    obtain ⟨c, tail, rfl, hc⟩ := digits.exists_cons
    cases negative with
    | true => exact ⟨'-', _, rfl, .inr rfl⟩
    | false => exact ⟨c, _, rfl, .inl hc⟩

/-- A value begins with no blank and no closing bracket. -/
theorem Written.opening {v : Json} (h : Written (.value v) cs) :
    ∃ c tail, cs = c :: tail ∧ isSpace c = false ∧ c ≠ ']' := by
  cases h with
  | null | isTrue | isFalse | string _ | noItems _ | array _ | noFields _ | object _ =>
    exact ⟨_, _, rfl, by decide, by decide⟩
  | number h =>
    obtain ⟨c, tail, rfl, hc⟩ := h.exists_cons
    refine ⟨c, tail, rfl, ?_, ?_⟩
    · rcases hc with hc | rfl
      · refine Bool.eq_false_iff.2 fun hspace => ?_
        simp only [isSpace, Bool.or_eq_true, decide_eq_true_eq] at hspace
        rcases hspace with ((rfl | rfl) | rfl) | rfl <;> cases hc
      · rfl
    · rintro rfl
      rcases hc with hc | hc <;> cases hc

theorem Written.opening_items {items : List Json} (h : Written (.items items) cs) (rest : List Char) :
    ∃ c tail, skipSpace (cs ++ rest) = c :: tail ∧ c ≠ ']' := by
  have hitem : ∀ {item : Json} {cs : List Char}, Written (.item item) cs → ∀ rest,
      ∃ c tail, skipSpace (cs ++ rest) = c :: tail ∧ c ≠ ']' := by
    intro item cs h rest
    cases h with
    | item hbefore h hafter =>
      obtain ⟨c, tail, rfl, hspace, hc⟩ := h.opening
      exact ⟨c, _, by rw [List.append_assoc, skipSpace_append hbefore]; exact skipSpace_of_not hspace _, hc⟩
  cases h with
  | lastItem h => exact hitem h rest
  | moreItems h _ =>
    rw [List.append_assoc]
    exact hitem h _

/-- A label is a key in quotes and a colon, apart from blanks. -/
theorem Label.skipSpace_append {key : String} {label : List Char} (h : Label key label) (rest : List Char) :
    ∃ text more, Contents key.toList text ∧ skipSpace (label ++ rest) = '"' :: (text ++ '"' :: more) ∧
      skipSpace more = ':' :: rest := by
  cases h with
  | @intro key before text between hbefore h hbetween =>
    refine ⟨text, between ++ ':' :: rest, by rwa [String.toList_ofList], ?_, Json.skipSpace_append hbetween _⟩
    simp only [List.append_assoc, List.cons_append, Json.skipSpace_append hbefore]
    rfl

theorem Written.opening_fields {fields : List (String × Json)} (h : Written (.fields fields) cs) (rest : List Char) :
    ∃ tail, skipSpace (cs ++ rest) = '"' :: tail := by
  cases h with
  | lastField hlabel _ | moreFields hlabel _ _ =>
    rw [List.append_assoc]
    obtain ⟨text, more, -, h, -⟩ := hlabel.skipSpace_append _
    exact ⟨_, h⟩

section Label

variable {key : String} {label after more : List Char} {fuel : Nat} {item : Json}

/-- A key and a value, and then the closing bracket. -/
theorem members_last (h : Label key label) (hvalue : value fuel rest = some (item, more))
    (hafter : skipSpace more = '\x7d' :: after) :
    members (fuel + 1) (label ++ rest) = some ([(key, item)], after) := by
  obtain ⟨text, behind, contents, hskip, hcolon⟩ := h.skipSpace_append rest
  simp only [members, hskip, stringBody_contents contents, hcolon, hvalue, hafter, String.ofList_toList]

/-- A key and a value, and then more fields. -/
theorem members_more (h : Label key label) (hvalue : value fuel rest = some (item, more))
    (hafter : skipSpace more = ',' :: after) :
    members (fuel + 1) (label ++ rest) =
      (members fuel after).map fun (fields, after) => ((key, item) :: fields, after) := by
  obtain ⟨text, behind, contents, hskip, hcolon⟩ := h.skipSpace_append rest
  simp only [members, hskip, stringBody_contents contents, hcolon, hvalue, hafter, String.ofList_toList]

end Label

/-! ## Reading -/

/-- What the reader makes of a piece of text, given as many steps as it has characters. -/
def Reads : Part → List Char → Prop
  | .value v, cs => ∀ fuel rest, cs.length ≤ fuel → Stops inNumber rest → value fuel (cs ++ rest) = some (v, rest)
  | .item v, cs => ∀ fuel rest, cs.length ≤ fuel → Stops inNumber rest →
    ∃ after, Blanks after ∧ value fuel (cs ++ rest) = some (v, after ++ rest)
  | .items items, cs => ∀ fuel rest, cs.length < fuel → elements fuel (cs ++ ']' :: rest) = some (items, rest)
  | .fields fields, cs => ∀ fuel rest, cs.length < fuel → members fuel (cs ++ '\x7d' :: rest) = some (fields, rest)

theorem stops_blanks {blanks : List Char} (h : Blanks blanks) (hrest : Stops inNumber rest) :
    Stops inNumber (blanks ++ rest) := by
  cases blanks with
  | nil => exact hrest
  | cons c blanks =>
    intro other hother
    obtain rfl := Option.some.inj hother
    have hspace := h _ List.mem_cons_self
    simp only [isSpace, Bool.or_eq_true, decide_eq_true_eq] at hspace
    rcases hspace with ((rfl | rfl) | rfl) | rfl <;> decide

theorem stops_cons {c : Char} (h : inNumber c = false) : Stops inNumber (c :: rest) := by
  intro other hother
  obtain rfl := Option.some.inj hother
  exact h

theorem value_bracket (fuel : Nat) (cs : List Char) : value (fuel + 1) ('[' :: cs) = match skipSpace cs with
    | ']' :: after => some (.array [], after)
    | _ => (elements fuel cs).map fun (items, after) => (.array items, after) := rfl

theorem value_brace (fuel : Nat) (cs : List Char) : value (fuel + 1) ('\x7b' :: cs) = match skipSpace cs with
    | '\x7d' :: after => some (.object [], after)
    | _ => (members fuel cs).map fun (fields, after) => (.object (Keyed.ofPairs fields), after) := rfl

theorem value_array (fuel : Nat) (hcs : ∃ c tail, skipSpace cs = c :: tail ∧ c ≠ ']') :
    value (fuel + 1) ('[' :: cs) = (elements fuel cs).map fun (items, after) => (.array items, after) := by
  obtain ⟨c, tail, hskip, hc⟩ := hcs
  rw [value_bracket]
  split
  · next h =>
    rw [hskip] at h
    exact absurd (List.cons.inj h).1 hc
  · rfl

theorem value_object (fuel : Nat) (hcs : ∃ tail, skipSpace cs = '"' :: tail) :
    value (fuel + 1) ('\x7b' :: cs) =
      (members fuel cs).map fun (fields, after) => (.object (Keyed.ofPairs fields), after) := by
  obtain ⟨tail, hskip⟩ := hcs
  rw [value_brace, hskip]
  rfl

/-- An item and then the closing bracket. -/
theorem elements_last {fuel : Nat} {item : Json} {after more : List Char} (hvalue : value fuel cs = some (item, more))
    (hafter : skipSpace more = ']' :: after) : elements (fuel + 1) cs = some ([item], after) := by
  simp only [elements, hvalue, hafter]

/-- An item and then more of them. -/
theorem elements_more {fuel : Nat} {item : Json} {after more : List Char} (hvalue : value fuel cs = some (item, more))
    (hafter : skipSpace more = ',' :: after) :
    elements (fuel + 1) cs = (elements fuel after).map fun (items, after) => (item :: items, after) := by
  simp only [elements, hvalue, hafter]

theorem exists_steps {n fuel : Nat} (h : n < fuel) : ∃ steps, fuel = steps + 1 ∧ n ≤ steps :=
  ⟨fuel - 1, by omega, by omega⟩

/-- The reader finds what a text is written for. By induction on how it is written: each part takes at least
one character, so the steps last. -/
theorem reads_of_written {part : Part} (h : Written part cs) : Reads part cs := by
  induction h with
  | null | isTrue | isFalse =>
    intro fuel rest hfuel _
    obtain ⟨fuel, rfl, -⟩ := exists_steps hfuel
    rfl
  | number h =>
    intro fuel rest hfuel hrest
    obtain ⟨c, tail, rfl, hc⟩ := h.exists_cons
    obtain ⟨fuel, rfl, -⟩ := exists_steps hfuel
    rw [List.cons_append, value_number hc]
    exact number_numeral h hrest
  | @string s cs h =>
    intro fuel rest hfuel _
    obtain ⟨fuel, rfl, -⟩ := exists_steps hfuel
    have hstring : value (fuel + 1) ('"' :: (cs ++ '"' :: rest)) =
        (stringBody (cs ++ '"' :: rest)).map fun (s, after) => (.string (String.ofList s), after) := rfl
    rw [List.cons_append, List.append_assoc, List.singleton_append, hstring, stringBody_contents h]
    rfl
  | @noItems inside h =>
    intro fuel rest hfuel _
    obtain ⟨fuel, rfl, -⟩ := exists_steps hfuel
    rw [List.cons_append, List.append_assoc, List.singleton_append, value_bracket, skipSpace_append h]
    rfl
  | @array items cs h ih =>
    intro fuel rest hfuel _
    obtain ⟨fuel, rfl, hsteps⟩ := exists_steps hfuel
    rw [List.length_append, List.length_singleton] at hsteps
    rw [List.cons_append, List.append_assoc, List.singleton_append, value_array fuel (h.opening_items _),
      ih fuel rest hsteps]
    rfl
  | @noFields inside h =>
    intro fuel rest hfuel _
    obtain ⟨fuel, rfl, -⟩ := exists_steps hfuel
    rw [List.cons_append, List.append_assoc, List.singleton_append, value_brace, skipSpace_append h]
    rfl
  | @object fields cs h ih =>
    intro fuel rest hfuel _
    obtain ⟨fuel, rfl, hsteps⟩ := exists_steps hfuel
    rw [List.length_append, List.length_singleton] at hsteps
    rw [List.cons_append, List.append_assoc, List.singleton_append, value_object fuel (h.opening_fields _),
      ih fuel rest hsteps]
    rfl
  | @item v before cs after hbefore h hafter ih =>
    intro fuel rest hfuel hrest
    rw [List.length_append, List.length_append] at hfuel
    refine ⟨after, hafter, ?_⟩
    rw [List.append_assoc, List.append_assoc, value_append hbefore]
    exact ih fuel _ (by omega) (stops_blanks hafter hrest)
  | @lastItem v cs h ih =>
    intro fuel rest hfuel
    obtain ⟨fuel, rfl, hsteps⟩ := exists_steps hfuel
    obtain ⟨after, hafter, hvalue⟩ := ih fuel (']' :: rest) hsteps (stops_cons rfl)
    exact elements_last hvalue (skipSpace_append hafter _)
  | @moreItems v items cs more h _ ih ih' =>
    intro fuel rest hfuel
    rw [List.length_append, List.length_cons] at hfuel
    obtain ⟨fuel, rfl, hsteps⟩ := exists_steps hfuel
    obtain ⟨after, hafter, hvalue⟩ := ih fuel (',' :: (more ++ ']' :: rest)) (by omega) (stops_cons rfl)
    rw [List.append_assoc, List.cons_append, elements_more hvalue (skipSpace_append hafter _), ih' fuel rest (by omega)]
    rfl
  | @lastField key v label cs hlabel h ih =>
    intro fuel rest hfuel
    rw [List.length_append] at hfuel
    obtain ⟨fuel, rfl, hsteps⟩ := exists_steps hfuel
    obtain ⟨after, hafter, hvalue⟩ := ih fuel ('\x7d' :: rest) (by omega) (stops_cons rfl)
    rw [List.append_assoc]
    exact members_last hlabel hvalue (skipSpace_append hafter _)
  | @moreFields key v fields label cs more hlabel h _ ih ih' =>
    intro fuel rest hfuel
    rw [List.length_append, List.length_append, List.length_cons] at hfuel
    obtain ⟨fuel, rfl, hsteps⟩ := exists_steps hfuel
    obtain ⟨after, hafter, hvalue⟩ := ih fuel (',' :: (more ++ '\x7d' :: rest)) (by omega) (stops_cons rfl)
    rw [List.append_assoc, List.append_assoc, List.cons_append, members_more hlabel hvalue (skipSpace_append hafter _),
      ih' fuel rest (by omega)]
    rfl

/-! ## Whole texts -/

variable {v other : Json} {text : String}

/-- The value that a text stands for is the one that is read. -/
theorem parse?_of_text (h : Text v text) : parse? text = some v := by
  have hreads := reads_of_written h (text.toList.length + 1) [] (Nat.le_succ _) fun _ h => nomatch h
  obtain ⟨after, hafter, hvalue⟩ := hreads
  rw [List.append_nil, List.append_nil] at hvalue
  simp only [parse?, hvalue, skipSpace_blanks hafter, if_true]

theorem Text.unique (h : Text v text) (h' : Text other text) : v = other :=
  Option.some.inj ((parse?_of_text h).symm.trans (parse?_of_text h'))

end Json

end ScriptLint
