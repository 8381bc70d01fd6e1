import HostBridge.Json.Parser
import HostBridge.Json.Printer
import Mathlib.Data.List.DropRight
import Mathlib.Tactic.Common

/-!
# Texts that spell a document

The two layouts of a document differ in the blanks between the tokens only, so
the parser is compared to neither of them but to the relation `Spells` that
they have in common: a text spells a document when its tokens do, with any
blanks between them. Strings have one spelling here, the one with as few
escapes as possible, and numbers the spelling that they carry.

`Spells.parse?_eq` is what the module is for: whatever spells a document is
parsed as that document. The induction is on the derivation of the spelling,
for every text that may follow. What follows matters for numbers alone, which
have no end of their own: the text after a number has to end it
(`EndsNumber`), as every blank, comma and bracket does.

The parser bounds the nesting by a number that it takes one from at every
item, not at every bracket only. That number is enough because every item but
the first is paid for by the comma in front of it.

A document that is well spelled is one that some text spells. Not every
document is: a number carries its digits as characters, and characters that are
no digits, or a zero too many in front, are in no text that the parser accepts.
-/

namespace HostBridge

/-! ## Well spelled documents

Whatever the writers of the library write. -/

/-- **A list of digits that may stand in a number.** -/
def AreDigits (ds : List Char) : Prop := ds ≠ [] ∧ ∀ d ∈ ds, d.isDigit = true

/-- **A number that could have been written**: digits in every part, and no
zero in front of others. -/
structure JsonNumber.WellSpelled (n : JsonNumber) : Prop where
  /-- There are digits before the point. -/
  whole : AreDigits n.whole
  /-- A zero in front stands alone. -/
  noLeadingZero : n.whole.head? = some '0' → n.whole.length = 1
  /-- A point has digits after it. -/
  fraction : ∀ f ∈ n.fraction, AreDigits f
  /-- An exponent has digits. -/
  exponent : ∀ e ∈ n.exponent, AreDigits e.2

namespace Json

/-- **A document that a text can spell**: its numbers are well spelled, and
its texts can be read. -/
inductive WellSpelled : Json → Prop
  | null : WellSpelled .null
  | bool (b : Bool) : WellSpelled (.bool b)
  | number {n : JsonNumber} (h : n.WellSpelled) : WellSpelled (.number n)
  | text (s : String) : WellSpelled (.text s)
  | array {items : List Json} (h : ∀ j ∈ items, WellSpelled j) : WellSpelled (.array items)
  | object {fields : List (Option String × Json)} (names : ∀ f ∈ fields, f.1.isSome)
      (values : ∀ f ∈ fields, WellSpelled f.2) : WellSpelled (.object fields)

/-! ## The grammar

Three relations by mutual recursion, for a document, for the items of an array and for the fields
of an object. The last two begin at the item and not at the bracket, so that what follows an item
is an item again. -/

/-- A text of blanks. -/
def Blanks (cs : List Char) : Prop := ∀ c ∈ cs, isBlank c = true

mutual

/-- **A text spells a document**, without blanks around it. -/
inductive Spells : Json → List Char → Prop
  | null : Spells .null "null".toList
  | bool (b : Bool) : Spells (.bool b) (if b then "true" else "false").toList
  | number {n : JsonNumber} : n.WellSpelled → Spells (.number n) (printNumber n)
  | text (s : String) : Spells (.text s) (printString s)
  | noItems : Spells (.array []) ['[', ']']
  | array {items : List Json} {cs : List Char} : SpellsItems items cs →
      Spells (.array items) ('[' :: cs ++ [']'])
  | noFields : Spells (.object []) ['{', '}']
  | object {fields : List (Option String × Json)} {cs : List Char} : SpellsFields fields cs →
      Spells (.object fields) ('{' :: cs ++ ['}'])

/-- A text spells items, at least one, with commas between them. -/
inductive SpellsItems : List Json → List Char → Prop
  | last {j : Json} {before cs after : List Char} : Blanks before → Spells j cs → Blanks after →
      SpellsItems [j] (before ++ cs ++ after)
  | more {j : Json} {items : List Json} {before cs after ds : List Char} : Blanks before →
      Spells j cs → Blanks after → SpellsItems items ds →
      SpellsItems (j :: items) (before ++ cs ++ after ++ ',' :: ds)

/-- A text spells fields, at least one, with commas between them. -/
inductive SpellsFields : List (Option String × Json) → List Char → Prop
  | last {name : String} {j : Json} {before between cs after : List Char} : Blanks before →
      Blanks between → Spells j cs → Blanks after →
      SpellsFields [(some name, j)] (before ++ printString name ++ ':' :: between ++ cs ++ after)
  | more {name : String} {j : Json} {fields : List (Option String × Json)}
      {before between cs after ds : List Char} : Blanks before → Blanks between → Spells j cs →
      Blanks after → SpellsFields fields ds →
      SpellsFields ((some name, j) :: fields)
        (before ++ printString name ++ ':' :: between ++ cs ++ after ++ ',' :: ds)

end

/-! ## Blanks

The parser skips blanks in front of a token, and skipping twice is skipping once. -/

section Blanks

variable {b cs : List Char}

/-- Blanks in front are skipped, up to a character that is none. -/
theorem Blanks.skipBlank_append (hb : Blanks b) (cs : List Char) :
    skipBlank (b ++ cs) = skipBlank cs := by
  induction b with
  | nil => rfl
  | cons c b ih =>
    have hc : isBlank c = true := hb c (by simp)
    have hrest : Blanks b := fun d hd => hb d (by simp [hd])
    simpa [skipBlank, List.dropWhile_cons, hc] using ih hrest

theorem skipBlank_cons {c : Char} (h : isBlank c = false) : skipBlank (c :: cs) = c :: cs := by
  simp [skipBlank, h]

theorem skipBlank_skipBlank (cs : List Char) : skipBlank (skipBlank cs) = skipBlank cs :=
  List.dropWhile_idempotent isBlank cs

/-- A value, items and fields are the same with the blanks in front skipped. -/
theorem parseValue_skipBlank (fuel : Nat) (cs : List Char) :
    parseValue fuel (skipBlank cs) = parseValue fuel cs := by
  cases fuel with
  | zero => rfl
  | succ fuel => simp only [parseValue, skipBlank_skipBlank]

theorem parseItems_skipBlank (fuel : Nat) (cs : List Char) :
    parseItems fuel (skipBlank cs) = parseItems fuel cs := by
  cases fuel with
  | zero => rfl
  | succ fuel => simp only [parseItems, parseValue_skipBlank]

theorem parseFields_skipBlank (fuel : Nat) (cs : List Char) :
    parseFields fuel (skipBlank cs) = parseFields fuel cs := by
  cases fuel with
  | zero => rfl
  | succ fuel => simp only [parseFields, skipBlank_skipBlank]

end Blanks

/-! ## Strings

A string is scanned into units, which are then put together. What is printed needs no putting
together: every character is a unit of its own, whether it is escaped or not. -/

/-- The unit that a character's spelling stands for: control characters
without an escape of their own are given by their number. -/
def unitOf (c : Char) : StringUnit :=
  if c.toNat < 32 ∧ c ∉ ['\x08', '\x0c', '\n', '\r', '\t'] then .code c.toNat else .char c

/-- The four digits of a control character are its number. -/
theorem hexUnit?_control {n : Nat} (h : n < 32) :
    hexUnit? '0' '0' (hexDigit (n / 16)) (hexDigit n) = some n := by
  revert n
  decide

/-- One escaped character is scanned as its unit. -/
theorem scanString_escapeChar (c : Char) {cs after : List Char} {units : List StringUnit}
    (h : scanString cs = some (units, after)) :
    scanString (escapeChar c ++ cs) = some (unitOf c :: units, after) := by
  unfold escapeChar
  split_ifs with hquote hslash hb hf hn hr ht hcontrol
  · subst hquote; simp [scanString, shortEscape?, unitOf, h]
  · subst hslash; simp [scanString, shortEscape?, unitOf, h]
  · subst hb; simp [scanString, shortEscape?, unitOf, h]
  · subst hf; simp [scanString, shortEscape?, unitOf, h]
  · subst hn; simp [scanString, shortEscape?, unitOf, h]
  · subst hr; simp [scanString, shortEscape?, unitOf, h]
  · subst ht; simp [scanString, shortEscape?, unitOf, h]
  · simp [scanString, hexUnit?_control hcontrol, unitOf, h, hcontrol, hb, hf, hn, hr, ht]
  · simp [scanString, unitOf, h, hcontrol, hslash]

/-- An escaped text is scanned as its units, up to its quote. -/
theorem scanString_flatMap (s rest : List Char) :
    scanString (s.flatMap escapeChar ++ '"' :: rest) = some (s.map unitOf, rest) := by
  induction s with
  | nil => simp [scanString]
  | cons c s ih =>
    simpa [List.flatMap_cons, List.append_assoc] using scanString_escapeChar c ih

/-- The units of a text are put together to the text. -/
theorem assemble_map_unitOf (s : List Char) : assemble (s.map unitOf) = some s := by
  induction s with
  | nil => rfl
  | cons c s ih =>
    rw [List.map_cons, unitOf]
    split_ifs with hc
    · have hlow : c.toNat < 0xD800 := by omega
      rw [assemble.eq_def]
      simp [hlow, ih]
    · rw [assemble, ih, Option.map_some]

/-- **A written string is parsed as its text.** -/
theorem parseString_printString (s : String) (rest : List Char) :
    parseString (s.toList.flatMap escapeChar ++ '"' :: rest) = some (some s, rest) := by
  simp [parseString, scanString_flatMap, assemble_map_unitOf]

/-! ## Numbers

Digits, then what may follow them, each part up to the first character that does not belong to
it. -/

/-- A digit is none of the marks. -/
theorem ne_of_isDigit {c d : Char} (hd : d.isDigit = true) (hc : c.isDigit = false) : d ≠ c := by
  rintro rfl
  exact absurd hd (by simp [hc])

theorem isBlank_of_isDigit {d : Char} (hd : d.isDigit = true) : isBlank d = false := by
  have hspace : d ≠ ' ' := ne_of_isDigit hd rfl
  have htab : d ≠ '\t' := ne_of_isDigit hd rfl
  have hline : d ≠ '\n' := ne_of_isDigit hd rfl
  have hreturn : d ≠ '\r' := ne_of_isDigit hd rfl
  simp [isBlank, hspace, htab, hline, hreturn]

/-- **A text that ends the number in front of it.** -/
def EndsNumber (rest : List Char) : Prop :=
  ∀ c ∈ rest.head?, c.isDigit = false ∧ c ≠ '.' ∧ c ≠ 'e' ∧ c ≠ 'E'

theorem endsNumber_nil : EndsNumber [] := by simp [EndsNumber]

theorem endsNumber_cons {c : Char} (h : c.isDigit = false ∧ c ≠ '.' ∧ c ≠ 'e' ∧ c ≠ 'E')
    (rest : List Char) : EndsNumber (c :: rest) := by
  intro d hd
  obtain rfl : c = d := by simpa using hd
  exact h

/-- A character other than a digit does not go on a list of digits. -/
theorem digits_append {ds rest : List Char} (hds : ∀ d ∈ ds, d.isDigit = true)
    (hrest : ∀ c ∈ rest.head?, c.isDigit = false) : digits (ds ++ rest) = (ds, rest) := by
  have htake : rest.takeWhile Char.isDigit = [] := by
    cases rest with
    | nil => rfl
    | cons c rest => simp [hrest c (by simp)]
  have hdrop : rest.dropWhile Char.isDigit = rest := by
    cases rest with
    | nil => rfl
    | cons c rest => simp [hrest c (by simp)]
  simp only [digits, List.takeWhile_append_of_pos hds, List.dropWhile_append_of_pos hds, htake,
    hdrop, List.append_nil]

/-- The text of a fraction. -/
def fractionText : Option (List Char) → List Char
  | none => []
  | some f => '.' :: f

/-- The text of an exponent. -/
def exponentText : Option (Bool × List Char) → List Char
  | none => []
  | some (negative, e) => 'e' :: ((if negative then ['-'] else []) ++ e)

theorem printNumber_eq (n : JsonNumber) :
    printNumber n = (if n.negative then ['-'] else [])
      ++ (n.whole ++ (fractionText n.fraction ++ exponentText n.exponent)) := by
  obtain ⟨negative, whole, fraction, exponent⟩ := n
  cases fraction <;> cases exponent <;> simp [printNumber, fractionText, exponentText]

/-- An exponent is parsed up to a text that ends the number. -/
theorem parseExponent_exponentText {exponent : Option (Bool × List Char)}
    (h : ∀ e ∈ exponent, AreDigits e.2) {rest : List Char} (hrest : EndsNumber rest) :
    parseExponent (exponentText exponent ++ rest) = some (exponent, rest) := by
  cases exponent with
  | none =>
    cases rest with
    | nil => rfl
    | cons c rest =>
      obtain ⟨-, -, hlower, hupper⟩ := hrest c (by simp)
      simp [exponentText, parseExponent, hlower, hupper]
  | some e =>
    obtain ⟨negative, ds⟩ := e
    obtain ⟨hne, hds⟩ := h (negative, ds) rfl
    have hdigits : digits (ds ++ rest) = (ds, rest) :=
      digits_append hds (fun c hc => (hrest c hc).1)
    obtain ⟨d, ds, rfl⟩ := List.exists_cons_of_ne_nil hne
    -- the first digit is no sign
    have hd : d.isDigit = true := hds d (by simp)
    have hplus : d ≠ '+' := ne_of_isDigit hd rfl
    have hminus : d ≠ '-' := ne_of_isDigit hd rfl
    cases negative with
    | true =>
      simp only [List.cons_append] at hdigits
      simp [exponentText, parseExponent, exponentSign, hdigits]
    | false =>
      have hsign : exponentSign (d :: (ds ++ rest)) = (false, d :: (ds ++ rest)) := by
        unfold exponentSign
        split <;> simp_all
      simp only [List.cons_append] at hdigits
      simp [exponentText, parseExponent, hsign, hdigits]

/-- A fraction is parsed up to an exponent or the end of the number. -/
theorem parseFraction_fractionText {fraction : Option (List Char)}
    (h : ∀ f ∈ fraction, AreDigits f) {rest : List Char}
    (hrest : ∀ c ∈ rest.head?, c.isDigit = false ∧ c ≠ '.') :
    parseFraction (fractionText fraction ++ rest) = some (fraction, rest) := by
  cases fraction with
  | none =>
    cases rest with
    | nil => rfl
    | cons c rest =>
      have hpoint : c ≠ '.' := (hrest c (by simp)).2
      simp only [fractionText, List.nil_append]
      unfold parseFraction
      split <;> simp_all
  | some f =>
    obtain ⟨hne, hf⟩ := h f rfl
    have hdigits : digits (f ++ rest) = (f, rest) :=
      digits_append hf (fun c hc => (hrest c hc).1)
    obtain ⟨d, f, rfl⟩ := List.exists_cons_of_ne_nil hne
    simp only [List.cons_append] at hdigits
    simp [fractionText, parseFraction, hdigits]

/-- **A number is parsed as it is written**, after its sign. -/
theorem parseNumber_text {n : JsonNumber} (h : n.WellSpelled) {rest : List Char}
    (hrest : EndsNumber rest) :
    parseNumber n.negative
      (n.whole ++ (fractionText n.fraction ++ exponentText n.exponent) ++ rest) =
        some (n, rest) := by
  obtain ⟨negative, whole, fraction, exponent⟩ := n
  obtain ⟨⟨hne, hwhole⟩, hzero, hfraction, hexponent⟩ := h
  -- neither a fraction nor an exponent starts with a digit, and an exponent with no point
  have hafterFraction : ∀ c ∈ (exponentText exponent ++ rest).head?,
      c.isDigit = false ∧ c ≠ '.' := by
    cases exponent with
    | none => exact fun c hc => ⟨(hrest c hc).1, (hrest c hc).2.1⟩
    | some e => simp [exponentText]
  have hafterWhole : ∀ c ∈ (fractionText fraction ++ (exponentText exponent ++ rest)).head?,
      c.isDigit = false := by
    cases fraction with
    | none => exact fun c hc => (hafterFraction c hc).1
    | some f => simp [fractionText]
  have hdigits := digits_append hwhole hafterWhole
  have hone : ¬ (whole.head? = some '0' ∧ whole.length ≠ 1) := fun hbad => hbad.2 (hzero hbad.1)
  obtain ⟨d, ds, rfl⟩ := List.exists_cons_of_ne_nil hne
  simp only [List.cons_append] at hdigits
  simp only [List.append_assoc, List.cons_append]
  unfold parseNumber
  simp only [hdigits]
  rw [if_neg (by simpa using hone)]
  simp [parseFraction_fractionText hfraction hafterFraction,
    parseExponent_exponentText hexponent hrest]

/-! ## Documents

The induction, with the first character of a spelling to tell which kind of document it is. -/

/-- A document starts with a character that is neither a blank nor a closing
bracket. -/
theorem Spells.head {j : Json} {cs : List Char} (h : Spells j cs) :
    ∃ c rest, cs = c :: rest ∧ isBlank c = false ∧ c ≠ ']' := by
  cases h with
  | null => exact ⟨'n', _, rfl, by decide, by decide⟩
  | bool b =>
    cases b with
    | false => exact ⟨'f', _, rfl, by decide, by decide⟩
    | true => exact ⟨'t', _, rfl, by decide, by decide⟩
  | @number n hn =>
    rw [printNumber_eq]
    obtain ⟨d, ds, hds⟩ := List.exists_cons_of_ne_nil hn.whole.1
    have hd : d.isDigit = true := hn.whole.2 d (by simp [hds])
    cases hsign : n.negative with
    | true => exact ⟨'-', _, rfl, by decide, by decide⟩
    | false => exact ⟨d, _, by rw [hds]; rfl, isBlank_of_isDigit hd, ne_of_isDigit hd rfl⟩
  | text s => exact ⟨'"', _, rfl, by decide, by decide⟩
  | noItems => exact ⟨'[', _, rfl, by decide, by decide⟩
  | array _ => exact ⟨'[', _, rfl, by decide, by decide⟩
  | noFields => exact ⟨'{', _, rfl, by decide, by decide⟩
  | object _ => exact ⟨'{', _, rfl, by decide, by decide⟩

/-- Items start with a document, after blanks. -/
theorem SpellsItems.head {items : List Json} {cs : List Char} (h : SpellsItems items cs)
    (tail : List Char) : ∃ c rest, skipBlank (cs ++ tail) = c :: rest ∧ c ≠ ']' := by
  cases h with
  | last hbefore hcs =>
    obtain ⟨c, rest, rfl, hc, hclosing⟩ := hcs.head
    simp only [List.append_assoc, hbefore.skipBlank_append]
    exact ⟨c, _, skipBlank_cons hc, hclosing⟩
  | more hbefore hcs =>
    obtain ⟨c, rest, rfl, hc, hclosing⟩ := hcs.head
    simp only [List.append_assoc, hbefore.skipBlank_append]
    exact ⟨c, _, skipBlank_cons hc, hclosing⟩

/-- Fields start with a name, after blanks. -/
theorem SpellsFields.head {fields : List (Option String × Json)} {cs : List Char}
    (h : SpellsFields fields cs) (tail : List Char) :
    ∃ rest, skipBlank (cs ++ tail) = '"' :: rest := by
  cases h with
  | last hbefore =>
    simp only [List.append_assoc, hbefore.skipBlank_append]
    exact ⟨_, skipBlank_cons (by decide)⟩
  | more hbefore =>
    simp only [List.append_assoc, hbefore.skipBlank_append]
    exact ⟨_, skipBlank_cons (by decide)⟩

section

variable {fuel : Nat} {cs rest : List Char}

/-! ### What the parser does with a first character -/

/-- A blank ends a number, and so do blanks in front of what ends one. -/
theorem Blanks.endsNumber_append {b : List Char} (hb : Blanks b) (h : EndsNumber rest) :
    EndsNumber (b ++ rest) := by
  cases b with
  | nil => exact h
  | cons c b =>
    intro d hd
    obtain rfl : c = d := by simpa using hd
    have hc : isBlank c = true := hb c (by simp)
    simp only [isBlank, Bool.or_eq_true, decide_eq_true_eq] at hc
    rcases hc with ((rfl | rfl) | rfl) | rfl <;> decide

/-- A value is parsed with the blanks in front of it. -/
theorem Blanks.parseValue_append {b : List Char} (hb : Blanks b) (fuel : Nat) (cs : List Char) :
    parseValue fuel (b ++ cs) = parseValue fuel cs := by
  rw [← parseValue_skipBlank, hb.skipBlank_append, parseValue_skipBlank]

/-- A bracket that is not closed at once opens items. -/
theorem parseValue_array (h : ∃ c tail, skipBlank cs = c :: tail ∧ c ≠ ']') :
    parseValue (fuel + 1) ('[' :: cs)
      = (parseItems fuel cs).map (fun r => (.array r.1, r.2)) := by
  obtain ⟨c, tail, hcs, hc⟩ := h
  rw [← parseItems_skipBlank, hcs]
  simp only [parseValue, skipBlank_cons (c := '[') (by decide), hcs]
  split <;> simp_all

/-- A brace that is not closed at once opens fields. -/
theorem parseValue_object (h : ∃ tail, skipBlank cs = '"' :: tail) :
    parseValue (fuel + 1) ('{' :: cs)
      = (parseFields fuel cs).map (fun r => (.object r.1, r.2)) := by
  obtain ⟨tail, hcs⟩ := h
  rw [← parseFields_skipBlank, hcs]
  simp only [parseValue, skipBlank_cons (c := '{') (by decide), hcs]
  rfl

/-- A digit starts a number. -/
theorem parseValue_digit {d : Char} (hd : d.isDigit = true) :
    parseValue (fuel + 1) (d :: cs)
      = (parseNumber false (d :: cs)).map (fun r => (.number r.1, r.2)) := by
  -- no other alternative starts with a digit
  have hother : d ≠ 'n' ∧ d ≠ 't' ∧ d ≠ 'f' ∧ d ≠ '"' ∧ d ≠ '[' ∧ d ≠ '{' ∧ d ≠ '-' := by
    refine ⟨?_, ?_, ?_, ?_, ?_, ?_, ?_⟩ <;> exact ne_of_isDigit hd rfl
  simp only [parseValue, skipBlank_cons (isBlank_of_isDigit hd)]
  split <;> simp_all

/-- A number is parsed up to a text that ends it. -/
theorem parseValue_number {n : JsonNumber} (h : n.WellSpelled) (hrest : EndsNumber rest) :
    parseValue (fuel + 1) (printNumber n ++ rest) = some (.number n, rest) := by
  have hnumber := parseNumber_text h hrest
  rw [printNumber_eq, List.append_assoc]
  cases hsign : n.negative with
  | true =>
    rw [hsign] at hnumber
    simp only [if_true, List.cons_append, List.nil_append, parseValue,
      skipBlank_cons (c := '-') (by decide), hnumber, Option.map_some]
  | false =>
    rw [hsign] at hnumber
    obtain ⟨d, ds, hds⟩ := List.exists_cons_of_ne_nil h.whole.1
    have hd : d.isDigit = true := h.whole.2 d (by simp [hds])
    simp only [hds, List.cons_append] at hnumber
    simp only [hds, Bool.false_eq_true, if_false, List.cons_append, List.nil_append]
    rw [parseValue_digit hd, hnumber, Option.map_some]

end

/-! ### The induction

On the derivation, with the number that bounds the nesting and the text that follows left free. -/

mutual

/-- A spelled document is parsed, whatever follows that ends a number. -/
theorem Spells.parseValue_eq {j : Json} {cs : List Char} (h : Spells j cs) {fuel : Nat}
    {rest : List Char} (hfuel : cs.length ≤ fuel) (hrest : EndsNumber rest) :
    parseValue fuel (cs ++ rest) = some (j, rest) := by
  obtain ⟨c, tail, hhead, -, -⟩ := h.head
  -- no text is empty, so that there is something to take from
  obtain ⟨fuel, rfl⟩ : ∃ n, fuel = n + 1 := ⟨fuel - 1, by rw [hhead] at hfuel; simp at hfuel; omega⟩
  cases h with
  | null => rfl
  | bool b => cases b <;> rfl
  | number hn => exact parseValue_number hn hrest
  | text s =>
    simp only [printString, List.cons_append, List.append_assoc, List.nil_append, parseValue,
      skipBlank_cons (c := '"') (by decide), parseString_printString, Option.map_some, Json.text]
  | noItems => rfl
  | array hitems =>
    simp only [List.cons_append, List.append_assoc, List.nil_append]
    rw [parseValue_array (hitems.head _), hitems.parseItems_eq (by simp at hfuel; omega),
      Option.map_some]
  | noFields => rfl
  | object hfields =>
    simp only [List.cons_append, List.append_assoc, List.nil_append]
    rw [parseValue_object (hfields.head _), hfields.parseFields_eq (by simp at hfuel; omega),
      Option.map_some]

/-- Spelled items are parsed up to their bracket. -/
theorem SpellsItems.parseItems_eq {items : List Json} {cs : List Char} (h : SpellsItems items cs)
    {fuel : Nat} {rest : List Char} (hfuel : cs.length < fuel) :
    parseItems fuel (cs ++ ']' :: rest) = some (items, rest) := by
  obtain ⟨fuel, rfl⟩ : ∃ n, fuel = n + 1 := ⟨fuel - 1, by omega⟩
  cases h with
  | last hbefore hj hafter =>
    simp only [List.length_append] at hfuel
    have hends := hafter.endsNumber_append (endsNumber_cons (c := ']') (by decide) rest)
    have hvalue := hj.parseValue_eq (show _ ≤ fuel by omega) hends
    simp only [List.append_assoc, parseItems, hbefore.parseValue_append, hvalue,
      Option.bind_eq_bind, Option.bind_some, hafter.skipBlank_append,
      skipBlank_cons (c := ']') (by decide)]
    rfl
  | @more j items before cs after ds hbefore hj hafter hitems =>
    simp only [List.length_append, List.length_cons] at hfuel
    have hends := hafter.endsNumber_append
      (endsNumber_cons (c := ',') (by decide) (ds ++ ']' :: rest))
    have hvalue := hj.parseValue_eq (show _ ≤ fuel by omega) hends
    have hitems' : parseItems fuel (ds ++ ']' :: rest) = some (items, rest) :=
      hitems.parseItems_eq (by omega)
    simp only [List.append_assoc, List.cons_append, parseItems, hbefore.parseValue_append, hvalue,
      Option.bind_eq_bind, Option.bind_some, hafter.skipBlank_append,
      skipBlank_cons (c := ',') (by decide), hitems']
    rfl

/-- Spelled fields are parsed up to their brace. -/
theorem SpellsFields.parseFields_eq {fields : List (Option String × Json)} {cs : List Char}
    (h : SpellsFields fields cs) {fuel : Nat} {rest : List Char} (hfuel : cs.length < fuel) :
    parseFields fuel (cs ++ '}' :: rest) = some (fields, rest) := by
  obtain ⟨fuel, rfl⟩ : ∃ n, fuel = n + 1 := ⟨fuel - 1, by omega⟩
  cases h with
  | last hbefore hbetween hj hafter =>
    simp only [List.length_append, List.length_cons] at hfuel
    have hends := hafter.endsNumber_append (endsNumber_cons (c := '}') (by decide) rest)
    have hvalue := hj.parseValue_eq (show _ ≤ fuel by omega) hends
    simp only [List.append_assoc, List.cons_append, List.nil_append, printString, parseFields,
      hbefore.skipBlank_append, skipBlank_cons (c := '"') (by decide), parseString_printString,
      skipBlank_cons (c := ':') (by decide), hbetween.parseValue_append, hvalue,
      hafter.skipBlank_append, skipBlank_cons (c := '}') (by decide), Option.bind_eq_bind,
      Option.bind_some]
    rfl
  | @more name j fields before between cs after ds hbefore hbetween hj hafter hfields =>
    simp only [List.length_append, List.length_cons] at hfuel
    have hends := hafter.endsNumber_append
      (endsNumber_cons (c := ',') (by decide) (ds ++ '}' :: rest))
    have hvalue := hj.parseValue_eq (show _ ≤ fuel by omega) hends
    have hfields' : parseFields fuel (ds ++ '}' :: rest) = some (fields, rest) :=
      hfields.parseFields_eq (by omega)
    simp only [List.append_assoc, List.cons_append, List.nil_append, printString, parseFields,
      hbefore.skipBlank_append, skipBlank_cons (c := '"') (by decide), parseString_printString,
      skipBlank_cons (c := ':') (by decide), hbetween.parseValue_append, hvalue,
      hafter.skipBlank_append, skipBlank_cons (c := ',') (by decide), Option.bind_eq_bind,
      Option.bind_some, hfields']
    rfl

end

/-- **What spells a document is parsed as that document.** -/
theorem Spells.parse?_eq {j : Json} {s : String} (h : Spells j s.toList) : parse? s = some j := by
  have hvalue := h.parseValue_eq (show _ ≤ 2 * s.toList.length + 2 by omega) endsNumber_nil
  rw [List.append_nil] at hvalue
  simp [parse?, hvalue, skipBlank]

end Json

end HostBridge
