import HostBridge.Proofs.Json.Grammar

/-!
# The layouts spell the document

The compact and the indented text of a well spelled document both spell it, so
both are parsed as that document (`parse?_compact`, `parse?_indented`), and a
layout never gives two documents one text. The two arguments are the same
induction on the document; what differs is which blanks the layout puts where.

The documents that the rest of the library writes are well spelled because
their numbers are: the digits of a number have no zero in front of them.
-/

namespace HostBridge.Json

/-! ## Well spelled numbers

The digits of a number in base ten, with the sign apart. -/

/-- The digits of a positive number do not start with a zero. -/
theorem toDigits_head?_ne {n : Nat} (h : 0 < n) : (Nat.toDigits 10 n).head? ≠ some '0' := by
  induction n using Nat.strongRecOn with
  | ind n ih =>
    by_cases hn : n < 10
    · rw [Nat.toDigits_of_lt_base hn]
      simp only [List.head?_cons, ne_eq, Option.some.injEq, Nat.digitChar_eq_zero]
      omega
    · have hbase : 10 ≤ n := by omega
      rw [Nat.toDigits_of_base_le (by decide) hbase,
        List.head?_append_of_ne_nil _ Nat.toDigits_ne_nil]
      exact ih (n / 10) (by omega) (by omega)

/-- **The digits of a number are well spelled**, with a sign or without. -/
theorem wellSpelled_toDigits (negative : Bool) (n : Nat) :
    JsonNumber.WellSpelled ⟨negative, Nat.toDigits 10 n, none, none⟩ where
  whole := ⟨Nat.toDigits_ne_nil, fun _ h => Nat.isDigit_of_mem_toDigits (by decide) (by decide) h⟩
  noLeadingZero := by
    intro h
    obtain rfl : n = 0 := by
      by_contra hn
      exact toDigits_head?_ne (Nat.pos_of_ne_zero hn) h
    rw [Nat.toDigits_zero]
    rfl
  fraction := by simp
  exponent := by simp

theorem WellSpelled.nat (n : Nat) : WellSpelled (.nat n) := .number (wellSpelled_toDigits false n)

theorem WellSpelled.int (i : Int) : WellSpelled (.int i) := .number (wellSpelled_toDigits _ _)

/-- A record is well spelled when its fields are. -/
theorem WellSpelled.record {fields : List (String × Json)}
    (h : ∀ f ∈ fields, WellSpelled f.2) : WellSpelled (.record fields) := by
  refine .object ?_ ?_
  · intro g hg
    obtain ⟨f, -, rfl⟩ := List.mem_map.mp hg
    rfl
  · intro g hg
    obtain ⟨f, hf, rfl⟩ := List.mem_map.mp hg
    exact h f hf

/-- A list is well spelled when what its entries are written as is. -/
theorem WellSpelled.array_map {α : Type} {write : α → Json} (h : ∀ a, WellSpelled (write a))
    (l : List α) : WellSpelled (.array (l.map write)) :=
  .array (by simpa using fun a _ => h a)

/-! ## Layouts

Items and fields first, given their own texts, and then the document by recursion. -/

theorem blanks_nil : Blanks [] := by simp [Blanks]

theorem blanks_space : Blanks [' '] := by simp [Blanks, isBlank]

theorem blanks_newLine (level : Nat) : Blanks (newLine level) := by
  intro c hc
  rcases List.mem_cons.mp hc with rfl | hc
  · decide
  · rw [List.eq_of_mem_replicate hc]
    decide

section

variable {items : List Json} {fields : List (Option String × Json)}

/-- Items with commas between them spell a list. -/
theorem spellsItems_printItems (hne : items ≠ []) (h : ∀ j ∈ items, Spells j (printCompact j)) :
    SpellsItems items (printItems items) := by
  induction items with
  | nil => exact absurd rfl hne
  | cons j items ih =>
    have hj := h j (by simp)
    cases items with
    | nil => simpa [printItems] using SpellsItems.last blanks_nil hj blanks_nil
    | cons k items =>
      have hitems := ih (by simp) (fun i hi => h i (by simp [hi]))
      simpa [printItems] using SpellsItems.more blanks_nil hj blanks_nil hitems

/-- Fields with commas between them spell a record. -/
theorem spellsFields_printFields (hne : fields ≠ []) (hnames : ∀ f ∈ fields, f.1.isSome)
    (h : ∀ f ∈ fields, Spells f.2 (printCompact f.2)) :
    SpellsFields fields (printFields fields) := by
  induction fields with
  | nil => exact absurd rfl hne
  | cons f fields ih =>
    obtain ⟨name, j⟩ := f
    obtain ⟨text, rfl⟩ : ∃ text, name = some text :=
      Option.isSome_iff_exists.mp (hnames (name, j) (by simp))
    have hj := h (some text, j) (by simp)
    cases fields with
    | nil => simpa [printFields] using SpellsFields.last blanks_nil blanks_nil hj blanks_nil
    | cons g fields =>
      have hfields := ih (by simp) (fun f hf => hnames f (by simp [hf]))
        (fun f hf => h f (by simp [hf]))
      simpa [printFields] using
        SpellsFields.more blanks_nil blanks_nil hj blanks_nil hfields

/-- Items one a line spell a list, whatever blanks end the last line. -/
theorem spellsItems_printLines {level : Nat} {after : List Char} (hafter : Blanks after)
    (hne : items ≠ []) (h : ∀ j ∈ items, Spells j (printIndented level j)) :
    SpellsItems items (printLines level items ++ after) := by
  induction items with
  | nil => exact absurd rfl hne
  | cons j items ih =>
    have hj := h j (by simp)
    cases items with
    | nil => simpa [printLines] using SpellsItems.last (blanks_newLine level) hj hafter
    | cons k items =>
      have hitems := ih (by simp) (fun i hi => h i (by simp [hi]))
      simpa [printLines] using SpellsItems.more (blanks_newLine level) hj blanks_nil hitems

/-- Fields one a line spell a record, whatever blanks end the last line. -/
theorem spellsFields_printFieldLines {level : Nat} {after : List Char} (hafter : Blanks after)
    (hne : fields ≠ []) (hnames : ∀ f ∈ fields, f.1.isSome)
    (h : ∀ f ∈ fields, Spells f.2 (printIndented level f.2)) :
    SpellsFields fields (printFieldLines level fields ++ after) := by
  induction fields with
  | nil => exact absurd rfl hne
  | cons f fields ih =>
    obtain ⟨name, j⟩ := f
    obtain ⟨text, rfl⟩ : ∃ text, name = some text :=
      Option.isSome_iff_exists.mp (hnames (name, j) (by simp))
    have hj := h (some text, j) (by simp)
    cases fields with
    | nil =>
      simpa [printFieldLines] using
        SpellsFields.last (blanks_newLine level) blanks_space hj hafter
    | cons g fields =>
      have hfields := ih (by simp) (fun f hf => hnames f (by simp [hf]))
        (fun f hf => h f (by simp [hf]))
      simpa [printFieldLines] using
        SpellsFields.more (blanks_newLine level) blanks_space hj blanks_nil hfields

end

/-- **The compact layout spells the document.** -/
theorem WellSpelled.spells_compact {j : Json} (h : WellSpelled j) : Spells j (printCompact j) := by
  induction h with
  | null => exact .null
  | bool b => exact .bool b
  | number hn => exact .number hn
  | text s => exact .text s
  | @array items _ ih =>
    cases items with
    | nil => exact .noItems
    | cons j items => exact .array (spellsItems_printItems (by simp) ih)
  | @object fields hnames _ ih =>
    cases fields with
    | nil => exact .noFields
    | cons f fields => exact .object (spellsFields_printFields (by simp) hnames ih)

/-- **The indented layout spells the document**, at every level. -/
theorem WellSpelled.spells_indented {j : Json} (h : WellSpelled j) (level : Nat) :
    Spells j (printIndented level j) := by
  induction h generalizing level with
  | null => exact .null
  | bool b => exact .bool b
  | number hn => exact .number hn
  | text s => exact .text s
  | @array items _ ih =>
    cases items with
    | nil => exact .noItems
    | cons j items =>
      have hlines := spellsItems_printLines (blanks_newLine level) (by simp)
        (fun j hj => ih j hj (level + 1))
      simpa [printIndented] using Spells.array hlines
  | @object fields hnames _ ih =>
    cases fields with
    | nil => exact .noFields
    | cons f fields =>
      have hlines := spellsFields_printFieldLines (blanks_newLine level) (by simp) hnames
        (fun f hf => ih f hf (level + 1))
      simpa [printIndented] using Spells.object hlines

/-- **The compact text of a document is parsed as that document.** -/
theorem parse?_compact {j : Json} (h : WellSpelled j) : parse? j.compact = some j :=
  Spells.parse?_eq (by simpa [compact] using h.spells_compact)

/-- **The indented text of a document is parsed as that document.** -/
theorem parse?_indented {j : Json} (h : WellSpelled j) : parse? j.indented = some j :=
  Spells.parse?_eq (by simpa [indented] using h.spells_indented 0)

end HostBridge.Json
