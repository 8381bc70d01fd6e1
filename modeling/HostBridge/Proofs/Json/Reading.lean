import HostBridge.Json.Reader
import Mathlib.Data.List.Nodup
import Mathlib.Tactic.Common

/-!
# Reading what was written

A number, a list and a record read back as what they were written from. For a
record the order of the fields is free, fields that the reader does not know do
not count, and a field that is missing leaves its place empty:
`readRecord?_record` says which document stands in which place afterwards, in
terms of which fields there are and not of where they stand, so that permuting
them cannot matter.

Digits are gathered in a word of sixty-four bits; a number within the range
never reaches the point where digits are dropped, since every beginning of its
digits is a smaller number.
-/

namespace HostBridge.Json

/-! ## Numbers

The reader gathers digits from the left, and stops at what does not fit. -/

/-- More digits make a number no smaller. -/
theorem le_ofDigitChars (cs : List Char) (n : Nat) : n ≤ Nat.ofDigitChars 10 cs n := by
  rw [Nat.ofDigitChars_eq_ofDigitChars_zero]
  have hpow : 0 < 10 ^ cs.length := Nat.pow_pos (by decide)
  calc n ≤ 10 ^ cs.length * n := Nat.le_mul_of_pos_left n hpow
    _ ≤ _ := Nat.le_add_right _ _

/-- Digits of a number in the range are all gathered. -/
theorem gather_eq {cs : List Char} {n : Nat} (h : Nat.ofDigitChars 10 cs n ≤ wordMax) :
    gather n cs = (Nat.ofDigitChars 10 cs n, []) := by
  induction cs generalizing n with
  | nil => rfl
  | cons c cs ih =>
    have hnext : n * 10 + digitValue c = 10 * n + (c.toNat - '0'.toNat) := by
      rw [Nat.mul_comm]
      rfl
    rw [Nat.ofDigitChars_cons] at h ⊢
    have hfits : ¬ wordMax < n * 10 + digitValue c := by
      rw [hnext, Nat.not_lt]
      exact Nat.le_trans (le_ofDigitChars cs _) h
    rw [gather, if_neg hfits, hnext]
    exact ih h

/-- The digits of a number in the range are gathered to that number. -/
theorem gather_toDigits {n : Nat} (h : n ≤ wordMax) :
    gather 0 (Nat.toDigits 10 n) = (n, []) := by
  have heq : Nat.ofDigitChars 10 (Nat.toDigits 10 n) 0 = n := Nat.ofDigitChars_ten_toDigits
  rw [gather_eq (by rw [heq]; exact h), heq]

/-- The digits of a number in the range stand for that number. -/
theorem reading?_toDigits {n : Nat} (h : n ≤ wordMax) :
    reading? ⟨false, Nat.toDigits 10 n, none, none⟩ = some (.nat n) := by
  simp [reading?, gather_toDigits h]

/-- With a minus in front they stand for its negative. -/
theorem reading?_minus_toDigits {n : Nat} (hpos : n ≠ 0) (h : n ≤ Int64.minValue.toInt.natAbs) :
    reading? ⟨true, Nat.toDigits 10 n, none, none⟩ = some (.negative (-(n : Int))) := by
  have hword : n ≤ wordMax := Nat.le_trans h (by decide)
  have hsmall : n ≤ 9223372036854775808 := Nat.le_trans h (by decide)
  simp [reading?, gather_toDigits hword, hpos, hsmall]

/-- A natural number in the range reads as itself. -/
theorem readInt?_nat {n : Nat} (h : n ≤ wordMax) : readInt? (.nat n) = some (n : Int) := by
  rw [Json.nat, readInt?, reading?_toDigits h]

/-- An integer in the range of either kind of word reads as itself. -/
theorem readInt?_int {i : Int} (hlow : Int64.minValue.toInt ≤ i) (hhigh : i ≤ wordMax) :
    readInt? (.int i) = some i := by
  by_cases hi : i < 0
  · have hzero : i.natAbs ≠ 0 := by omega
    have hrange : i.natAbs ≤ Int64.minValue.toInt.natAbs := by omega
    have habs : -(i.natAbs : Int) = i := by omega
    rw [Json.int, decide_eq_true hi, readInt?, reading?_minus_toDigits hzero hrange]
    exact congrArg some habs
  · have hword : i.natAbs ≤ wordMax := by omega
    have habs : (i.natAbs : Int) = i := by omega
    rw [Json.int, decide_eq_false hi, readInt?, reading?_toDigits hword]
    exact congrArg some habs

/-- An integer within bounds reads as itself. -/
theorem readIntIn?_int {low high i : Int} (hlow : low ≤ i) (hhigh : i ≤ high)
    (hmin : Int64.minValue.toInt ≤ low) (hmax : high ≤ wordMax) :
    readIntIn? low high (.int i) = some i := by
  have hread : readInt? (.int i) = some i :=
    readInt?_int (Int.le_trans hmin hlow) (Int.le_trans hhigh hmax)
  simp [readIntIn?, hread, hlow, hhigh]

/-- A natural number up to a bound reads as itself. -/
theorem readIntIn?_nat {n : Nat} {high : Int} (hhigh : (n : Int) ≤ high) (hmax : high ≤ wordMax) :
    readIntIn? 0 high (.nat n) = some (n : Int) := by
  have hread : readInt? (.nat n) = some (n : Int) := readInt?_nat (by omega)
  simp [readIntIn?, hread, hhigh]

/-- A word reads as itself. -/
theorem readWord?_nat (w : UInt64) : readWord? (.nat w.toNat) = some w := by
  have hword : (w.toNat : Int) ≤ wordMax := by
    have hlt := w.toNat_lt
    have hmax : wordMax = 18446744073709551615 := by decide
    omega
  rw [readWord?, readIntIn?_nat hword (Int.le_refl _)]
  simp

/-! ## Lists -/

/-- A list reads back when every entry does. -/
theorem readList?_map {α : Type} {read : Json → Option α} {write : α → Json}
    (h : ∀ a, read (write a) = some a) (l : List α) :
    readList? read (.array (l.map write)) = some l := by
  rw [readList?]
  induction l with
  | nil => rfl
  | cons a l ih => simp [List.mapM_cons, h, ih]

/-! ## Records

A record is read into places, one for each name that its reader knows. -/

section

variable {spellings : List (List String)}

/-- The known fields among given ones, by their places. -/
def knownPlaces (spellings : List (List String)) (fields : List (String × Json)) : List Nat :=
  fields.filterMap (fun f => fieldIndex? spellings f.1)

/-- A place is one of the record's. -/
theorem fieldIndex?_lt {name : String} {i : Nat} (h : fieldIndex? spellings name = some i) :
    i < spellings.length :=
  (List.findIdx?_eq_some_iff_getElem.mp h).1

/-- **What is put where**: no place is filled twice, so every field finds its
place empty, and a place that no field has stays as it was. -/
theorem placeFields_spec {fields : List (String × Json)} {places : List (Option Json)}
    (hlength : places.length = spellings.length)
    (hnodup : (knownPlaces spellings fields).Nodup)
    (hempty : ∀ i ∈ knownPlaces spellings fields, places[i]? = some none) :
    ∃ out, placeFields spellings (fields.map (fun f => (some f.1, f.2))) places = some out
      ∧ out.length = spellings.length
      ∧ (∀ f ∈ fields, ∀ i, fieldIndex? spellings f.1 = some i → out[i]? = some (some f.2))
      ∧ (∀ i ∉ knownPlaces spellings fields, out[i]? = places[i]?) := by
  induction fields generalizing places with
  | nil => exact ⟨places, rfl, hlength, by simp, by simp⟩
  | cons f fields ih =>
    obtain ⟨name, j⟩ := f
    cases hindex : fieldIndex? spellings name with
    | none =>
      have hknown : knownPlaces spellings ((name, j) :: fields) = knownPlaces spellings fields := by
        simp [knownPlaces, hindex]
      rw [hknown] at hnodup hempty ⊢
      obtain ⟨out, hout, hlength', hfilled, hrest⟩ := ih hlength hnodup hempty
      refine ⟨out, by simpa [placeFields, hindex] using hout, hlength', ?_, hrest⟩
      intro f hf i hi
      rcases List.mem_cons.mp hf with rfl | hf
      · rw [hindex] at hi
        cases hi
      · exact hfilled f hf i hi
    | some i =>
      have hknown : knownPlaces spellings ((name, j) :: fields)
          = i :: knownPlaces spellings fields := by
        simp [knownPlaces, hindex]
      rw [hknown] at hnodup hempty ⊢
      obtain ⟨hnot, hnodup⟩ := List.nodup_cons.mp hnodup
      have hi : i < places.length := by rw [hlength]; exact fieldIndex?_lt hindex
      have hempty' : ∀ k ∈ knownPlaces spellings fields,
          (places.set i (some j))[k]? = some none := by
        intro k hk
        rw [List.getElem?_set_ne (by rintro rfl; exact hnot hk)]
        exact hempty k (by simp [hk])
      obtain ⟨out, hout, hlength', hfilled, hrest⟩ := ih (by simpa using hlength) hnodup hempty'
      refine ⟨out, ?_, hlength', ?_, ?_⟩
      · simpa [placeFields, hindex, hempty i (by simp)] using hout
      · intro f hf k hk
        rcases List.mem_cons.mp hf with rfl | hf
        · obtain rfl : i = k := by rw [hindex] at hk; exact Option.some.inj hk
          rw [hrest i hnot, List.getElem?_set_self hi]
        · exact hfilled f hf k hk
      · intro k hk
        obtain ⟨hne, hk⟩ := not_or.mp (List.mem_cons.not.mp hk)
        rw [hrest k hk, List.getElem?_set_ne (Ne.symm hne)]

/-- **A record's fields in their places**, whatever their order and whatever
else there is. -/
theorem readRecord?_record {fields : List (String × Json)}
    (hnodup : (knownPlaces spellings fields).Nodup) :
    ∃ places, readRecord? spellings (.record fields) = some places
      ∧ places.length = spellings.length
      ∧ (∀ f ∈ fields, ∀ i, fieldIndex? spellings f.1 = some i → places[i]? = some (some f.2))
      ∧ (∀ i < spellings.length, i ∉ knownPlaces spellings fields → places[i]? = some none) := by
  have hstart : ∀ i < spellings.length,
      (spellings.map (fun _ => (none : Option Json)))[i]? = some none := by
    intro i hi
    simp [hi]
  obtain ⟨places, hplaces, hlength, hfilled, hrest⟩ :=
    placeFields_spec (List.length_map _) hnodup (fun i hi => by
      obtain ⟨f, -, hf⟩ := List.mem_filterMap.mp hi
      exact hstart i (fieldIndex?_lt hf))
  exact ⟨places, hplaces, hlength, hfilled, fun i hi hnot => (hrest i hnot).trans (hstart i hi)⟩

end

end HostBridge.Json
