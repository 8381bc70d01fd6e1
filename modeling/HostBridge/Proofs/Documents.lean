import HostBridge.Document
import HostBridge.Proofs.Json.Layouts
import HostBridge.Proofs.Json.Reading

/-!
# Members, exceptions and values come back from their documents

What is written as a document is read as what it was: `documents_come_back`
for the texts of members, exceptions and values that are no floating-point
numbers. The parts of the argument lie elsewhere. That the text is parsed as
the document it was printed from is `parse?_compact`; that a number reads as
itself up to the ends of its range is in the readers' module. What is left is
one lemma per kind of data, that its reader undoes its writer.

Texts cannot be shared across kinds either. Between data of one kind this is
what reading back says; between kinds it is the names of the fields, which no
two kinds have in common.

Floating-point numbers are left out. They have no document here, since which
digits are written for one, and which number is read from them, is a question
about their arithmetic and not about documents.
-/

namespace HostBridge

open Json (WellSpelled)

/-! ## Tags, signatures and kinds

Written as names, and as lists of them. -/

theorem Tag.wellSpelled_toJson (t : Tag) : t.toJson.WellSpelled := .text _

theorem Tag.ofJson?_toJson (t : Tag) : Tag.ofJson? t.toJson = some t := by cases t <;> rfl

theorem Signature.wellSpelled_toJson (s : Signature) : s.toJson.WellSpelled := by
  refine .record ?_
  simp [WellSpelled.array_map Tag.wellSpelled_toJson, Tag.wellSpelled_toJson]

theorem Signature.ofJson?_toJson (s : Signature) : Signature.ofJson? s.toJson = some s := by
  have hrecord : Json.readRecord? [["params"], ["ret"]] s.toJson
      = some [some (.array (s.params.map Tag.toJson)), some s.ret.toJson] := rfl
  simp [ofJson?, hrecord, Json.required?, Json.readList?_map Tag.ofJson?_toJson,
    Tag.ofJson?_toJson]

theorem MemberKind.ofJson?_toJson (k : MemberKind) : MemberKind.ofJson? k.toJson = some k := by
  cases k <;> rfl

/-! ## Members and exceptions

Records, each with fields of its own. -/

theorem Member.wellSpelled_toJson (m : Member) : m.toJson.WellSpelled := by
  refine .record ?_
  simp [WellSpelled.text, m.signature.wellSpelled_toJson, MemberKind.toJson]

/-- A member's document stands for that member. -/
theorem Member.ofJson?_toJson (m : Member) : Member.ofJson? m.toJson = some m := by
  have hrecord : Json.readRecord? [["type_name"], ["member"], ["signature"], ["kind"]] m.toJson
      = some [some (.text m.typeName), some (.text m.name), some m.signature.toJson,
        some m.kind.toJson] := rfl
  simp [ofJson?, hrecord, Json.required?, Json.optional?, Json.readText?, Json.text,
    m.signature.ofJson?_toJson, m.kind.ofJson?_toJson]

theorem ManagedException.wellSpelled_toJson (e : ManagedException) : e.toJson.WellSpelled := by
  refine .record ?_
  simp [WellSpelled.text, WellSpelled.array_map WellSpelled.text]

theorem readText?_text (s : String) : Json.readText? (.text s) = some s := rfl

/-- An exception's document stands for that exception. -/
theorem ManagedException.ofJson?_toJson (e : ManagedException) :
    ManagedException.ofJson? e.toJson = some e := by
  have hrecord : Json.readRecord? [["type_name"], ["message"], ["trace"]] e.toJson
      = some [some (.text e.typeName), some (.text e.message), some (.array (e.trace.map .text))] :=
    rfl
  simp [ofJson?, hrecord, Json.required?, Json.optional?, readText?_text,
    Json.readList?_map readText?_text]

/-! ## Values

A value is written as a record of its type and its contents. The type says how the contents are
read, so that a number is not taken for a number of another width. -/

namespace BoundaryValue

/-- A value that is no floating-point number has a document. -/
theorem toJson?_isSome {v : BoundaryValue} (h : v.isFloat = false) : v.toJson?.isSome := by
  simp [toJson?, h]

theorem wellSpelled_contents {v : BoundaryValue} {j : Json} (h : v.contents = some j) :
    j.WellSpelled := by
  cases v <;> simp only [contents, Option.some.injEq, reduceCtorEq] at h <;> subst h
  case bool => exact .bool _
  case string => exact .text _
  all_goals first | exact .int _ | exact .nat _

theorem wellSpelled_toJson? {v : BoundaryValue} {j : Json} (h : v.toJson? = some j) :
    j.WellSpelled := by
  rw [toJson?] at h
  split_ifs at h
  obtain rfl := Option.some.inj h
  refine .record fun f hf => ?_
  rcases List.mem_cons.mp hf with rfl | hf
  · exact v.tag.wellSpelled_toJson
  · obtain ⟨k, hk, rfl⟩ := Option.map_eq_some_iff.mp (Option.mem_toList.mp hf)
    exact wellSpelled_contents hk

/-- The contents of a value are read as that value where its type is expected. -/
theorem ofContents?_contents {v : BoundaryValue} {j : Json} (h : v.contents = some j) :
    ofContents? j v.tag = some v := by
  cases v <;> simp only [contents, Option.some.injEq, reduceCtorEq] at h <;> subst h
  case int32 v =>
    rw [tag, ofContents?,
      Json.readIntIn?_int v.minValue_le_toInt v.toInt_le (by decide) (by decide)]
    simp
  case int64 v =>
    rw [tag, ofContents?,
      Json.readIntIn?_int v.minValue_le_toInt v.toInt_le (by decide) (by decide)]
    simp
  case uint32 v =>
    have hv : (v.toNat : Int) ≤ UInt32.size - 1 := by
      have := v.toNat_lt
      have hsize : UInt32.size = 4294967296 := rfl
      omega
    rw [tag, ofContents?, Json.readIntIn?_nat hv (by decide)]
    simp
  case uint64 v => rw [tag, ofContents?, Json.readWord?_nat, Option.map_some]
  case bool v => rfl
  case string v => rfl
  case object v => rw [tag, ofContents?, Json.readWord?_nat, Option.map_some]

/-- **The document of a value** is a record of its type and its contents, if it
has any. -/
theorem toJson?_eq {v : BoundaryValue} (h : v.isFloat = false) :
    v.toJson? = some (.record [("type", v.tag.toJson)])
      ∨ ∃ k, v.toJson? = some (.record [("type", v.tag.toJson), ("value", k)]) := by
  cases hcontents : v.contents with
  | none => exact .inl (by simp [toJson?, h, hcontents])
  | some k => exact .inr ⟨k, by simp [toJson?, h, hcontents]⟩

/-- A value's document stands for that value. -/
theorem ofJson?_toJson? {v : BoundaryValue} {j : Json} (h : v.toJson? = some j) :
    ofJson? j = some v := by
  have htag : tagOfJson? v.tag.toJson = some v.tag := by cases v <;> rfl
  rw [toJson?] at h
  split_ifs at h with hfloat
  obtain rfl := Option.some.inj h
  cases hcontents : v.contents with
  | none =>
    -- the only value left without contents is `void`
    cases v <;> simp [contents, isFloat] at hcontents hfloat
    rfl
  | some k =>
    have hread : ofJson? (.record [("type", v.tag.toJson), ("value", k)])
        = tagOfJson? v.tag.toJson >>= ofContents? k := rfl
    rw [Option.map_some, Option.toList_some, hread, htag]
    exact ofContents?_contents hcontents

end BoundaryValue

/-! ## What is passed on as text

The three kinds taken together, with one reader for all of them. -/

/-- **What is passed on as a document**: a member, an exception, or a value
that is no floating-point number. -/
inductive Datum where
  | member (m : Member)
  | exception (e : ManagedException)
  | value (v : BoundaryValue) (plain : v.isFloat = false)

namespace Datum

/-- The document of what is passed on. -/
def document : Datum → Json
  | member m => m.toJson
  | exception e => e.toJson
  | value v plain => v.toJson?.get (v.toJson?_isSome plain)

/-- The text of what is passed on. -/
def text (d : Datum) : String := d.document.compact

theorem wellSpelled (d : Datum) : d.document.WellSpelled := by
  cases d with
  | member m => exact m.wellSpelled_toJson
  | exception e => exact e.wellSpelled_toJson
  | value v plain => exact v.wellSpelled_toJson? (Option.some_get _).symm

/-- What a document stands for: no document is read as data of two kinds. -/
def ofJson? (j : Json) : Option Datum :=
  match Member.ofJson? j, ManagedException.ofJson? j, BoundaryValue.ofJson? j with
  | some m, _, _ => some (member m)
  | none, some e, _ => some (exception e)
  | none, none, some v => if h : v.isFloat = false then some (value v h) else none
  | none, none, none => none

/-- **The document says what it is of**: the kinds are told apart by the names
of the fields that they cannot do without. -/
theorem ofJson?_document (d : Datum) : ofJson? d.document = some d := by
  cases d with
  | member m => simp [ofJson?, document, m.ofJson?_toJson]
  | exception e =>
    have hother : Member.ofJson? e.toJson = none := rfl
    simp [ofJson?, document, hother, e.ofJson?_toJson]
  | value v plain =>
    have hdoc : v.toJson? = some (value v plain).document := (Option.some_get _).symm
    have hother : Member.ofJson? (value v plain).document = none
        ∧ ManagedException.ofJson? (value v plain).document = none := by
      rcases v.toJson?_eq plain with h | ⟨k, h⟩ <;>
        rw [← Option.some.inj (h.symm.trans hdoc)] <;> exact ⟨rfl, rfl⟩
    simp [ofJson?, hother, v.ofJson?_toJson? hdoc, plain]

/-- Whatever is passed on comes back from its text. -/
theorem ofJson?_text (d : Datum) : (Json.parse? d.text >>= ofJson?) = some d := by
  rw [text, Json.parse?_compact d.wellSpelled]
  exact d.ofJson?_document

/-- **No two data share a text.** -/
theorem text_injective : Function.Injective text := by
  intro d d' h
  have hread := d.ofJson?_text
  rw [h, d'.ofJson?_text] at hread
  exact (Option.some.inj hread).symm

end Datum

/-- **Main: what is written is read back.** The text of a member, of an
exception and of a value that is no floating-point number is parsed and read
as that member, exception or value, and no two of them have the same text, of
one kind or of two. -/
theorem documents_come_back :
    (∀ m : Member, (Json.parse? m.toJson.compact >>= Member.ofJson?) = some m)
      ∧ (∀ e : ManagedException,
          (Json.parse? e.toJson.compact >>= ManagedException.ofJson?) = some e)
      ∧ (∀ v : BoundaryValue, v.isFloat = false →
          ∃ j, v.toJson? = some j ∧ (Json.parse? j.compact >>= BoundaryValue.ofJson?) = some v)
      ∧ Function.Injective Datum.text := by
  refine ⟨fun m => ?_, fun e => ?_, fun v hv => ?_, Datum.text_injective⟩
  · rw [Json.parse?_compact m.wellSpelled_toJson]
    exact m.ofJson?_toJson
  · rw [Json.parse?_compact e.wellSpelled_toJson]
    exact e.ofJson?_toJson
  · obtain ⟨j, hj⟩ := Option.isSome_iff_exists.mp (v.toJson?_isSome hv)
    refine ⟨j, hj, ?_⟩
    rw [Json.parse?_compact (v.wellSpelled_toJson? hj)]
    exact v.ofJson?_toJson? hj

/-- A text with a quote, a backslash, a control character and one beyond the
basic plane comes back. -/
theorem documents_come_back_text :
    (BoundaryValue.string "\"\\\u0001\n😀").isFloat = false
      ∧ ∃ j, (BoundaryValue.string "\"\\\u0001\n😀").toJson? = some j
        ∧ (Json.parse? j.compact >>= BoundaryValue.ofJson?)
          = some (.string "\"\\\u0001\n😀") :=
  ⟨rfl, documents_come_back.2.2.1 _ rfl⟩

end HostBridge
