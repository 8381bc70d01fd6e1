/-!
# JSON documents

A document as its text spells it: numbers are kept as written, fields in
their order with repetitions, and a string with an unpaired surrogate escape
is kept as a text that cannot be read. Such a string is well formed where
nothing looks at it and an error where something does; the same holds of a
number out of every range.
-/

namespace HostBridge

/-- **A number as it is written.** -/
structure JsonNumber where
  /-- Whether a minus sign stands in front. -/
  negative : Bool
  /-- The digits before the point. -/
  whole : List Char
  /-- The digits after the point, if there is a point. -/
  fraction : Option (List Char) := none
  /-- Whether the exponent is negative, and its digits, if there is one. -/
  exponent : Option (Bool × List Char) := none
deriving DecidableEq, Inhabited

/-- **A document.** A text is `none` when a surrogate escape in it has no
partner. -/
inductive Json where
  | null
  | bool (b : Bool)
  | number (n : JsonNumber)
  | string (text : Option String)
  | array (items : List Json)
  | object (fields : List (Option String × Json))
deriving Inhabited

namespace Json

/-- A readable text. -/
def text (s : String) : Json := string (some s)

/-- A natural number. -/
def nat (n : Nat) : Json := number ⟨false, Nat.toDigits 10 n, none, none⟩

/-- An integer. -/
def int (i : Int) : Json := number ⟨i < 0, Nat.toDigits 10 i.natAbs, none, none⟩

/-- An object with readable names. -/
def record (fields : List (String × Json)) : Json :=
  object (fields.map (fun f => (some f.1, f.2)))

end Json

end HostBridge
