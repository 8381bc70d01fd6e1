import HostBridge.Json.Parser

/-!
# Reading documents as values

What a document says where a value of a known shape is expected. Numbers are
read the way a fast reader does it: the digits are gathered in a sixty-four
bit word as long as they fit, further digits count as powers of ten, and the
result is scaled once by a power of ten in floating point. An integer written
as such is exact; `-0` is a floating-point number; a number too large to be
finite is an error.

A record is an object, or an array of its fields in order. A field that
appears twice is an error, an unknown one is skipped unread.
-/

namespace HostBridge.Json

/-! ## Numbers -/

/-- **What a number stands for.** -/
inductive Reading where
  /-- Written without sign, fraction and exponent, and in the range. -/
  | nat (n : Nat)
  /-- A negative integer in the range of sixty-four bits. -/
  | negative (i : Int)
  /-- Any other number. -/
  | float (x : Float)

/-- The largest sixty-four bit word. -/
def wordMax : Nat := UInt64.size - 1

/-- The largest exponent that is gathered. -/
def exponentMax : Int := Int32.maxValue.toInt

/-- The value of a digit. -/
def digitValue (c : Char) : Nat := c.toNat - 48

/-- Gathers digits while they fit a word: the word, and the digits left. -/
def gather : Nat → List Char → Nat × List Char
  | n, [] => (n, [])
  | n, c :: rest =>
    let next := n * 10 + digitValue c
    if wordMax < next then (n, c :: rest) else gather next rest

/-- The finite power of ten with a given exponent. -/
def powerOfTen (e : Nat) : Float := Float.ofScientific 1 false e

/-- Divides by the largest power of ten until the exponent is in reach. -/
def scaleDown : Nat → Float → Int → Float
  | 0, x, _ => x
  | fuel + 1, x, e =>
    if -308 ≤ e then x / powerOfTen (-e).toNat
    else if x == 0 then x
    else scaleDown fuel (x / powerOfTen 308) (e + 308)

/-- The word scaled by a power of ten, if that is finite. -/
def scale? (word : Nat) (e : Int) : Option Float :=
  let x := (UInt64.ofNat word).toFloat
  if e < 0 then some (scaleDown (e.natAbs / 308 + 2) x e)
  else if 308 < e then (if x == 0 then some x else none)
  else
    let y := x * powerOfTen e.toNat
    if y.isInf then none else some y

/-- An exponent, or its sign if it is too large to be gathered. -/
def gatherExponent : Int → List Char → Option Int
  | e, [] => some e
  | e, c :: rest =>
    let next := e * 10 + digitValue c
    if exponentMax < next then none else gatherExponent next rest

/-- The scaled number when an exponent follows. -/
def withExponent? (word : Nat) (e : Int) : Option (Bool × List Char) → Option Float
  | none => scale? word e
  | some (negative, ds) =>
    match gatherExponent 0 ds with
    | some x => scale? word (if negative then e - x else e + x)
    | none => if word ≠ 0 && !negative then none else some 0

/-- The absolute value of a number that is no plain integer. -/
def magnitude? (n : JsonNumber) : Option Float :=
  let (word, dropped) := gather 0 n.whole
  match n.fraction with
  | none => withExponent? word dropped.length n.exponent
  | some f =>
    let (word', rest) := gather word f
    withExponent? word' (dropped.length - ((f.length : Int) - rest.length)) n.exponent

/-- **The reading of a number**, if it is in any range. -/
def reading? (n : JsonNumber) : Option Reading :=
  let (word, dropped) := gather 0 n.whole
  if n.fraction.isNone && n.exponent.isNone && dropped.isEmpty then
    if !n.negative then some (.nat word)
    else if word = 0 || Int64.minValue.toInt.natAbs < word then
      some (.float (-(UInt64.ofNat word).toFloat))
    else some (.negative (-(word : Int)))
  else
    (magnitude? n).map (fun x => .float (if n.negative then -x else x))

/-- An integer, if the number is written as one. -/
def readInt? : Json → Option Int
  | .number n =>
    match reading? n with
    | some (.nat k) => some k
    | some (.negative i) => some i
    | _ => none
  | _ => none

/-- An integer within bounds, ends included. -/
def readIntIn? (low high : Int) (j : Json) : Option Int := do
  let i ← readInt? j
  if low ≤ i && i ≤ high then some i else none

/-- A sixty-four bit word. -/
def readWord? (j : Json) : Option UInt64 :=
  (readIntIn? 0 wordMax j).map (fun i => UInt64.ofNat i.toNat)

/-- The bits of a double. -/
def readDouble? : Json → Option UInt64
  | .number n =>
    match reading? n with
    | some (.nat k) => some (UInt64.ofNat k).toFloat.toBits
    | some (.negative i) => some (Int64.ofInt i).toFloat.toBits
    | some (.float x) => some x.toBits
    | none => none
  | _ => none

/-- The bits of a single. -/
def readSingle? : Json → Option UInt32
  | .number n =>
    match reading? n with
    | some (.nat k) => some (UInt64.ofNat k).toFloat32.toBits
    | some (.negative i) => some (Int64.ofInt i).toFloat32.toBits
    | some (.float x) => some x.toFloat32.toBits
    | none => none
  | _ => none

/-! ## Other values -/

/-- A truth value. -/
def readBool? : Json → Option Bool
  | .bool b => some b
  | _ => none

/-- A text. -/
def readText? : Json → Option String
  | .string s => s
  | _ => none

/-- A list of values of one shape. -/
def readList? {α : Type} (read : Json → Option α) : Json → Option (List α)
  | .array items => items.mapM read
  | _ => none

/-- The name of an alternative without contents: a text, or an object with
that one name and null. -/
def readName? : Json → Option String
  | .string s => s
  | .object [(name, .null)] => name
  | _ => none

/-! ## Records -/

/-- The place of a name among the spellings of the fields. -/
def fieldIndex? (spellings : List (List String)) (name : String) : Option Nat :=
  spellings.findIdx? (fun s => s.contains name)

/-- Puts the fields of an object into their places. -/
def placeFields (spellings : List (List String)) :
    List (Option String × Json) → List (Option Json) → Option (List (Option Json))
  | [], places => some places
  | (none, _) :: _, _ => none
  | (some name, j) :: rest, places =>
    match fieldIndex? spellings name with
    | none => placeFields spellings rest places
    | some i =>
      match places[i]? with
      | some none => placeFields spellings rest (places.set i (some j))
      | _ => none

/-- **The fields of a record** in declaration order, each if it is there.
`spellings` lists the names every field goes by. -/
def readRecord? (spellings : List (List String)) : Json → Option (List (Option Json))
  | .object fields => placeFields spellings fields (spellings.map (fun _ => none))
  | .array items =>
    if items.length ≤ spellings.length then
      some (items.map some ++ List.replicate (spellings.length - items.length) none)
    else none
  | _ => none

/-- A field that has to be there. -/
def required? {α : Type} (read : Json → Option α) : Option Json → Option α
  | some j => read j
  | none => none

/-- A field with a default. -/
def optional? {α : Type} (read : Json → Option α) (default : α) : Option Json → Option α
  | some j => read j
  | none => some default

end HostBridge.Json
