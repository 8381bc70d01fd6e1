import HostBridge.Tag
import HostBridge.Decimal.FloatText
import HostBridge.Text.Quoted

/-!
# Boundary values

What crosses between native and managed code: numbers of exact width, strings,
handles of native resources, and the absence of a value. A conversion between
a `BoundaryValue` and the native type of a tag is exact: the tag of the value
must be the tag of the type (`toNative`), and there is no widening, narrowing
or change of sign. Going to the native type and back is the identity
(`toNative_ofNative`, `ofNative_of_toNative`).

Floating-point numbers are held as bits. Nothing is computed with them at the
boundary, and two of them are the same value exactly if they are the same bits.
-/

namespace HostBridge

/-- Identity of a managed instance, assigned by the managed runtime. -/
structure ObjectId where
  /-- The number. -/
  number : UInt64
deriving DecidableEq, Repr, Inhabited

/-- The text of an object identity. -/
def ObjectId.render (o : ObjectId) : String := "obj#" ++ toString o.number.toNat

/-- Opaque reference to the native resource of one managed instance. -/
structure Handle where
  /-- The number. -/
  number : UInt64
deriving DecidableEq, Repr, Inhabited

/-- The text of a handle. -/
def Handle.render (h : Handle) : String := "handle#" ++ toString h.number.toNat

/-- **A value as it crosses the boundary.** Floating-point numbers are their
bit patterns. -/
inductive BoundaryValue where
  | int32 (v : Int32)
  | int64 (v : Int64)
  | uint32 (v : UInt32)
  | uint64 (v : UInt64)
  | float32 (bits : UInt32)
  | float64 (bits : UInt64)
  | bool (v : Bool)
  | string (v : String)
  | object (h : Handle)
  | void
deriving DecidableEq, Inhabited

/-- A value whose tag is not the declared one. -/
structure TagMismatch where
  /-- The declared tag. -/
  expected : Tag
  /-- The tag of the value. -/
  found : Tag
deriving DecidableEq, Repr

/-- The text of a mismatch. -/
def TagMismatch.message (e : TagMismatch) : String :=
  "expected " ++ e.expected.managedName ++ ", found " ++ e.found.managedName

/-- The native type of a tag. -/
abbrev Tag.Native : Tag → Type
  | .int32 => Int32
  | .int64 => Int64
  | .uint32 => UInt32
  | .uint64 => UInt64
  | .float32 => UInt32
  | .float64 => UInt64
  | .bool => Bool
  | .string => String
  | .object => Handle
  | .void => Unit

namespace BoundaryValue

/-- The tag of a value. -/
def tag : BoundaryValue → Tag
  | int32 _ => .int32
  | int64 _ => .int64
  | uint32 _ => .uint32
  | uint64 _ => .uint64
  | float32 _ => .float32
  | float64 _ => .float64
  | bool _ => .bool
  | string _ => .string
  | object _ => .object
  | void => .void

/-- Whether the value is the absence of one. -/
def isVoid : BoundaryValue → Bool
  | void => true
  | _ => false

/-- **The text of a value.** Widths other than `int` and `double` are marked. -/
def render : BoundaryValue → String
  | int32 v => toString v.toInt
  | int64 v => toString v.toInt ++ "L"
  | uint32 v => toString v.toNat ++ "u"
  | uint64 v => toString v.toNat ++ "UL"
  | float32 b => FloatStyle.boundary.render .single b.toNat ++ "f"
  | float64 b => FloatStyle.boundary.render .double b.toNat
  | bool v => if v then "true" else "false"
  | string v => Text.quoted v
  | object h => h.render
  | void => "void"

/-- Fails unless the value carries exactly the expected tag. -/
def checkTag (v : BoundaryValue) (expected : Tag) : Except TagMismatch Unit :=
  if v.tag = expected then .ok () else .error ⟨expected, v.tag⟩

/-- Checks values against declared tags, left to right. -/
def checkTags : List BoundaryValue → List Tag → Except TagMismatch Unit
  | v :: vs, t :: ts => do
    v.checkTag t
    checkTags vs ts
  | _, _ => .ok ()

/-- **Conversion to the native type of a tag**, exact or refused. -/
def toNative (v : BoundaryValue) : (t : Tag) → Except TagMismatch t.Native
  | .int32 => match v with | int32 x => .ok x | w => .error ⟨.int32, w.tag⟩
  | .int64 => match v with | int64 x => .ok x | w => .error ⟨.int64, w.tag⟩
  | .uint32 => match v with | uint32 x => .ok x | w => .error ⟨.uint32, w.tag⟩
  | .uint64 => match v with | uint64 x => .ok x | w => .error ⟨.uint64, w.tag⟩
  | .float32 => match v with | float32 x => .ok x | w => .error ⟨.float32, w.tag⟩
  | .float64 => match v with | float64 x => .ok x | w => .error ⟨.float64, w.tag⟩
  | .bool => match v with | bool x => .ok x | w => .error ⟨.bool, w.tag⟩
  | .string => match v with | string x => .ok x | w => .error ⟨.string, w.tag⟩
  | .object => match v with | object x => .ok x | w => .error ⟨.object, w.tag⟩
  | .void => match v with | void => .ok () | w => .error ⟨.void, w.tag⟩

/-- The boundary value of a native value. -/
def ofNative : (t : Tag) → t.Native → BoundaryValue
  | .int32, x => int32 x
  | .int64, x => int64 x
  | .uint32, x => uint32 x
  | .uint64, x => uint64 x
  | .float32, x => float32 x
  | .float64, x => float64 x
  | .bool, x => bool x
  | .string, x => string x
  | .object, x => object x
  | .void, _ => void

/-- **Hands a native value of tag `t` to a slot declared as `expected`.** -/
def toSlot (t : Tag) (x : t.Native) (expected : Tag) : Except TagMismatch BoundaryValue :=
  if t = expected then .ok (ofNative t x) else .error ⟨expected, t⟩

@[simp] theorem tag_ofNative (t : Tag) (x : t.Native) : (ofNative t x).tag = t := by
  cases t <;> rfl

@[simp] theorem toNative_ofNative (t : Tag) (x : t.Native) :
    (ofNative t x).toNative t = .ok x := by
  cases t <;> rfl

theorem toNative_eq_error {v : BoundaryValue} {t : Tag} (h : v.tag ≠ t) :
    v.toNative t = .error ⟨t, v.tag⟩ := by
  cases t <;> cases v <;> simp_all [toNative, tag]

theorem ofNative_of_toNative {v : BoundaryValue} {t : Tag} {x : t.Native}
    (h : v.toNative t = .ok x) : ofNative t x = v := by
  cases t <;> cases v <;> cases h <;> rfl

end BoundaryValue

end HostBridge
