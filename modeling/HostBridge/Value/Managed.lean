import HostBridge.Value.Boundary

/-!
# Managed values

Values as managed code sees them. They differ from boundary values in two
points: an object is named by its identity and not by a native handle, and
there is a `null`, which fits every reference slot and never crosses the
boundary.

So a managed value and a boundary value of one type say the same for everything
but objects, and for those it takes the bridge to go from one to the other.
-/

namespace HostBridge

/-- **A value as managed code sees it.** -/
inductive ManagedValue where
  | void
  | null
  | int32 (v : Int32)
  | int64 (v : Int64)
  | uint32 (v : UInt32)
  | uint64 (v : UInt64)
  | float32 (bits : UInt32)
  | float64 (bits : UInt64)
  | bool (v : Bool)
  | string (v : String)
  | object (o : ObjectId)
deriving DecidableEq, Inhabited

namespace ManagedValue

/-- **Whether a value can be stored in a slot of a type.** -/
def fits : ManagedValue → Tag → Bool
  | void, t => t = .void
  | null, t => t = .object || t = .string
  | int32 _, t => t = .int32
  | int64 _, t => t = .int64
  | uint32 _, t => t = .uint32
  | uint64 _, t => t = .uint64
  | float32 _, t => t = .float32
  | float64 _, t => t = .float64
  | bool _, t => t = .bool
  | string _, t => t = .string
  | object _, t => t = .object

/-- The tags of the slots a value fits, in declaration order. -/
def fitting (v : ManagedValue) : List Tag := Tag.all.filter v.fits

/-- The object a value names, if it names one. -/
def asObject? : ManagedValue → Option ObjectId
  | object o => some o
  | _ => none

/-- **The text of a value**: numbers plain, strings without quotes. -/
def render : ManagedValue → String
  | void => "void"
  | null => "null"
  | int32 v => toString v.toInt
  | int64 v => toString v.toInt
  | uint32 v => toString v.toNat
  | uint64 v => toString v.toNat
  | float32 b => FloatStyle.managed.render .single b.toNat
  | float64 b => FloatStyle.managed.render .double b.toNat
  | bool v => if v then "true" else "false"
  | string v => v
  | object o => o.render

end ManagedValue

end HostBridge
