import HostBridge.Code.Native
import HostBridge.Table

/-!
# The registry of native implementations

Members are bound to native implementations and types to lifecycle hooks
before the first managed call. A binding is refused when the implementation
does not take and return exactly the declared types, or when a member with the
same key is bound already; the first binding stays. Looking a member up
compares the key and then the return type.

The answer to an addition stands beside the registry that is left, whether it is
a refusal or not, so that what a refusal leaves is a matter of the code.
-/

namespace HostBridge

/-- **Why a native call did not produce a value.** -/
inductive CallFailure where
  | mismatch (m : TagMismatch)
  | arity (expected found : Nat)
  | fault (f : NativeFault)
deriving DecidableEq, Repr

/-- **A native implementation** with the types it takes and returns. -/
structure NativeCall where
  /-- The types of the arguments, the receiver's handle included. -/
  params : List Tag
  /-- The type of the result. -/
  ret : Tag
  /-- The code. -/
  run : List BoundaryValue → NativeCode (Except CallFailure BoundaryValue)

/-- The native arguments of a list of types. -/
def Tag.Args : List Tag → Type
  | [] => Unit
  | t :: ts => t.Native × Tag.Args ts

namespace NativeCall

/-- The native arguments of a list of values, converted left to right. -/
def nativeArgs : (ts : List Tag) → List BoundaryValue → Except CallFailure (Tag.Args ts)
  | [], _ => .ok ()
  | t :: ts, v :: vs => do
    let x ← (v.toNative t).mapError .mismatch
    let xs ← nativeArgs ts vs
    return (x, xs)
  | t :: ts, [] => .error (.arity (t :: ts).length 0)

/-- **An untyped implementation**, which is trusted with its result. -/
def ofRaw (params : List Tag) (ret : Tag)
    (body : List BoundaryValue → NativeCode (Except NativeFault BoundaryValue)) : NativeCall where
  params := params
  ret := ret
  run args := do
    let result ← body args
    return result.mapError .fault

/-- **A typed implementation**: the arguments are converted first, and the
result has the declared type by construction. -/
def ofTyped (params : List Tag) (ret : Tag)
    (body : Tag.Args params → NativeCode (Except NativeFault ret.Native)) : NativeCall where
  params := params
  ret := ret
  run args :=
    if args.length = params.length then
      match nativeArgs params args with
      | .ok xs => do
        let result ← body xs
        return (result.map (BoundaryValue.ofNative ret)).mapError .fault
      | .error e => return .error e
    else return .error (.arity params.length args.length)

/-- The types of an implementation, as messages show them. -/
def describe (c : NativeCall) : String := (Signature.mk c.params c.ret).render

end NativeCall

/-- **A member and its implementation.** -/
structure Binding where
  /-- The member. -/
  member : Member
  /-- The implementation. -/
  call : NativeCall

/-- **The table of bindings** and of the types whose instances own a native
resource. -/
structure Registry where
  /-- The bindings by key. -/
  calls : Table Member.Key Binding := .empty
  /-- The hooks by full type name. -/
  types : Table String Hooks := .empty

namespace Registry

/-- The registry without bindings. -/
def empty : Registry := {}

/-- **Binds a member to an implementation.** The registry that is left stands
beside the answer. -/
def register (r : Registry) (m : Member) (c : NativeCall) : Except BridgeError Unit × Registry :=
  if c.params ≠ m.nativeParams || c.ret ≠ m.signature.ret then
    (.error (.signatureMismatch m.render c.describe), r)
  else
    match r.calls.get? m.key with
    | some b =>
      (.error (.duplicateBinding (m.render ++ " (already bound as " ++ b.member.render ++ ")")), r)
    | none => (.ok (), { r with calls := r.calls.insert m.key ⟨m, c⟩ })

/-- **Declares a type whose instances own a native resource.** -/
def bridgeType (r : Registry) (typeName : String) (hooks : Hooks) :
    Except BridgeError Unit × Registry :=
  if r.types.contains typeName then
    (.error (.duplicateBinding (typeName ++ " lifecycle hooks")), r)
  else (.ok (), { r with types := r.types.insert typeName hooks })

/-- **What can be added to a registry.** -/
inductive Addition where
  /-- A member with its implementation. -/
  | member (m : Member) (c : NativeCall)
  /-- A type with its hooks. -/
  | type (name : String) (hooks : Hooks)

/-- Adds one thing. -/
def add (r : Registry) : Addition → Except BridgeError Unit × Registry
  | .member m c => r.register m c
  | .type name hooks => r.bridgeType name hooks

/-- **Adds one thing after the other** up to the first that is refused. What was
added before stays. -/
def addAll (r : Registry) : List Addition → Except BridgeError Unit × Registry
  | [] => (.ok (), r)
  | a :: rest =>
    match r.add a with
    | (.ok (), r') => r'.addAll rest
    | (.error e, r') => (.error e, r')

/-- **The implementation bound to a member**: found by key, and only if the
return type is the bound one. -/
def resolve (r : Registry) (m : Member) : Except BridgeError NativeCall :=
  match r.calls.get? m.key with
  | some b =>
    if b.member.signature.ret = m.signature.ret then .ok b.call
    else .error (.unboundMember m.render)
  | none => .error (.unboundMember m.render)

/-- The hooks of a type. -/
def hooks? (r : Registry) (typeName : String) : Option Hooks := r.types.get? typeName

/-- Whether instances of a type own a native resource. -/
def isBridged (r : Registry) (typeName : String) : Bool := r.types.contains typeName

/-- All bound members. -/
def members (r : Registry) : List Member := r.calls.values.map Binding.member

/-- The number of bindings. -/
def size (r : Registry) : Nat := r.calls.size

/-- The text of a registry: how much it holds. -/
def render (r : Registry) : String :=
  "NativeCallRegistry \x7b calls: " ++ toString r.calls.size
    ++ ", types: " ++ toString r.types.size ++ ", .. \x7d"

end Registry

/-- The text of an implementation: the types it takes and returns. -/
def NativeCall.render (c : NativeCall) : String :=
  "NativeCall \x7b params: [" ++ ", ".intercalate (c.params.map Tag.dataName)
    ++ "], ret: " ++ c.ret.dataName ++ ", .. \x7d"

end HostBridge
