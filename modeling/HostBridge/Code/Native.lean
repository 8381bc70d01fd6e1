import HostBridge.Domain.Assembly

/-!
# Native code

What native implementations, lifecycle hooks and the host itself may do: use
the resources behind handles, move instances through their lifecycle, call
bound members, keep calls running, enter managed methods behind the fault
boundary, load assemblies, hold managed objects, and ask for a collection.
`NativeCode α` is such code with a result in `α`.

Native code is a program over these operations. It may compute anything
between two of them, and its next question may depend on every reply so far,
but it acts on the host only through them, and only between two of them may it
panic.

The resources are values of **four types**, and a use of one
(`NativeOp.useResource`) is a single operation: a pure function on the value,
applied as a whole. Code that works with several handles at once, or that calls
or panics with a resource half changed, has no operation of its own here. It is
written as several uses, with the calls and the panic between them; the value a
panic leaves behind is then the one after the last use before it.
-/

namespace HostBridge

/-! ## Resources -/

/-- **The types of native resources**: the numbers, texts and counters that hooks
of this library return, and the type without content. -/
inductive ResourceKind where
  | long
  | text
  | counter
  | nothing
deriving DecidableEq, Repr

namespace ResourceKind

/-- The values of a resource of a kind. -/
abbrev Carrier : ResourceKind → Type
  | long => Int64
  | text => String
  | counter => Int32
  | nothing => Unit

/-- The name of the type in messages. -/
def typeName : ResourceKind → String
  | long => "i64"
  | text => "alloc::string::String"
  | counter => "bridge_d::fixture::native::MyObject"
  | nothing => "()"

end ResourceKind

/-- **A native resource**: its type and its value. -/
structure Resource where
  /-- The type. -/
  kind : ResourceKind
  /-- The value. -/
  value : kind.Carrier

/-! ## Methods -/

/-- **A managed method** addressed by type, name and number of parameters. -/
structure MethodRef where
  /-- Name of the type. -/
  typeName : String
  /-- Name of the method. -/
  method : String
  /-- Number of parameters. -/
  arity : Nat
deriving DecidableEq, Repr, Inhabited

/-- The text of a method reference. -/
def MethodRef.render (m : MethodRef) : String :=
  m.typeName ++ "::" ++ m.method ++ "/" ++ toString m.arity

/-- The name under which a method is entered. -/
def MethodRef.entryPoint (m : MethodRef) : String := m.typeName ++ "::" ++ m.method

/-! ## Operations -/

/-- **What native code may ask for.** -/
inductive NativeOp where
  /-- Writes a line to the journal. -/
  | note (line : String)
  /-- Asks for the state of an instance. -/
  | state (o : ObjectId)
  /-- Counts the live handles. -/
  | liveCount
  /-- Asks for the handle of an instance. -/
  | handleOf (o : ObjectId)
  /-- Asks for the instance behind a handle. -/
  | objectOf (h : Handle)
  /-- Changes the resource behind a handle by a pure function, in one go; the reply
  is the resource before. -/
  | useResource (h : Handle) (kind : ResourceKind) (update : kind.Carrier → kind.Carrier)
  /-- Destroys the native side of an instance. -/
  | destroy (o : ObjectId)
  /-- Releases a handle. -/
  | release (h : Handle)
  /-- Drops the record of a destroyed instance. -/
  | forget (o : ObjectId)
  /-- Constructs the native side of an instance of a type. -/
  | construct (typeName : String) (o : ObjectId)
  /-- Calls a bound member. -/
  | invoke (m : Member) (receiver : Option ObjectId) (args : List BoundaryValue)
  /-- Admits a call on an instance and keeps it running. -/
  | beginCall (o : ObjectId) (m : Member)
  /-- Ends a call that this thread keeps running. -/
  | endCall (h : Handle)
  /-- Calls a managed method behind the fault boundary. -/
  | enter (m : MethodRef) (receiver : Option ObjectId) (args : List BoundaryValue)
  /-- Makes an image available for loading. -/
  | provide (i : Image)
  /-- Loads an assembly. -/
  | load (name : String)
  /-- Makes an object of a class and holds it. -/
  | newInstance (c : Class)
  /-- Lets go of an object that is held. -/
  | dropInstance (o : ObjectId)
  /-- Collects garbage. -/
  | collect
  /-- Counts the objects on the managed heap. -/
  | objectCount

/-- The reply to an operation. -/
def NativeOp.Reply : NativeOp → Type
  | note _ => Unit
  | state _ => Lifecycle
  | liveCount => Nat
  | handleOf _ => Except BridgeError Handle
  | objectOf _ => Except BridgeError ObjectId
  | useResource _ kind _ => Except BridgeError kind.Carrier
  | destroy _ => Bool
  | release _ => Bool
  | forget _ => Unit
  | construct _ _ => Except BridgeError (Option Handle)
  | invoke _ _ _ => Except BridgeError BoundaryValue
  | beginCall _ _ => Except BridgeError Handle
  | endCall _ => Bool
  | enter _ _ _ => Except BridgeError BoundaryValue
  | provide _ => Unit
  | load _ => Except ScriptError Image
  | newInstance _ => Except ScriptError ObjectId
  | dropInstance _ => Bool
  | collect => Nat
  | objectCount => Nat

/-- The interface of native code. -/
def nativeInterface : Interface := ⟨NativeOp, NativeOp.Reply⟩

/-- **Native code** with a result in `α`. -/
abbrev NativeCode (α : Type) := Program nativeInterface α

namespace NativeCode

/-- Performs one operation. -/
def op (o : NativeOp) : NativeCode o.Reply := Program.op (I := nativeInterface) o

/-- Writes a line to the journal. -/
def note (line : String) : NativeCode Unit := op (.note line)

end NativeCode

/-- **Construction and destruction of the native resource of a type.** -/
structure Hooks where
  /-- Builds the resource for a fresh handle. -/
  construct : Handle → NativeCode (Except NativeFault Resource)
  /-- Receives the resource back. -/
  destroy : Handle → Resource → NativeCode Unit

end HostBridge
