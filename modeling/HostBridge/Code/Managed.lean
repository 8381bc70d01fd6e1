import HostBridge.BridgeError
import HostBridge.Code.Program
import HostBridge.Value.Managed

/-!
# Managed code

The body of a managed method sees its receiver, its arguments and the name of
its frame (`Activation`) and may ask the runtime for calls, new objects and
the rest of `ManagedOp`. Calls reply with a value or with the exception they
raised; the body decides what to do with it, and `Program.catching` and
`Program.ending` are `try … catch` and `try … finally`.

An exception is a result and not an effect. Whether code catches it can be read
off the code, and the last part of a block runs because the program goes on with
it, not because somebody unwinds a stack. A panic is different: it ends the
program where it stands, and no block gets to see it.
-/

namespace HostBridge

/-- **What managed code may ask for.** -/
inductive ManagedOp where
  /-- Writes a line to the log, marked with the frame. -/
  | log (text : String)
  /-- Writes a line to the journal. -/
  | note (line : String)
  /-- Allocates and constructs an object of a type. -/
  | newObject (typeName : String)
  /-- Calls a native instance member of an object. -/
  | callExtern (receiver : ObjectId) (name : String) (args : List ManagedValue)
  /-- Calls a native static member of a type. -/
  | callStaticExtern (typeName name : String) (args : List ManagedValue)
  /-- Calls a managed instance method of an object. -/
  | call (receiver : ObjectId) (name : String) (args : List ManagedValue)
  /-- Calls a managed static method of a type. -/
  | callStatic (typeName name : String) (args : List ManagedValue)
  /-- Releases the native side of an object now. -/
  | dispose (o : ObjectId)
  /-- Collects garbage. -/
  | collect
  /-- Counts the objects on the heap. -/
  | objectCount

/-- The reply to an operation. -/
def ManagedOp.Reply : ManagedOp → Type
  | log _ => Unit
  | note _ => Unit
  | newObject _ => Except ManagedException ObjectId
  | callExtern _ _ _ => Except ManagedException ManagedValue
  | callStaticExtern _ _ _ => Except ManagedException ManagedValue
  | call _ _ _ => Except ManagedException ManagedValue
  | callStatic _ _ _ => Except ManagedException ManagedValue
  | dispose _ => Bool
  | collect => Nat
  | objectCount => Nat

/-- The interface of managed code. -/
def managedInterface : Interface := ⟨ManagedOp, ManagedOp.Reply⟩

/-- **Managed code** with a result in `α`. -/
abbrev ManagedCode (α : Type) := Program managedInterface α

namespace ManagedCode

/-- Performs one operation. -/
def op (o : ManagedOp) : ManagedCode o.Reply := Program.op (I := managedInterface) o

end ManagedCode

/-- **What a managed body knows about its call.** -/
structure Activation where
  /-- `Type::Method`. -/
  frame : String
  /-- The receiver of an instance call. -/
  receiver : Option ObjectId
  /-- The arguments. -/
  args : List ManagedValue

namespace Activation

/-- The receiver, which a static call does not have. -/
def this (a : Activation) : Except ManagedException ObjectId :=
  match a.receiver with
  | some o => .ok o
  | none => .error ⟨ManagedException.nullReference, a.frame ++ " has no receiver", []⟩

/-- An argument by its position. -/
def arg (a : Activation) (i : Nat) : Except ManagedException ManagedValue :=
  match a.args[i]? with
  | some v => .ok v
  | none =>
    .error ⟨ManagedException.argumentOutOfRange,
      a.frame ++ " has no argument " ++ toString i, []⟩

/-- The exception for an argument of another type. -/
def castError (a : Activation) (i : Nat) (wanted : String) (found : ManagedValue) :
    ManagedException :=
  ⟨ManagedException.invalidCast,
    a.frame ++ " argument " ++ toString i ++ " is " ++ found.render ++ ", not " ++ wanted, []⟩

/-- The exception for a missing object. -/
def nullError (a : Activation) (i : Nat) : ManagedException :=
  ⟨ManagedException.nullReference, a.frame ++ " argument " ++ toString i ++ " is null", []⟩

/-- An argument of type `int`. -/
def int (a : Activation) (i : Nat) : Except ManagedException Int32 := do
  match ← a.arg i with
  | .int32 v => .ok v
  | v => .error (a.castError i "int" v)

/-- An argument of type `float`, by its bits. -/
def float (a : Activation) (i : Nat) : Except ManagedException UInt32 := do
  match ← a.arg i with
  | .float32 v => .ok v
  | v => .error (a.castError i "float" v)

/-- An argument of type `string`. -/
def string (a : Activation) (i : Nat) : Except ManagedException String := do
  match ← a.arg i with
  | .string v => .ok v
  | .null => .error (a.nullError i)
  | v => .error (a.castError i "string" v)

/-- An argument of type `object`. -/
def object (a : Activation) (i : Nat) : Except ManagedException ObjectId := do
  match ← a.arg i with
  | .object v => .ok v
  | .null => .error (a.nullError i)
  | v => .error (a.castError i "object" v)

end Activation

/-- **The body of a managed method, constructor or finalizer.** -/
abbrev MethodBody := Activation → ManagedCode (Except ManagedException ManagedValue)

end HostBridge
