import HostBridge.Domain.Assembly
import HostBridge.SelfTest.Bindings

/-!
# Managed side of the self-test

The assembly that the host's self-test loads: the two types with native
members, and a class whose methods exercise the bridge through them.
-/

namespace HostBridge.SelfTest

/-- Managed code that may raise an exception. -/
abbrev Body (α : Type) := ExceptT ManagedException (Program managedInterface) α

/-- Performs an operation that cannot fail. -/
def perform (op : ManagedOp) : Body op.Reply := ExceptT.lift (ManagedCode.op op)

/-- Calls a native member of an object. -/
def callExtern (o : ObjectId) (name : String) (args : List ManagedValue) : Body ManagedValue :=
  ExceptT.mk (ManagedCode.op (.callExtern o name args))

/-- Calls a native static member. -/
def callStaticExtern (typeName name : String) (args : List ManagedValue) : Body ManagedValue :=
  ExceptT.mk (ManagedCode.op (.callStaticExtern typeName name args))

/-- Makes an object. -/
def newObject (typeName : String) : Body ObjectId :=
  ExceptT.mk (ManagedCode.op (.newObject typeName))

/-- The body of a method that says what it does. -/
def saying (text : String) : MethodBody := fun _ => do
  ManagedCode.op (.log text)
  return .ok .void

/-- The type whose instances own a native counter. -/
def myObjectClass : Class where
  scope := "Aeon"
  name := "MyObject"
  externs :=
    [⟨"DoStuff", ⟨[.string], .void⟩, .perInstance⟩,
     ⟨"Echo", ⟨[.string], .string⟩, .perInstance⟩,
     ⟨"CallCount", ⟨[], .int32⟩, .perInstance⟩,
     ⟨"Fail", ⟨[.string], .void⟩, .perInstance⟩]
  constructor := some (saying "MyObject constructor")
  finalizer := some (saying "MyObject finalizer")

/-- The type with native static members. -/
def nativeMathClass : Class where
  scope := "Aeon"
  name := "NativeMath"
  externs :=
    [⟨"AddLeet", ⟨[.int32], .int32⟩, .static⟩,
     ⟨"Mix", ⟨[.float32, .int32, .float32], .void⟩, .static⟩]

/-- An instance method. -/
def method (name : String) (params : List Tag) (ret : Tag)
    (body : Activation → Body ManagedValue) : Method :=
  ⟨name, ⟨params, ret⟩, .perInstance, fun a => (body a).run⟩

/-- Name of the class whose methods exercise the bridge. -/
def testClassName : String := "ClassInstanceTest"

/-- The class whose methods exercise the bridge. -/
def testClass : Class where
  scope := ""
  name := testClassName
  methods :=
    [method "Method" [] .void fun _ => do
      perform (.log "Method called")
      return .void,
     method "MethodWithParameter" [.int32] .void fun a => do
      let value ← liftExcept (a.int 0)
      perform (.log ("MethodWithParameter called with " ++ toString value.toInt))
      return .void,
     method "MethodWithParameterAndReturnValue" [.int32] .int32 fun a => do
      let value ← liftExcept (a.int 0)
      callStaticExtern nativeMath "AddLeet" [.int32 value],
     method "MethodWithParameters" [.float32, .int32, .float32] .void fun a => do
      let x ← liftExcept (a.float 0)
      let y ← liftExcept (a.int 1)
      let z ← liftExcept (a.float 2)
      callStaticExtern nativeMath "Mix" [.float32 x, .int32 y, .float32 z],
     method "MethodWithStringReturnValue" [] .string fun _ =>
      return .string "Hello from C#!",
     method "EchoString" [.string] .string fun a => do
      let value ← liftExcept (a.string 0)
      let o ← newObject myObject
      callExtern o "Echo" [.string value],
     method "ExceptionMethod" [] .void fun _ =>
      throw ⟨ManagedException.plain, "Hello!", []⟩,
     method "NativeExceptionMethod" [.string] .void fun a => do
      let message ← liftExcept (a.string 0)
      let o ← newObject myObject
      ExceptT.mk (Program.ending (callExtern o "Fail" [.string message]).run
        (ManagedCode.op (.log "finally after native fault"))),
     method "CatchNativeException" [.string] .string fun a => do
      let message ← liftExcept (a.string 0)
      let o ← newObject myObject
      ExceptT.mk (Program.catching
        (do
          let _ ← callExtern o "Fail" [.string message]
          return .string "no exception" : Body ManagedValue).run
        (fun e => return .ok (.string e.message))),
     method "UseMyObject" [.string] .int32 fun a => do
      let value ← liftExcept (a.string 0)
      let o ← newObject myObject
      let _ ← callExtern o "DoStuff" [.string value]
      let _ ← callExtern o "DoStuff" [.string value]
      callExtern o "CallCount" [],
     method "CreateMyObject" [] .void fun _ => do
      let _ ← newObject myObject
      return .void]
where
  /-- An answer of the activation as a step of the body. -/
  liftExcept {α : Type} (x : Except ManagedException α) : Body α := ExceptT.mk (return x)

/-- **The assembly of the self-test.** -/
def assembly (name : String) : Except ScriptError Image :=
  Image.build name [myObjectClass, nativeMathClass, testClass]

end HostBridge.SelfTest
