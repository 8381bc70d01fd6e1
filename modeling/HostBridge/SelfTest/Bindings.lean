import HostBridge.Registry

/-!
# Native side of the self-test

The implementations and hooks that the host's self-test binds: a type whose
instances count the calls on them, and two static members. What they did shows
in the journal.
-/

namespace HostBridge.SelfTest

/-- Full name of the type with a native counter. -/
def myObject : String := "Aeon.MyObject"

/-- Full name of the type with static members. -/
def nativeMath : String := "Aeon.NativeMath"

/-- An instance member of the type with a counter. -/
def objectMember (name : String) (params : List Tag) (ret : Tag) : Member :=
  ⟨myObject, name, ⟨params, ret⟩, .perInstance⟩

/-- A static member. -/
def mathMember (name : String) (params : List Tag) (ret : Tag) : Member :=
  ⟨nativeMath, name, ⟨params, ret⟩, .static⟩

/-- The fault of a call whose handle has no counter. -/
def released (e : BridgeError) : NativeFault := ⟨e.message⟩

/-- Every instance starts with a counter at zero. -/
def counterHooks : Hooks where
  construct _ := do
    NativeCode.note "MyObject created."
    return .ok ⟨.counter, (0 : Int32)⟩
  destroy _ _ := NativeCode.note "MyObject deleted."

/-- Counts a call on an instance. -/
def countCall (h : Handle) : NativeCode (Except NativeFault Int32) := do
  let reply ← NativeCode.op (.useResource h .counter (fun n : Int32 => n + 1))
  return reply.mapError released

/-- `DoStuff(string) -> void` counts the call and writes its argument to the
journal. -/
def doStuff : NativeCall := .ofTyped [.object, .string] .void
  fun (h, value, _) => do
    match ← countCall h with
    | .error e => return .error e
    | .ok _ =>
      NativeCode.note ("DoStuff was called with: " ++ value)
      return .ok ()

/-- `Echo(string) -> string` counts the call and returns its argument. -/
def echo : NativeCall := .ofTyped [.object, .string] .string
  fun (h, value, _) => do
    match ← countCall h with
    | .error e => return .error e
    | .ok _ => return .ok value

/-- `CallCount() -> int` returns the counter. -/
def callCount : NativeCall := .ofTyped [.object] .int32
  fun (h, _) => do
    let reply ← NativeCode.op (.useResource h .counter id)
    return reply.mapError released

/-- `Fail(string) -> void` fails with its argument. -/
def fail : NativeCall := .ofTyped [.object, .string] .void
  fun (_, message, _) => return .error ⟨message⟩

/-- `AddLeet(int) -> int` adds 1337, if that is an `int`. -/
def addLeet : NativeCall := .ofTyped [.int32] .int32
  fun (a, _) =>
    let sum : Int := Int32.toInt a + 1337
    if sum ≤ Int32.maxValue.toInt then return .ok (Int32.ofInt sum)
    else return .error ⟨toString (Int32.toInt a) ++ " + 1337 overflows int"⟩

/-- `Mix(float, int, float) -> void` writes its arguments to the journal. -/
def mix : NativeCall := .ofTyped [.float32, .int32, .float32] .void
  fun (a, b, c, _) => do
    NativeCode.note ("Mix(" ++ FloatStyle.managed.render .single (UInt32.toNat a) ++ ", "
      ++ toString (Int32.toInt b) ++ ", " ++ FloatStyle.managed.render .single (UInt32.toNat c)
      ++ ")")
    return .ok ()

/-- **What the self-test adds to a registry.** -/
def additions : List Registry.Addition :=
  [.type myObject counterHooks,
   .member (objectMember "DoStuff" [.string] .void) doStuff,
   .member (objectMember "Echo" [.string] .string) echo,
   .member (objectMember "CallCount" [] .int32) callCount,
   .member (objectMember "Fail" [.string] .void) fail,
   .member (mathMember "AddLeet" [.int32] .int32) addLeet,
   .member (mathMember "Mix" [.float32, .int32, .float32] .void) mix]

end HostBridge.SelfTest
