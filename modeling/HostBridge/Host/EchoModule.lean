import HostBridge.Registry

/-!
# The echo module

A native module with three functions on strings: `Reverse`, `Length` and
`Repeat`.
-/

namespace HostBridge.EchoModule

/-- The name of the module. -/
def name : String := "echo_module"

/-- Full name of the type whose members it implements. -/
def typeName : String := "Aeon.Echo"

/-- A static member of the type. -/
def member (name : String) (params : List Tag) (ret : Tag) : Member :=
  ⟨typeName, name, ⟨params, ret⟩, .static⟩

/-- A text repeated, by doubling. -/
def repeated (s : String) (n : Nat) : String :=
  if n = 0 then ""
  else
    let half := repeated s (n / 2)
    if n % 2 = 0 then half ++ half else half ++ half ++ s
termination_by n

/-- `Reverse(string) -> string` reverses the characters. -/
def reverse : NativeCall := .ofTyped [.string] .string
  fun (value, _) => return .ok (String.ofList (String.toList value).reverse)

/-- The length as an `int`, if it is one. -/
def lengthOf (count : Nat) : Except NativeFault Int32 :=
  if count ≤ Int32.maxValue.toInt then .ok (Int32.ofNat count)
  else .error ⟨"length " ++ toString count ++ " does not fit an int"⟩

/-- `Length(string) -> int` counts the characters. -/
def length : NativeCall := .ofTyped [.string] .int32
  fun (value, _) => return lengthOf (String.length value)

/-- `Repeat(string, int) -> string` repeats a text, but not a negative number of
times. -/
def repeatText : NativeCall := .ofTyped [.string, .int32] .string
  fun (value, times, _) =>
    if Int32.toInt times < 0 then
      return .error ⟨"cannot repeat " ++ toString (Int32.toInt times) ++ " times"⟩
    else return .ok (repeated value (Int32.toInt times).toNat)

/-- What the module adds to a registry. -/
def additions : List Registry.Addition :=
  [.member (member "Reverse" [.string] .string) reverse,
   .member (member "Length" [.string] .int32) length,
   .member (member "Repeat" [.string, .int32] .string) repeatText]

/-- What it says when it is initialized. -/
def greeting : String := "Initializing echo module"

/-- What it says when it has registered its members. -/
def registered : String := "Registered 3 bindings on " ++ typeName

/-- What it says when it is unloaded. -/
def farewell : String := "Tearing down echo module"

end HostBridge.EchoModule
