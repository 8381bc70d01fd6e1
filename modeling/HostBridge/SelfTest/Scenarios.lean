import HostBridge.SelfTest.Classes
import HostBridge.SelfTest.Report
import HostBridge.Thunk

/-!
# The self-test of the host

A run loads the assembly, makes one object of the test class and goes through
the scenarios one by one. A scenario that fails is recorded and the run goes
on; only an assembly that does not load, or an object that cannot be made, ends
it.

A scenario looks at what code can see: at results, at the journal, and at how
many handles are live. The journal may have lines from before the run, so lines
are counted, and two counts are compared.
-/

namespace HostBridge.SelfTest

/-- A scenario: what was seen, or why it failed. -/
abbrev Scenario := ExceptT String Run String

/-- Goes on if a condition holds. -/
def ensure (holds : Bool) (otherwise : String) : ExceptT String Run Unit :=
  if holds then return () else throw otherwise

/-- Something that may fail with an error of the runtime. -/
def orScriptError {α : Type} (x : Except ScriptError α) : ExceptT String Run α :=
  ExceptT.mk (return x.mapError ScriptError.chain)

/-- How often a line stands in the journal. -/
def journalCount (line : String) : ExceptT String Run Nat :=
  ExceptT.lift (Process.ask fun w => (Event.journal w.history).count line)

/-- Calls a method of the test object. -/
def callMethod (run : Runner) (me : ThreadId) (i : Instance) (name : String)
    (params : List Tag) (ret : Tag) (args : Tag.Args params) :
    Run (Except ScriptError (Except BridgeError ret.Native)) := do
  match i.thunk (← Run.askDomain id) name params ret with
  | .error e => return .error e
  | .ok t => return .ok (← t.call run me args)

/-- Calls a method of the test object that is expected to end well. -/
def callWell (run : Runner) (me : ThreadId) (i : Instance) (name : String)
    (params : List Tag) (ret : Tag) (args : Tag.Args params) :
    ExceptT String Run ret.Native := do
  let result ← ExceptT.lift (callMethod run me i name params ret args)
  let outcome ← orScriptError result
  ExceptT.mk (return outcome.mapError BridgeError.message)

/-- Calls a method of the test object that is expected to raise an exception. -/
def callBadly (run : Runner) (me : ThreadId) (i : Instance) (name : String)
    (params : List Tag) (args : Tag.Args params) (typeName message : String) : Scenario := do
  let result ← ExceptT.lift (callMethod run me i name params .void args)
  let outcome ← orScriptError result
  match outcome with
  | .ok _ => throw (name ++ " returned normally")
  | .error (.managedFault member e) =>
    ensure (e.typeName = typeName) ("expected " ++ typeName ++ ", got " ++ e.typeName)
    ensure (e.message = message)
      ("expected message " ++ Text.quoted message ++ ", got " ++ Text.quoted e.message)
    return member ++ " raised " ++ e.render
  | .error e => throw ("expected a managed fault, got " ++ e.message)

/-- The name of an assembly that nobody provides. -/
def absentAssembly : String := "some_assembly_that_doesnt_exist_12345"

/-- The name of a class that nobody declares. -/
def absentClass : String := "SomeClassThatDoesntExist12345"

/-- Loading a missing assembly fails. -/
def loadFails : Scenario := do
  match ← ExceptT.lift (Run.loadAssembly absentAssembly) with
  | .error (.assemblyNotFound name) => return name ++ " not found"
  | .error e => throw ("unexpected error " ++ e.message)
  | .ok _ => throw "loading a missing assembly succeeded"

/-- Looking up a missing class fails. -/
def getClassFails (i : Image) : Scenario := do
  match i.getClass absentClass with
  | .error (.classNotFound name) => return name ++ " not found"
  | .error e => throw ("unexpected error " ++ e.message)
  | .ok _ => throw "looking up a missing class succeeded"

/-- Methods are found by name and number of parameters. -/
def getMethod (i : Instance) : Scenario := do
  let _ ← orScriptError (i.getMethod "Method" 0)
  let _ ← orScriptError (i.getMethod "MethodWithParameter" 1)
  let _ ← orScriptError (i.getMethod "MethodWithParameterAndReturnValue" 1)
  match i.getMethod "Method" 3 with
  | .error (.methodNotFound _) => return "methods resolved by name and parameter count"
  | _ => throw "Method/3 should not exist"

/-- **The scenarios on the test object**, with their names. -/
def scenarios (run : Runner) (me : ThreadId) (i : Instance) : List (String × Scenario) :=
  [("get_method", getMethod i),
   ("method", do
      let _ ← callWell run me i "Method" [] .void ()
      return "Method()"),
   ("method_with_parameter", do
      let _ ← callWell run me i "MethodWithParameter" [.int32] .void ((42 : Int32), ())
      return "MethodWithParameter(42)"),
   ("add_leet", do
      let value : Int32 ←
        callWell run me i "MethodWithParameterAndReturnValue" [.int32] .int32 ((5 : Int32), ())
      ensure (value = 1342) ("5 + 1337 returned " ++ toString value.toInt)
      return "5 + 1337 = " ++ toString value.toInt),
   ("mixed_parameters", do
      let _ ← callWell run me i "MethodWithParameters" [.float32, .int32, .float32] .void
        ((0x3FC00000 : UInt32), (2 : Int32), (0x40500000 : UInt32), ())
      let expected := "Mix(1.5, 2, 3.25)"
      ensure (0 < (← journalCount expected)) ("native side never saw " ++ expected)
      return expected),
   ("string_return", do
      let value : String ← callWell run me i "MethodWithStringReturnValue" [] .string ()
      ensure (value = "Hello from C#!") ("got " ++ Text.quoted value)
      return value),
   ("string_round_trip", do
      let sent := "Hello from C#!"
      let value : String ← callWell run me i "EchoString" [.string] .string (sent, ())
      ensure (value = sent) ("got " ++ Text.quoted value)
      return value),
   ("managed_exception",
      callBadly run me i "ExceptionMethod" [] () ManagedException.plain "Hello!"),
   ("native_exception",
      callBadly run me i "NativeExceptionMethod" [.string] ("Hello!", ())
        BridgeError.nativeException "Hello!"),
   ("caught_native_exception", do
      let message : String ←
        callWell run me i "CatchNativeException" [.string] .string ("Hello!", ())
      ensure (message = "Hello!") ("caught " ++ Text.quoted message)
      return "managed catch saw " ++ Text.quoted message),
   ("native_object", do
      let calls : Int32 ←
        callWell run me i "UseMyObject" [.string] .int32 ("Hello from C#!", ())
      ensure (calls = 2) ("CallCount returned " ++ toString calls.toInt)
      ensure (2 ≤ (← journalCount "DoStuff was called with: Hello from C#!"))
        "DoStuff never reached native code"
      return toString calls.toInt ++ " native calls on one instance"),
   ("native_object_lifecycle", do
      let _ ← callWell run me i "CreateMyObject" [] .void ()
      let _ ← ExceptT.lift (Run.collect run me)
      let created ← journalCount "MyObject created."
      let deleted ← journalCount "MyObject deleted."
      ensure (0 < created) "no MyObject was created"
      ensure (created = deleted)
        (toString created ++ " created but " ++ toString deleted ++ " deleted after collection")
      let live ← ExceptT.lift (Run.askBridge Bridge.liveCount)
      ensure (live = 0) "native handles survived collection"
      return toString created ++ " created, " ++ toString deleted ++ " deleted")]

/-- The result of a scenario. -/
def result (name : String) (s : Scenario) : Run ScenarioResult := do
  match ← s.run with
  | .ok detail => return ⟨name, true, detail⟩
  | .error detail => return ⟨name, false, detail⟩

/-- The results of scenarios, one after the other. -/
def results : List (String × Scenario) → Run (List ScenarioResult)
  | [] => return []
  | (name, s) :: rest => do
    let r ← result name s
    let rs ← results rest
    return r :: rs

/-- **Runs the self-test** against an assembly. The test object is let go of
also when a scenario panics. -/
def runAll (run : Runner) (me : ThreadId) (assemblyName : String) :
    Run (Except ScriptError Report) := do
  let first ← result "load_assembly_fail" loadFails
  match ← Run.loadAssembly assemblyName with
  | .error e => return .error e
  | .ok image =>
    let second ← result "get_class_fail" (getClassFails image)
    match image.getClass testClassName with
    | .error e => return .error e
    | .ok c =>
      match ← Run.newInstance run me c with
      | .error e => return .error e
      | .ok i =>
        let others ← (results (scenarios run me i)).attempt
        Run.dropInstance i
        match others with
        | .error crash => .crash crash
        | .ok others =>
          return .ok { domain := ← Run.askDomain Domain.name, assembly := assemblyName,
                       scenarios := first :: second :: others }

end HostBridge.SelfTest
