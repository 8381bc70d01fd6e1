import HostBridge.BridgeError

/-!
# Errors of the managed runtime

What native code gets back from the runtime when it loads assemblies, looks
classes and methods up, or makes instances.
-/

namespace HostBridge

/-- **An error of the runtime.** -/
inductive ScriptError where
  | assemblyNotFound (name : String)
  | classNotFound (name : String)
  | methodNotFound (name : String)
  /-- A class declares a native member twice. -/
  | ambiguousExtern (member : String)
  /-- An error of the bridge. -/
  | binding (e : BridgeError)
  /-- An exception that nobody caught. -/
  | exception (e : ManagedException)
deriving DecidableEq, Repr

/-- **The text of an error.** -/
def ScriptError.message : ScriptError → String
  | assemblyNotFound name => "Assembly not found: " ++ name
  | classNotFound name => "Class not found: " ++ name
  | methodNotFound name => "Method not found: " ++ name
  | ambiguousExtern member => "Ambiguous extern declaration: " ++ member
  | binding e => e.message
  | exception e => "Unhandled managed exception: " ++ e.render

/-- The text of an error with the errors that caused it behind it. -/
def ScriptError.chain : ScriptError → String
  | exception e => "Unhandled managed exception: " ++ e.render ++ ": " ++ e.render
  | e => e.message

end HostBridge
