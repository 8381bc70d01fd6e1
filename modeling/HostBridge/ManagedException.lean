/-!
# Managed exceptions and native faults

The two ways a call fails: managed code throws a `ManagedException`, which
collects the frames it unwinds through; native code reports a `NativeFault`,
which is a message and nothing else.
-/

namespace HostBridge

/-- **A failure reported by a native implementation.** -/
structure NativeFault where
  /-- What went wrong. -/
  message : String
deriving DecidableEq, Repr, Inhabited

/-- **An exception raised by managed code.** -/
structure ManagedException where
  /-- Full name of the exception type. -/
  typeName : String
  /-- The message. -/
  message : String
  /-- The frames unwound so far, innermost first. -/
  trace : List String := []
deriving DecidableEq, Repr, Inhabited

namespace ManagedException

/-- The frame the exception was first raised in, if known. -/
def origin? (e : ManagedException) : Option String := e.trace.head?

/-- Records that the exception left a frame. -/
def pushFrame (e : ManagedException) (frame : String) : ManagedException :=
  { e with trace := e.trace ++ [frame] }

/-- The text of an exception. -/
def render (e : ManagedException) : String := e.typeName ++ ": " ++ e.message

/-! ## Exception types raised by the runtime -/

/-- An argument of the wrong type or number. -/
def argument : String := "System.ArgumentException"
/-- An argument that is not there. -/
def argumentOutOfRange : String := "System.ArgumentOutOfRangeException"
/-- A value of the wrong type. -/
def invalidCast : String := "System.InvalidCastException"
/-- A missing object. -/
def nullReference : String := "System.NullReferenceException"
/-- A method that no class declares. -/
def missingMethod : String := "System.MissingMethodException"
/-- A class that no assembly defines. -/
def typeLoad : String := "System.TypeLoadException"
/-- Managed calls nested too deeply. -/
def stackOverflow : String := "System.StackOverflowException"
/-- An exception without a type of its own. -/
def plain : String := "System.Exception"

end ManagedException

end HostBridge
