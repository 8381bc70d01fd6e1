import HostBridge.Lifecycle
import HostBridge.ManagedException
import HostBridge.Value.Boundary

/-!
# Errors of the bridge

Everything that can go wrong while members are bound or the boundary is
crossed. At a managed call site an error is raised as an exception
(`BridgeError.toException`): a native fault keeps its message, a managed
exception that travelled through native code comes back unchanged, and every
other error becomes an exception of the bridge's own types.

An error says what it is about in full: which member, which types were expected
and found, which state an instance was in. Its text is made from these when
somebody asks for it.
-/

namespace HostBridge

/-- **An error of the bridge.** Members are named by their texts. -/
inductive BridgeError where
  /-- A member or a type bound twice. -/
  | duplicateBinding (what : String)
  /-- An implementation that does not have the declared types. -/
  | signatureMismatch (member found : String)
  /-- A member without implementation. -/
  | unboundMember (member : String)
  /-- A value of the wrong type. -/
  | marshalType (mismatch : TagMismatch)
  /-- The wrong number of arguments. -/
  | arity (member : String) (expected found : Nat)
  /-- A call on an instance that is not live. -/
  | invalidState (member : String) (state : Lifecycle)
  /-- A handle that has been released. -/
  | useAfterRelease (handle : Handle)
  /-- A resource of another type. -/
  | resourceType (handle : Handle) (expected : String)
  /-- Native code failed. -/
  | nativeFault (member : String) (fault : NativeFault)
  /-- A managed exception reached native code. -/
  | managedFault (member : String) (exception : ManagedException)
  /-- The process-wide registry is missing, or already there. -/
  | hostInit (reason : String)
deriving DecidableEq, Repr

namespace BridgeError

/-- **The text of an error.** -/
def message : BridgeError → String
  | duplicateBinding what => "Duplicate binding: " ++ what
  | signatureMismatch member found =>
    "Signature mismatch for " ++ member ++ ": implementation is " ++ found
  | unboundMember member => "No native implementation bound for " ++ member
  | marshalType e => e.message
  | arity member expected found =>
    member ++ " expects " ++ toString expected ++ " argument(s), got " ++ toString found
  | invalidState member state =>
    member ++ " called on an instance in state " ++ state.name
  | useAfterRelease h => h.render ++ " used after release"
  | resourceType h expected => "Resource behind " ++ h.render ++ " is not a " ++ expected
  | nativeFault member fault => "Native fault in " ++ member ++ ": " ++ fault.message
  | managedFault member e => "Managed exception escaped " ++ member ++ ": " ++ e.render
  | hostInit reason => "Failed to initialize bridge host: " ++ reason

/-- Whether the error aborts the start of the host instead of surfacing as a
managed exception. -/
def isFatal : BridgeError → Bool
  | duplicateBinding _ | signatureMismatch _ _ | hostInit _ => true
  | _ => false

/-- Raised when native code failed. -/
def nativeException : String := "Bridge.NativeException"
/-- Raised when a value has the wrong type. -/
def marshalException : String := "Bridge.MarshalTypeException"
/-- Raised when the number of arguments is wrong. -/
def arityException : String := "Bridge.ArityException"
/-- Raised when the receiver is not live. -/
def lifecycleException : String := "Bridge.InvalidLifecycleStateException"
/-- Raised when a handle has been released. -/
def releasedException : String := "Bridge.UseAfterReleaseException"
/-- Raised when a member has no implementation. -/
def unboundException : String := "Bridge.UnboundMemberException"
/-- Raised for errors of the start. -/
def bindingException : String := "Bridge.BindingException"
/-- Raised when the managed runtime itself failed. -/
def engineException : String := "System.ExecutionEngineException"

/-- The exception type an error is raised as. -/
def exceptionType : BridgeError → String
  | nativeFault _ _ => nativeException
  | marshalType _ | resourceType _ _ => marshalException
  | arity _ _ _ => arityException
  | invalidState _ _ => lifecycleException
  | useAfterRelease _ => releasedException
  | unboundMember _ => unboundException
  | managedFault _ _ => engineException
  | duplicateBinding _ | signatureMismatch _ _ | hostInit _ => bindingException

/-- **The exception raised at the managed call site.** -/
def toException : BridgeError → ManagedException
  | nativeFault _ fault => ⟨nativeException, fault.message, []⟩
  | managedFault _ e => e
  | e => ⟨e.exceptionType, e.message, []⟩

/-- Whether the error is a managed exception on its way back. -/
def isManagedFault : BridgeError → Bool
  | managedFault _ _ => true
  | _ => false

end BridgeError

end HostBridge
