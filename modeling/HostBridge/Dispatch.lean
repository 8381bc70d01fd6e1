import HostBridge.Bridge.Operations

/-!
# Dispatching calls to native implementations

A managed call on a bound member goes through here. Nothing native runs unless
the member is bound, the arguments agree in number and type with the
declaration and, for an instance member, the receiver is live; these are
checked in this order, and the first that fails decides the error. The call
has ended before its outcome is looked at.

The receiver is the last to be checked because its check is more than a look. It
admits the call, which the end of the call has to take back, so nothing may fail
between the two but the implementation.
-/

namespace HostBridge.Run

/-- The error of a call that failed. -/
def CallFailure.toError (member : String) : CallFailure → BridgeError
  | .mismatch m => .marshalType m
  | .arity expected found => .arity member expected found
  | .fault f => .nativeFault member f

/-- Runs an implementation on its arguments. -/
def runCall (run : Runner) (me : ThreadId) (m : Member) (c : NativeCall)
    (args : List BoundaryValue) : Run (Except CallFailure BoundaryValue) :=
  catchNative m.render .fault do
    record (.call m args)
    run.native me (c.run args)

/-- **The outcome of a call**: a failure as the error it is, a result if it
has the declared type. -/
def settle (m : Member) (result : Except CallFailure BoundaryValue) :
    Run (Except BridgeError BoundaryValue) := do
  match result with
  | .error failure => return .error (CallFailure.toError m.render failure)
  | .ok v =>
    match v.checkTag m.signature.ret with
    | .error e => return .error (.marshalType e)
    | .ok () =>
      log .trace (m.render ++ " returned " ++ v.render)
      return .ok v

/-- What has to hold of a call before native code is looked for a receiver. -/
def checkCall (r : Registry) (m : Member) (args : List BoundaryValue) :
    Except BridgeError NativeCall := do
  let c ← r.resolve m
  if args.length ≠ m.signature.arity then
    throw (.arity m.render m.signature.arity args.length)
  (BoundaryValue.checkTags args m.signature.params).mapError .marshalType
  return c

/-- **Calls a bound member.** -/
def invoke (run : Runner) (me : ThreadId) (m : Member) (receiver : Option ObjectId)
    (args : List BoundaryValue) : Run (Except BridgeError BoundaryValue) := do
  match checkCall (← Process.ask World.registry) m args with
  | .error e => return .error e
  | .ok c =>
    if m.isInstance then
      match receiver with
      | none => return .error (.invalidState m.render .unconstructed)
      | some o =>
        match ← enter me o m with
        | .error e => return .error e
        | .ok h =>
          let result ← runCall run me m c (.object h :: args)
          leave run me h
          settle m result
    else settle m (← runCall run me m c args)

/-- **Attaches a native resource to an instance of a type**, if the type has
hooks. -/
def construct (run : Runner) (me : ThreadId) (typeName : String) (o : ObjectId) :
    Run (Except BridgeError (Option Handle)) := do
  match (← Process.ask World.registry).hooks? typeName with
  | some hooks =>
    match ← attach run me o typeName hooks with
    | .ok h => return .ok (some h)
    | .error e => return .error e
  | none => return .ok none

end HostBridge.Run
