import HostBridge.World

/-!
# Entering code

The operations of the bridge and of the runtime enter code: a hook, a native
implementation, a managed body. How code runs is handed to them as a `Runner`,
so that they can be written, and reasoned about, one at a time; `Evaluation`
closes the circle. A `Context` is what a runner has to know about the frame of
a managed body.

This module also holds the two **fault boundaries**. A panic never crosses
one: native code that panics has faulted (`catchNative`), and managed code
that panics has thrown (`managedBoundary`).

Code that was nested too deeply to be run is neither of the two. It says nothing
about the code but only that the runner allows too few levels, and so it crosses
both boundaries and ends the run.
-/

namespace HostBridge

/-- **The frame in which a managed body runs.** -/
structure Context where
  /-- The class whose code runs. -/
  cls : Class
  /-- The number of the frame. -/
  frame : FrameId
  /-- How many managed bodies it is nested in. -/
  depth : Nat
  /-- What the body knows about its call. -/
  activation : Activation

/-- **How code runs**, on behalf of a thread. -/
structure Runner where
  /-- Runs native code. -/
  native : {α : Type} → ThreadId → NativeCode α → Run α
  /-- Runs managed code in a frame. -/
  managed : {α : Type} → ThreadId → Context → ManagedCode α → Run α

/-- **Runs native code, turning a panic into a fault.** -/
def catchNative {ε α : Type} (member : String) (ofFault : NativeFault → ε)
    (code : Run (Except ε α)) : Run (Except ε α) := do
  match ← code.attempt with
  | .ok result => return result
  | .error (.panicked p) =>
    let message := member ++ " panicked: " ++ p.message
    Run.log .error message
    return .error (ofFault ⟨message⟩)
  | .error .tooDeep => .crash .tooDeep

/-- The exception that stands for a panic of managed code. -/
def panicException (p : Panic) : ManagedException :=
  ⟨BridgeError.engineException, "managed runtime panicked: " ++ p.message, []⟩

/-- **The boundary around managed code**: exceptions and panics become faults that name the
entry point. Calls of methods by native code stand behind it. -/
def managedBoundary {α : Type} (member : String) (code : Run (Except ManagedException α)) :
    Run (Except BridgeError α) := do
  match ← code.attempt with
  | .ok (.ok a) => return .ok a
  | .ok (.error e) =>
    Run.log .warn ("Managed exception escaped " ++ member ++ ": " ++ e.render)
    return .error (.managedFault member e)
  | .error (.panicked p) =>
    Run.log .error ((panicException p).render ++ " in " ++ member)
    return .error (.managedFault member (panicException p))
  | .error .tooDeep => .crash .tooDeep

end HostBridge
