import HostBridge.Thunk

/-!
# Running code

Every operation that native or managed code may ask for has its process
(`nativeReply`, `managedReply`), and a program runs by running the process of
each operation it performs. Code that an operation enters is run by a
`Runner`; the runner that allows `n` levels of code inside code is
`Runner.nested n`, and a run that needs more crashes as too deep.

Native code may call managed code that calls native code, and no end of that can
be seen from the text of either. The levels make running them a recursion on a
number all the same. Statements are made for every number of levels, so nothing
depends on how many there are.
-/

namespace HostBridge.Run

/-- **What an operation of native code does.** -/
def nativeReply (run : Runner) (me : ThreadId) : (op : NativeOp) → Run op.Reply
  | .note line => record (.note line)
  | .state o => stateOf o
  | .liveCount => askBridge Bridge.liveCount
  | .handleOf o => handleOf o
  | .objectOf h => objectOf h
  | .useResource h kind update => useResource h kind update
  | .destroy o => destroy run me o
  | .release h => release run me h
  | .forget o => forget o
  | .construct typeName o => construct run me typeName o
  | .invoke m receiver args => invoke run me m receiver args
  | .beginCall o m => beginCall me o m
  | .endCall h => endCall run me h
  | .enter m receiver args => enterManaged run me m receiver args
  | .provide i => changeDomain (·.provide i)
  | .load name => loadAssembly name
  | .newInstance c => return (← newInstance run me c).map Instance.object
  | .dropInstance o => onDomain (·.release o)
  | .collect => collectOnRequest run me
  | .objectCount => askDomain Domain.objectCount

/-- **Runs native code.** -/
def runNative (run : Runner) (me : ThreadId) {α : Type} : NativeCode α → Run α
  | .done a => pure a
  | .panic p => .crash (.panicked p)
  | .perform op next => do
    let r ← nativeReply run me op
    runNative run me (next r)

/-- The exception of a call to a member that no class declares. -/
def missing (c : Class) (name : String) (args : List ManagedValue) : ManagedException :=
  ⟨ManagedException.missingMethod,
    c.fullName ++ "::" ++ name ++ "/" ++ toString args.length, []⟩

/-- The frame keeps the object that a call returned. -/
def keeping (x : Context) (result : Except ManagedException ManagedValue) :
    Run (Except ManagedException ManagedValue) := do
  match result with
  | .ok v =>
    changeDomain (·.keep x.frame v)
    return .ok v
  | .error e => return .error e

/-- **What an operation of managed code does.** -/
def managedReply (run : Runner) (me : ThreadId) (x : Context) : (op : ManagedOp) → Run op.Reply
  | .log text => log .info ("[" ++ x.activation.frame ++ "] " ++ text)
  | .note line => record (.note line)
  | .newObject typeName => do
    match ← askDomain (·.classNamed x.cls typeName) with
    | .error e => return .error e
    | .ok c =>
      match ← newObject run me c (x.depth + 1) with
      | .error e => return .error e
      | .ok o =>
        changeDomain (·.adopt x.frame o)
        return .ok o
  | .callExtern receiver name args => do
    match ← askDomain (·.classOf receiver) with
    | .error e => return .error e
    | .ok c =>
      match c.findExtern? name .perInstance args with
      | none => return .error (missing c name args)
      | some m => callExtern run me m (some receiver) args
  | .callStaticExtern typeName name args => do
    match ← askDomain (·.classNamed x.cls typeName) with
    | .error e => return .error e
    | .ok c =>
      match c.findExtern? name .static args with
      | none => return .error (missing c name args)
      | some m => callExtern run me m none args
  | .call receiver name args => do
    match ← askDomain (·.classOf receiver) with
    | .error e => return .error e
    | .ok c => keeping x (← runMethod run me c name (some receiver) args (x.depth + 1))
  | .callStatic typeName name args => do
    match ← askDomain (·.classNamed x.cls typeName) with
    | .error e => return .error e
    | .ok c => keeping x (← runMethod run me c name none args (x.depth + 1))
  | .dispose o => destroy run me o
  | .collect => collectOnRequest run me
  | .objectCount => askDomain Domain.objectCount

/-- **Runs managed code** in a frame. -/
def runManaged (run : Runner) (me : ThreadId) (x : Context) {α : Type} : ManagedCode α → Run α
  | .done a => pure a
  | .panic p => .crash (.panicked p)
  | .perform op next => do
    let r ← managedReply run me x op
    runManaged run me x (next r)

end HostBridge.Run

namespace HostBridge

/-- **The runner that allows so many levels of code inside code.** -/
def Runner.nested : Nat → Runner
  | 0 => { native := fun _ _ => .crash .tooDeep, managed := fun _ _ _ => .crash .tooDeep }
  | n + 1 =>
    { native := fun me code => Run.runNative (Runner.nested n) me code
      managed := fun me x code => Run.runManaged (Runner.nested n) me x code }

/-- The runner of programs and sessions: more levels than code of theirs that
ends ever needs. -/
def Runner.standard : Runner := .nested 100000

end HostBridge
