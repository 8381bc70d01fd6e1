import HostBridge.Dispatch

/-!
# Running managed code

Calls of managed methods, construction of objects, calls from managed code
into native members, and collection. A body runs in a frame of its own, at the
depth its caller gives it; entering from native code starts at depth zero. What
a frame keeps is let go when its body ends, with a value or an exception. An
exception collects the name of every frame it leaves. A panic leaves at once:
the frames it crosses let go of nothing.

A call is checked twice. Its arguments are checked against the declaration
before the body runs, and its result after it, so that a body may return what it
likes and a caller still gets what was declared, or an exception.
-/

namespace HostBridge.Run

/-! ## Values across the boundary

Numbers and strings cross as they are. Objects cross by their handles, one by one and from left to
right, and the first that has none ends it. -/

/-- **The boundary value of a managed value.** An object is handed over by its
live handle. -/
def marshal : ManagedValue → Run (Except ManagedException BoundaryValue)
  | .void => return .ok .void
  | .null =>
    return .error ⟨ManagedException.nullReference, "null cannot cross into native code", []⟩
  | .int32 v => return .ok (.int32 v)
  | .int64 v => return .ok (.int64 v)
  | .uint32 v => return .ok (.uint32 v)
  | .uint64 v => return .ok (.uint64 v)
  | .float32 v => return .ok (.float32 v)
  | .float64 v => return .ok (.float64 v)
  | .bool v => return .ok (.bool v)
  | .string v => return .ok (.string v)
  | .object o => do
    match ← handleOf o with
    | .ok h => return .ok (.object h)
    | .error e =>
      return .error ⟨BridgeError.marshalException,
        o.render ++ " has no live native handle (" ++ e.message ++ ")", []⟩

/-- Boundary values of managed values, left to right. -/
def marshalAll : List ManagedValue → Run (Except ManagedException (List BoundaryValue))
  | [] => return .ok []
  | v :: vs => do
    match ← marshal v with
    | .error e => return .error e
    | .ok x =>
      match ← marshalAll vs with
      | .error e => return .error e
      | .ok xs => return .ok (x :: xs)

/-- **The managed value of a boundary value.** A handle stands for the object
it belongs to. -/
def unmarshal : BoundaryValue → Run (Except ManagedException ManagedValue)
  | .void => return .ok .void
  | .int32 v => return .ok (.int32 v)
  | .int64 v => return .ok (.int64 v)
  | .uint32 v => return .ok (.uint32 v)
  | .uint64 v => return .ok (.uint64 v)
  | .float32 v => return .ok (.float32 v)
  | .float64 v => return .ok (.float64 v)
  | .bool v => return .ok (.bool v)
  | .string v => return .ok (.string v)
  | .object h => do
    match ← objectOf h with
    | .ok o => return .ok (.object o)
    | .error e => return .error e.toException

/-- Managed values of boundary values, left to right. -/
def unmarshalAll : List BoundaryValue → Run (Except ManagedException (List ManagedValue))
  | [] => return .ok []
  | v :: vs => do
    match ← unmarshal v with
    | .error e => return .error e
    | .ok x =>
      match ← unmarshalAll vs with
      | .error e => return .error e
      | .ok xs => return .ok (x :: xs)

/-! ## Bodies

A body is run behind an attempt, so that its frame can be abandoned if it panics. The panic goes
on after that. -/

/-- The exception of a call that would be nested too deeply. -/
def overflow (limit : Nat) (frame : String) : ManagedException :=
  ⟨ManagedException.stackOverflow,
    "call depth exceeded " ++ toString limit ++ " entering " ++ frame, []⟩

/-- Lets go of this many locals of a frame, the oldest first. -/
def releaseLocals (f : FrameId) : Nat → Run Unit
  | 0 => return
  | n + 1 => do
    changeDomain (·.releaseLocal f)
    releaseLocals f n

/-- **Runs a managed body** in a frame of its own, unless that would be one too
many. -/
def runBody (run : Runner) (me : ThreadId) (c : Class) (name : String) (body : MethodBody)
    (receiver : Option ObjectId) (args : List ManagedValue) (depth : Nat) :
    Run (Except ManagedException ManagedValue) := do
  let limit ← askDomain Domain.maxCallDepth
  if limit ≤ depth then return .error (overflow limit name)
  let f ← onDomain (·.openFrame name receiver)
  record (.body name receiver args)
  let context : Context := ⟨c, f, depth, ⟨name, receiver, args⟩⟩
  match ← (run.managed me context (body context.activation)).attempt with
  | .error crash =>
    changeDomain (·.abandonFrame f) [.abandoned f]
    .crash crash
  | .ok result =>
    releaseLocals f (← askDomain (·.locals f)).length
    changeDomain (·.closeFrame f)
    return result.mapError (·.pushFrame name)

/-- The first argument that does not fit its parameter, from position `i`
on. -/
def misfit? : Nat → List Tag → List ManagedValue → Option (Nat × Tag × ManagedValue)
  | i, t :: ts, v :: vs => if v.fits t then misfit? (i + 1) ts vs else some (i, t, v)
  | _, _, _ => none

/-- **Checks arguments against a declaration.** -/
def checkArguments (frame : String) (s : Signature) (args : List ManagedValue) :
    Except ManagedException Unit :=
  if args.length ≠ s.arity then
    .error ⟨ManagedException.argument,
      frame ++ " expects " ++ toString s.arity ++ " argument(s), got " ++ toString args.length, []⟩
  else
    match misfit? 0 s.params args with
    | some (i, t, v) =>
      .error ⟨ManagedException.argument,
        frame ++ " argument " ++ toString i ++ " must be " ++ t.managedName
          ++ ", got " ++ v.render, []⟩
    | none => .ok ()

/-- Whether a method can be called with or without a receiver. -/
def takes (m : Method) (receiver : Option ObjectId) : Bool :=
  (m.kind = .perInstance) = receiver.isSome

/-- **Calls a method of a class**, checking arguments and result. -/
def runMethod (run : Runner) (me : ThreadId) (c : Class) (name : String)
    (receiver : Option ObjectId) (args : List ManagedValue) (depth : Nat) :
    Run (Except ManagedException ManagedValue) := do
  let frame := c.fullName ++ "::" ++ name
  match (c.findMethod? name args.length).filter (takes · receiver) with
  | none =>
    return .error ⟨ManagedException.missingMethod, frame ++ "/" ++ toString args.length, []⟩
  | some m =>
    match checkArguments frame m.signature args with
    | .error e => return .error e
    | .ok () =>
      match ← runBody run me c frame m.body receiver args depth with
      | .error e => return .error e
      | .ok v =>
        if v.fits m.signature.ret then return .ok v
        else
          return .error ⟨ManagedException.invalidCast,
            frame ++ " returned " ++ v.render ++ " for " ++ m.signature.ret.managedName, []⟩

/-! ## Objects -/

/-- The end of a construction: the managed constructor, if there is one. An
object whose constructor threw is left to the collector. -/
def runConstructor (run : Runner) (me : ThreadId) (c : Class) (o : ObjectId) (depth : Nat) :
    Run (Except ManagedException ObjectId) := do
  match c.constructor with
  | none => return .ok o
  | some body =>
    match ← (runBody run me c c.constructorFrame body (some o) [] depth).attempt with
    | .error crash =>
      changeDomain (·.abandonAllocation o)
      .crash crash
    | .ok (.error e) =>
      changeDomain (fun d => (d.unroot o).abandonAllocation o)
      return .error e
    | .ok (.ok _) => return .ok o

/-- **Makes an object of a class**: its place on the heap, its native side, its
constructor. The object comes back with the root of the allocation. -/
def newObject (run : Runner) (me : ThreadId) (c : Class) (depth : Nat) :
    Run (Except ManagedException ObjectId) := do
  let o ← onDomain (·.allocate c) (fun o => [.allocated o])
  match ← construct run me c.fullName o with
  | .error e =>
    changeDomain (fun d => (d.remove o).abandonAllocation o)
    return .error (e.toException.pushFrame c.constructorFrame)
  | .ok _ => runConstructor run me c o depth

/-! ## Calls into native code

An exception gets the member for a frame, unless it comes from managed code behind that member and
has its frames already. -/

/-- The exception of a native call that failed. A managed exception on its way
back is raised as it is. -/
def raised (m : Member) (e : BridgeError) : ManagedException :=
  if e.isManagedFault then e.toException else e.toException.pushFrame m.qualifiedName

/-- **Calls a native member from managed code.** -/
def callExtern (run : Runner) (me : ThreadId) (m : Member) (receiver : Option ObjectId)
    (args : List ManagedValue) : Run (Except ManagedException ManagedValue) := do
  match ← marshalAll args with
  | .error e => return .error e
  | .ok xs =>
    match ← invoke run me m receiver xs with
    | .ok v => unmarshal v
    | .error e => return .error (raised m e)

/-! ## Collection

The garbage is taken in one section. What follows is about objects that this collection alone may
free, though it runs the code of others. -/

/-- Comes to an object that a collection has taken, and runs its finalizer, if
its class has one. An exception goes to the log. -/
def runFinalizer (run : Runner) (me : ThreadId) (o : ObjectId) (c : Class) : Run Unit := do
  record (.visited o)
  match c.finalizer with
  | none => return
  | some body =>
    match ← runBody run me c c.finalizerFrame body (some o) [] 0 with
    | .ok _ => return
    | .error e =>
      log .warn ("Finalizer of " ++ c.fullName ++ " " ++ o.render ++ " threw " ++ e.render)

/-- Frees what is left of an object: its native side, its record, its place on
the heap. -/
def free (run : Runner) (me : ThreadId) (o : ObjectId) : Run Unit := do
  record (.finalization o)
  let _ ← destroy run me o
  forget o
  changeDomain (·.remove o) [.freed o]

/-- **Frees an object that a collection has taken**, after its finalizer. -/
def reclaim (run : Runner) (me : ThreadId) (o : ObjectId) (c : Class) : Run Unit := do
  runFinalizer run me o c
  free run me o

/-- Frees objects one after the other. -/
def reclaimAll (run : Runner) (me : ThreadId) : List (ObjectId × Class) → Run Unit
  | [] => return
  | (o, c) :: rest => do
    reclaim run me o c
    reclaimAll run me rest

/-- **Collects garbage** and answers how many objects were freed. -/
def collect (run : Runner) (me : ThreadId) : Run Nat := do
  let garbage ← onDomain Domain.takeGarbage
  reclaimAll run me garbage
  return garbage.length

/-- Collects garbage on request, which the history remembers. -/
def collectOnRequest (run : Runner) (me : ThreadId) : Run Nat := do
  let count ← collect run me
  record (.collected count)
  return count

/-! ## The runtime as native code sees it

Native code knows methods by the full names of their classes, which are looked up at each call. -/

/-- The declared types of a method. -/
def methodSignature? (d : Domain) (m : MethodRef) : Option (Signature × MemberKind) := do
  let c ← d.findClass? m.typeName
  let x ← c.findMethod? m.method m.arity
  return (x.signature, x.kind)

/-- **Calls a managed method from native code.** -/
def callManaged (run : Runner) (me : ThreadId) (m : MethodRef) (receiver : Option ObjectId)
    (args : List BoundaryValue) : Run (Except ManagedException BoundaryValue) := do
  match ← askDomain (·.findClass? m.typeName) with
  | none => return .error ⟨ManagedException.typeLoad, m.typeName, []⟩
  | some c =>
    match ← unmarshalAll args with
    | .error e => return .error e
    | .ok xs =>
      match ← runMethod run me c m.method receiver xs 0 with
      | .error e => return .error e
      | .ok v => marshal v

/-- Calls a managed method behind the fault boundary. -/
def enterManaged (run : Runner) (me : ThreadId) (m : MethodRef) (receiver : Option ObjectId)
    (args : List BoundaryValue) : Run (Except BridgeError BoundaryValue) :=
  managedBoundary m.entryPoint (callManaged run me m receiver args)

/-- **Loads an assembly.** Every native member its classes declare has to be
bound. -/
def loadAssembly (name : String) : Run (Except ScriptError Image) := do
  match ← askDomain (·.image? name) with
  | none => return .error (.assemblyNotFound name)
  | some i =>
    let r ← Process.ask World.registry
    match i.externs.forM (fun m => (r.resolve m).map (fun _ => ())) with
    | .error e => return .error (.binding e)
    | .ok () =>
      changeDomain (·.addClasses i)
      return .ok i

end HostBridge.Run
