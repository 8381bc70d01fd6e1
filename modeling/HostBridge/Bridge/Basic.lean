import HostBridge.Registry

/-!
# Bridged instances

The bridge keeps a record of every native resource that was ever attached to
a managed instance: its owner, where it is on its way, the threads with a call
on it, and the resource itself. Two tables lead to the records: one from
instances to their latest handle, and one that lists the live handles.

This module holds the **atomic sections** of the bridge: what one holder of
its locks does to it in one go. The operations put together from them, which
run hooks between two sections and wait for other threads, are processes and
live in `Bridge.Operations`.

## Uses of a resource

A use of a resource (`useResource`) is one pure function on the value of the
resource, applied in one section. Nothing else happens while it is applied: no
other call runs, no other handle is looked at, and the function does not panic.
Code that does more with a resource than compute its next value does it around
the section. It asks for the value (a use that changes nothing answers it),
does the rest, be that a call, a use of another handle or a panic, and changes
the resource in a later use. In between other threads may have their turn, so
such code promises no more than that each of its uses is in one piece.
-/

namespace HostBridge

/-- A thread. -/
abbrev ThreadId := Nat

/-- The thread that a program starts with. -/
def mainThread : ThreadId := 0

/-- **The record of one construction.** -/
structure Record where
  /-- The instance. -/
  object : ObjectId
  /-- Full name of the type it was constructed as. -/
  typeName : String
  /-- The hooks of that type. -/
  hooks : Hooks
  /-- Where the instance is on its way. -/
  lifecycle : Lifecycle := .constructing
  /-- The threads with a call on the instance, one entry a call. -/
  inFlight : List ThreadId := []
  /-- Whether the last call to end has to destroy the instance. -/
  destroyPending : Bool := false
  /-- The native resource, while there is one. -/
  resource : Option Resource := none

/-- Whether calls are admitted. -/
def Record.isOpen (r : Record) : Bool := r.lifecycle = .live && !r.destroyPending

/-- **The bridged instances.** -/
structure Bridge where
  /-- The handle of the next construction. -/
  nextHandle : UInt64 := 1
  /-- Every record, by its handle. -/
  records : Table Handle Record := .empty
  /-- The handle an instance was given last. -/
  instances : Table ObjectId Handle := .empty
  /-- The live handles. -/
  handles : List Handle := []

namespace Bridge

/-- The bridge without instances. -/
def empty : Bridge := {}

/-! ## Looking things up -/

/-- The latest handle of an instance. -/
def find? (b : Bridge) (o : ObjectId) : Option Handle := b.instances.get? o

/-- The record behind a live handle. -/
def listed? (b : Bridge) (h : Handle) : Option Record :=
  if b.handles.contains h then b.records.get? h else none

/-- Where the construction behind a handle is on its way. -/
def lifecycleAt (b : Bridge) (h : Handle) : Lifecycle :=
  ((b.records.get? h).map Record.lifecycle).getD .unconstructed

/-- **The state of an instance.** -/
def state (b : Bridge) (o : ObjectId) : Lifecycle :=
  ((b.find? o).map b.lifecycleAt).getD .unconstructed

/-- The number of live handles. -/
def liveCount (b : Bridge) : Nat := b.handles.length

/-- Changes the record behind a handle. -/
def updateRecord (b : Bridge) (h : Handle) (f : Record → Record) : Bridge :=
  { b with records := b.records.modify h f }

/-! ## Construction

A handle is given out, its record is opened, equipped with a resource, listed and declared live.
Each of these is a section, and the hook runs between the second and the third. -/

/-- Takes the next handle. -/
def reserve (b : Bridge) : Handle × Bridge :=
  (⟨b.nextHandle⟩, { b with nextHandle := b.nextHandle + 1 })

/-- Opens a record for an instance, unless one is in use; then its state is
the answer. -/
def announce (b : Bridge) (o : ObjectId) (typeName : String) (hooks : Hooks) (h : Handle) :
    Except Lifecycle Unit × Bridge :=
  let opened : Bridge :=
    { b with
      records := b.records.insert h { object := o, typeName := typeName, hooks := hooks }
      instances := b.instances.insert o h }
  match b.find? o with
  | none => (.ok (), opened)
  | some g =>
    if b.lifecycleAt g = .destroyed then (.ok (), opened) else (.error (b.lifecycleAt g), b)

/-- Keeps the resource that was built. -/
def equip (b : Bridge) (h : Handle) (r : Resource) : Bridge :=
  b.updateRecord h (fun s => { s with resource := some r })

/-- Lists a handle as live. -/
def list (b : Bridge) (h : Handle) : Bridge := { b with handles := h :: b.handles }

/-- Sets where the instance behind a handle is on its way. -/
def setLifecycle (b : Bridge) (h : Handle) (s : Lifecycle) : Bridge :=
  b.updateRecord h (fun r => { r with lifecycle := s })

/-- Takes back what `announce` said about an instance. -/
def withdraw (b : Bridge) (o : ObjectId) : Bridge :=
  { b with instances := b.instances.erase o }

/-! ## Calls

A record lists the threads that have a call on it. It has a thread twice that has two. -/

/-- **Admits a call**, or says in which state the instance is. A destruction
that is waiting for calls to end is reported as under way. -/
def admitCall (b : Bridge) (me : ThreadId) (h : Handle) : Except Lifecycle Unit × Bridge :=
  match b.records.get? h with
  | none => (.error .unconstructed, b)
  | some r =>
    if r.isOpen then
      (.ok (), b.updateRecord h (fun r => { r with inFlight := r.inFlight ++ [me] }))
    else (.error (if r.destroyPending then .destructing else r.lifecycle), b)

/-- **Ends a call.** The answer tells whether it was the last one and a
destruction was waiting for it. -/
def dismiss (b : Bridge) (me : ThreadId) (h : Handle) : Bool × Bridge :=
  let ended (r : Record) : Record := { r with inFlight := r.inFlight.erase me }
  match b.records.get? h with
  | none => (false, b)
  | some r =>
    if r.destroyPending && (ended r).inFlight.isEmpty then
      (true, b.updateRecord h (fun r =>
        { ended r with destroyPending := false, lifecycle := .destructing }))
    else (false, b.updateRecord h ended)

/-! ## Destruction

A request is accepted once. Who carries it out is decided with it: the thread that asked, or the
one whose call is the last to end. -/

/-- What a request for destruction has come to. -/
inductive Verdict where
  /-- Nothing to do, or somebody else does it. -/
  | refused
  /-- The last call to end will do it. -/
  | deferred
  /-- The caller does it. -/
  | accepted
deriving DecidableEq, Repr

/-- Whether no construction is running behind a handle. -/
def isSettled (b : Bridge) (h : Handle) : Bool := b.lifecycleAt h ≠ .constructing

/-- Whether no call is running behind a handle. -/
def isIdle (b : Bridge) (h : Handle) : Bool :=
  ((b.records.get? h).map (fun r => r.inFlight.isEmpty)).getD true

/-- **A request for destruction** by a thread. A thread that is itself inside a
call on the instance only leaves word. -/
def condemn (b : Bridge) (me : ThreadId) (h : Handle) : Verdict × Bridge :=
  match b.records.get? h with
  | none => (.refused, b)
  | some r =>
    if !r.isOpen then (.refused, b)
    else if r.inFlight.contains me then
      (.deferred, b.updateRecord h (fun r => { r with destroyPending := true }))
    else (.accepted, b.setLifecycle h .destructing)

/-- Strikes a handle from the live ones. -/
def unlist (b : Bridge) (h : Handle) : Bridge := { b with handles := b.handles.erase h }

/-- Takes the resource out of a record. -/
def takeResource (b : Bridge) (h : Handle) : Option Resource × Bridge :=
  ((b.records.get? h).bind Record.resource,
    b.updateRecord h (fun r => { r with resource := none }))

/-- **Drops the record of a destroyed instance.** Any other stays. -/
def forget (b : Bridge) (o : ObjectId) : Bridge :=
  if b.state o = .destroyed then b.withdraw o else b

/-! ## Resources and identities -/

/-- **Changes the resource behind a handle**, if it is of the expected type;
the answer is the resource before. The change is a function of the resource
alone. -/
def useResource (b : Bridge) (h : Handle) (kind : ResourceKind)
    (update : kind.Carrier → kind.Carrier) : Except BridgeError kind.Carrier × Bridge :=
  match (b.records.get? h).bind Record.resource with
  | none => (.error (.useAfterRelease h), b)
  | some r =>
    if same : r.kind = kind then
      (.ok (same ▸ r.value),
        b.updateRecord h (fun s => { s with resource := some ⟨kind, update (same ▸ r.value)⟩ }))
    else (.error (.resourceType h kind.typeName), b)

/-- The error of an instance without a usable handle. -/
def notLive (o : ObjectId) (s : Lifecycle) : BridgeError := .invalidState o.render s

/-- The handle of a record, if calls on it are admitted. -/
def openHandle (b : Bridge) (o : ObjectId) (h : Handle) : Except BridgeError Handle :=
  match b.records.get? h with
  | none => .error (notLive o .unconstructed)
  | some r => if r.isOpen then .ok h else .error (notLive o r.lifecycle)

/-- **The handle of a live instance.** -/
def handleOf (b : Bridge) (o : ObjectId) : Except BridgeError Handle :=
  match b.find? o with
  | none => .error (notLive o .unconstructed)
  | some h => b.openHandle o h

/-- **The instance behind a live handle.** -/
def objectOf (b : Bridge) (h : Handle) : Except BridgeError ObjectId :=
  match b.listed? h with
  | some r => .ok r.object
  | none => .error (.useAfterRelease h)

end Bridge

end HostBridge
