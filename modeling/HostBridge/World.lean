import HostBridge.Bridge.Basic
import HostBridge.Domain.Basic
import HostBridge.Process

/-!
# The shared state of a host

Everything that native and managed code act on: the registry, the bridged
instances, the managed domain, and the history of what happened. The history
holds the lines that code wrote to the journal and to the log, and beside them
an entry for every body, implementation and hook that started to run, and for
the steps of the life of a handle and of an object. An entry is made in the
section that it tells of.

Nothing that runs looks at the history, so what the host does is the same
without it. It is there to be spoken of. That a hook runs once, that a handle is
given out before it is listed, that an object is visited after it was taken: a
state says none of this, and a state with the history of how it came about does.
-/

namespace HostBridge

/-- The level of a line in the log. -/
inductive LogLevel where
  | error
  | warn
  | info
  | debug
  | trace
deriving DecidableEq, Repr, Inhabited

/-- The name of a level in the log. -/
def LogLevel.name : LogLevel → String
  | .error => "ERROR"
  | .warn => "WARN"
  | .info => "INFO"
  | .debug => "DEBUG"
  | .trace => "TRACE"

/-- **Something that happened.** -/
inductive Event where
  /-- A line for the journal. -/
  | note (line : String)
  /-- A line for the log. -/
  | log (level : LogLevel) (text : String)
  /-- A managed body started to run. -/
  | body (frame : String) (receiver : Option ObjectId) (args : List ManagedValue)
  /-- A native implementation started to run. -/
  | call (m : Member) (args : List BoundaryValue)
  /-- A construction hook started to run. -/
  | construction (h : Handle)
  /-- A destruction hook started to run. -/
  | destruction (h : Handle) (r : Resource)
  /-- A handle was given out to a construction. -/
  | issued (h : Handle)
  /-- A construction hook returned its resource. -/
  | constructed (h : Handle)
  /-- The resource that a construction hook returned was stored. -/
  | equipped (h : Handle) (r : Resource)
  /-- Code changed a resource. -/
  | used (h : Handle) (kind : ResourceKind) (update : kind.Carrier → kind.Carrier)
  /-- A call was admitted, on a thread. -/
  | admitted (h : Handle) (thread : ThreadId)
  /-- An admitted call ended, on its thread. -/
  | dismissed (h : Handle) (thread : ThreadId)
  /-- A destruction was accepted, to run now or when the last call ends. -/
  | condemned (h : Handle)
  /-- A construction was rejected, or its hook failed: its handle is not used any more. -/
  | discarded (h : Handle)
  /-- An object was put on the heap. -/
  | allocated (o : ObjectId)
  /-- A managed body ended without a result, and its frame with it. -/
  | abandoned (f : FrameId)
  /-- A collection came to an object that it had taken. -/
  | visited (o : ObjectId)
  /-- A collection asked for the destruction of an object. -/
  | finalization (o : ObjectId)
  /-- A collection took an object off the heap. -/
  | freed (o : ObjectId)
  /-- A collection that code asked for freed this many objects. -/
  | collected (count : Nat)

/-- **The shared state.** -/
structure World where
  /-- The bindings. -/
  registry : Registry
  /-- The bridged instances. -/
  bridge : Bridge
  /-- The managed domain. -/
  domain : Domain
  /-- The calls that native code keeps running, one entry a call, each with the
  thread that it was admitted on. -/
  kept : List (ThreadId × Handle) := []
  /-- What happened, the latest first. -/
  history : List Event := []

namespace World

/-- **The state of a host that starts**: a registry, the instances there are
already, and an empty domain. -/
def start (registry : Registry) (bridge : Bridge) (domain : String) (maxCallDepth : Nat) :
    World :=
  { registry := registry, bridge := bridge,
    domain := { name := domain, maxCallDepth := maxCallDepth } }

/-- Adds to the history. -/
def record (w : World) (e : Event) : World := { w with history := e :: w.history }

/-- Changes the bridge. The history tells what happened. -/
def onBridge (w : World) (b : Bridge) (events : List Event := []) : World :=
  { w with bridge := b, history := events ++ w.history }

/-- Changes the domain. The history tells what happened. -/
def onDomain (w : World) (d : Domain) (events : List Event := []) : World :=
  { w with domain := d, history := events ++ w.history }

end World

/-- The handle that something happened to. -/
def Event.handle? : Event → Option Handle
  | construction h | destruction h _ | issued h | constructed h | equipped h _ | used h _ _
  | admitted h _ | dismissed h _ | condemned h | discarded h => some h
  | _ => none

/-- The lines of the journal among events. -/
def Event.journal (events : List Event) : List String :=
  events.filterMap (fun e => match e with | note line => some line | _ => none)

/-- The lines of the log among events. -/
def Event.logLines (events : List Event) : List String :=
  events.filterMap (fun e =>
    match e with | log level text => some (level.name ++ " " ++ text) | _ => none)

/-- A process over the shared state. -/
abbrev Run (α : Type) := Process World α

namespace Run

/-- Adds to the history. -/
def record (e : Event) : Run Unit := Process.change (fun w => w.record e)

/-- Writes a line to the log. -/
def log (level : LogLevel) (text : String) : Run Unit := record (.log level text)

/-- Something the bridge says. -/
def askBridge {α : Type} (f : Bridge → α) : Run α := Process.ask (fun w => f w.bridge)

/-- A section that changes the bridge. -/
def changeBridge (f : Bridge → Bridge) (events : List Event := []) : Run Unit :=
  Process.change (fun w => w.onBridge (f w.bridge) events)

/-- **A section on the bridge with a reply**, once the bridge is ready. The
reply tells what happened. -/
def onBridgeWhen {α : Type} (ready : Bridge → Bool) (f : Bridge → α × Bridge)
    (events : α → List Event) : Run α :=
  Process.exchangeWhen (fun w => ready w.bridge)
    (fun w => ((f w.bridge).1, w.onBridge (f w.bridge).2 (events (f w.bridge).1)))

/-- A section on the bridge with a reply, which tells what happened. -/
def onBridge {α : Type} (f : Bridge → α × Bridge) (events : α → List Event := fun _ => []) :
    Run α :=
  onBridgeWhen (fun _ => true) f events

/-- Something the domain says. -/
def askDomain {α : Type} (f : Domain → α) : Run α := Process.ask (fun w => f w.domain)

/-- A section that changes the domain. -/
def changeDomain (f : Domain → Domain) (events : List Event := []) : Run Unit :=
  Process.change (fun w => w.onDomain (f w.domain) events)

/-- A section on the domain with a reply, which tells what happened. -/
def onDomain {α : Type} (f : Domain → α × Domain) (events : α → List Event := fun _ => []) :
    Run α :=
  Process.exchange
    (fun w => ((f w.domain).1, w.onDomain (f w.domain).2 (events (f w.domain).1)))

/-- The thread keeps a call running that it was admitted. -/
def keepCall (me : ThreadId) (h : Handle) : Run Unit :=
  Process.change (fun w => { w with kept := (me, h) :: w.kept })

/-- Takes back a call that the thread keeps running. The answer tells whether
there was one. -/
def takeCall (me : ThreadId) (h : Handle) : Run Bool :=
  Process.exchange (fun w => (w.kept.contains (me, h), { w with kept := w.kept.erase (me, h) }))

end Run

end HostBridge
