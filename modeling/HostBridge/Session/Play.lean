import HostBridge.Evaluation
import HostBridge.Host.Plugins
import HostBridge.SelfTest.Scenarios
import HostBridge.Session.Step

/-!
# Playing a session

A session holds the shared state of a host together with what its steps keep:
labels of bindings, loaded assemblies, objects, admitted calls, and the
destructions on other threads that wait for those calls to end. Playing a step
runs its process on the shared state as far as it goes (`Session.play`); the
events of the step are what the history gained (`Session.playAll`).

One kind of step runs on a thread of its own. A destruction elsewhere that has to
wait for calls stays where it is, and is played on when a later step has ended
them. That is as much of an interleaving as a session has.
-/

namespace HostBridge

/-- **A session**: the shared state, and what its steps keep. -/
structure Session where
  /-- The shared state. -/
  world : World := .start .empty .empty "bridge_d" 256
  /-- The labels of bindings. -/
  labels : Table Member.Key String := .empty
  /-- Loaded assemblies. -/
  images : Table String Image := .empty
  /-- Objects held by name. -/
  objects : Table String Instance := .empty
  /-- Admitted calls that are kept running. -/
  guards : Table String (ObjectId × Handle) := .empty
  /-- Destructions on other threads that wait. -/
  waiting : List (ObjectId × Course World Bool) := []
  /-- The number of the next thread. -/
  nextThread : ThreadId := 1

namespace Session

/-- An answer, and the session after it. -/
abbrev Played := Answer × Session

/-- **Runs a process** on the shared state and goes on with its result. -/
def running {α : Type} (s : Session) (p : Run α) (next : α → Session → Played) : Played :=
  match p.advance s.world with
  | (.done a, w) => next a { s with world := w }
  | (.crash (.panicked p), w) => (.panicked p, { s with world := w })
  | (_, w) => (.stuck, { s with world := w })

/-- Runs a process whose result is the answer. -/
def answering {α : Type} (s : Session) (p : Run α) (answer : α → Answer) : Played :=
  s.running p (fun a s => (answer a, s))

/-- The answer of something that may fail with an error of the bridge. -/
def Answer.orBridgeError {α : Type} (answer : α → Answer) : Except BridgeError α → Answer
  | .ok a => answer a
  | .error e => .bridgeError e

/-- The answer of something that may fail with an error of the runtime. -/
def Answer.orScriptError {α : Type} (answer : α → Answer) : Except ScriptError α → Answer
  | .ok a => answer a
  | .error e => .scriptError e

/-- Goes on with something kept under a name. -/
def named {α : Type} (s : Session) (t : Table String α) (name : String)
    (next : α → Played) : Played :=
  match t.get? name with
  | some a => next a
  | none => (.noSuchName, s)

/-! ## The registry -/

/-- Replaces the registry. -/
def setRegistry (s : Session) (r : Registry) : Session :=
  { s with world := { s.world with registry := r } }

/-- Binds a member, remembering its label. -/
def bind (s : Session) (m : Member) (c : NativeCall) (label : Option String) : Played :=
  let (outcome, r) := s.world.registry.register m c
  let s' := s.setRegistry r
  match outcome, label with
  | .error e, _ => (.bridgeError e, s')
  | .ok (), some l => (.ok, { s' with labels := s'.labels.insert m.key l })
  | .ok (), none => (.ok, s')

/-- Adds to the history. -/
def recordAll (s : Session) (events : List Event) : Session :=
  { s with world := events.foldl World.record s.world }

/-- Adds the bindings of the echo module. The module is initialized before, if
it is given a logger, and unloaded after. -/
def echoModule (s : Session) (logged : Bool) : Played :=
  let logger : Option ModuleLogger := if logged then some ⟨EchoModule.name⟩ else none
  let m : LoadedModule := ⟨"", HostBridge.echoModule, logger⟩
  let (outcome, r, said) := m.register s.world.registry
  let s' := (s.setRegistry r).recordAll (m.initialized ++ said ++ m.unloaded)
  (Answer.orBridgeError (fun _ => .text EchoModule.name) outcome, s')

/-- Adds the bindings of the self-test. -/
def selfTestBindings (s : Session) : Played :=
  let (outcome, r) := s.world.registry.addAll SelfTest.additions
  (Answer.orBridgeError (fun _ => .ok) outcome, s.setRegistry r)

/-- Looks a member up. -/
def resolve (s : Session) (m : Member) : Answer :=
  Answer.orBridgeError (fun c : NativeCall => .resolved c.render (s.labels.get? m.key))
    (s.world.registry.resolve m)

/-- A member with its kind in front. -/
def kindAndText (m : Member) : String := m.kind.dataName ++ " " ++ m.render

/-- The order of texts by their characters. -/
def sorted (texts : List String) : List String := texts.mergeSort (fun a b => a ≤ b)

/-! ## Calls that are kept running -/

/-- The calls that are kept running on an object. -/
def guardsOn (s : Session) (o : ObjectId) : Nat :=
  (s.guards.values.filter (fun g => g.1 = o)).length

/-- Lets the destructions of an object that wait on other threads go on, and
gathers what those that end answer. -/
def resume (s : Session) (o : ObjectId) :
    List (ObjectId × Course World Bool) → List Bool × Session
  | [] => ([], s)
  | (p, course) :: rest =>
    if p = o then
      match course.advance s.world with
      | (.done b, w) =>
        let (answers, s') := resume { s with world := w } o rest
        (b :: answers, s')
      | (.crash _, w) => resume { s with world := w } o rest
      | (course', w) =>
        resume { s with world := w, waiting := s.waiting ++ [(p, course')] } o rest
    else resume { s with waiting := s.waiting ++ [(p, course)] } o rest

/-- Ends a call that is kept running. -/
def leave (s : Session) (name : String) : Played :=
  s.named s.guards name fun (o, h) =>
    let s := { s with guards := s.guards.erase name }
    s.running (Run.leave Runner.standard mainThread h) fun _ s =>
      if s.guardsOn o = 0 then
        let (answers, s) := resume { s with waiting := [] } o s.waiting
        (.left answers, s)
      else (.left [], s)

/-- Admits a call and keeps it running. A call that was kept under the same name
ends. -/
def enter (s : Session) (o : ObjectId) (m : Member) (name : String) : Played :=
  s.running (Run.enter mainThread o m) fun result s =>
    match result with
    | .error e => (.bridgeError e, s)
    | .ok h =>
      let answer : Answer := .number h.number.toNat
      let s' := { s with guards := s.guards.insert name (o, h) }
      match s.guards.get? name with
      | none => (answer, s')
      | some (_, old) => s'.answering (Run.leave Runner.standard mainThread old) (fun _ => answer)

/-- Destroys the native side of an instance from another thread. -/
def destroyElsewhere (s : Session) (o : ObjectId) : Played :=
  let thread := s.nextThread
  let s := { s with nextThread := thread + 1 }
  match (Run.destroy Runner.standard thread o).advance s.world with
  | (.done b, w) => (.flag b, { s with world := w })
  | (.crash (.panicked p), w) => (.panicked p, { s with world := w })
  | (.crash .tooDeep, w) => (.stuck, { s with world := w })
  | (course, w) =>
    (.text "blocked", { s with world := w, waiting := s.waiting ++ [(o, course)] })

/-! ## Resources -/

/-- Uses the resource behind a handle and answers what it has become. -/
def useResource (s : Session) (h : Handle) : ResourceUse → Played
  | .add n =>
    s.answering (Run.useResource h .long (fun x : Int64 => x + n))
      (Answer.orBridgeError (fun x : Int64 => .text (toString (x + n).toInt)))
  | .append text =>
    s.answering (Run.useResource h .text (fun x : String => x ++ text))
      (Answer.orBridgeError (fun x : String => .text (x ++ text)))

/-! ## Assemblies and objects -/

/-- Makes an image available. -/
def provide (s : Session) (i : Image) : Session :=
  { s with world := { s.world with domain := s.world.domain.provide i } }

/-- Builds an assembly and makes it available. -/
def assembly (s : Session) (name : String) (classes : List ClassScript) : Played :=
  match Image.build name (classes.map ClassScript.toClass) with
  | .error e => (.scriptError e, s)
  | .ok i => (.assembly i.name (i.externs.map Member.render), s.provide i)

/-- Makes an object and keeps it. One that was kept under the same name is let
go. -/
def new (s : Session) (assembly className name : String) : Played :=
  s.named s.images assembly fun i =>
    match i.getClass className with
    | .error e => (.scriptError e, s)
    | .ok c =>
      s.running (Run.newInstance Runner.standard mainThread c) fun result s =>
        match result with
        | .error e => (.scriptError e, s)
        | .ok x =>
          let answer : Answer := .created x.object c.fullName
          let s' := { s with objects := s.objects.insert name x }
          match s.objects.get? name with
          | none => (answer, s')
          | some old => s'.answering (Run.dropInstance old) (fun _ => answer)

/-- Lets go of an object that is kept. -/
def drop (s : Session) (name : String) : Played :=
  s.named s.objects name fun x =>
    { s with objects := s.objects.erase name }.answering (Run.dropInstance x) (fun _ => .ok)

/-! ## Thunks -/

/-- The outcome of a call whose arguments could not be converted. -/
def CallFailure.toBridgeError (m : MethodRef) : CallFailure → BridgeError
  | .mismatch e => .marshalType e
  | .arity expected found => .arity m.render expected found
  | .fault f => .nativeFault m.render f

/-- Calls a bound method once. -/
def callThunk {params : List Tag} {ret : Tag} (t : Thunk params ret)
    (args : List BoundaryValue) : Run (Except BridgeError BoundaryValue) := do
  match NativeCall.nativeArgs params args with
  | .error e => return .error (CallFailure.toBridgeError t.method e)
  | .ok xs => return (← t.call Runner.standard mainThread xs).map (BoundaryValue.ofNative ret)

/-- Calls a bound method with one list of arguments after the other. -/
def callThunks {params : List Tag} {ret : Tag} (t : Thunk params ret) :
    List (List BoundaryValue) → Run (List (Except BridgeError BoundaryValue))
  | [] => return []
  | args :: rest => do
    let result ← callThunk t args
    let results ← callThunks t rest
    return result :: results

/-- Calls a method that was bound, if it was. -/
def callBound {params : List Tag} {ret : Tag} (s : Session)
    (t : Except ScriptError (Thunk params ret)) (arguments : List (List BoundaryValue)) :
    Played :=
  match t with
  | .error e => (.scriptError e, s)
  | .ok t => s.answering (callThunks t arguments) (fun results => .called t.method results)

/-- The kind, types and number of parameters of a method. -/
def signatureText (x : Signature × MemberKind) : String :=
  x.2.dataName ++ " " ++ x.1.render ++ " " ++ toString x.1.arity

/-! ## Steps -/

/-- **Plays one step.** -/
def play (s : Session) : Step → Played
  | .bind m f label => s.bind m f.implementation label
  | .bindActions m params ret actions label =>
    s.bind m (Action.implementation m params ret actions) label
  | .bridgeType typeName kind construct destroy =>
    let (outcome, r) :=
      s.world.registry.bridgeType typeName (Action.hooks kind construct destroy)
    (Answer.orBridgeError (fun _ => .ok) outcome, s.setRegistry r)
  | .echoModule logged => s.echoModule logged
  | .selfTestBindings => s.selfTestBindings
  | .size => (.size s.world.registry.size, s)
  | .freeze domain maxCallDepth =>
    (.text s.world.registry.render,
      { s with world := { s.world with domain := { name := domain, maxCallDepth } } })
  | .resolve m => (s.resolve m, s)
  | .members => (.members (sorted (s.world.registry.members.map kindAndText)), s)
  | .isBridged typeName =>
    (.bridged (s.world.registry.isBridged typeName) (s.world.registry.hooks? typeName).isSome, s)
  | .invoke m receiver args =>
    s.answering (Run.invoke Runner.standard mainThread m receiver args)
      (Answer.orBridgeError .value)
  | .construct typeName o =>
    s.answering (Run.construct Runner.standard mainThread typeName o)
      (Answer.orBridgeError fun h : Option Handle => match h with
        | some h => .number h.number.toNat
        | none => .absent)
  | .destroy o => s.answering (Run.destroy Runner.standard mainThread o) .flag
  | .release h => s.answering (Run.release Runner.standard mainThread h) .flag
  | .state o => s.answering (Run.stateOf o) (fun l => .text l.name)
  | .liveCount => s.answering (Run.askBridge Bridge.liveCount) .number
  | .handleOf o =>
    s.answering (Run.handleOf o) (Answer.orBridgeError fun h => .number h.number.toNat)
  | .objectOf h =>
    s.answering (Run.objectOf h) (Answer.orBridgeError fun o => .number o.number.toNat)
  | .forget o => s.answering (Run.forget o) (fun _ => .ok)
  | .resource h use => s.useResource h use
  | .enter o m name => s.enter o m name
  | .leave name => s.leave name
  | .destroyElsewhere o => s.destroyElsewhere o
  | .assembly name classes => s.assembly name classes
  | .selfTestAssembly name =>
    match SelfTest.assembly name with
    | .error e => (.scriptError e, s)
    | .ok i => (.ok, s.provide i)
  | .load name =>
    s.running (Run.loadAssembly name) fun result s =>
      match result with
      | .error e => (.scriptError e, s)
      | .ok i => (.text i.name, { s with images := s.images.insert name i })
  | .getClass assembly className =>
    s.named s.images assembly fun i =>
      (Answer.orScriptError (fun c : Class => .classNames c.name c.fullName)
        (i.getClass className), s)
  | .new assembly className name => s.new assembly className name
  | .drop name => s.drop name
  | .disposeKept name =>
    s.named s.objects name fun x =>
      s.answering (Run.destroy Runner.standard mainThread x.object) .flag
  | .dispose o => s.answering (Run.destroy Runner.standard mainThread o) .flag
  | .getMethod name method arity =>
    s.named s.objects name fun x =>
      (Answer.orScriptError .method (x.getMethod method arity), s)
  | .thunk name method calls =>
    s.named s.objects name fun x =>
      s.callBound (x.thunk s.world.domain method calls.params calls.ret) calls.arguments
  | .staticThunk typeName method calls =>
    s.callBound (Thunk.ofStatic s.world.domain typeName method calls.params calls.ret)
      calls.arguments
  | .bindThunk m receiver calls =>
    s.callBound
      ((Thunk.bind s.world.domain m receiver calls.params calls.ret).mapError .binding)
      calls.arguments
  | .managedInvoke m receiver args =>
    s.answering (Run.callManaged Runner.standard mainThread m receiver args) fun result =>
      match result with
      | .ok v => .value v
      | .error e => .exception e
  | .methodSignature m =>
    (match Run.methodSignature? s.world.domain m with
     | some x => .text (signatureText x)
     | none => .absent, s)
  | .collect => s.answering (Run.collectOnRequest Runner.standard mainThread) .number
  | .objectCount => s.answering (Run.askDomain Domain.objectCount) .number
  | .domainName => s.answering (Run.askDomain Domain.name) .text
  | .selfTest assembly =>
    s.answering (SelfTest.runAll Runner.standard mainThread assembly) (Answer.orScriptError .report)

/-! ## Sessions -/

/-- **What a step came to**, with the lines it added to the journal and to the
log. -/
structure Outcome where
  /-- The answer. -/
  answer : Answer
  /-- Lines of the journal. -/
  journal : List String
  /-- Lines of the log. -/
  log : List String

/-- Whether a collection that a step or its code asked for freed several objects,
whose order nobody promises. -/
def freedSeveral (events : List Event) : Bool :=
  events.any (fun e => match e with | .collected n => 1 < n | _ => false)

/-- The outcome of an answer and the events that led to it. Where several
objects were freed at once the lines are sorted. -/
def Outcome.ofEvents (answer : Answer) (events : List Event) : Outcome :=
  let arranged (lines : List String) : List String :=
    if freedSeveral events then sorted lines else lines
  ⟨answer, arranged (Event.journal events), arranged (Event.logLines events)⟩

/-- The events of the session since its history had a given length. -/
def eventsSince (s : Session) (length : Nat) : List Event :=
  (s.world.history.take (s.world.history.length - length)).reverse

/-- **Plays steps** one after the other. -/
def playAll (s : Session) : List Step → List Outcome
  | [] => []
  | step :: rest =>
    let (answer, s') := s.play step
    .ofEvents answer (s'.eventsSince s.world.history.length) :: s'.playAll rest

/-- **The outcomes of a session** from its start. -/
def outcomes (steps : List Step) : List Outcome := ({} : Session).playAll steps

end Session

end HostBridge
