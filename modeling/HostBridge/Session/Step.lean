import HostBridge.Domain.Assembly
import HostBridge.SelfTest.Report
import HostBridge.Session.Action
import HostBridge.Session.Statement
import HostBridge.Thunk

/-!
# Steps of a session and their answers

A session drives a host step by step: it fills the registry, freezes it, and
then uses the bridged instances and the managed runtime the way an embedding
program does. A `Step` is one such use, an `Answer` is what it came to. Things
that a session keeps for later steps (assemblies, objects, admitted calls) go
by names.
-/

namespace HostBridge

/-- **A method of a class that a session writes.** -/
structure MethodScript where
  /-- The name. -/
  name : String
  /-- Declared types. -/
  signature : Signature
  /-- Static or instance. -/
  kind : MemberKind
  /-- The code. -/
  body : List Statement

/-- **A class that a session writes.** -/
structure ClassScript where
  /-- The namespace, empty for none. -/
  scope : String
  /-- The simple name. -/
  name : String
  /-- Declarations of native members. -/
  externs : List Extern
  /-- Managed methods. -/
  methods : List MethodScript
  /-- The constructor, if there is one. -/
  constructor : Option (List Statement)
  /-- The finalizer, if there is one. -/
  finalizer : Option (List Statement)

/-- The class that a script writes. -/
def ClassScript.toClass (c : ClassScript) : Class where
  scope := c.scope
  name := c.name
  methods := c.methods.map (fun m => ⟨m.name, m.signature, m.kind, Statement.body m.body⟩)
  externs := c.externs
  constructor := c.constructor.map Statement.body
  finalizer := c.finalizer.map Statement.body

namespace Session

/-- **The use of a resource from outside**: a number is added to or a text is
appended to. -/
inductive ResourceUse where
  | add (n : Int64)
  | append (text : String)

/-- **The native signature of a thunk** and the arguments of its calls. -/
structure Calls where
  /-- The parameter types. -/
  params : List Tag
  /-- The return type. -/
  ret : Tag
  /-- The arguments of each call. -/
  arguments : List (List BoundaryValue)

/-- **One step of a session.** -/
inductive Step where
  /-- Binds a typed function, under a label if there is one. -/
  | bind (m : Member) (f : TypedFunction) (label : Option String)
  /-- Binds an implementation by actions. -/
  | bindActions (m : Member) (params : List Tag) (ret : Tag) (actions : List Action)
      (label : Option String)
  /-- Declares a type with hooks by actions. -/
  | bridgeType (typeName : String) (kind : ResourceKind) (construct destroy : List Action)
  /-- Adds the bindings of the echo module, which may be given a logger. -/
  | echoModule (logged : Bool)
  /-- Adds the bindings of the self-test. -/
  | selfTestBindings
  /-- Counts the bindings. -/
  | size
  /-- Ends the binding and starts the runtime. -/
  | freeze (domain : String) (maxCallDepth : Nat)
  /-- Looks a member up. -/
  | resolve (m : Member)
  /-- Lists the bound members. -/
  | members
  /-- Asks whether a type has hooks. -/
  | isBridged (typeName : String)
  /-- Calls a bound member. -/
  | invoke (m : Member) (receiver : Option ObjectId) (args : List BoundaryValue)
  /-- Constructs the native side of an instance. -/
  | construct (typeName : String) (o : ObjectId)
  /-- Destroys the native side of an instance. -/
  | destroy (o : ObjectId)
  /-- Releases a handle. -/
  | release (h : Handle)
  /-- Asks for the state of an instance. -/
  | state (o : ObjectId)
  /-- Counts the live handles. -/
  | liveCount
  /-- Asks for the handle of an instance. -/
  | handleOf (o : ObjectId)
  /-- Asks for the instance behind a handle. -/
  | objectOf (h : Handle)
  /-- Drops the record of an instance. -/
  | forget (o : ObjectId)
  /-- Uses the resource behind a handle. -/
  | resource (h : Handle) (use : ResourceUse)
  /-- Admits a call and keeps it running under a name. -/
  | enter (o : ObjectId) (m : Member) (name : String)
  /-- Ends a call that is kept running. -/
  | leave (name : String)
  /-- Destroys the native side of an instance from another thread. -/
  | destroyElsewhere (o : ObjectId)
  /-- Builds an assembly and makes it available. -/
  | assembly (name : String) (classes : List ClassScript)
  /-- Makes the assembly of the self-test available under a name. -/
  | selfTestAssembly (name : String)
  /-- Loads an assembly. -/
  | load (name : String)
  /-- Looks a class up in a loaded assembly. -/
  | getClass (assembly className : String)
  /-- Makes an object and keeps it under a name. -/
  | new (assembly className name : String)
  /-- Lets go of an object that is kept. -/
  | drop (name : String)
  /-- Releases the native side of an object that is kept. -/
  | disposeKept (name : String)
  /-- Releases the native side of an object. -/
  | dispose (o : ObjectId)
  /-- Selects a method on an object that is kept. -/
  | getMethod (name method : String) (arity : Nat)
  /-- Binds a method of an object that is kept, and calls it. -/
  | thunk (name method : String) (calls : Calls)
  /-- Binds a static method, and calls it. -/
  | staticThunk (typeName method : String) (calls : Calls)
  /-- Binds a method to a receiver, and calls it. -/
  | bindThunk (m : MethodRef) (receiver : Option ObjectId) (calls : Calls)
  /-- Calls a managed method without a fault boundary. -/
  | managedInvoke (m : MethodRef) (receiver : Option ObjectId) (args : List BoundaryValue)
  /-- Asks for the declared types of a method. -/
  | methodSignature (m : MethodRef)
  /-- Collects garbage. -/
  | collect
  /-- Counts the objects on the managed heap. -/
  | objectCount
  /-- Asks for the name of the domain. -/
  | domainName
  /-- Runs the self-test against an assembly. -/
  | selfTest (assembly : String)

/-- **What a step came to.** -/
inductive Answer where
  /-- Done, with nothing to say. -/
  | ok
  /-- There is none. -/
  | absent
  | text (s : String)
  | number (n : Nat)
  | flag (b : Bool)
  | value (v : BoundaryValue)
  | bridgeError (e : BridgeError)
  | exception (e : ManagedException)
  | scriptError (e : ScriptError)
  /-- The step names something that the session does not keep. -/
  | noSuchName
  /-- The step panicked. -/
  | panicked (p : Panic)
  /-- The step waits for something that only a later step could do. -/
  | stuck
  /-- The number of bindings. -/
  | size (n : Nat)
  /-- The text of an implementation, and the label it was bound under. -/
  | resolved (call : String) (label : Option String)
  /-- What is bound, sorted. -/
  | members (texts : List String)
  /-- Whether a type has hooks, by the registry and by the dispatcher. -/
  | bridged (byRegistry byDispatcher : Bool)
  /-- A call has ended; what the destructions answered that waited for it. -/
  | left (threads : List Bool)
  /-- An assembly and the members it expects to be bound. -/
  | assembly (name : String) (externs : List String)
  /-- A class by its simple and its full name. -/
  | classNames (name fullName : String)
  /-- An object and the full name of its class. -/
  | created (o : ObjectId) (className : String)
  /-- A method selected on an object. -/
  | method (m : BoundMethod)
  /-- A bound method, and what its calls came to. -/
  | called (m : MethodRef) (results : List (Except BridgeError BoundaryValue))
  /-- The report of a self-test. -/
  | report (r : Report)

end Session

end HostBridge
