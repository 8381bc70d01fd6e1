import HostBridge.Domain.Calls

/-!
# Thunks

A thunk is a managed method bound to a fixed native signature. The signature
is checked once, when the thunk is bound; every call runs behind the fault
boundary, and its result is converted to the native type it was bound to.

What a thunk keeps of its method is a reference: the full name of a class, a
name, and a number of parameters. The method itself is found again at each call.
-/

namespace HostBridge

/-- **A managed method bound to a native signature.** -/
structure Thunk (params : List Tag) (ret : Tag) where
  /-- The method. -/
  method : MethodRef
  /-- The receiver it was bound to. -/
  receiver : Option ObjectId

/-- The boundary values of native arguments. -/
def Tag.boundaryArgs : (ts : List Tag) → Tag.Args ts → List BoundaryValue
  | [], _ => []
  | t :: ts, (x, xs) => .ofNative t x :: Tag.boundaryArgs ts xs

namespace Thunk

variable {params : List Tag} {ret : Tag}

/-- **Binds a method** to native types. -/
def bind (d : Domain) (m : MethodRef) (receiver : Option ObjectId) (params : List Tag)
    (ret : Tag) : Except BridgeError (Thunk params ret) :=
  match Run.methodSignature? d m with
  | none => .error (.unboundMember m.render)
  | some (signature, kind) =>
    let wanted : Signature := ⟨params, ret⟩
    if signature ≠ wanted then
      .error (.signatureMismatch (m.render ++ signature.render) wanted.render)
    else if kind = .perInstance && receiver.isNone then
      .error (.invalidState m.render .unconstructed)
    else .ok ⟨m, receiver⟩

/-- **Calls the method.** -/
def call (t : Thunk params ret) (run : Runner) (me : ThreadId) (args : Tag.Args params) :
    Run (Except BridgeError ret.Native) := do
  match ← Run.enterManaged run me t.method t.receiver (Tag.boundaryArgs params args) with
  | .error e => return .error e
  | .ok v => return (v.toNative ret).mapError .marshalType

/-- A thunk for a static method of the class a name stands for. -/
def ofStatic (d : Domain) (typeName method : String) (params : List Tag) (ret : Tag) :
    Except ScriptError (Thunk params ret) :=
  match d.findClass? typeName with
  | none => .error (.classNotFound typeName)
  | some c =>
    match (c.findMethod? method params.length).filter (fun m => m.kind = .static) with
    | none =>
      .error (.methodNotFound (MethodRef.mk typeName method params.length).render)
    | some _ =>
      (bind d ⟨c.fullName, method, params.length⟩ none params ret).mapError .binding

end Thunk

/-! ## Methods of an object -/

/-- **A method selected on an object.** -/
structure BoundMethod where
  /-- The method. -/
  method : MethodRef
  /-- Its declared types. -/
  signature : Signature
  /-- The object, for an instance method. -/
  receiver : Option ObjectId

/-- **An object held by native code.** -/
structure Instance where
  /-- Its class. -/
  cls : Class
  /-- The object. -/
  object : ObjectId

namespace Instance

/-- The method of a name and number of parameters. -/
def getMethod (i : Instance) (name : String) (arity : Nat) : Except ScriptError BoundMethod :=
  let m : MethodRef := ⟨i.cls.fullName, name, arity⟩
  match i.cls.findMethod? name arity with
  | none => .error (.methodNotFound m.render)
  | some x => .ok ⟨m, x.signature, if x.kind = .perInstance then some i.object else none⟩

/-- A thunk for a method of the object. -/
def thunk (i : Instance) (d : Domain) (name : String) (params : List Tag) (ret : Tag) :
    Except ScriptError (Thunk params ret) :=
  match i.getMethod name params.length with
  | .error e => .error e
  | .ok b => (Thunk.bind d b.method b.receiver params ret).mapError .binding

end Instance

namespace Run

/-- **Makes an object that native code holds.** -/
def newInstance (run : Runner) (me : ThreadId) (c : Class) :
    Run (Except ScriptError Instance) := do
  match ← newObject run me c 0 with
  | .error e => return .error (.exception e)
  | .ok o =>
    changeDomain (·.hold o)
    return .ok ⟨c, o⟩

/-- Native code lets go of an object it held. -/
def dropInstance (i : Instance) : Run Unit := changeDomain (·.letGo i.object)

end Run

end HostBridge
