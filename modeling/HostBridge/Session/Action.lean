import HostBridge.Registry

/-!
# Native code of a session

A session writes its native implementations and hooks as lists of actions.
This module gives the lists their meaning as `NativeCode`: actions run one
after the other, most of them leave a line in the journal that says how they
ended, and the first one that returns, fails or panics ends the list. A list
that runs to its end returns nothing, which stands for `void`.

Beside them stand the typed functions that a session may bind without writing
any action.
-/

namespace HostBridge

/-- **One action of native code.** -/
inductive Action where
  /-- Writes a line to the journal. -/
  | note (line : String)
  /-- Writes the own handle to the journal. -/
  | noteThis
  /-- Writes the arguments to the journal. -/
  | noteArgs
  /-- Returns a value. -/
  | ret (v : BoundaryValue)
  /-- Returns an argument, if it is there. -/
  | retArg (i : Nat)
  /-- Fails with a message. -/
  | fault (message : String)
  /-- Fails with the text of an argument. -/
  | faultArg (i : Nat)
  /-- Panics. -/
  | panic (p : Panic)
  /-- Adds to the own number. -/
  | bump (n : Int64)
  /-- Appends to the own text. -/
  | append (text : String)
  /-- Returns the own number. -/
  | retResource
  /-- Destroys an instance. -/
  | destroy (o : ObjectId)
  /-- Destroys the own instance. -/
  | destroyThis
  /-- Releases a handle. -/
  | release (h : Handle)
  /-- Releases the own handle. -/
  | releaseThis
  /-- Asks for the state of an instance. -/
  | state (o : ObjectId)
  /-- Counts the live handles. -/
  | live
  /-- Asks for the handle of an instance. -/
  | handleOf (o : ObjectId)
  /-- Asks for the instance behind a handle. -/
  | objectOf (h : Handle)
  /-- Asks for the own instance. -/
  | objectOfThis
  /-- Drops the record of an instance. -/
  | forget (o : ObjectId)
  /-- Constructs the native side of an instance. -/
  | construct (typeName : String) (o : ObjectId)
  /-- Calls a bound member. -/
  | invoke (m : Member) (receiver : Option ObjectId) (args : List BoundaryValue)
  /-- Calls a managed method. -/
  | managed (m : MethodRef) (receiver : Option ObjectId) (args : List BoundaryValue)
  /-- Calls a managed method and returns what it returned. -/
  | retManaged (m : MethodRef) (receiver : Option ObjectId) (args : List BoundaryValue)
  /-- Collects garbage. -/
  | collect
  /-- Counts the objects on the managed heap. -/
  | objectCount
  /-- Runs actions if the own handle is a given one. -/
  | whenHandle (h : Handle) (actions : List Action)

namespace Action

/-- **What actions run with**: the own handle and the arguments. -/
structure Scope where
  /-- The own handle. -/
  self : Handle
  /-- The arguments, a receiver's handle included. -/
  args : List BoundaryValue

/-- **How an action ended.** -/
inductive Ending where
  /-- The next action follows. -/
  | goesOn
  /-- The list ends here, with a value if there is one. -/
  | returns (v : Option BoundaryValue)

/-- Native code of an action. -/
abbrev Code := NativeCode (Except NativeFault Ending)

/-- The text of an outcome. -/
def outcome {α : Type} (render : α → String) : Except BridgeError α → String
  | .ok a => "ok " ++ render a
  | .error e => "error " ++ e.message

/-- The text of a truth value. -/
def truth (b : Bool) : String := if b then "true" else "false"

/-- The text of a handle that a type without hooks does not give. -/
def handleOrNone : Option Handle → String
  | some h => h.render
  | none => "none"

/-- The message that an argument stands for. -/
def messageOf : Option BoundaryValue → String
  | some (.string s) => s
  | some v => v.render
  | none => ""

/-- Performs an operation and writes its reply to the journal. -/
def noting (op : NativeOp) (line : op.Reply → String) : Code := do
  let reply ← NativeCode.op op
  NativeCode.note (line reply)
  return .ok .goesOn

/-- Performs an operation that may be refused, which is a fault. -/
def insisting {α : Type} (op : NativeCode (Except BridgeError α)) (next : α → Code) : Code := do
  match ← op with
  | .ok a => next a
  | .error e => return .error ⟨e.message⟩

/-- Destroys an instance and says whether it ran the hook. -/
def destroying (o : ObjectId) : Code :=
  noting (.destroy o) (fun b : Bool => "destroy " ++ o.render ++ " " ++ truth b)

/-- Releases a handle and says whether it ran the hook. -/
def releasing (h : Handle) : Code :=
  noting (.release h) (fun b : Bool => "release " ++ h.render ++ " " ++ truth b)

/-- Asks for the instance behind a handle. -/
def asking (h : Handle) : Code := noting (.objectOf h) (outcome ObjectId.render)

mutual

/-- **The code of one action.** -/
def code (s : Scope) : Action → Code
  | note line => do
    NativeCode.note line
    return .ok .goesOn
  | noteThis => do
    NativeCode.note ("this " ++ s.self.render)
    return .ok .goesOn
  | noteArgs => do
    NativeCode.note ("args " ++ " ".intercalate (s.args.map BoundaryValue.render))
    return .ok .goesOn
  | ret v => return .ok (.returns (some v))
  | retArg i => return .ok (.returns s.args[i]?)
  | fault message => return .error ⟨message⟩
  | faultArg i => return .error ⟨messageOf s.args[i]?⟩
  | panic p => .panic p
  | bump n =>
    insisting (NativeCode.op (.useResource s.self .long (fun x : Int64 => x + n)))
      (fun _ => return .ok .goesOn)
  | append text =>
    insisting (NativeCode.op (.useResource s.self .text (fun x : String => x ++ text)))
      (fun _ => return .ok .goesOn)
  | retResource =>
    insisting (NativeCode.op (.useResource s.self .long id))
      (fun x : Int64 => return .ok (.returns (some (.int64 x))))
  | destroy o => destroying o
  | destroyThis => insisting (NativeCode.op (.objectOf s.self)) destroying
  | release h => releasing h
  | releaseThis => releasing s.self
  | state o =>
    noting (.state o) (fun l : Lifecycle => "state " ++ o.render ++ " " ++ l.name)
  | live => noting .liveCount (fun n : Nat => "live " ++ toString n)
  | handleOf o => noting (.handleOf o) (outcome Handle.render)
  | objectOf h => asking h
  | objectOfThis => asking s.self
  | forget o => do
    let _ ← NativeCode.op (.forget o)
    return .ok .goesOn
  | construct typeName o => noting (.construct typeName o) (outcome handleOrNone)
  | invoke m receiver args => noting (.invoke m receiver args) (outcome BoundaryValue.render)
  | managed m receiver args => noting (.enter m receiver args) (outcome BoundaryValue.render)
  | retManaged m receiver args =>
    insisting (NativeCode.op (.enter m receiver args)) (fun v => return .ok (.returns (some v)))
  | collect => noting .collect (fun n : Nat => "collect " ++ toString n)
  | objectCount => noting .objectCount (fun n : Nat => "count " ++ toString n)
  | whenHandle h actions => do
    if s.self = h then
      match ← codeAll s actions with
      | .error f => return .error f
      | .ok (some v) => return .ok (.returns (some v))
      | .ok none => return .ok .goesOn
    else return .ok .goesOn

/-- **The code of a list of actions**, with the value that ended it. -/
def codeAll (s : Scope) : List Action → NativeCode (Except NativeFault (Option BoundaryValue))
  | [] => return .ok none
  | a :: rest => do
    match ← code s a with
    | .error f => return .error f
    | .ok .goesOn => codeAll s rest
    | .ok (.returns v) => return .ok v

end

/-- The handle in the first argument, which is the receiver of an instance
member. -/
def receiverOf (kind : MemberKind) (args : List BoundaryValue) : Handle :=
  match kind, args with
  | .perInstance, .object h :: _ => h
  | _, _ => ⟨0⟩

/-- **The implementation of a member** by actions. -/
def implementation (m : Member) (params : List Tag) (ret : Tag) (actions : List Action) :
    NativeCall :=
  .ofRaw params ret fun args => do
    let result ← codeAll ⟨receiverOf m.kind args, args⟩ actions
    return result.map (fun v => v.getD .void)

/-- The resource that a construction starts with. -/
def startResource : (kind : ResourceKind) → Resource
  | .long => ⟨.long, (0 : Int64)⟩
  | .text => ⟨.text, ""⟩
  | .counter => ⟨.counter, (0 : Int32)⟩
  | .nothing => ⟨.nothing, ()⟩

/-- A resource as a value. -/
def resourceValue (r : Resource) : BoundaryValue :=
  match r with
  | ⟨.long, x⟩ => .int64 x
  | ⟨.text, x⟩ => .string x
  | ⟨.counter, x⟩ => .int32 x
  | ⟨.nothing, _⟩ => .void

/-- **Hooks by actions.** A construction that does not fail keeps a fresh
resource; a destruction gets the resource as its argument, and its failure is
nobody's concern. -/
def hooks (kind : ResourceKind) (construct destroy : List Action) : Hooks where
  construct h := do
    let result ← codeAll ⟨h, []⟩ construct
    return result.map (fun _ => startResource kind)
  destroy h r := do
    let _ ← codeAll ⟨h, [resourceValue r]⟩ destroy
    return ()

end Action

/-! ## Typed functions -/

/-- **A typed function that can be bound as it is.** -/
inductive TypedFunction where
  /-- Returns its argument. -/
  | identity (t : Tag)
  /-- Returns its argument to a receiver. -/
  | identityOn (t : Tag)
  /-- Fails with its argument. -/
  | failing (t : Tag)
  /-- Returns the handle of the receiver. -/
  | receiver
  /-- Adds a float, an int and a float as doubles. -/
  | mix
  /-- Panics with its argument. -/
  | panicking
  /-- Adds ints. -/
  | sum (n : Nat)
  /-- Adds a constant, wrapping around. -/
  | plus (n : Int32)

namespace TypedFunction

/-- The sum of ints. -/
def total : (n : Nat) → Tag.Args (List.replicate n .int32) → Int64
  | 0, _ => 0
  | n + 1, (x, rest) => Int32.toInt64 x + total n rest

/-- The sum, from left to right, as a double. -/
def mixed (a : UInt32) (b : Int32) (c : UInt32) : UInt64 :=
  ((Float32.ofBits a).toFloat + b.toFloat + (Float32.ofBits c).toFloat).toBits

/-- **The implementation.** -/
def implementation : TypedFunction → NativeCall
  | identity t => .ofTyped [t] t fun (x, _) => return .ok x
  | identityOn t => .ofTyped [.object, t] t fun (_, x, _) => return .ok x
  | failing t => .ofTyped [.string] t fun (message, _) => return .error ⟨message⟩
  | receiver => .ofTyped [.object] .object fun (h, _) => return .ok h
  | mix => .ofTyped [.float32, .int32, .float32] .float64 fun (a, b, c, _) =>
      return .ok (mixed a b c)
  | panicking => .ofTyped [.string] .int32 fun (message, _) => .panic (.text message)
  | sum n => .ofTyped (List.replicate n .int32) .int64 fun xs => return .ok (total n xs)
  | plus n => .ofTyped [.int32] .int32 fun (x, _) => return .ok (Int32.add x n)

end TypedFunction

end HostBridge
