import HostBridge.Proofs.Bridge.Identities
import HostBridge.Proofs.Domain.Externs
import HostBridge.Thunk

/-!
# Calls that go through

A managed value crosses into native code as the boundary value with the same content; an
object crosses as a handle, and which one it is, is the business of the bridge
(`ManagedValue.Crosses`). A value has at most one type that it fits then, that of the
boundary value (`Crosses.fits_iff`).

A call crosses the boundary several times, and other threads go ahead in between. It goes
through (`Process.Flows`) if, in all states that it comes by, the values cross and the code
to be called is found. There is one lemma for each function on the way of a call: from the
thunk to the managed body, and from there to the native implementation and back.

That a call returns is a statement that no invariant gives. At each function something may go
wrong, and there are about a dozen exceptions between a thunk and the implementation it
reaches. So every lemma has the reasons in its hypotheses, and each is a fact about **all good
states** and not about one: the lookup that a call makes on its way in is answered of a state
that others have changed since the call began.

The results are equations (`· = .ok y`). A call that goes through does not return some value,
it returns the one that the implementation did.
-/

namespace HostBridge

variable {α : Type}

/-! ## What crosses as what

The relation is one inductive for all types. It has no case for null, which is why null never
comes to native code, and the relation between objects and handles is a parameter: the same
object may cross as different handles at different times. -/

/-- **A managed value crosses as a boundary value**, if objects cross as handles like
this. -/
inductive ManagedValue.Crosses (R : ObjectId → Handle → Prop) :
    ManagedValue → BoundaryValue → Prop
  | void : Crosses R .void .void
  | int32 (v : Int32) : Crosses R (.int32 v) (.int32 v)
  | int64 (v : Int64) : Crosses R (.int64 v) (.int64 v)
  | uint32 (v : UInt32) : Crosses R (.uint32 v) (.uint32 v)
  | uint64 (v : UInt64) : Crosses R (.uint64 v) (.uint64 v)
  | float32 (bits : UInt32) : Crosses R (.float32 bits) (.float32 bits)
  | float64 (bits : UInt64) : Crosses R (.float64 bits) (.float64 bits)
  | bool (v : Bool) : Crosses R (.bool v) (.bool v)
  | string (v : String) : Crosses R (.string v) (.string v)
  | object {o : ObjectId} {h : Handle} (hr : R o h) : Crosses R (.object o) (.object h)

namespace ManagedValue.Crosses

variable {R : ObjectId → Handle → Prop} {v : ManagedValue} {x : BoundaryValue}

/-- Where more objects cross as handles, more values cross. -/
theorem mono {S : ObjectId → Handle → Prop}
    (h : ∀ o g, v = .object o → x = .object g → R o g → S o g) (hv : Crosses R v x) :
    Crosses S v x := by
  cases hv with
  | object hr => exact .object (h _ _ rfl rfl hr)
  | _ => constructor

/-- What crosses alike in all good states. -/
theorem forall_of {α : Type} {good : α → Prop} {S : α → ObjectId → Handle → Prop}
    (hv : Crosses R v x) (h : ∀ s, good s → Crosses (S s) v x) :
    Crosses (fun o g => ∀ s, good s → S s o g) v x := by
  cases hv with
  | @object o g hr =>
    refine .object fun s hs => ?_
    cases h s hs with
    | object hr => exact hr
  | _ => constructor

/-- **A value that crosses fits one type**, that of the boundary value. -/
theorem fits_iff (hv : Crosses R v x) (tag : Tag) : v.fits tag = true ↔ tag = x.tag := by
  cases hv <;> exact decide_eq_true_iff

/-- Every boundary value is what some managed value crosses as. -/
theorem exists_of (x : BoundaryValue) (hx : ∀ h, x = .object h → ∃ o, R o h) :
    ∃ v, Crosses R v x := by
  cases x with
  | object h =>
    obtain ⟨o, ho⟩ := hx h rfl
    exact ⟨_, .object ho⟩
  | _ => exact ⟨_, by constructor⟩

end ManagedValue.Crosses

/-! ## Crossing at a state

In a single state both directions are functions, and the relation is what they agree on. -/

namespace Bridge

variable {b : Bridge} {o : ObjectId} {h : Handle}

/-- What calls are admitted on has a handle to cross as. -/
theorem openHandle_of_admits (hb : b.Admits h) (o : ObjectId) : b.openHandle o h = .ok h := by
  obtain ⟨r, hr, ho⟩ := hb
  unfold openHandle
  rw [hr]
  exact if_pos ho

/-- What calls are admitted on admits one more. -/
theorem admitCall_of_admits (hb : b.Admits h) (me : ThreadId) :
    (b.admitCall me h).1 = .ok () := by
  obtain ⟨r, hr, ho⟩ := hb
  unfold admitCall
  rw [hr]
  dsimp only
  rw [if_pos ho]

/-- A call that ends on what calls are admitted on is not waited for. -/
theorem dismiss_of_admits (hb : b.Admits h) (me : ThreadId) : (b.dismiss me h).1 = false := by
  obtain ⟨r, hr, ho⟩ := hb
  have hp : r.destroyPending = false := by
    simp only [Record.isOpen, Bool.and_eq_true, Bool.not_eq_true'] at ho
    exact ho.2
  unfold dismiss
  rw [hr]
  simp [hp]

end Bridge

/-- **A value goes out** as it crosses, with the handle that the bridge has for it. -/
theorem Run.marshal_ends_iff {w : World} {v : ManagedValue} {x : BoundaryValue} :
    (Run.marshal v).Ends w (.ok (.ok x)) w ↔
      v.Crosses (fun o h => w.bridge.handleOf o = .ok h) x := by
  constructor
  · intro h
    cases v with
    | object o =>
      obtain ⟨r, s, hh, h⟩ := Process.Ends.of_bind_ok h
      obtain ⟨rfl, rfl⟩ : r = w.bridge.handleOf o ∧ w = s := by
        have hask := (advance_handleOf w o).symm.trans hh
        cases hask
        exact ⟨rfl, rfl⟩
      cases hb : w.bridge.handleOf o with
      | error e =>
        rw [hb] at h
        cases h
      | ok g =>
        rw [hb] at h
        cases h
        exact .object hb
    | _ => cases h <;> constructor
  · intro h
    cases h with
    | @object o g hr =>
      have hh : (Run.handleOf o).Ends w (.ok (.ok g)) w := by
        rw [← hr]
        exact advance_handleOf w o
      exact hh.bind rfl
    | _ => rfl

/-- **A value comes in** as it crosses, with the object that the bridge has for it. -/
theorem Run.unmarshal_ends_iff {w : World} {v : ManagedValue} {x : BoundaryValue} :
    (Run.unmarshal x).Ends w (.ok (.ok v)) w ↔
      v.Crosses (fun o h => w.bridge.objectOf h = .ok o) x := by
  constructor
  · intro h
    cases x with
    | object g =>
      obtain ⟨r, s, hh, h⟩ := Process.Ends.of_bind_ok h
      obtain ⟨rfl, rfl⟩ : r = w.bridge.objectOf g ∧ w = s := by
        cases hh
        exact ⟨rfl, rfl⟩
      cases hb : w.bridge.objectOf g with
      | error e =>
        rw [hb] at h
        cases h
      | ok o =>
        rw [hb] at h
        cases h
        exact .object hb
    | _ => (cases h; constructor)
  · intro h
    cases h with
    | @object o g hr =>
      have hh : (Run.objectOf g).Ends w (.ok (.ok o)) w := .of_ask hr
      exact hh.bind rfl
    | _ => rfl

/-! ## Calls as code

The smallest managed body that makes a call, for the theorems that speak of bodies. -/

namespace ExternCall

/-- The code that makes the call and returns what it returned. -/
def code : ExternCall → ManagedCode (Except ManagedException ManagedValue)
  | onObject receiver name args => .perform (.callExtern receiver name args) fun r => .done r
  | onType typeName name args => .perform (.callStaticExtern typeName name args) fun r => .done r

/-- A body that only makes a call runs as the call. -/
theorem runManaged_code (call : ExternCall) (run : Runner) (x : Context) :
    Run.runManaged run me x call.code = call.process run me x := by
  cases call with
  | onObject receiver name args =>
    exact bind_pure (Run.managedReply run me x (.callExtern receiver name args))
  | onType typeName name args =>
    exact bind_pure (Run.managedReply run me x (.callStaticExtern typeName name args))

/-- An instance member is called on an object. -/
theorem exists_receiver {call : ExternCall} {c : Class} {m : Member}
    (hm : call.member? c = some m) (hinst : m.isInstance = true) :
    ∃ o, call.receiver? = some o := by
  cases call with
  | onObject receiver name args => exact ⟨receiver, rfl⟩
  | onType typeName name args =>
    have hkind := List.find?_some hm
    simp only [Bool.and_eq_true, decide_eq_true_eq] at hkind
    simp [Member.isInstance, hkind.1.2] at hinst

end ExternCall

/-! ## Values on their way

What holds of one state has to hold of all of them here, since a value that is second in the
list crosses at a later state than the first. -/

section Calls

variable {good : World → Prop} {run : Runner} {me : ThreadId}

namespace Run

/-- An object that has a handle in all good states is asked for it with success. -/
theorem flows_handleOf {o : ObjectId} {h : Handle}
    (hh : ∀ s, good s → s.bridge.handleOf o = .ok h) :
    (Run.handleOf o).Flows good (· = .ok h) := by
  refine .bind (.ask (A := (· = some h)) fun s hs => (Bridge.of_handleOf (hh s hs)).1) ?_
  rintro _ rfl
  exact .ask fun s hs => Bridge.openHandle_of_admits (Bridge.of_handleOf (hh s hs)).2 o

/-- **A value goes out** whatever the good state is that it is looked up in. -/
theorem flows_marshal {v : ManagedValue} {x : BoundaryValue}
    (hv : v.Crosses (fun o h => ∀ s, good s → s.bridge.handleOf o = .ok h) x) :
    (Run.marshal v).Flows good (· = .ok x) := by
  cases hv with
  | object hh =>
    refine .bind (flows_handleOf hh) ?_
    rintro _ rfl
    exact .pure rfl
  | _ => exact .pure rfl

/-- The values of a call go out one after the other. -/
theorem flows_marshalAll {vs : List ManagedValue} {xs : List BoundaryValue}
    (hvs : List.Forall₂ (ManagedValue.Crosses fun o h => ∀ s, good s → s.bridge.handleOf o = .ok h)
      vs xs) : (Run.marshalAll vs).Flows good (· = .ok xs) := by
  induction hvs with
  | nil => exact .pure rfl
  | cons hv hvs ih =>
    refine .bind (flows_marshal hv) ?_
    rintro _ rfl
    refine .bind ih ?_
    rintro _ rfl
    exact .pure rfl

/-- **A value comes in** whatever the good state is that it is looked up in. -/
theorem flows_unmarshal {v : ManagedValue} {x : BoundaryValue}
    (hv : v.Crosses (fun o h => ∀ s, good s → s.bridge.objectOf h = .ok o) x) :
    (Run.unmarshal x).Flows good (· = .ok v) := by
  cases hv with
  | @object o h hh =>
    refine .bind (.ask (A := (· = .ok o)) hh) ?_
    rintro _ rfl
    exact .pure rfl
  | _ => exact .pure rfl

theorem flows_unmarshalAll {vs : List ManagedValue} {xs : List BoundaryValue}
    (hvs : List.Forall₂ (ManagedValue.Crosses fun o h => ∀ s, good s → s.bridge.objectOf h = .ok o)
      vs xs) : (Run.unmarshalAll xs).Flows good (· = .ok vs) := by
  induction hvs with
  | nil => exact .pure rfl
  | cons hv hvs ih =>
    refine .bind (flows_unmarshal hv) ?_
    rintro _ rfl
    refine .bind ih ?_
    rintro _ rfl
    exact .pure rfl

/-! ## A native member is called

The receiver is admitted, the implementation runs with its handle in front of the arguments,
the call ends, and the result is checked. -/

/-- A call is admitted on a receiver that has a handle in all good states. -/
theorem flows_enter {o : ObjectId} {h : Handle} {m : Member}
    (hh : ∀ s, good s → s.bridge.handleOf o = .ok h) :
    (Run.enter me o m).Flows good (· = .ok h) := by
  refine .bind (.ask (A := (· = some h)) fun s hs => (Bridge.of_handleOf (hh s hs)).1) ?_
  rintro _ rfl
  refine .bind (.exchangeWhen (A := (· = .ok ())) fun s hs => ⟨rfl, ?_⟩) ?_
  · exact Bridge.admitCall_of_admits (Bridge.of_handleOf (hh s hs)).2 me
  · rintro _ rfl
    exact .pure rfl

/-- A call ends without a wait on what admits calls, since no destruction was left to it. -/
theorem flows_leave {h : Handle} (hh : ∀ s, good s → s.bridge.Admits h) :
    (Run.leave run me h).Flows good (fun _ => True) := by
  refine .bind (.exchangeWhen (A := (· = false)) fun s hs => ⟨rfl, ?_⟩) ?_
  · exact Bridge.dismiss_of_admits (hh s hs) me
  · rintro _ rfl
    exact .pure trivial

/-- An implementation that returns does so behind the boundary. -/
theorem flows_runCall {m : Member} {c : NativeCall} {args : List BoundaryValue}
    {y : BoundaryValue} (hc : (run.native me (c.run args)).Flows good (· = .ok y)) :
    (Run.runCall run me m c args).Flows good (· = .ok y) := by
  refine .attempt (A := (· = .ok y)) (.bind (.change _) fun _ _ => hc) ?_
  rintro _ rfl
  exact .pure rfl

/-- A result of the declared type passes the check. -/
theorem flows_settle {m : Member} {y : BoundaryValue} (hy : y.tag = m.signature.ret) :
    (Run.settle m (.ok y)).Flows good (· = .ok y) := by
  have hcheck : y.checkTag m.signature.ret = .ok () := if_pos hy
  dsimp only [Run.settle]
  rw [hcheck]
  exact .bind (.change _) fun _ _ => .pure rfl

/-- What native code is passed: the handle of the receiver first, if there is one. -/
def passed (m : Member) (h : Handle) (xs : List BoundaryValue) : List BoundaryValue :=
  if m.isInstance then .object h :: xs else xs

/-- **A bound member is called** with arguments of the declared types, on a receiver that
admits calls if it is called on one. -/
theorem flows_invoke {m : Member} {c : NativeCall} {receiver : Option ObjectId} {h : Handle}
    {xs : List BoundaryValue} {y : BoundaryValue}
    (hm : ∀ s, good s → s.registry.resolve m = .ok c)
    (hxs : xs.map BoundaryValue.tag = m.signature.params)
    (hreceiver : m.isInstance = true →
      ∃ o, receiver = some o ∧ ∀ s, good s → s.bridge.handleOf o = .ok h)
    (hc : (run.native me (c.run (passed m h xs))).Flows good (· = .ok y))
    (hy : y.tag = m.signature.ret) :
    (Run.invoke run me m receiver xs).Flows good (· = .ok y) := by
  refine .bind (.ask (A := fun r => r.resolve m = .ok c) hm) (fun r hr => ?_)
  rw [checkCall_of_tags hr hxs]
  dsimp only
  unfold passed at hc
  split at hc
  · next hinst =>
    rw [if_pos hinst]
    obtain ⟨o, rfl, ho⟩ := hreceiver hinst
    refine .bind (flows_enter ho) ?_
    rintro _ rfl
    refine .bind (flows_runCall hc) ?_
    rintro _ rfl
    exact .bind (flows_leave fun s hs => (Bridge.of_handleOf (ho s hs)).2)
      fun _ _ => flows_settle hy
  · next hinst =>
    rw [if_neg hinst]
    refine .bind (flows_runCall hc) ?_
    rintro _ rfl
    exact flows_settle hy

/-- **Managed code calls a bound member**, whose result crosses back. -/
theorem flows_callExtern {m : Member} {receiver : Option ObjectId} {vs : List ManagedValue}
    {xs : List BoundaryValue} {v : ManagedValue} {y : BoundaryValue}
    (hvs : List.Forall₂ (ManagedValue.Crosses fun o h => ∀ s, good s → s.bridge.handleOf o = .ok h)
      vs xs)
    (hm : (Run.invoke run me m receiver xs).Flows good (· = .ok y))
    (hv : v.Crosses (fun o h => ∀ s, good s → s.bridge.objectOf h = .ok o) y) :
    (Run.callExtern run me m receiver vs).Flows good (· = .ok v) := by
  refine .bind (flows_marshalAll hvs) ?_
  rintro _ rfl
  refine .bind hm ?_
  rintro _ rfl
  exact flows_unmarshal hv

/-- **A call site finds its member** in the class that the code names or the object has. -/
theorem flows_process {call : ExternCall} {x : Context} {c : Class} {m : Member}
    {A : Except ManagedException ManagedValue → Prop}
    (hc : ∀ s, good s → call.classIn s.domain x = .ok c) (hm : call.member? c = some m)
    (h : (Run.callExtern run me m call.receiver? call.args).Flows good A) :
    (call.process run me x).Flows good A := by
  rw [ExternCall.process_eq]
  refine .bind (.ask (A := (· = .ok c)) hc) ?_
  rintro _ rfl
  rwa [ExternCall.dispatch_ok hm]

/-! ## A managed method is called

From here on there is a frame, and a limit on how many there may be. -/

/-- The locals of a frame are given back whatever the state. -/
theorem flows_releaseLocals (f : FrameId) (n : Nat) :
    (Run.releaseLocals f n).Flows good (fun _ => True) := by
  induction n with
  | zero => exact .pure trivial
  | succ n ih => exact .bind (.change _) fun _ _ => ih

/-- **A body that returns** does so in its frame, if the frame is within the limit of depth. -/
theorem flows_runBody {c : Class} {name : String} {body : MethodBody}
    {receiver : Option ObjectId} {args : List ManagedValue} {depth : Nat} {v : ManagedValue}
    (hdepth : ∀ s, good s → depth < s.domain.maxCallDepth)
    (hbody : ∀ f, (run.managed me ⟨c, f, depth, ⟨name, receiver, args⟩⟩
      (body ⟨name, receiver, args⟩)).Flows good (· = .ok v)) :
    (Run.runBody run me c name body receiver args depth).Flows good (· = .ok v) := by
  refine .bind (.ask (A := fun limit => depth < limit) hdepth) (fun limit hlimit => ?_)
  rw [if_neg (Nat.not_le.2 hlimit)]
  refine .bind (.exchange (A := fun _ => True) fun _ _ => trivial) (fun f _ => ?_)
  refine .bind (.change _) (fun _ _ => ?_)
  refine .attempt (hbody f) ?_
  rintro _ rfl
  refine .bind (.ask (A := fun _ => True) fun _ _ => trivial) (fun locals _ => ?_)
  exact .bind (flows_releaseLocals f locals.length) fun _ _ => .bind (.change _) fun _ _ =>
    .pure rfl

/-- What is accepted has no misfit. -/
theorem misfit?_of_accepts {ts : List Tag} {vs : List ManagedValue}
    (h : Class.accepts ts vs = true) (i : Nat) :
    vs.length = ts.length ∧ misfit? i ts vs = none := by
  induction ts generalizing vs i with
  | nil =>
    cases vs with
    | nil => exact ⟨rfl, rfl⟩
    | cons v vs => cases h
  | cons t ts ih =>
    cases vs with
    | nil => cases h
    | cons v vs =>
      simp only [Class.accepts, Bool.and_eq_true] at h
      obtain ⟨hlength, hnone⟩ := ih h.2 (i + 1)
      refine ⟨congrArg (· + 1) hlength, ?_⟩
      unfold misfit?
      rw [if_pos h.1, hnone]

/-- Arguments that fit their parameters pass the check. -/
theorem checkArguments_of_accepts {frame : String} {s : Signature} {vs : List ManagedValue}
    (h : Class.accepts s.params vs = true) : checkArguments frame s vs = .ok () := by
  obtain ⟨hlength, hnone⟩ := misfit?_of_accepts h 0
  unfold checkArguments Signature.arity
  rw [if_neg (not_not.2 hlength), hnone]

/-- **A managed method is called** with arguments that fit, on a receiver if it takes one, and
returns a value that fits. -/
theorem flows_runMethod {c : Class} {name : String} {m : Method} {receiver : Option ObjectId}
    {args : List ManagedValue} {depth : Nat} {v : ManagedValue}
    (hm : (c.findMethod? name args.length).filter (takes · receiver) = some m)
    (hargs : Class.accepts m.signature.params args = true) (hv : v.fits m.signature.ret = true)
    (hdepth : ∀ s, good s → depth < s.domain.maxCallDepth)
    (hbody : ∀ f, (run.managed me ⟨c, f, depth, ⟨c.fullName ++ "::" ++ name, receiver, args⟩⟩
      (m.body ⟨c.fullName ++ "::" ++ name, receiver, args⟩)).Flows good (· = .ok v)) :
    (Run.runMethod run me c name receiver args depth).Flows good (· = .ok v) := by
  unfold Run.runMethod
  dsimp only
  rw [hm]
  dsimp only
  rw [checkArguments_of_accepts hargs]
  refine .bind (flows_runBody hdepth hbody) ?_
  rintro _ rfl
  dsimp only
  rw [if_pos hv]
  exact .pure rfl

/-- **Native code calls a managed method** of a class that it finds when it begins. -/
theorem flowsAt_callManaged {s : World} (hs : good s) {m : MethodRef} {c : Class}
    {receiver : Option ObjectId} {xs : List BoundaryValue} {vs : List ManagedValue}
    {v : ManagedValue} {y : BoundaryValue} (hc : s.domain.findClass? m.typeName = some c)
    (hvs : List.Forall₂ (ManagedValue.Crosses fun o h => ∀ s, good s → s.bridge.objectOf h = .ok o)
      vs xs)
    (hm : (Run.runMethod run me c m.method receiver vs 0).Flows good (· = .ok v))
    (hv : v.Crosses (fun o h => ∀ s, good s → s.bridge.handleOf o = .ok h) y) :
    (Run.callManaged run me m receiver xs).FlowsAt good (· = .ok y) s := by
  refine .bind hs (Process.flowsAt_ask (A := (· = some c)) hc) ?_
  rintro _ rfl
  refine .bind (flows_unmarshalAll hvs) ?_
  rintro _ rfl
  refine .bind hm ?_
  rintro _ rfl
  exact flows_marshal hv

end Run

/-- **A thunk is called** whose method goes through. -/
theorem Thunk.flowsAt_call {params : List Tag} {ret : Tag} (t : Thunk params ret) {s : World}
    (hs : good s) {args : Tag.Args params} {y : ret.Native}
    (h : (Run.callManaged run me t.method t.receiver (Tag.boundaryArgs params args)).FlowsAt good
      (· = .ok (.ofNative ret y)) s) :
    (t.call run me args).FlowsAt good (· = .ok y) s := by
  refine .bind hs (A := (· = .ok (.ofNative ret y))) (.attempt hs h ?_) ?_
  · rintro _ rfl
    exact .pure rfl
  · rintro _ rfl
    dsimp only
    rw [BoundaryValue.toNative_ofNative]
    exact .pure rfl

end Calls

end HostBridge
