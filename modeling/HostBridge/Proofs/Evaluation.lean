import HostBridge.Proofs.Conduct

/-!
# Code that keeps a conduct

Native code keeps one conduct, and managed code keeps another in every frame; both
together are the **manners** of code (`Manners`). All code has its manners as soon
as the operations do that it may ask for (`Manners.Upheld`): the operations of the
bridge, which enter native code, and those of the domain, which enter managed code.
`Manners.Upheld.keeps_nested` closes the circle for code inside code, however deep
it nests.

The difficulty is that the code is not known. A body, a hook and an
implementation may be any program, and what is true of a run has to be true
whatever they ask for, in whatever order, and however they end. What is known is
only what each operation does when it is asked for. So a statement about a run is cut
into one lemma for each operation, and everything between the operations is
settled here, once for all manners.

Two conducts are needed, since the two kinds of code leave different things
behind. Native code owes the domain nothing when it is over. A managed body has a
frame, which keeps what it was given until it ends, and until then the roots on
objects are not where they were.

Manners may also restrict what native code asks for (`Program.Asks`), for a statement
that holds only of code that leaves certain operations alone.
-/

namespace HostBridge

variable {τ α β : Type}

/-! ## What code asks for

The restriction is on the program as it is written, along every answer it may be
given, and not on a run of it. A registry satisfies it if its implementations
and hooks do, so the restriction survives whatever is called. -/

/-- **Code asks for operations of a kind only.** -/
def Program.Asks {I : Interface} (ok : I.Op → Prop) : Program I α → Prop
  | .done _ => True
  | .panic _ => True
  | .perform op next => ok op ∧ ∀ r, (next r).Asks ok

/-- Both hooks of a type ask for operations of a kind only. -/
structure Hooks.Asks (hooks : Hooks) (ok : NativeOp → Prop) : Prop where
  construct : ∀ h, Program.Asks (I := nativeInterface) ok (hooks.construct h)
  destroy : ∀ h r, Program.Asks (I := nativeInterface) ok (hooks.destroy h r)

/-- All native code of a registry asks for operations of a kind only. -/
structure Registry.Asks (registry : Registry) (ok : NativeOp → Prop) : Prop where
  calls : ∀ m c, registry.resolve m = .ok c →
    ∀ args, Program.Asks (I := nativeInterface) ok (c.run args)
  types : ∀ typeName hooks, registry.hooks? typeName = some hooks → hooks.Asks ok

/-- Where everything may be asked for, code asks for what it may. -/
theorem Program.asks_of_forall {I : Interface} {ok : I.Op → Prop} (h : ∀ op, ok op)
    (p : Program I α) : p.Asks ok := by
  induction p with
  | done a => trivial
  | panic q => trivial
  | perform op next ih => exact ⟨h op, ih⟩

theorem Program.asks_true {I : Interface} (p : Program I α) : p.Asks (fun _ => True) :=
  p.asks_of_forall (fun _ => trivial)

theorem Registry.asks_of_forall {ok : NativeOp → Prop} (h : ∀ op, ok op) (registry : Registry) :
    registry.Asks ok where
  calls := fun _ c _ args => (c.run args).asks_of_forall h
  types := fun _ hooks _ => ⟨fun g => (hooks.construct g).asks_of_forall h,
    fun g r => (hooks.destroy g r).asks_of_forall h⟩

/-! ## Native code that panics

The boundary turns a panic into a fault and goes on. Only one crash goes through
it, that of a run which was nested too deeply, and no code runs after that. -/

/-- **Native code that panics has faulted**, and nothing else comes of it. -/
theorem Process.Settles.catchNative_from {D : Discipline World τ} {C : Conduct τ} {me : ThreadId}
    (hlog : ∀ level text, (Run.log level text).Settles D C me) {ε : Type} (member : String)
    (ofFault : NativeFault → ε) {code : Run (Except ε α)} {x z : τ}
    (h : code.Follows D me (fun r y => r = .error .tooDeep ∨ C.rel z y) x) :
    (catchNative member ofFault code).Follows D me
      (fun r y => r = .error .tooDeep ∨ (∃ a, r = .ok a) ∧ C.rel z y) x :=
  Process.Settles.attempt_from h (fun _ => .pure _)
    (fun _ => .bind (hlog _ _) (fun _ => .pure _)) Process.doomed_crash

/-- Code that keeps a conduct settles it behind the boundary: a panic there is an end like any
other. -/
theorem Process.Settles.catchNative {D : Discipline World τ} {C : Conduct τ} {me : ThreadId}
    (hlog : ∀ level text, (Run.log level text).Settles D C me) {ε : Type} (member : String)
    (ofFault : NativeFault → ε) {code : Run (Except ε α)} (h : code.Keeps D C me) :
    (HostBridge.catchNative member ofFault code).Settles D C me :=
  fun x hx => catchNative_from hlog member ofFault (h x hx)

/-- Native code that comes to an end does so behind the boundary, too. -/
theorem Process.Ends.catchNative {ε : Type} (member : String) (ofFault : NativeFault → ε)
    {code : Run (Except ε α)} {e : Except Crash (Except ε α)} {w w' : World}
    (h : code.Ends w e w') (he : e ≠ .error .tooDeep) :
    ∃ r w'', (HostBridge.catchNative member ofFault code).Ends w (.ok r) w'' ∧
      w'.history <:+ w''.history := by
  match e with
  | .ok a => exact ⟨a, w', h.attempt (.pure _ _), List.suffix_rfl⟩
  | .error (.panicked q) =>
    exact ⟨_, _, h.attempt ((Process.Ends.change _ _).bind (.pure _ _)), List.suffix_cons _ _⟩
  | .error .tooDeep => exact absurd rfl he

/-- What ended behind the boundary has ended, and the bridge is as it left it. -/
theorem Process.Ends.of_catchNative {ε : Type} {member : String} {ofFault : NativeFault → ε}
    {code : Run (Except ε α)} {r : Except ε α} {w w'' : World}
    (h : (HostBridge.catchNative member ofFault code).Ends w (.ok r) w'') :
    ∃ e w', code.Ends w e w' ∧ e ≠ .error .tooDeep ∧ w''.bridge = w'.bridge := by
  obtain ⟨e, w', hcode, h⟩ := Process.Ends.of_bind_ok h
  refine ⟨e, w', hcode.of_attempt, ?_⟩
  match e with
  | .ok a =>
    cases h
    exact ⟨by simp, rfl⟩
  | .error (.panicked q) =>
    cases h
    exact ⟨by simp, rfl⟩
  | .error .tooDeep => cases h

/-- A run that comes to guarded native code comes to the code. -/
theorem Course.Meets.catchNative {γ ε : Type} {P : World → Prop} {p : Course World γ}
    {w w' : World} {member : String} {ofFault : NativeFault → ε} {code : Run (Except ε α)}
    (h : p.Meets P w (HostBridge.catchNative member ofFault code) w') : p.Meets P w code w' :=
  (Course.Meets.first h).attempt

/-- **Native code runs in sequence** as its parts do. -/
theorem Run.runNative_bind {β : Type} (run : Runner) (me : ThreadId) (code : NativeCode α)
    (f : α → NativeCode β) : Run.runNative run me (code >>= f) =
      Run.runNative run me code >>= fun a => Run.runNative run me (f a) := by
  induction code with
  | done a => rfl
  | panic p => rfl
  | perform op next ih =>
    rw [Run.runNative, bind_assoc]
    exact congrArg _ (funext ih)

/-- **Managed code runs in sequence** as its parts do. -/
theorem Run.runManaged_bind {β : Type} (run : Runner) (me : ThreadId) (x : Context)
    (code : ManagedCode α) (f : α → ManagedCode β) : Run.runManaged run me x (code >>= f) =
      Run.runManaged run me x code >>= fun a => Run.runManaged run me x (f a) := by
  induction code with
  | done a => rfl
  | panic p => rfl
  | perform op next ih =>
    rw [Run.runManaged, bind_assoc]
    exact congrArg _ (funext ih)

/-! ## Manners

The fields of `Manners.Bridged` and `Manners.Upheld` are the operations that are
not made of others. The rest of what code may ask for follows from them below,
since the ways in which operations call one another are the program's own. -/

/-- **How code behaves**: the discipline that it follows, the conduct of native
code and that of managed code in a frame, and what native code asks for. -/
structure Manners (τ : Type) where
  /-- The discipline. -/
  discipline : Discipline World τ
  /-- The conduct of native code. -/
  native : Conduct τ
  /-- The conduct of managed code, by the frame that it runs in. -/
  managed : FrameId → Conduct τ
  /-- What native code may ask for. -/
  asks : NativeOp → Prop

/-- **A runner has manners** on a thread when all code it runs there does. -/
structure Runner.Keeps (run : Runner) (M : Manners τ) (me : ThreadId) : Prop where
  native : ∀ {α : Type} (code : NativeCode α), code.Asks M.asks →
    (run.native me code).Keeps M.discipline M.native me
  managed : ∀ {α : Type} (x : Context) (code : ManagedCode α),
    (run.managed me x code).Keeps M.discipline (M.managed x.frame) me

/-- **The operations of the bridge have manners**, if the code that they enter
does. -/
structure Manners.Bridged (M : Manners τ) (me : ThreadId) : Prop where
  ask : ∀ {α : Type} (f : World → α), (Process.ask f).Keeps M.discipline M.native me
  note : ∀ line, (Run.record (.note line)).Keeps M.discipline M.native me
  log : ∀ level text, (Run.log level text).Keeps M.discipline M.native me
  useResource : ∀ h kind update,
    (Run.useResource h kind update).Keeps M.discipline M.native me
  forget : ∀ o, (Run.forget o).Keeps M.discipline M.native me
  construct : ∀ {run : Runner}, run.Keeps M me → ∀ typeName o,
    M.asks (.construct typeName o) →
      (Run.construct run me typeName o).Keeps M.discipline M.native me
  destroyRecord : ∀ {run : Runner}, run.Keeps M me → ∀ h,
    (Run.destroyRecord run me h).Keeps M.discipline M.native me
  invoke : ∀ {run : Runner}, run.Keeps M me → ∀ m receiver args,
    (Run.invoke run me m receiver args).Keeps M.discipline M.native me
  beginCall : ∀ o m, (Run.beginCall me o m).Keeps M.discipline M.native me
  endCall : ∀ {run : Runner}, run.Keeps M me → ∀ h,
    (Run.endCall run me h).Keeps M.discipline M.native me

/-- **The operations of the domain have manners** as well. What keeps the conduct
of native code keeps that of managed code, too. -/
structure Manners.Upheld (M : Manners τ) (me : ThreadId) : Prop extends M.Bridged me where
  widen : ∀ {α : Type} {p : Run α} (f : FrameId), p.Keeps M.discipline M.native me →
    p.Keeps M.discipline (M.managed f) me
  runBody : ∀ {run : Runner}, run.Keeps M me → ∀ c name body receiver args depth,
    (Run.runBody run me c name body receiver args depth).Keeps M.discipline M.native me
  newObject : ∀ {run : Runner}, run.Keeps M me → ∀ (x : Context) typeName,
    (Run.managedReply run me x (.newObject typeName)).Keeps M.discipline (M.managed x.frame) me
  keeping : ∀ x result, (Run.keeping x result).Keeps M.discipline (M.managed x.frame) me
  collect : ∀ {run : Runner}, run.Keeps M me →
    (Run.collectOnRequest run me).Keeps M.discipline M.native me
  newInstance : ∀ {run : Runner}, run.Keeps M me → ∀ c,
    (Run.newInstance run me c).Keeps M.discipline M.native me
  dropInstance : ∀ o, (Run.onDomain (·.release o)).Keeps M.discipline M.native me
  provide : ∀ i, (Run.changeDomain (·.provide i)).Keeps M.discipline M.native me
  load : ∀ name, (Run.loadAssembly name).Keeps M.discipline M.native me

variable {M : Manners τ} {me : ThreadId} {run : Runner}

namespace Manners.Bridged

variable (hM : M.Bridged me)

include hM

/-! ## Asking, and values on their way

Nothing here changes the state, so the stake of the thread is what it was. -/

theorem askBridge (f : Bridge → α) : (Run.askBridge f).Keeps M.discipline M.native me := hM.ask _

theorem askDomain (f : Domain → α) : (Run.askDomain f).Keeps M.discipline M.native me := hM.ask _

theorem stateOf (o : ObjectId) : (Run.stateOf o).Keeps M.discipline M.native me := by
  refine .bind (hM.askBridge _) (fun h? => ?_)
  cases h? with
  | some h => exact hM.askBridge _
  | none => exact .pure _

theorem handleOf (o : ObjectId) : (Run.handleOf o).Keeps M.discipline M.native me := by
  refine .bind (hM.askBridge _) (fun h? => ?_)
  cases h? with
  | some h => exact hM.askBridge _
  | none => exact .pure _

/-- A value on its way out is looked up, and no more. -/
theorem marshal (v : ManagedValue) : (Run.marshal v).Keeps M.discipline M.native me := by
  cases v with
  | object o =>
    refine .bind (hM.handleOf o) (fun r => ?_)
    cases r <;> exact .pure _
  | _ => exact .pure _

theorem marshalAll (vs : List ManagedValue) :
    (Run.marshalAll vs).Keeps M.discipline M.native me := by
  induction vs with
  | nil => exact .pure _
  | cons v vs ih =>
    refine .bind (hM.marshal v) (fun r => ?_)
    cases r with
    | error e => exact .pure _
    | ok x =>
      refine .bind ih (fun rs => ?_)
      cases rs <;> exact .pure _

/-- A value on its way in is looked up, and no more. -/
theorem unmarshal (v : BoundaryValue) : (Run.unmarshal v).Keeps M.discipline M.native me := by
  cases v with
  | object h =>
    refine .bind (hM.askBridge _) (fun r => ?_)
    cases r <;> exact .pure _
  | _ => exact .pure _

theorem unmarshalAll (vs : List BoundaryValue) :
    (Run.unmarshalAll vs).Keeps M.discipline M.native me := by
  induction vs with
  | nil => exact .pure _
  | cons v vs ih =>
    refine .bind (hM.unmarshal v) (fun r => ?_)
    cases r with
    | error e => exact .pure _
    | ok x =>
      refine .bind ih (fun rs => ?_)
      cases rs <;> exact .pure _

/-- **The boundary into managed code** adds a line to the log and nothing else. -/
theorem managedBoundary (member : String) {code : Run (Except ManagedException α)}
    (h : code.Keeps M.discipline M.native me) :
    (managedBoundary member code).Keeps M.discipline M.native me := by
  refine .attempt h (fun r => ?_) (fun _ => .bind (hM.log _ _) (fun _ => .pure _))
    Process.doomed_crash
  cases r with
  | ok a => exact .pure _
  | error e => exact .bind (hM.log _ _) (fun _ => .pure _)

/-! ## Destruction and calls -/

variable (hrun : run.Keeps M me)

include hrun

/-- A destruction that is asked for by the instance is one of its record, if there is one. -/
theorem destroy (o : ObjectId) : (Run.destroy run me o).Keeps M.discipline M.native me := by
  refine .bind (hM.askBridge _) (fun h? => ?_)
  cases h? with
  | some h => exact hM.destroyRecord hrun h
  | none => exact .pure _

theorem release (h : Handle) : (Run.release run me h).Keeps M.discipline M.native me := by
  refine .bind (hM.askBridge _) (fun r? => ?_)
  cases r? with
  | some r => exact hM.destroyRecord hrun h
  | none => exact .pure _

/-- **A call from managed into native code** has its manners: the arguments go out, the call is
made, and the result comes in. -/
theorem callExtern (m : Member) (receiver : Option ObjectId) (args : List ManagedValue) :
    (Run.callExtern run me m receiver args).Keeps M.discipline M.native me := by
  refine .bind (hM.marshalAll args) (fun r => ?_)
  cases r with
  | error e => exact .pure _
  | ok xs =>
    refine .bind (hM.invoke hrun _ _ _) (fun r => ?_)
    cases r with
    | error e => exact .pure _
    | ok v => exact hM.unmarshal v

end Manners.Bridged

namespace Manners.Upheld

variable (hM : M.Upheld me) (hrun : run.Keeps M me)

include hM hrun

/-! ## The runtime as code sees it

From here on managed code is entered, and with it the conduct of a frame. -/

/-- A call of a managed method checks, runs the body, and checks again. -/
theorem runMethod (c : Class) (name : String) (receiver : Option ObjectId)
    (args : List ManagedValue) (depth : Nat) :
    (Run.runMethod run me c name receiver args depth).Keeps M.discipline M.native me := by
  unfold Run.runMethod
  dsimp only
  split
  · exact .pure _
  split
  · exact .pure _
  refine .bind (hM.runBody hrun _ _ _ _ _ _) (fun r => ?_)
  cases r with
  | error e => exact .pure _
  | ok v =>
    dsimp only
    split <;> exact .pure _

/-- **A call from native into managed code** has its manners, whether it returns or throws. -/
theorem enterManaged (m : MethodRef) (receiver : Option ObjectId) (args : List BoundaryValue) :
    (Run.enterManaged run me m receiver args).Keeps M.discipline M.native me := by
  refine hM.managedBoundary _ (.bind (hM.askDomain _) (fun c? => ?_))
  cases c? with
  | none => exact .pure _
  | some c =>
    refine .bind (hM.unmarshalAll args) (fun r => ?_)
    cases r with
    | error e => exact .pure _
    | ok xs =>
      refine .bind (hM.runMethod hrun _ _ _ _ _) (fun r => ?_)
      cases r with
      | error e => exact .pure _
      | ok v => exact hM.marshal v

/-! ## Code

A program is gone through from one question to the next. The induction is on the
program, and its step is the operation that the program asks for. -/

/-- **Every operation native code may ask for** has its manners. -/
theorem nativeReply (op : NativeOp) (hop : M.asks op) :
    (Run.nativeReply run me op).Keeps M.discipline M.native me := by
  cases op with
  | note line => exact hM.note line
  | state o => exact hM.stateOf o
  | liveCount => exact hM.askBridge _
  | handleOf o => exact hM.handleOf o
  | objectOf h => exact hM.askBridge (·.objectOf h)
  | useResource h kind update => exact hM.useResource h kind update
  | destroy o => exact hM.destroy hrun o
  | release h => exact hM.release hrun h
  | forget o => exact hM.forget o
  | construct typeName o => exact hM.construct hrun typeName o hop
  | invoke m receiver args => exact hM.invoke hrun m receiver args
  | beginCall o m => exact hM.beginCall o m
  | endCall h => exact hM.endCall hrun h
  | enter m receiver args => exact hM.enterManaged hrun m receiver args
  | provide i => exact hM.provide i
  | load name => exact hM.load name
  | newInstance c => exact .bind (hM.newInstance hrun c) (fun _ => .pure _)
  | dropInstance o => exact hM.dropInstance o
  | collect => exact hM.collect hrun
  | objectCount => exact hM.askDomain _

/-- Native code has its manners, whatever it asks for. -/
theorem runNative (code : NativeCode α) (hcode : code.Asks M.asks) :
    (Run.runNative run me code).Keeps M.discipline M.native me := by
  induction code with
  | done a => exact .pure _
  | panic p => exact .crash _
  | perform op next ih =>
    exact .bind (hM.nativeReply hrun op hcode.1) (fun r => ih r (hcode.2 r))

/-- **Every operation managed code may ask for** has the manners of its frame. -/
theorem managedReply (x : Context) (op : ManagedOp) :
    (Run.managedReply run me x op).Keeps M.discipline (M.managed x.frame) me := by
  have asking : ∀ {α : Type} (f : Domain → α),
      (Run.askDomain f).Keeps M.discipline (M.managed x.frame) me :=
    fun f => hM.widen _ (hM.askDomain f)
  cases op with
  | log text => exact hM.widen _ (hM.log _ _)
  | note line => exact hM.widen _ (hM.note line)
  | newObject typeName => exact hM.newObject hrun x typeName
  | callExtern receiver name args =>
    refine .bind (asking _) (fun r => ?_)
    cases r with
    | error e => exact .pure _
    | ok c =>
      dsimp only
      split
      · exact .pure _
      · exact hM.widen _ (hM.callExtern hrun _ _ _)
  | callStaticExtern typeName name args =>
    refine .bind (asking _) (fun r => ?_)
    cases r with
    | error e => exact .pure _
    | ok c =>
      dsimp only
      split
      · exact .pure _
      · exact hM.widen _ (hM.callExtern hrun _ _ _)
  | call receiver name args =>
    refine .bind (asking _) (fun r => ?_)
    cases r with
    | error e => exact .pure _
    | ok c =>
      exact .bind (hM.widen _ (hM.runMethod hrun _ _ _ _ _)) (fun r => hM.keeping x r)
  | callStatic typeName name args =>
    refine .bind (asking _) (fun r => ?_)
    cases r with
    | error e => exact .pure _
    | ok c =>
      exact .bind (hM.widen _ (hM.runMethod hrun _ _ _ _ _)) (fun r => hM.keeping x r)
  | dispose o => exact hM.widen _ (hM.destroy hrun o)
  | collect => exact hM.widen _ (hM.collect hrun)
  | objectCount => exact asking _

/-- Managed code has the manners of the frame it runs in. -/
theorem runManaged (x : Context) (code : ManagedCode α) :
    (Run.runManaged run me x code).Keeps M.discipline (M.managed x.frame) me := by
  induction code with
  | done a => exact .pure _
  | panic p => exact .crash _
  | perform op next ih => exact .bind (hM.managedReply hrun x op) ih

omit hrun in
/-- **All code has manners**, however deep it nests. -/
theorem keeps_nested (n : Nat) : (Runner.nested n).Keeps M me := by
  -- code on one level is entered by operations that run the code of the level below
  induction n with
  | zero => exact ⟨fun _ _ => .crash _, fun _ _ => .crash _⟩
  | succ n ih =>
    exact ⟨fun code hcode => hM.runNative ih code hcode, fun x code => hM.runManaged ih x code⟩

end Manners.Upheld

end HostBridge
