import HostBridge.Proofs.Blocks
import HostBridge.Proofs.Domain.CallDepth
import HostBridge.Proofs.Domain.Crossing
import HostBridge.Proofs.Domain.Unwinding

/-!
# How exceptions travel

An exception that a managed body does not catch leaves the frame of the body, whose name is
added to its trace, and is raised again where the frame was called: by a call of a method, of
an object or of a type, or by the construction of an object. `Run.Arrives` says how an
exception has come to a statement in this way, from the frame in which it was raised and
through all those that lie between, and that the last parts of the blocks which it has left
there have run. What arrives is the exception with the names of the frames that it has left, in
the order in which it left them (`Run.Arrives.ends`).

A thunk enters the first of the frames, and gives the exception to native code, as a fault that
names the method as the thunk does. That is the name of the frame, too, if the thunk was bound
under the full name of the class.

## Chains of frames

A chain may be of any length, each frame may be of a method or of a constructor, and in each
there may be blocks around the call that fails. So the way of an exception is an inductive
relation, in two halves that call each other: a **statement fails** because it raises the
exception or because what it calls has thrown it, and a **body throws** because a statement in
it fails outside of every block that would catch it. The theorem about the trace is by
induction on the way and not on the code.

The relation says what happened on the way as well. Between the start of a body and the
statement that fails other code has run, which may have changed anything; the relation has the
states at both ends, and no condition on what lies between.
-/

namespace HostBridge

variable {α β γ : Type} {me : ThreadId} {run : Runner} {x : Context} {n depth : Nat}
  {w w' v v' w₁ : World} {e : ManagedException}

/-! ## Exceptions -/

/-- An exception that has left frames, the innermost first. -/
def ManagedException.through (e : ManagedException) (frames : List String) : ManagedException :=
  { e with trace := e.trace ++ frames }

/-- An exception that has left no frame is what it was. -/
theorem ManagedException.through_nil (e : ManagedException) : e.through [] = e := by
  rw [through, List.append_nil]

/-- **One frame more** goes to the end of the trace. -/
theorem ManagedException.pushFrame_through (e : ManagedException) (frames : List String)
    (frame : String) : (e.through frames).pushFrame frame = e.through (frames ++ [frame]) := by
  rw [through, pushFrame, through, List.append_assoc]

/-- **Why an exception was raised.** -/
inductive Cause where
  /-- A native member has faulted with a message. -/
  | fault (m : Member) (message : String)
  /-- Managed code has thrown it. -/
  | thrown (e : ManagedException)
  /-- A call that would have entered a frame would have been nested too deeply. -/
  | overflow (limit : Nat) (frame : String)

/-- The exception that is raised. The trace of that for a fault starts with the member. -/
def Cause.exception : Cause → ManagedException
  | fault m message => ⟨BridgeError.nativeException, message, [m.qualifiedName]⟩
  | thrown e => e
  | overflow limit frame => Run.overflow limit frame

/-! ## Frames

A call opens a frame, runs the body in it and gives up what the frame kept. How it ends is up to
the body, so the first lemma has the run of the body for a hypothesis, and the second gets it
back. -/

/-- **A body that is called**, with what it is called on. -/
structure Callee where
  /-- The class. -/
  cls : Class
  /-- The name of its frame. -/
  frame : String
  /-- The body. -/
  body : MethodBody
  /-- The receiver. -/
  receiver : Option ObjectId
  /-- The arguments. -/
  args : List ManagedValue

namespace Callee

/-- What the body knows about its call. -/
def activation (c : Callee) : Activation := ⟨c.frame, c.receiver, c.args⟩

/-- The code that runs. -/
def code (c : Callee) : ManagedCode (Except ManagedException ManagedValue) := c.body c.activation

/-- The frame that is opened for the body in a state. -/
def context (c : Callee) (w : World) (depth : Nat) : Context :=
  ⟨c.cls, w.domain.nextFrame, depth, c.activation⟩

/-- The state in which the body starts. -/
def opened (c : Callee) (w : World) : World :=
  (w.onDomain (w.domain.openFrame c.frame c.receiver).2).record (.body c.frame c.receiver c.args)

/-- The call. -/
def process (c : Callee) (run : Runner) (me : ThreadId) (depth : Nat) :
    Run (Except ManagedException ManagedValue) :=
  Run.runBody run me c.cls c.frame c.body c.receiver c.args depth

end Callee

/-- The state in which a frame is gone, with all that it kept. -/
def World.leftFrame (w : World) (f : FrameId) : World :=
  w.onDomain (((·.releaseLocal f)^[(w.domain.locals f).length] w.domain).closeFrame f)

/-- The locals of a frame are given up one after the other. -/
theorem ends_releaseLocals (f : FrameId) (n : Nat) (w : World) :
    (Run.releaseLocals f n).Ends w (.ok ()) (w.onDomain ((·.releaseLocal f)^[n] w.domain)) := by
  induction n generalizing w with
  | zero => exact .pure _ _
  | succ n ih =>
    have hchange : (Run.changeDomain (·.releaseLocal f)).Ends w (.ok ())
        (w.onDomain (w.domain.releaseLocal f)) := rfl
    exact hchange.bind (ih _)

/-- **A call returns what its body does.** An exception that leaves the body carries the name of
the frame. -/
theorem Callee.ends_process {c : Callee} (hdepth : depth < w.domain.maxCallDepth)
    {r : Except ManagedException ManagedValue}
    (h : (run.managed me (c.context w depth) c.code).Ends (c.opened w) (.ok r) v) :
    (c.process run me depth).Ends w (.ok (r.mapError (·.pushFrame c.frame)))
      (v.leftFrame w.domain.nextFrame) := by
  have hlimit : (Run.askDomain Domain.maxCallDepth).Ends w (.ok w.domain.maxCallDepth) w := rfl
  have hopen : (Run.onDomain (·.openFrame c.frame c.receiver)).Ends w (.ok w.domain.nextFrame)
      (w.onDomain (w.domain.openFrame c.frame c.receiver).2) := .exchange _ w
  have hlocals : (Run.askDomain (·.locals w.domain.nextFrame)).Ends v
      (.ok (v.domain.locals w.domain.nextFrame)) v := rfl
  refine hlimit.bind ?_
  rw [if_neg (Nat.not_le.2 hdepth)]
  refine hopen.bind ((Process.Ends.change _ _).bind (h.attempt (hlocals.bind ?_)))
  exact (ends_releaseLocals _ _ _).bind ((Process.Ends.change _ _).bind (.pure _ _))

/-- A call that returned has come to the end of its body. -/
theorem Callee.of_process {c : Callee} (hdepth : depth < w.domain.maxCallDepth)
    {r : Except ManagedException ManagedValue}
    (h : (c.process run me depth).Ends w (.ok r) w') :
    ∃ r₀ v, (run.managed me (c.context w depth) c.code).Ends (c.opened w) (.ok r₀) v := by
  have hlimit : (Run.askDomain Domain.maxCallDepth).Ends w (.ok w.domain.maxCallDepth) w := rfl
  have hopen : (Run.onDomain (·.openFrame c.frame c.receiver)).Ends w (.ok w.domain.nextFrame)
      (w.onDomain (w.domain.openFrame c.frame c.receiver).2) := .exchange _ w
  have h := Process.Ends.rest h hlimit
  rw [if_neg (Nat.not_le.2 hdepth)] at h
  have h := (h.rest hopen).rest (Process.Ends.change _ _)
  obtain ⟨r₀, v, hbody, h⟩ := h.of_attempt_bind
  cases r₀ with
  | ok r₀ => exact ⟨r₀, v, hbody⟩
  | error crash =>
    obtain ⟨u, v', -, hcrash⟩ := Process.Ends.of_bind_ok h
    cases hcrash

/-- **A body is not called** that would be nested too deeply. -/
theorem Callee.ends_overflow {c : Callee} (hdepth : w.domain.maxCallDepth ≤ depth) :
    (c.process run me depth).Ends w
      (.ok (.error (Run.overflow w.domain.maxCallDepth c.frame))) w := by
  have hlimit : (Run.askDomain Domain.maxCallDepth).Ends w (.ok w.domain.maxCallDepth) w := rfl
  refine hlimit.bind ?_
  rw [if_pos hdepth]
  exact .pure _ _

/-- **A method is called**: the class has it, for a receiver or without one, and takes the
arguments. -/
structure Class.Offers (c : Class) (name : String) (callee : Callee) (m : Method) : Prop where
  cls : callee.cls = c
  frame : callee.frame = c.fullName ++ "::" ++ name
  found : (c.findMethod? name callee.args.length).filter (Run.takes · callee.receiver) = some m
  checked : Run.checkArguments callee.frame m.signature callee.args = .ok ()
  body : callee.body = m.body

/-- What the body of a method throws, the call of the method does. -/
theorem Class.Offers.ends {c : Class} {name : String} {callee : Callee} {m : Method}
    (h : c.Offers name callee m) (hbody : (callee.process run me depth).Ends w (.ok (.error e)) v) :
    (Run.runMethod run me c name callee.receiver callee.args depth).Ends w (.ok (.error e)) v := by
  rw [Callee.process, h.cls, h.body] at hbody
  unfold Run.runMethod
  simp only [← h.frame, h.found, h.checked]
  exact hbody.bind (.pure _ _)

/-! ## Calls from frame to frame

Three operations of managed code enter a body. They look the body up in different ways, and
what they raise when it throws is the same. -/

/-- **The operations that call managed code.** -/
inductive Link where
  /-- A method of an object. -/
  | call (receiver : ObjectId) (name : String) (args : List ManagedValue)
  /-- A method of a type. -/
  | callStatic (typeName name : String) (args : List ManagedValue)
  /-- The constructor of a new object. -/
  | newObject (typeName : String)

namespace Link

/-- What the operation replies with, unless there was an exception. -/
def Result : Link → Type
  | call _ _ _ => ManagedValue
  | callStatic _ _ _ => ManagedValue
  | newObject _ => ObjectId

/-- The statement. -/
def code : (l : Link) → ManagedCode (Except ManagedException l.Result)
  | call receiver name args => ManagedCode.op (.call receiver name args)
  | callStatic typeName name args => ManagedCode.op (.callStatic typeName name args)
  | newObject typeName => ManagedCode.op (.newObject typeName)

/-- **What an operation calls**, when a frame performs it in a state, and the state in which
the call begins. -/
inductive Calls (run : Runner) (me : ThreadId) (x : Context) (w : World) :
    Link → Callee → World → Prop
  | call {o : ObjectId} {name : String} {callee : Callee} {c : Class} {m : Method}
    (there : w.domain.classOf o = .ok c) (offers : c.Offers name callee m)
    (receiver : callee.receiver = some o) :
    Calls run me x w (.call o name callee.args) callee w
  | callStatic {typeName name : String} {callee : Callee} {c : Class} {m : Method}
    (there : w.domain.classNamed x.cls typeName = .ok c) (offers : c.Offers name callee m)
    (receiver : callee.receiver = none) :
    Calls run me x w (.callStatic typeName name callee.args) callee w
  | newObject {typeName : String} {c : Class} {body : MethodBody} {h : Option Handle} {v : World}
    (there : w.domain.classNamed x.cls typeName = .ok c) (constructor : c.constructor = some body)
    (native : (Run.construct run me c.fullName (w.domain.allocate c).1).Ends
      (w.onDomain (w.domain.allocate c).2 [.allocated (w.domain.allocate c).1]) (.ok (.ok h)) v) :
    Calls run me x w (.newObject typeName)
      ⟨c, c.constructorFrame, body, some (w.domain.allocate c).1, []⟩ v

/-- The state after a call that has thrown. An object whose constructor has thrown is left to
the collector. -/
def after (l : Link) (callee : Callee) (w : World) : World :=
  match l, callee.receiver with
  | newObject _, some o => w.onDomain ((w.domain.unroot o).abandonAllocation o)
  | _, _ => w

/-- **What a call throws, the operation raises.** -/
theorem Calls.ends {l : Link} {callee : Callee} (h : l.Calls run me x w callee w₁)
    (hbody : (callee.process run me (x.depth + 1)).Ends w₁ (.ok (.error e)) v) :
    (Run.runManaged run me x l.code).Ends w (.ok (.error e)) (l.after callee v) := by
  cases h with
  | @call o name callee c m there offers receiver =>
    have hreply : (Run.managedReply run me x (.call o name callee.args)).Ends w
        (.ok (.error e)) v := by
      have hask : (Run.askDomain (·.classOf o)).Ends w (.ok (.ok c)) w := .of_ask there
      have hmethod := offers.ends hbody
      rw [receiver] at hmethod
      exact hask.bind (hmethod.bind (.pure _ _))
    exact hreply.bind (.pure _ _)
  | @callStatic typeName name callee c m there offers receiver =>
    have hreply : (Run.managedReply run me x (.callStatic typeName name callee.args)).Ends w
        (.ok (.error e)) v := by
      have hask : (Run.askDomain (·.classNamed x.cls typeName)).Ends w (.ok (.ok c)) w :=
        .of_ask there
      have hmethod := offers.ends hbody
      rw [receiver] at hmethod
      exact hask.bind (hmethod.bind (.pure _ _))
    exact hreply.bind (.pure _ _)
  | @newObject typeName c body handle _ there constructor native =>
    let o := (w.domain.allocate c).1
    have hask : (Run.askDomain (·.classNamed x.cls typeName)).Ends w (.ok (.ok c)) w :=
      .of_ask there
    have hallocate : (Run.onDomain (·.allocate c) fun o => [.allocated o]).Ends w (.ok o)
        (w.onDomain (w.domain.allocate c).2 [.allocated o]) := .exchange _ w
    have hconstructor : (Run.runConstructor run me c o (x.depth + 1)).Ends w₁ (.ok (.error e))
        (v.onDomain ((v.domain.unroot o).abandonAllocation o)) := by
      unfold Run.runConstructor
      rw [constructor]
      exact Process.Ends.attempt hbody ((Process.Ends.change _ _).bind (.pure _ _))
    have hreply : (Run.managedReply run me x (.newObject typeName)).Ends w (.ok (.error e))
        (v.onDomain ((v.domain.unroot o).abandonAllocation o)) :=
      hask.bind ((hallocate.bind (native.bind hconstructor)).bind (.pure _ _))
    exact hreply.bind (.pure _ _)

end Link

/-! ## Exceptions on their way

Causes are where a way begins. The two halves of the relation follow, and then what they come
to. -/

/-- **A statement raises an exception** in a frame, and leaves a state. -/
inductive Run.Raises (run : Runner) (me : ThreadId) (x : Context) (w : World) :
    {α : Type} → ManagedCode (Except ManagedException α) → Cause → World → Prop
  /-- A native member is called, and faults. -/
  | fault {call : ExternCall} {c : Class} {m : Member} {xs : List BoundaryValue}
    {named message : String} {v w' : World} (there : call.classIn w.domain x = .ok c)
    (declared : call.member? c = some m)
    (marshalled : (Run.marshalAll call.args).Ends w (.ok (.ok xs)) v)
    (faulted : (Run.invoke run me m call.receiver? xs).Ends v
      (.ok (.error (.nativeFault named ⟨message⟩))) w') :
    Raises run me x w call.code (.fault m message) w'
  /-- The exception is thrown. -/
  | thrown {α : Type} (e : ManagedException) :
    Raises run me x w (.done (.error e) : ManagedCode (Except ManagedException α)) (.thrown e) w
  /-- A call would be nested too deeply. -/
  | overflow {l : Link} {callee : Callee} {w₁ : World} (calls : l.Calls run me x w callee w₁)
    (full : w₁.domain.maxCallDepth ≤ x.depth + 1) :
    Raises run me x w l.code (.overflow w₁.domain.maxCallDepth callee.frame) (l.after callee w₁)

mutual

/-- **A statement fails** in a frame, for a cause: it raises the exception itself, or what it
calls has thrown it. The exception has left the frames that are listed, the innermost first. -/
inductive Run.Fails (me : ThreadId) : (n : Nat) → Context → World → {α : Type} →
    ManagedCode (Except ManagedException α) → Cause → List String → World → Prop
  | raised {n : Nat} {x : Context} {w w' : World} {α : Type}
    {p : ManagedCode (Except ManagedException α)} {cause : Cause}
    (raises : Run.Raises (.nested n) me x w p cause w') : Run.Fails me n x w p cause [] w'
  | called {n : Nat} {x : Context} {w w₁ v : World} {l : Link} {callee : Callee} {cause : Cause}
    {frames : List String} (calls : l.Calls (.nested (n + 1)) me x w callee w₁)
    (throws : Callee.Throws me n callee (x.depth + 1) w₁ cause frames v) :
    Run.Fails me (n + 1) x w l.code cause frames (l.after callee v)

/-- **A body throws** when it is called at a depth: it has come to a statement that fails, and
is inside of blocks there that do not catch the exception, and whose last parts have run. -/
inductive Callee.Throws (me : ThreadId) : (n : Nat) → Callee → (depth : Nat) → World → Cause →
    List String → World → Prop
  | intro {n depth : Nat} {callee : Callee} {w v v' w' : World} {α : Type}
    {p : ManagedCode (Except ManagedException α)} {b : Blocks ManagedValue α} {cause : Cause}
    {frames : List String} (room : depth < w.domain.maxCallDepth)
    (comes : Run.GoesOn (.nested n) me (callee.context w depth) (callee.opened w) callee.code
      v (b.plug p))
    (fails : Run.Fails me n (callee.context w depth) v p cause frames v')
    (uncaught : b.Uncaught)
    (lasts : (Run.runManaged (.nested n) me (callee.context w depth) (b.lasts.forM id)).Ends v'
      (.ok ()) w') :
    Callee.Throws me n callee depth w cause (frames ++ [callee.frame])
      (w'.leftFrame w.domain.nextFrame)

end

/-- What a statement raises is what its run ends with. -/
theorem Run.Raises.ends {p : ManagedCode (Except ManagedException α)} {cause : Cause}
    (h : Run.Raises run me x w p cause w') :
    (Run.runManaged run me x p).Ends w (.ok (.error cause.exception)) w' := by
  cases h with
  | @fault call c m xs named message v _ there declared marshalled faulted =>
    have hask : (Run.askDomain (call.classIn · x)).Ends w (.ok (.ok c)) w :=
      .of_ask there
    rw [ExternCall.runManaged_code, ExternCall.process_eq]
    refine hask.bind ?_
    dsimp only [ExternCall.dispatch]
    rw [declared]
    exact marshalled.bind (faulted.bind (.pure _ _))
  | thrown e => exact .pure _ _
  | overflow calls full => exact calls.ends (Callee.ends_overflow full)

mutual

/-- **A statement that fails** ends with the exception, and the exception tells what frames it
has left. -/
theorem Run.Fails.ends {n : Nat} {x : Context} {w w' : World} {α : Type}
    {p : ManagedCode (Except ManagedException α)} {cause : Cause} {frames : List String} :
    Run.Fails me n x w p cause frames w' → (Run.runManaged (.nested n) me x p).Ends w
      (.ok (.error (cause.exception.through frames))) w'
  | .raised raises => by
    rw [ManagedException.through_nil]
    exact raises.ends
  | .called calls throws => calls.ends throws.ends

/-- **A body that throws** ends its call with the exception, which has left one frame more. -/
theorem Callee.Throws.ends {n depth : Nat} {callee : Callee} {w w' : World} {cause : Cause}
    {frames : List String} : callee.Throws me n depth w cause frames w' →
    (callee.process (.nested (n + 1)) me depth).Ends w
      (.ok (.error (cause.exception.through frames))) w'
  | .intro room comes fails uncaught lasts => by
    rw [← ManagedException.pushFrame_through]
    exact Callee.ends_process (r := .error _) room
      (comes.ends (Blocks.ends_error uncaught fails.ends lasts))

end

/-! ## How many frames an exception leaves

The limit of depth is the same in all states of a run, and each frame of a chain is one deeper
than the one that called it. So an overflow leaves as many frames as the domain allows. -/

/-- **The limit of depth stays what it is**, whatever code runs. -/
theorem World.Sectioned.maxCallDepth {p : Run α} {r : Except Crash α}
    (hp : World.Sectioned w.registry me p) (h : p.Ends w r w') :
    w'.domain.maxCallDepth = w.domain.maxCallDepth :=
  (hp.keeps_ends (I := fun v => v.domain.maxCallDepth = w.domain.maxCallDepth) h rfl
    fun _ _ hs hv => hs.maxCallDepth.trans hv).2

theorem Run.GoesOn.maxCallDepth {p q : ManagedCode γ}
    (h : Run.GoesOn (.nested n) me x w p w' q) :
    w'.domain.maxCallDepth = w.domain.maxCallDepth := by
  induction h with
  | here => rfl
  | @reply w v w' op r next p hr rest ih =>
    have hreply : World.Sectioned w.registry me (Run.managedReply (.nested n) me x op) :=
      (World.Sectioned.upheld _ me).managedReply ((World.Sectioned.upheld _ me).keeps_nested n) x op
    exact ih.trans (hreply.maxCallDepth hr)

/-- The limit of depth is the same when a call begins. -/
theorem Link.Calls.maxCallDepth {l : Link} {callee : Callee}
    (h : l.Calls (.nested n) me x w callee w₁) :
    w₁.domain.maxCallDepth = w.domain.maxCallDepth := by
  cases h with
  | call => rfl
  | callStatic => rfl
  | @newObject typeName c body handle _ there constructor native =>
    have hconstruct : World.Sectioned w.registry me
        (Run.construct (.nested n) me c.fullName (w.domain.allocate c).1) :=
      .construct ((World.Sectioned.upheld _ me).keeps_nested n) _ _
    exact World.Sectioned.maxCallDepth
      (w := w.onDomain (w.domain.allocate c).2 [.allocated (w.domain.allocate c).1])
      hconstruct native

theorem Callee.maxCallDepth_opened (c : Callee) (w : World) :
    (c.opened w).domain.maxCallDepth = w.domain.maxCallDepth := by
  have hopen : ∀ r, (w.domain.openFrame c.frame r).2.maxCallDepth = w.domain.maxCallDepth := by
    rintro (_ | o) <;> rfl
  exact hopen c.receiver

/-- **The frames that an exception can leave**, from a frame of a depth on: never more than
the domain allows, and all of them if it was raised for want of a frame. -/
def Cause.Fits (cause : Cause) (limit count : Nat) : Prop :=
  count ≤ limit ∧ ∀ bound frame, cause = .overflow bound frame → bound = limit ∧ count = limit

mutual

/-- **What has failed was within the limit**, from the frame of the statement on. -/
theorem Run.Fails.fits {n : Nat} {x : Context} {w w' : World} {α : Type}
    {p : ManagedCode (Except ManagedException α)} {cause : Cause} {frames : List String}
    (hx : x.depth < w.domain.maxCallDepth) : Run.Fails me n x w p cause frames w' →
    cause.Fits w.domain.maxCallDepth (x.depth + 1 + frames.length)
  | .raised raises => by
    refine ⟨hx, ?_⟩
    rintro bound frame hcause
    cases raises with
    | fault => cases hcause
    | thrown e => cases hcause
    | overflow calls full =>
      cases hcause
      rw [calls.maxCallDepth] at full ⊢
      exact ⟨rfl, Nat.le_antisymm hx full⟩
  | .called calls throws => by
    have := throws.fits
    rwa [calls.maxCallDepth] at this

/-- **What has thrown was within the limit**, from the depth of the call on. -/
theorem Callee.Throws.fits {n depth : Nat} {callee : Callee} {w w' : World} {cause : Cause}
    {frames : List String} : callee.Throws me n depth w cause frames w' →
    cause.Fits w.domain.maxCallDepth (depth + frames.length)
  | .intro room comes fails uncaught lasts => by
    have hlimit := comes.maxCallDepth.trans (callee.maxCallDepth_opened w)
    have := fails.fits (by rw [hlimit]; exact room)
    rw [hlimit] at this
    rw [List.length_append, List.length_singleton, ← Nat.add_assoc, Nat.add_right_comm]
    exact this

end

/-! ## From a thunk to native code

The boundary makes a fault of the exception. It adds no frame, and it writes a warning. -/

section Thunks

variable {params : List Tag} {ret : Tag} {t : Thunk params ret} {args : Tag.Args params}
  {callee : Callee}

/-- **A thunk enters a body**: the class that it names offers the method, and the arguments have
come across the boundary. -/
structure Thunk.Enters (t : Thunk params ret) (args : Tag.Args params) (w : World)
    (callee : Callee) (w₁ : World) : Prop where
  there : w.domain.findClass? t.method.typeName = some callee.cls
  unmarshalled : (Run.unmarshalAll (Tag.boundaryArgs params args)).Ends w (.ok (.ok callee.args)) w₁
  receiver : callee.receiver = t.receiver
  offers : ∃ m, callee.cls.Offers t.method.method callee m

/-- The state in which native code is told of a fault. -/
def World.faulted (w : World) (member : String) (e : ManagedException) : World :=
  w.record (.log .warn ("Managed exception escaped " ++ member ++ ": " ++ e.render))

/-- **What the body of a thunk throws comes to native code** as a fault. -/
theorem Thunk.Enters.ends (h : t.Enters args w callee w₁)
    (hbody : (callee.process run me 0).Ends w₁ (.ok (.error e)) v) :
    (t.call run me args).Ends w (.ok (.error (.managedFault t.method.entryPoint e)))
      (v.faulted t.method.entryPoint e) := by
  obtain ⟨m, hm⟩ := h.offers
  have hask : (Run.askDomain (·.findClass? t.method.typeName)).Ends w
      (.ok (some callee.cls)) w := .of_ask h.there
  have hmethod := hm.ends hbody
  rw [h.receiver] at hmethod
  have hmanaged : (Run.callManaged run me t.method t.receiver (Tag.boundaryArgs params args)).Ends
      w (.ok (.error e)) v :=
    hask.bind (h.unmarshalled.bind (hmethod.bind (.pure _ _)))
  exact hmanaged.managedBoundary_error.bind (.pure _ _)

/-- The limit of depth is the same when the thunk has entered its body. -/
theorem Thunk.Enters.maxCallDepth (h : t.Enters args w callee w₁) :
    w₁.domain.maxCallDepth = w.domain.maxCallDepth := by
  have hargs : World.Sectioned w.registry mainThread
      (Run.unmarshalAll (Tag.boundaryArgs params args)) :=
    (World.Sectioned.bridged _ _).unmarshalAll _
  exact hargs.maxCallDepth h.unmarshalled

/-- A thunk that was bound under the full name of the class names the method as its frame does. -/
theorem Thunk.Enters.entryPoint (h : t.Enters args w callee w₁)
    (hname : t.method.typeName = callee.cls.fullName) : t.method.entryPoint = callee.frame := by
  obtain ⟨m, hm⟩ := h.offers
  rw [MethodRef.entryPoint, hname, hm.frame]

end Thunks

/-- **Exceptions travel from frame to frame**, and to native code. When a thunk has entered a
body that throws (`Callee.Throws`), because a native member has faulted somewhere below it,
because an exception was thrown, or for want of a frame:
* the thunk returns the exception as a fault, with the names of all frames that it has left, the
  innermost first and the body of the thunk last, after the member that has faulted. The fault
  names the method as the thunk does, which is the name of its frame if it does so by the full
  name of the class;
* the frames are no more than the domain allows, and just as many if one was wanted; where the
  domain allows none, the body of the thunk is not entered.

In each of the frames:
* the exception leaves blocks that do not catch it when their last parts have run, the innermost
  first and each of them once, and it is the same exception afterwards;
* a handler that catches it gets it with the frames that it has left until then, when the last
  parts of the blocks inside of it have run. -/
theorem exceptions_travel {params : List Tag} {ret : Tag} {t : Thunk params ret}
    {args : Tag.Args params} {callee : Callee} {w w₁ : World} (enters : t.Enters args w callee w₁)
    (me : ThreadId) (n : Nat) :
    (∀ cause frames v, callee.Throws me n 0 w₁ cause frames v →
      (t.call (.nested (n + 1)) me args).Ends w
        (.ok (.error (.managedFault t.method.entryPoint (cause.exception.through frames))))
        (v.faulted t.method.entryPoint (cause.exception.through frames)) ∧
      frames.length ≤ w.domain.maxCallDepth ∧
      ∀ limit frame, cause = .overflow limit frame →
        limit = w.domain.maxCallDepth ∧ frames.length = w.domain.maxCallDepth) ∧
    (t.method.typeName = callee.cls.fullName → t.method.entryPoint = callee.frame) ∧
    (w.domain.maxCallDepth = 0 → (t.call (.nested (n + 1)) me args).Ends w
      (.ok (.error (.managedFault t.method.entryPoint (Run.overflow 0 callee.frame))))
      (w₁.faulted t.method.entryPoint (Run.overflow 0 callee.frame))) ∧
    (∀ {α γ : Type} (b : Blocks γ α), b.Uncaught → ∀ e : ManagedException,
      b.plug (.done (.error e)) = b.lasts.forM id >>= fun _ => .done (.error e)) ∧
    ∀ {α β γ : Type} {j : Nat} {x : Context} {v v' v'' : World}
      {p : ManagedCode (Except ManagedException α)} {b : Blocks β α} {cause : Cause}
      {frames : List String}, Run.Fails me j x v p cause frames v' → b.Uncaught →
      (Run.runManaged (.nested j) me x (b.lasts.forM id)).Ends v' (.ok ()) v'' →
      ∀ (handler : ManagedException → ManagedCode (Except ManagedException β))
        (outer : Blocks γ β),
        Run.GoesOn (.nested j) me x v ((b.append (.tryCatch handler outer)).plug p) v''
          (outer.plug (handler (cause.exception.through frames))) := by
  refine ⟨fun cause frames v throws => ?_, enters.entryPoint, fun hzero => ?_,
    fun b hb e => Blocks.plug_error hb e, fun fails uncaught lasts handler outer =>
      Blocks.goesOn_handler uncaught fails.ends lasts handler outer⟩
  · obtain ⟨hcount, hfull⟩ := throws.fits
    rw [enters.maxCallDepth, Nat.zero_add] at hcount hfull
    exact ⟨enters.ends throws.ends, hcount, hfull⟩
  · have hlimit : w₁.domain.maxCallDepth = 0 := enters.maxCallDepth.trans hzero
    have hbody : (callee.process (.nested (n + 1)) me 0).Ends w₁
        (.ok (.error (Run.overflow w₁.domain.maxCallDepth callee.frame))) w₁ :=
      Callee.ends_overflow (Nat.le_of_eq hlimit)
    rw [hlimit] at hbody
    exact enters.ends hbody

/-! ## A rope that is worn

A native member faults in a constructor. The exception leaves three frames, and passes a block
with a last part on its way. -/

/-- A native member that faults. -/
def ropeWear : Member := ⟨"N.Rope", "Wear", .nullary, .static⟩

/-- A constructor calls the native member. -/
def ropeKnot : MethodBody := fun _ => ManagedCode.op (.callStaticExtern "N.Rope" "Wear" [])

/-- The class of the constructor. -/
def rope : Class where
  scope := "N"
  name := "Rope"
  constructor := some ropeKnot
  externs := [⟨"Wear", .nullary, .static⟩]

/-- A method makes an object of the class. -/
def hookHang : Method := ⟨"Hang", .nullary, .static, fun _ =>
  (ManagedCode.op (.newObject "N.Rope")).onward fun _ => .done (.ok .void)⟩

/-- The class of the method. -/
def hook : Class where
  scope := "N"
  name := "Hook"
  methods := [hookHang]

/-- Another method calls that one, and has a last part. -/
def craneLift : Method := ⟨"Lift", .nullary, .static, fun _ =>
  ((ManagedCode.op (.callStatic "N.Hook" "Hang" [])).onward fun _ => .done (.ok .void)).ending
    (ManagedCode.op (.note "lifted"))⟩

/-- The class of the other method. -/
def crane : Class where
  scope := "N"
  name := "Crane"
  methods := [craneLift]

/-- The host at its start. -/
def craneHost : World :=
  .start (Registry.empty.addAll
    [.member ropeWear (.ofRaw [] .void fun _ => .done (.error ⟨"worn"⟩))]).2 .empty "host" 8

/-- Where the classes are there to be loaded. -/
def craneProvided : World :=
  craneHost.onDomain (craneHost.domain.provide ⟨"A", [rope, hook, crane]⟩)

/-- Where they are loaded. -/
def craneLoaded : World := ((Run.loadAssembly "A").advance craneProvided).2

/-- The thunk for the method of this class. -/
def craneThunk : Thunk [] .void := ⟨⟨"N.Crane", "Lift", 0⟩, none⟩

/-- What the thunk calls. -/
def lift : Callee := ⟨crane, "N.Crane::Lift", craneLift.body, none, []⟩

/-- What this calls. -/
def hang : Callee := ⟨hook, "N.Hook::Hang", hookHang.body, none, []⟩

/-- Where the second body starts. -/
def hangOpened : World := hang.opened (lift.opened craneLoaded)

/-- Where the object is made. -/
def ropeMade : World :=
  hangOpened.onDomain (hangOpened.domain.allocate rope).2
    [.allocated (hangOpened.domain.allocate rope).1]

/-- What the second body calls. -/
def knot : Callee :=
  ⟨rope, rope.constructorFrame, ropeKnot, some (hangOpened.domain.allocate rope).1, []⟩

/-- The call of the native member. -/
def ropeCall : Run (Except BridgeError BoundaryValue) :=
  Run.invoke (.nested 1) mainThread ropeWear none []

/-- The constructor throws what the native member has faulted with. -/
theorem knot_throws : ∃ v, knot.Throws mainThread 1 2 ropeMade (.fault ropeWear "worn")
    ["N.Rope::.ctor"] v := by
  have hmarshal : (Run.marshalAll []).Ends (knot.opened ropeMade) (.ok (.ok []))
      (knot.opened ropeMade) := .pure _ _
  have hfault : ropeCall.Ends (knot.opened ropeMade)
      (.ok (.error (.nativeFault ropeWear.render ⟨"worn"⟩)))
      (ropeCall.advance (knot.opened ropeMade)).2 := rfl
  have hraises : Run.Raises (.nested 1) mainThread (knot.context ropeMade 2)
      (knot.opened ropeMade) (ExternCall.onType "N.Rope" "Wear" []).code
      (.fault ropeWear "worn") (ropeCall.advance (knot.opened ropeMade)).2 :=
    .fault (c := rope) rfl rfl hmarshal hfault
  exact ⟨_, .intro (b := .none) (by decide) (.here _ _) (.raised hraises) trivial (.pure _ _)⟩

/-- The method that makes the object throws it on. -/
theorem hang_throws : ∃ v, hang.Throws mainThread 2 1 (lift.opened craneLoaded)
    (.fault ropeWear "worn") ["N.Rope::.ctor", "N.Hook::Hang"] v := by
  obtain ⟨v, hknot⟩ := knot_throws
  have hcalls : (Link.newObject "N.Rope").Calls (.nested 2) mainThread
      (hang.context (lift.opened craneLoaded) 1) hangOpened knot ropeMade :=
    .newObject rfl rfl (h := none) rfl
  let blocks : Blocks ManagedValue ObjectId := .andThen (fun _ => .done (.ok .void)) .none
  exact ⟨_, .intro (b := blocks) (by decide) (.here _ _) (.called hcalls hknot) trivial
    (.pure _ _)⟩

/-- Where the thunk has returned. -/
def craneBroken : World := ((craneThunk.call (.nested 4) mainThread ()).advance craneLoaded).2

/-- The native member has faulted: its message comes to native code, with the frames that the
exception has left, and the last part has run once. -/
theorem exceptions_travel_worn :
    (craneThunk.call (.nested 4) mainThread ()).Ends craneLoaded
      (.ok (.error (.managedFault "N.Crane::Lift" ⟨BridgeError.nativeException, "worn",
        ["N.Rope::Wear", "N.Rope::.ctor", "N.Hook::Hang", "N.Crane::Lift"]⟩))) craneBroken ∧
    Event.journal craneBroken.history = ["lifted"] := by
  have enters : craneThunk.Enters () craneLoaded lift craneLoaded :=
    ⟨rfl, rfl, rfl, craneLift, rfl, rfl, rfl, rfl, rfl⟩
  obtain ⟨v, hhang⟩ := hang_throws
  have hcalls : (Link.callStatic "N.Hook" "Hang" hang.args).Calls (.nested 3) mainThread
      (lift.context craneLoaded 0) (lift.opened craneLoaded) hang (lift.opened craneLoaded) :=
    .callStatic (c := hook) (m := hookHang) rfl ⟨rfl, rfl, rfl, rfl, rfl⟩ rfl
  let blocks : Blocks ManagedValue ManagedValue := .andThen (fun _ => .done (.ok .void))
    (.tryFinally (ManagedCode.op (.note "lifted")) .none)
  have hlast : (Run.record (.note "lifted")).Ends v (.ok ()) (v.record (.note "lifted")) := rfl
  have hlift : lift.Throws mainThread 3 0 craneLoaded (.fault ropeWear "worn")
      ["N.Rope::.ctor", "N.Hook::Hang", "N.Crane::Lift"]
      ((v.record (.note "lifted")).leftFrame craneLoaded.domain.nextFrame) :=
    .intro (b := blocks) (by decide) (.here _ _) (.called hcalls hhang) trivial
      ((hlast.bind (.pure _ _)).bind (.pure _ _))
  obtain ⟨hends, -⟩ := (exceptions_travel enters mainThread 3).1 _ _ _ hlift
  refine ⟨?_, rfl⟩
  rw [show craneBroken = _ from congrArg Prod.snd hends]
  exact hends

/-! ## A lever that is stuck

Two ways for a fault not to be what it might be taken for: a thunk that was bound under a simple
name, and a last part that panics. -/

/-- What the methods of the class throw. -/
def stuck : ManagedException := ⟨ManagedException.plain, "stuck", []⟩

/-- Two methods throw the exception, the second one inside of two blocks. The last part of the
inner block panics. -/
def stuckLever : Class where
  scope := "N"
  name := "Lever"
  methods := [
    ⟨"Pull", .nullary, .static, fun _ => .done (.error stuck)⟩,
    ⟨"Push", .nullary, .static, fun _ =>
      (Program.ending (.done (.error stuck)) (.panic (.text "jammed"))).ending
        (ManagedCode.op (.note "pushed"))⟩]

/-- A host where the class is there to be loaded. -/
def leverProvided : World :=
  let w : World := .start .empty .empty "host" 8
  w.onDomain (w.domain.provide ⟨"A", [stuckLever]⟩)

/-- Where it is loaded. -/
def leverLoaded : World := ((Run.loadAssembly "A").advance leverProvided).2

/-- A thunk for the first method, by the simple name of the class. -/
def leverPull : Thunk [] .void := ⟨⟨"Lever", "Pull", 0⟩, none⟩

/-- A thunk for the second method, by the full name. -/
def leverPush : Thunk [] .void := ⟨⟨"N.Lever", "Push", 0⟩, none⟩

/-- **A fault does not always name the frame, and a last part does not always run.** The thunk
that was bound under the simple name of the class names the method by it; and where a last part
panics, the panic takes the place of the exception, and the last parts around it do not run. -/
theorem simple_names_and_panics_interfere :
    Thunk.bind leverLoaded.domain ⟨"Lever", "Pull", 0⟩ none [] .void = .ok leverPull ∧
    (leverPull.call (.nested 2) mainThread ()).Ends leverLoaded
      (.ok (.error (.managedFault "Lever::Pull" (stuck.through ["N.Lever::Pull"]))))
      ((leverPull.call (.nested 2) mainThread ()).advance leverLoaded).2 ∧
    (leverPush.call (.nested 2) mainThread ()).Ends leverLoaded
      (.ok (.error (.managedFault "N.Lever::Push" (panicException (.text "jammed")))))
      ((leverPush.call (.nested 2) mainThread ()).advance leverLoaded).2 ∧
    Event.journal ((leverPush.call (.nested 2) mainThread ()).advance leverLoaded).2.history = [] :=
  ⟨rfl, rfl, rfl, rfl⟩

end HostBridge
