import HostBridge.Proofs.Domain.Overloads
import HostBridge.Proofs.Domain.RoundTrip
import HostBridge.Proofs.Domain.Selection
import HostBridge.Proofs.Domain.Unwinding

/-!
# Calls of bound thunks

The types of a thunk are looked at once, when it is bound, and so is the method. Every call looks
the method up again, by its name and number of parameters, and looks at the types of the
arguments, of the result, and of the result as it crosses. As long as the class is the only one
that is loaded under its full name, all of these find what was found at first
(`bound_thunks_enter_once`).

A call is cut in three at the body: what it does before (`Thunk.opening`), the body itself, and
what it does after (`Thunk.closing`). The first and the last are the same whatever runs the
body, so a call enters no code but the body, and the body once (`Thunk.call_goesOnAs_around`).
The opening hands the arguments on as they are, and refuses to enter the body for two reasons
only: a handle without an object, and no room for a frame. The closing has no way to end but a
value of the type that the thunk was bound to, or a fault of managed code.

## That a body runs once

A process does not say which code it enters. It could be counted in the history, but then the
count would be about runs, and the statement would have to exclude what other threads tell the
history. So it is put as an equation between processes: the call goes on as its opening,
then the body under the runner, then its closing. Neither the opening nor the closing mentions
the runner, and what does not mention it cannot enter code.

The boundary stands around all three, while a panic can only come from the middle. To move the
boundary to where it matters, the parts before the body must be known not to crash, in whatever
states they find (`Course.Crashless`).
-/

namespace HostBridge

variable {σ α β : Type}

/-! ## Classes that have a name to themselves

Said of every state on the way, since any thread may take over an assembly between two sections
of the call. -/

/-- **A class has its full name to itself**: no other class is loaded under it. -/
def World.Defines (c : Class) (w : World) : Prop :=
  ∀ x, w.domain.classes.get? c.fullName = some x → x = c

/-- Loading an assembly takes no full name out of use. -/
theorem Domain.exists_get?_addClasses {d : Domain} {name : String} {c : Class}
    (h : d.classes.get? name = some c) (i : Image) :
    ∃ x, (d.addClasses i).classes.get? name = some x := by
  have hfold : ∀ (l : List Class) (t : Table String Class), (∃ x, t.get? name = some x) →
      ∃ x, (l.foldl (fun t c => t.insert c.fullName c) t).get? name = some x := by
    intro l
    induction l with
    | nil => exact fun t ht => ht
    | cons a l ih =>
      rintro t ⟨x, hx⟩
      refine ih _ ?_
      rw [Table.get?_insert]
      split
      · exact ⟨a, rfl⟩
      · exact ⟨x, hx⟩
  exact hfold i.classes d.classes ⟨c, h⟩

/-- **A class that has its full name to itself keeps it.** -/
theorem Threads.Reaches.findClass?_of_defines {w : World} {n : Nat}
    {code : ThreadId → NativeCode α} {t u : Threads World α} {c : Class}
    (ht : (w.threads n code).Reaches (fun _ => True) t) (hu : t.Reaches (World.Defines c) u)
    (hc : t.state.domain.classes.get? c.fullName = some c) :
    u.state.domain.findClass? c.fullName = some c := by
  refine Domain.findClass?_eq_some_iff.2 (.inl ?_)
  induction hu with
  | here hs => exact hc
  | @enter v you ready effect next h hv hr hs ih =>
    obtain ⟨-, hsec⟩ :=
      World.section_of_reaches (ht.trans (h.mono fun _ _ => trivial)) hv hr
    obtain hkept | ⟨i, hi, -⟩ := hsec.get?_classes ih
    · exact hkept
    · obtain ⟨x, hx⟩ := Domain.exists_get?_addClasses ih i
      change (effect v.state).domain.classes.get? c.fullName = some c
      rw [hi] at hs ⊢
      obtain rfl := hs x hx
      exact hx

/-! ## Processes that do not crash

A property of the course alone, for parts that look at the state and change it, and run nothing. -/

/-- **A course does not crash**, whatever the states are that its sections find. -/
def Course.Crashless : Course σ α → Prop
  | done _ => True
  | crash _ => False
  | step _ _ next => ∀ s, (next s).Crashless

theorem Course.Crashless.after {p : Course σ α} {k : Except Crash α → Course σ β}
    (hp : p.Crashless) (hk : ∀ a, (k (.ok a)).Crashless) : (p.after k).Crashless := by
  induction p with
  | done a => exact hk a
  | crash c => exact hp.elim
  | step ready effect next ih => exact fun s => ih s (hp s)

namespace Process

variable {p : Process σ α} {f : α → Process σ β}

theorem crashless_bind (hp : p.course.Crashless) (hf : ∀ a, (f a).course.Crashless) :
    (p >>= f).course.Crashless := by
  rw [course_bind]
  exact hp.after hf

theorem crashless_attempt (p : Process σ α) : p.attempt.course.Crashless := by
  rw [course_attempt]
  induction p.course with
  | done a => trivial
  | crash c => trivial
  | step ready effect next ih => exact fun s => ih s

theorem crashless_exchangeWhen (ready : σ → Bool) (f : σ → α × σ) :
    (exchangeWhen ready f).course.Crashless := fun _ => trivial

theorem crashless_ask (f : σ → α) : (ask f).course.Crashless := fun _ => trivial

theorem crashless_change (f : σ → σ) : (change f).course.Crashless := fun _ => trivial

/-- What does not crash is not changed by an attempt. -/
theorem attempt_bind_of_crashless (hp : p.course.Crashless) {γ : Type}
    (k : Except Crash β → Process σ γ) :
    (p >>= f).attempt >>= k = p >>= fun a => (f a).attempt >>= k := by
  refine ext_course ?_
  simp only [course_bind, course_attempt, Course.after_after]
  generalize p.course = c at hp
  induction c with
  | done a => rfl
  | crash c => exact hp.elim
  | step ready effect next ih =>
    exact congrArg (Course.step ready effect) (funext fun s => ih s (hp s))

end Process

theorem Run.crashless_changeDomain (f : Domain → Domain) (events : List Event) :
    (changeDomain f events).course.Crashless := fun _ => trivial

/-- What does not crash may stand before the boundary. -/
theorem managedBoundary_bind {p : Run α} (hp : p.course.Crashless) (member : String)
    (f : α → Run (Except ManagedException β)) :
    managedBoundary member (p >>= f) = p >>= fun a => managedBoundary member (f a) :=
  Process.attempt_bind_of_crashless hp _

theorem Run.crashless_unmarshalAll (xs : List BoundaryValue) :
    (unmarshalAll xs).course.Crashless := by
  have h := looks_unmarshalAll xs
  generalize (unmarshalAll xs).course = p at h
  induction p with
  | done a => trivial
  | crash c => obtain ⟨e, he⟩ | ⟨vs, hvs, -⟩ := h <;> contradiction
  | step ready effect next ih => exact fun s => ih s (h.2 s)

/-! ## A call, cut at the body -/

/-- **The beginning of a frame**, unless it would be one too many. -/
def Run.beginFrame (c : Class) (frame : String) (receiver : Option ObjectId)
    (vs : List ManagedValue) (depth : Nat) : Run (Except ManagedException Context) := do
  let limit ← askDomain Domain.maxCallDepth
  if limit ≤ depth then return .error (overflow limit frame)
  let f ← onDomain (·.openFrame frame receiver)
  record (.body frame receiver vs)
  return .ok ⟨c, f, depth, ⟨frame, receiver, vs⟩⟩

/-- **The end of a frame**, by what its body ended with. -/
def Run.endFrame (x : Context) : Except Crash (Except ManagedException ManagedValue) →
    Run (Except ManagedException ManagedValue)
  | .error crash => do
    changeDomain (·.abandonFrame x.frame) [.abandoned x.frame]
    .crash crash
  | .ok result => do
    releaseLocals x.frame (← askDomain (·.locals x.frame)).length
    changeDomain (·.closeFrame x.frame)
    return result.mapError (·.pushFrame x.activation.frame)

/-- **What comes back of a body**: a value of the declared type, as it crosses. -/
def Run.handBack (frame : String) (ret : Tag) :
    Except ManagedException ManagedValue → Run (Except ManagedException BoundaryValue)
  | .error e => return .error e
  | .ok v =>
    if v.fits ret then marshal v
    else
      return .error ⟨ManagedException.invalidCast,
        frame ++ " returned " ++ v.render ++ " for " ++ ret.managedName, []⟩

namespace Thunk

variable {params : List Tag} {ret : Tag}

/-- What a call ends with that is refused. -/
def refusal (th : Thunk params ret) (e : ManagedException) :
    Run (Except (Except BridgeError ret.Native) Context) := do
  Run.log .warn ("Managed exception escaped " ++ th.method.entryPoint ++ ": " ++ e.render)
  return .error (.error (.managedFault th.method.entryPoint e))

/-- **What a call does before it enters the body** of a method of a class: it ends with the frame
that the body runs in, or with the outcome of the call. -/
def opening (th : Thunk params ret) (c : Class) (args : Tag.Args params) :
    Run (Except (Except BridgeError ret.Native) Context) := do
  match ← Run.unmarshalAll (Tag.boundaryArgs params args) with
  | .error e => th.refusal e
  | .ok vs =>
    match ← Run.beginFrame c th.method.entryPoint th.receiver vs 0 with
    | .error e => th.refusal e
    | .ok x => return .ok x

/-- **What a call does after the body**, given what that ended with. -/
def closing (th : Thunk params ret) (x : Context)
    (result : Except Crash (Except ManagedException ManagedValue)) :
    Run (Except BridgeError ret.Native) := do
  match ← managedBoundary th.method.entryPoint
      (Run.endFrame x result >>= Run.handBack th.method.entryPoint ret) with
  | .error e => return .error e
  | .ok v => return (v.toNative ret).mapError .marshalType

/-- **A call around a body**, which is entered between the opening and the closing. -/
def around (th : Thunk params ret) (run : Runner) (me : ThreadId) (c : Class) (body : MethodBody)
    (args : Tag.Args params) : Run (Except BridgeError ret.Native) := do
  match ← th.opening c args with
  | .error outcome => return outcome
  | .ok x => th.closing x (← (run.managed me x (body x.activation)).attempt)

/-! ## The call is what is around the body

Equations that move the cut outward: from the body to the method, to the call, to the thunk. -/

theorem tags_boundaryArgs : ∀ (ts : List Tag) (args : Tag.Args ts),
    (Tag.boundaryArgs ts args).map BoundaryValue.tag = ts
  | [], _ => rfl
  | t :: ts, (x, xs) => congrArg₂ List.cons (BoundaryValue.tag_ofNative t x)
      (tags_boundaryArgs ts xs)

/-- Arguments that crossed fit the types that they had. -/
theorem accepts_of_crosses {vs : List ManagedValue} {xs : List BoundaryValue}
    {R : ObjectId → Handle → Prop} (h : List.Forall₂ (ManagedValue.Crosses R) vs xs) :
    Class.accepts (xs.map BoundaryValue.tag) vs = true := by
  induction h with
  | nil => rfl
  | cons hv hvs ih =>
    simp only [List.map_cons, Class.accepts, ih, Bool.and_true]
    exact (hv.fits_iff _).2 rfl

variable {run : Runner} {me : ThreadId} {c : Class} {m : Method}

/-- A body runs between the beginning and the end of a frame. -/
theorem runBody_eq (frame : String) (body : MethodBody) (receiver : Option ObjectId)
    (vs : List ManagedValue) (depth : Nat) :
    Run.runBody run me c frame body receiver vs depth = (do
      match ← Run.beginFrame c frame receiver vs depth with
      | .error e => return .error e
      | .ok x => Run.endFrame x (← (run.managed me x (body x.activation)).attempt)) := by
  unfold Run.runBody Run.beginFrame
  rw [bind_assoc]
  refine congrArg (_ >>= ·) (funext fun limit => ?_)
  split
  · rfl
  · rw [bind_assoc]
    refine congrArg (_ >>= ·) (funext fun f => ?_)
    rw [bind_assoc]
    refine congrArg (_ >>= ·) (funext fun _ => congrArg (_ >>= ·) (funext fun result => ?_))
    cases result <;> rfl

theorem crashless_beginFrame (frame : String) (receiver : Option ObjectId)
    (vs : List ManagedValue) (depth : Nat) :
    (Run.beginFrame c frame receiver vs depth).course.Crashless := by
  refine Process.crashless_bind (Process.crashless_ask _) (fun limit => ?_)
  split
  · trivial
  · refine Process.crashless_bind (Process.crashless_exchangeWhen _ _) (fun f => ?_)
    exact Process.crashless_bind (Process.crashless_change _) fun _ => trivial

/-- A selected method whose types are right comes to its body, and its result is handed back. -/
theorem runSelected_bind_eq (hs : m.signature = ⟨params, ret⟩) {vs : List ManagedValue}
    (hvs : Class.accepts params vs = true) (receiver : Option ObjectId) :
    Run.runSelected run me c m receiver vs 0 >>= Run.marshalResult =
      Run.runBody run me c (c.fullName ++ "::" ++ m.name) m.body receiver vs 0 >>=
        Run.handBack (c.fullName ++ "::" ++ m.name) ret := by
  have hcheck : ∀ frame, Run.checkArguments frame m.signature vs = .ok () := by
    intro frame
    rw [hs]
    exact Run.checkArguments_of_accepts hvs
  unfold Run.runSelected
  simp only [hcheck, bind_assoc]
  refine congrArg (_ >>= ·) (funext fun r => ?_)
  cases r with
  | error e => rfl
  | ok v =>
    rw [hs]
    dsimp only [Run.handBack]
    split <;> rfl

theorem callSelected_eq_around (th : Thunk params ret) {name : String}
    (hth : th.method = ⟨c.fullName, name, params.length⟩) (hm : m.name = name)
    (hs : m.signature = ⟨params, ret⟩) (args : Tag.Args params) :
    th.callSelected run me c (some m) args = th.around run me c m.body args := by
  have hentry : th.method.entryPoint = c.fullName ++ "::" ++ m.name := by
    rw [hth, hm]
    rfl
  unfold callSelected around opening Run.enterSelected
  rw [managedBoundary_bind (Run.crashless_unmarshalAll _), bind_assoc, bind_assoc]
  refine Run.unmarshalAll_bind_congr (fun e => ?_) (fun vs hvs => ?_)
  · rfl
  · have haccepts := accepts_of_crosses hvs
    rw [tags_boundaryArgs] at haccepts
    dsimp only [Run.callSelected]
    rw [runSelected_bind_eq hs haccepts, runBody_eq, ← hentry, bind_assoc,
      managedBoundary_bind (crashless_beginFrame th.method.entryPoint th.receiver vs 0),
      bind_assoc, bind_assoc]
    refine congrArg (_ >>= ·) (funext fun begun => ?_)
    cases begun with
    | error e => rfl
    | ok x =>
      dsimp only
      rw [bind_assoc, managedBoundary_bind (Process.crashless_attempt _), bind_assoc]
      rfl

end Thunk

/-! ## What the parts of a call come to

In states that other threads change meanwhile. -/

/-- **A handle without an object**: nothing is listed under it. -/
def Bridge.Unlisted (b : Bridge) (h : Handle) : Prop := ∀ o, b.objectOf h ≠ .ok o

section Parts

variable {params : List Tag} {ret : Tag} {good : World → Prop}

/-- **Arguments cross as they are**, unless there is a handle without an object among them. -/
theorem Run.flows_unmarshalAll_or (xs : List BoundaryValue) :
    (Run.unmarshalAll xs).Flows good (fun r =>
      (∃ e, r = .error e ∧ ∃ s, good s ∧ ∃ h, .object h ∈ xs ∧ s.bridge.Unlisted h) ∨
      ∃ vs, r = .ok vs ∧ List.Forall₂
        (ManagedValue.Crosses fun o h => ∃ s, good s ∧ s.bridge.objectOf h = .ok o) vs xs) := by
  have cross : ∀ x : BoundaryValue, (Run.unmarshal x).Flows good (fun r =>
      (∃ e, r = .error e ∧ ∃ s, good s ∧ ∃ h, x = .object h ∧ s.bridge.Unlisted h) ∨
      ∃ v, r = .ok v ∧
        v.Crosses (fun o h => ∃ s, good s ∧ s.bridge.objectOf h = .ok o) x) := by
    intro x
    cases x with
    | object h =>
      refine .bind (A := fun r => ∃ s, good s ∧ s.bridge.objectOf h = r)
        (.ask fun s hs => ⟨s, hs, rfl⟩) ?_
      rintro r ⟨s, hs, hr⟩
      cases r with
      | error e =>
        refine .pure (.inl ⟨_, rfl, s, hs, h, rfl, fun o ho => ?_⟩)
        cases hr.symm.trans ho
      | ok o => exact .pure (.inr ⟨_, rfl, .object ⟨s, hs, hr⟩⟩)
    | _ => exact .pure (.inr ⟨_, rfl, by constructor⟩)
  induction xs with
  | nil => exact .pure (.inr ⟨[], rfl, .nil⟩)
  | cons x xs ih =>
    refine .bind (cross x) ?_
    rintro _ (⟨e, rfl, s, hs, h, rfl, hh⟩ | ⟨v, rfl, hv⟩)
    · exact .pure (.inl ⟨e, rfl, s, hs, h, List.mem_cons_self, hh⟩)
    · refine .bind ih ?_
      rintro _ (⟨e, rfl, s, hs, h, hmem, hh⟩ | ⟨vs, rfl, hvs⟩)
      · exact .pure (.inl ⟨e, rfl, s, hs, h, List.mem_cons_of_mem x hmem, hh⟩)
      · exact .pure (.inr ⟨v :: vs, rfl, .cons hv hvs⟩)

/-- A frame is opened, or it would be one too many. -/
theorem Run.flows_beginFrame (c : Class) (frame : String) (receiver : Option ObjectId)
    (vs : List ManagedValue) (depth : Nat) :
    (Run.beginFrame c frame receiver vs depth).Flows good (fun r =>
      (∃ e, r = .error e ∧ ∃ s, good s ∧ s.domain.maxCallDepth ≤ depth) ∨
      ∃ f, r = .ok ⟨c, f, depth, ⟨frame, receiver, vs⟩⟩) := by
  refine .bind (A := fun limit => ∃ s, good s ∧ s.domain.maxCallDepth = limit)
    (.ask fun s hs => ⟨s, hs, rfl⟩) ?_
  rintro _ ⟨s, hs, rfl⟩
  split
  · next hlimit => exact .pure (.inl ⟨_, rfl, s, hs, hlimit⟩)
  · refine .bind (.exchange (A := fun _ => True) fun _ _ => trivial) (fun f _ => ?_)
    exact .bind (.change _) fun _ _ => .pure (.inr ⟨f, rfl⟩)

/-- A call is refused as a fault of managed code. -/
theorem Thunk.flows_refusal {th : Thunk params ret} {e : ManagedException}
    {A : Except (Except BridgeError ret.Native) Context → Prop}
    (h : A (.error (.error (.managedFault th.method.entryPoint e)))) :
    (th.refusal e).Flows good A :=
  .bind (.change _) fun _ _ => .pure h

/-- **The opening comes to the body**, with the receiver that the thunk is bound to and the
arguments as they are; or the call is refused, for a handle without an object or since there is
no room for a frame. -/
theorem Thunk.flows_opening (th : Thunk params ret) (c : Class) (args : Tag.Args params) :
    (th.opening c args).Flows good (fun r =>
      (∃ e, r = .error (.error (.managedFault th.method.entryPoint e)) ∧ ∃ s, good s ∧
        (s.domain.maxCallDepth = 0 ∨
          ∃ h, .object h ∈ Tag.boundaryArgs params args ∧ s.bridge.Unlisted h)) ∨
      ∃ f vs, r = .ok ⟨c, f, 0, ⟨th.method.entryPoint, th.receiver, vs⟩⟩ ∧ List.Forall₂
        (ManagedValue.Crosses fun o h => ∃ s, good s ∧ s.bridge.objectOf h = .ok o) vs
        (Tag.boundaryArgs params args)) := by
  refine .bind (Run.flows_unmarshalAll_or _) ?_
  rintro _ (⟨e, rfl, s, hs, hunlisted⟩ | ⟨vs, rfl, hvs⟩)
  · exact flows_refusal (.inl ⟨e, rfl, s, hs, .inr hunlisted⟩)
  · refine .bind (Run.flows_beginFrame c _ _ vs 0) ?_
    rintro _ (⟨e, rfl, s, hs, hlimit⟩ | ⟨f, rfl⟩)
    · exact flows_refusal (.inl ⟨e, rfl, s, hs, .inl (Nat.le_zero.1 hlimit)⟩)
    · exact .pure (.inr ⟨f, vs, rfl, hvs⟩)

/-- A value that fits a type crosses as one of that type, or not at all. -/
theorem Run.flows_marshal_of_fits {v : ManagedValue} {tag : Tag} (hv : v.fits tag = true) :
    (Run.marshal v).Flows good (fun r => ∀ x, r = .ok x → x.tag = tag) := by
  cases v with
  | object o =>
    refine .bind (A := fun _ => True) (.bind (A := fun _ => True) (.ask fun _ _ => trivial) ?_) ?_
    · intro h? _
      cases h? with
      | none => exact .pure trivial
      | some h => exact .ask fun _ _ => trivial
    · intro r _
      cases r with
      | error e => exact .pure fun x hx => by cases hx
      | ok h =>
        refine .pure fun x hx => ?_
        cases hx
        exact (of_decide_eq_true hv).symm
  | null => exact .pure fun x hx => by cases hx
  | _ =>
    refine .pure fun x hx => ?_
    cases hx
    exact (of_decide_eq_true hv).symm

theorem Run.flows_handBack (frame : String) (r : Except ManagedException ManagedValue) :
    (Run.handBack frame ret r).Flows good (fun r => ∀ x, r = .ok x → x.tag = ret) := by
  cases r with
  | error e => exact .pure fun x hx => by cases hx
  | ok v =>
    dsimp only [Run.handBack]
    split
    · next hv => exact Run.flows_marshal_of_fits hv
    · exact .pure fun x hx => by cases hx

theorem Run.flows_endFrame (x : Context) (r : Except ManagedException ManagedValue) :
    (Run.endFrame x (.ok r)).Flows good (fun _ => True) := by
  refine .bind (A := fun _ => True) (.ask fun _ _ => trivial) (fun locals _ => ?_)
  refine .bind (Run.flows_releaseLocals x.frame locals.length) (fun _ _ => ?_)
  exact .bind (.change _) fun _ _ => .pure trivial

/-- What goes through goes through the boundary, with an exception as a fault. -/
theorem flows_managedBoundary {code : Run (Except ManagedException α)}
    {A : Except ManagedException α → Prop} (h : code.Flows good A) (member : String) :
    (managedBoundary member code).Flows good (fun r =>
      (∃ a, r = .ok a ∧ A (.ok a)) ∨ ∃ e, r = .error (.managedFault member e)) := by
  refine .attempt h (fun r hr => ?_)
  cases r with
  | ok a => exact .pure (.inl ⟨a, rfl, hr⟩)
  | error e => exact .bind (.change _) fun _ _ => .pure (.inr ⟨e, rfl⟩)

/-- **The closing gives back a value of the type that the thunk is bound to, or a fault of managed
code**, whatever the body ended with: a value, an exception or a panic. -/
theorem Thunk.flows_closing (th : Thunk params ret) (x : Context)
    {result : Except Crash (Except ManagedException ManagedValue)}
    (hresult : result ≠ .error .tooDeep) :
    (th.closing x result).Flows good (fun r =>
      (∃ y, r = .ok y) ∨ ∃ e, r = .error (.managedFault th.method.entryPoint e)) := by
  have back : (managedBoundary th.method.entryPoint
      (Run.endFrame x result >>= Run.handBack th.method.entryPoint ret)).Flows good (fun r =>
        (∃ v, r = .ok v ∧ ∀ y, (Except.ok v : Except ManagedException _) = .ok y → y.tag = ret) ∨
        ∃ e, r = .error (.managedFault th.method.entryPoint e)) := by
    match result with
    | .ok r =>
      exact flows_managedBoundary
        (.bind (Run.flows_endFrame x r) fun r _ => Run.flows_handBack _ r) _
    | .error (.panicked p) =>
      rw [Run.endFrame, bind_assoc, managedBoundary_bind (Run.crashless_changeDomain _ _)]
      refine .bind (.change _) fun _ _ => ?_
      have hfault : managedBoundary th.method.entryPoint (Process.crash (.panicked p) >>=
          Run.handBack th.method.entryPoint ret) = (do
            Run.log .error ((panicException p).render ++ " in " ++ th.method.entryPoint)
            return .error (.managedFault th.method.entryPoint (panicException p))) := rfl
      rw [hfault]
      exact .bind (.change _) fun _ _ => .pure (.inr ⟨_, rfl⟩)
    | .error .tooDeep => exact absurd rfl hresult
  refine .bind back ?_
  rintro _ (⟨v, rfl, hv⟩ | ⟨e, rfl⟩)
  · obtain rfl := hv v rfl
    obtain ⟨y, hy⟩ : ∃ y, v.toNative v.tag = .ok y := by cases v <;> exact ⟨_, rfl⟩
    dsimp only
    rw [hy]
    exact .pure (.inl ⟨y, rfl⟩)
  · exact .pure (.inr ⟨e, rfl⟩)

/-- Where the run is too deep, the call has no end but that. -/
theorem Thunk.closing_tooDeep (th : Thunk params ret) (x : Context) :
    th.closing x (.error .tooDeep) =
      Run.changeDomain (·.abandonFrame x.frame) [.abandoned x.frame] >>=
        fun _ => .crash .tooDeep := by
  unfold closing
  rw [Run.endFrame, bind_assoc, managedBoundary_bind (Run.crashless_changeDomain _ _), bind_assoc]
  rfl

end Parts

/-! ## Calls among others

What is known of the parts, put together for a thread of an interleaving. -/

namespace Threads.Performs

variable {me : ThreadId} {t u : Threads σ α} {l : List (Threads σ α)} {e : Except Crash β}
  {p q : Process σ β}

/-- What goes on as another process performs it. -/
theorem of_goesOnAs (hpq : p.GoesOnAs t.state q) (h : t.Performs me p l e u) :
    ∃ (v : Threads σ α) (l₁ l₂ : List (Threads σ α)), l = l₁ ++ l₂ ∧
      v.Performs me q l₂ e u := by
  obtain ⟨ready, effect, next, hp, -, -, hn⟩ := hpq
  obtain ⟨k, ht, h⟩ := h
  rw [hp] at h
  generalize hc : (Course.finish e : Course σ β) = c at h
  cases h with
  | here => cases e <;> cases hc
  | enter hr ho h =>
    subst hc
    rw [hn] at ho h
    exact ⟨_, _ :: _, _, rfl, k, by rw [ho.todo, entered_todo_self], h⟩

/-- What goes through ends as it does, whatever others do. -/
theorem of_flows {A : β → Prop} (h : t.Performs me p l e u) (hp : p.Flows (fun _ => True) A) :
    ∃ b, e = .ok b ∧ A b := by
  obtain ⟨k, -, h⟩ := h
  have hend := h.flows (fun _ _ => trivial) (hp t.state trivial)
  cases e <;> exact hend

end Threads.Performs

section Calls

variable {params : List Tag} {ret : Tag} {th : Thunk params ret} {run : Runner} {me : ThreadId}
  {c : Class} {t u : Threads World α} {l : List (Threads World α)} {args : Tag.Args params}

/-- **What a call around a body ends with.** -/
theorem Threads.Performs.around {body : MethodBody} {r : Except BridgeError ret.Native}
    (h : t.Performs me (th.around run me c body args) l (.ok r) u) :
    (∃ y, r = .ok y) ∨ ∃ e, r = .error (.managedFault th.method.entryPoint e) := by
  obtain ⟨opened, v, l₁, l₂, rfl, hopening, h⟩ := h.bind
  obtain ⟨_, ho, ⟨e, rfl, -⟩ | ⟨f, vs, rfl, -⟩⟩ := hopening.of_flows (th.flows_opening c args)
  · cases ho
    exact .inr ⟨e, Except.ok.inj h.pure.1⟩
  · cases ho
    obtain ⟨result, v', l₃, l₄, rfl, -, hclosing⟩ := h.attempt
    by_cases hresult : result = .error .tooDeep
    · rw [hresult, th.closing_tooDeep] at hclosing
      obtain ⟨v'', l₅, l₆, -, -, hcrash⟩ := hclosing.change_bind
      cases hcrash.crash.1
    · obtain ⟨b, hb, hends⟩ := hclosing.of_flows (th.flows_closing _ hresult)
      cases hb
      exact hends

/-- **A thunk is for the first method** of its name and number of parameters, which is of the
types of the thunk, and is bound to the object of an instance if that method takes one. -/
theorem Thunk.exists_first {d : Domain} {name : String}
    (hfound : d.findClass? c.fullName = some c)
    (hth : (∃ o, (Instance.mk c o).thunk d name params ret = .ok th) ∨
      ∃ typeName, d.findClass? typeName = some c ∧
        Thunk.ofStatic d typeName name params ret = .ok th) :
    ∃ m, c.First name params.length (some m) ∧ m.signature = ⟨params, ret⟩ ∧
      th.method = ⟨c.fullName, name, params.length⟩ ∧
      m.kind = MemberKind.ofReceiver th.receiver ∧
      ∀ o, th.receiver = some o → (Instance.mk c o).thunk d name params ret = .ok th := by
  have hfirst := Class.findMethod?_eq_iff.1 (Eq.refl (c.findMethod? name params.length))
  obtain ⟨o, hth⟩ | ⟨typeName, htype, hth⟩ := hth
  · have hselected := (Thunk.thunk_eq hfound hfirst o).symm.trans hth
    obtain ⟨m, hm, hs, rfl⟩ := Thunk.of_ofSelected hselected
    refine ⟨m, hm ▸ hfirst, hs, rfl, Thunk.kind_eq_ofReceiver o m, fun o' ho => ?_⟩
    obtain rfl : o = o' := by
      have ho : Thunk.receiverFor o m = some o' := ho
      unfold Thunk.receiverFor at ho
      split at ho <;> cases ho
      rfl
    exact hth
  · have hselected := (Thunk.ofStatic_eq htype hfound hfirst).symm.trans hth
    obtain ⟨m, hm, hs, rfl⟩ := Thunk.of_ofSelected hselected
    obtain ⟨hm, hkind⟩ := Option.filter_eq_some_iff.1 hm
    exact ⟨m, hm ▸ hfirst, hs, rfl, of_decide_eq_true hkind, nofun⟩

end Calls

/-- **A thunk that is bound enters the body of its method once.** Let a thunk be bound at some point
of an interleaving from the start of a host on, by an instance of a class or for a static method
of a class, and let the class have its full name to itself from then on. The thunk is for the
first method of the name and number of parameters, which is of the types of the thunk and is
called on the object of the instance, if it takes one. At every later point, a call of the thunk
with any arguments
* enters no code but the body of that method, and the body once, between what it does before and
  what it does after, which are the same whatever runs the body;
* comes to the body with the receiver of the thunk and the arguments as they are, unless in one
  of the states that it comes by a handle among them has no object, or no body may run at all: it
  ends with a fault of managed code then;
* whatever the body ends with, ends with a value of the type of the thunk or with a fault of
  managed code. It does not end in a panic. -/
theorem bound_thunks_enter_once {w : World} (hw : w.domain.classes = .empty) {n : Nat}
    {code : ThreadId → NativeCode α} {t u : Threads World α}
    (ht : (w.threads n code).Reaches (fun _ => True) t) {c : Class} {name : String}
    {params : List Tag} {ret : Tag} {th : Thunk params ret}
    (hth : (∃ o, t.state.domain.classes.get? c.fullName = some c ∧
        (Instance.mk c o).thunk t.state.domain name params ret = .ok th) ∨
      ∃ typeName, t.state.domain.findClass? typeName = some c ∧
        Thunk.ofStatic t.state.domain typeName name params ret = .ok th)
    (hu : t.Reaches (World.Defines c) u) (me : ThreadId) (args : Tag.Args params) :
    ∃ m, c.First name params.length (some m) ∧ m.signature = ⟨params, ret⟩ ∧
      m.kind = MemberKind.ofReceiver th.receiver ∧
      (∀ o, th.receiver = some o →
        (Instance.mk c o).thunk t.state.domain name params ret = .ok th) ∧
      (∀ run : Runner,
        (th.call run me args).GoesOnAs u.state (th.around run me c m.body args)) ∧
      (∀ good : World → Prop, (th.opening c args).Flows good (fun r =>
        (∃ e, r = .error (.error (.managedFault th.method.entryPoint e)) ∧ ∃ s, good s ∧
          (s.domain.maxCallDepth = 0 ∨
            ∃ h, .object h ∈ Tag.boundaryArgs params args ∧ s.bridge.Unlisted h)) ∨
        ∃ f vs, r = .ok ⟨c, f, 0, ⟨th.method.entryPoint, th.receiver, vs⟩⟩ ∧ List.Forall₂
          (ManagedValue.Crosses fun o h => ∃ s, good s ∧ s.bridge.objectOf h = .ok o) vs
          (Tag.boundaryArgs params args))) ∧
      (∀ (good : World → Prop) x result, result ≠ .error .tooDeep →
        (th.closing x result).Flows good (fun r =>
          (∃ y, r = .ok y) ∨ ∃ e, r = .error (.managedFault th.method.entryPoint e))) ∧
      ∀ run l e v, u.Performs me (th.call run me args) l e v →
        (∃ y, e = .ok (.ok y)) ∨ (∃ f, e = .ok (.error (.managedFault th.method.entryPoint f))) ∨
          e = .error .tooDeep := by
  have hd := World.indexed_of_reaches hw ht
  have hc : t.state.domain.classes.get? c.fullName = some c := by
    obtain ⟨o, hc, -⟩ | ⟨typeName, hfound, -⟩ := hth
    · exact hc
    · exact hd.get?_fullName hfound
  have hfound : t.state.domain.findClass? c.fullName = some c :=
    Domain.findClass?_eq_some_iff.2 (.inl hc)
  obtain ⟨m, hm, hs, hmethod, hkind, hreceiver⟩ :=
    Thunk.exists_first hfound (hth.imp_left fun ⟨o, ho⟩ => ⟨o, ho.2⟩)
  have hcall : ∀ run : Runner,
      (th.call run me args).GoesOnAs u.state (th.around run me c m.body args) := by
    intro run
    rw [← th.callSelected_eq_around hmethod hm.name_eq hs]
    exact th.call_of_first hmethod hm hkind (ht.findClass?_of_defines hu hc) args
  refine ⟨m, hm, hs, hkind, hreceiver, hcall, fun good => th.flows_opening c args,
    fun good x result hresult => th.flows_closing x hresult, fun run l e v h => ?_⟩
  cases e with
  | ok r =>
    obtain ⟨v', l₁, l₂, -, h⟩ := h.of_goesOnAs (hcall run)
    obtain ⟨y, rfl⟩ | ⟨f, rfl⟩ := h.around
    · exact .inl ⟨y, rfl⟩
    · exact .inr (.inl ⟨f, rfl⟩)
  | error crash =>
    cases crash with
    | tooDeep => exact .inr (.inr rfl)
    | panicked p => exact absurd (th.contained_call run me args) h.contained

/-! ## A body that returns nothing

It was declared to return a string, and `null` does not cross as one. -/

/-- Where the first part of a sequence has ended over good states, the second is next. -/
theorem Course.Meets.next_of_always {P : σ → Prop} {p : Course σ α} {m : Process σ β} {γ : Type}
    {f : β → Process σ γ} {s s' s'' : σ} {b : β} (h : p.Meets P s (m >>= f) s')
    (hm : m.Ends s' (.ok b) s'') (ha : m.course.Always P s') : p.Meets P s (f b) s'' := by
  obtain ⟨k, hk⟩ := h
  rw [Process.course_bind, after_after] at hk
  exact ⟨k, hk.trans ((hm.reaches.of_forall fun q s hq => (hq.always ha).here).after _)⟩

/-- A method that returns `null` for a string. -/
def tell : Method := ⟨"Tell", ⟨[.object], .string⟩, .perInstance, fun _ => .done (.ok .null)⟩

/-- A class with the method. -/
def teller : Class where
  scope := ""
  name := "Teller"
  methods := [tell]

/-- A host with a type of objects that have handles. -/
def tellerHost : World :=
  .start (Registry.empty.addAll [.type "T" plainHooks]).2 .empty "host" 1

/-- The method, bound to an object. -/
def tellerThunk : Thunk [.object] .string := ⟨⟨"Teller", "Tell", 1⟩, some ⟨1⟩⟩

/-- The host loads the class of another assembly, and calls the method. -/
def tellingOn : NativeCode (Except BridgeError String) :=
  .perform (.provide ⟨"B", [gear]⟩) fun _ => .perform (.load "B") fun _ =>
    tellerThunk.callCode (⟨1⟩, ())

/-- Before that it loads the class, and makes an object and a handle. -/
def telling : NativeCode (Except BridgeError String) :=
  .perform (.provide ⟨"A", [teller]⟩) fun _ => .perform (.load "A") fun _ =>
    .perform (.newInstance teller) fun _ => .perform (.construct "T" ⟨7⟩) fun _ => tellingOn

/-- Where the class is loaded. -/
def tellerLoaded : World :=
  ((Run.loadAssembly "A").advance (tellerHost.onDomain (tellerHost.domain.provide
    ⟨"A", [teller]⟩))).2

/-- Where the object is made. -/
def tellerMade : World :=
  ((Run.nativeReply (.nested 2) mainThread (.newInstance teller)).advance tellerLoaded).2

/-- Where the handle is there, and the thunk is bound. -/
def tellerBound : World :=
  ((Run.construct (.nested 2) mainThread "T" ⟨7⟩).advance tellerMade).2

/-- Where the other assembly is there to be loaded. -/
def tellerProvided : World := tellerBound.onDomain (tellerBound.domain.provide ⟨"B", [gear]⟩)

/-- Where it is loaded, and the thunk is called. -/
def tellerCalled : World := ((Run.loadAssembly "B").advance tellerProvided).2

/-- The call. -/
def tellerCall : Run (Except BridgeError String) :=
  tellerThunk.call (.nested 2) mainThread (⟨1⟩, ())

theorem telling_meets : (telling.course 2 mainThread).Meets (fun _ => True) tellerHost
    (Run.runNative (.nested 2) mainThread tellingOn) tellerBound := by
  have provide : (Run.nativeReply (.nested 2) mainThread (.provide ⟨"A", [teller]⟩)).Ends
      tellerHost (.ok ()) (tellerHost.onDomain (tellerHost.domain.provide ⟨"A", [teller]⟩)) := rfl
  have load : (Run.nativeReply (.nested 2) mainThread (.load "A")).Ends
      (tellerHost.onDomain (tellerHost.domain.provide ⟨"A", [teller]⟩))
      (.ok (.ok ⟨"A", [teller]⟩)) tellerLoaded := rfl
  have make : (Run.nativeReply (.nested 2) mainThread (.newInstance teller)).Ends tellerLoaded
      (.ok (.ok ⟨1⟩)) tellerMade := rfl
  have equip : (Run.nativeReply (.nested 2) mainThread (.construct "T" ⟨7⟩)).Ends tellerMade
      (.ok (.ok (some ⟨1⟩))) tellerBound := rfl
  have start : (telling.course 2 mainThread).Meets (fun _ => True) tellerHost
      (Run.runNative (.nested 2) mainThread telling) tellerHost := .start _ trivial
  exact (((start.next provide).next load).next make).next equip

theorem tellingOn_meets : (tellingOn.course 2 mainThread).Meets (World.Defines teller) tellerBound
    tellerCall tellerCalled := by
  have hbound : World.Defines teller tellerBound := fun x hx => (Option.some.inj hx).symm
  have hprovided : World.Defines teller tellerProvided := fun x hx => (Option.some.inj hx).symm
  have hcalled : World.Defines teller tellerCalled := fun x hx => (Option.some.inj hx).symm
  have provide : (Run.nativeReply (.nested 2) mainThread (.provide ⟨"B", [gear]⟩)).Ends
      tellerBound (.ok ()) tellerProvided := rfl
  have load : (Run.nativeReply (.nested 2) mainThread (.load "B")).Ends tellerProvided
      (.ok (.ok ⟨"B", [gear]⟩)) tellerCalled := rfl
  have start : (tellingOn.course 2 mainThread).Meets (World.Defines teller) tellerBound
      (Run.runNative (.nested 2) mainThread tellingOn) tellerBound := .start _ hbound
  have call : (tellingOn.course 2 mainThread).Meets (World.Defines teller) tellerBound
      (Run.runNative (.nested 2) mainThread (tellerThunk.callCode (⟨1⟩, ()))) tellerCalled :=
    (start.next_of_always provide (And.intro hbound fun _ => hprovided)).next_of_always load
      (And.intro hprovided fun _ => And.intro hprovided fun _ => And.intro hprovided
        fun _ => hcalled)
  have hcode : Run.runNative (.nested 2) mainThread (tellerThunk.callCode (⟨1⟩, ())) =
      tellerCall := tellerThunk.runNative_callCode ..
  rwa [hcode] at call

/-- The method returns what cannot cross, and the call ends with a fault of managed code. -/
theorem bound_thunks_enter_once_teller :
    ∃ (t u : Threads World (Except BridgeError String)) (l : List _) (v : Threads World _)
      (e : ManagedException),
      (tellerHost.threads 2 fun _ => telling).Reaches (fun _ => True) t ∧
      (Instance.mk teller ⟨1⟩).thunk t.state.domain "Tell" [.object] .string = .ok tellerThunk ∧
      t.Reaches (World.Defines teller) u ∧
      tellerCall.GoesOnAs u.state
        (tellerThunk.around (.nested 2) mainThread teller tell.body (⟨1⟩, ())) ∧
      u.Performs mainThread tellerCall l (.ok (.error (.managedFault "Teller::Tell" e))) v := by
  obtain ⟨k, hk⟩ := telling_meets
  obtain ⟨k', hk'⟩ := tellingOn_meets
  obtain ⟨t, ht, hstate, htodo, -⟩ :=
    (tellerHost.threads 2 fun _ => telling).reaches_alone hk rfl
  obtain ⟨u, hu, hstate', htodo', -⟩ := t.reaches_alone (hstate.symm ▸ hk'.after k) htodo
  have hbound : (Instance.mk teller ⟨1⟩).thunk t.state.domain "Tell" [.object] .string =
      .ok tellerThunk := hstate ▸ rfl
  have hloaded : t.state.domain.classes.get? teller.fullName = some teller := hstate ▸ rfl
  obtain ⟨m, hm, -, -, -, hcall, -, -, hends⟩ := bound_thunks_enter_once rfl ht
    (.inl ⟨⟨1⟩, hloaded, hbound⟩) hu mainThread (⟨1⟩, ())
  obtain rfl : m = tell := Option.some.inj (Class.findMethod?_eq_iff.2 hm).symm
  have hend : tellerCall.Ends u.state (.ok (.error (.managedFault "Teller::Tell"
      ⟨ManagedException.nullReference, "null cannot cross into native code", []⟩)))
      (tellerCall.advance tellerCalled).2 := by
    rw [hstate']
    rfl
  rw [Course.after_after] at htodo'
  obtain ⟨l, v, hperforms, -⟩ := Threads.performs_alone htodo' hend
  obtain ⟨y, hy⟩ | ⟨f, hf⟩ | hdeep := hends _ l _ v hperforms
  · cases hy
  · exact ⟨t, u, l, v, f, ht, hbound, hu, hcall _, hf ▸ hperforms⟩
  · cases hdeep

end HostBridge
