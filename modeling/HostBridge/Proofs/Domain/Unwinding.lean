import HostBridge.Proofs.Bridge.Calls
import HostBridge.Proofs.Domain.Idle
import HostBridge.Proofs.Passage

/-!
# How far a panic unwinds

Native code runs behind a boundary wherever the bridge enters it, and so does a managed method
that native code calls. None of these operations ends in a panic, whatever the code does that
they enter and whatever other threads do meanwhile (`contained_nativeReply`): the panic has
become a fault.

Two ways from native into managed code have no boundary. The creation of an instance panics
exactly if it runs a constructor that does (`newInstance_panics_iff`, `newObject_panics_iff`). A
collection panics exactly if it runs a finalizer that does, and then it does not come to the
objects that were next (`collect_panics_iff`).

That an operation does not panic is a property of its course (`Course.Contained`), which does not
speak of states: every course that it may take ends otherwise. It follows from the boundary alone,
so the operations are gone through without a word about what they do. That an operation does
panic is about one run. The equivalences therefore say from which state the body started, and
what the panic leaves of the frame.
-/

namespace HostBridge

variable {σ α β : Type} {me : ThreadId} {run : Runner} {w w' v : World} {q : Panic}

/-! ## What does not panic

Parts that run no code are contained, and so is what stands behind an attempt. -/

/-- **A course is contained**: it does not end in a panic, whatever the states are that its
sections find. -/
def Course.Contained : Course σ α → Prop
  | done _ => True
  | crash c => c = .tooDeep
  | step ready _ next => ∀ s, ready s = true → (next s).Contained

namespace Course.Contained

variable {p : Course σ α} {k : Except Crash α → Course σ β}

/-- What goes on after a crash, too, is contained as soon as that is which goes on. -/
theorem after_any (p : Course σ α) (hk : ∀ r, (k r).Contained) : (p.after k).Contained := by
  induction p with
  | done a => exact hk _
  | crash c => exact hk _
  | step ready effect next ih => exact fun s _ => ih s

theorem after (hp : p.Contained) (hk : ∀ a, (k (.ok a)).Contained)
    (hc : (k (.error .tooDeep)).Contained) : (p.after k).Contained := by
  induction p with
  | done a => exact hk a
  | crash c =>
    cases hp
    exact hc
  | step ready effect next ih => exact fun s hs => ih s (hp s hs)

theorem reaches {r : Course σ α} {P : σ → Prop} {s s' : σ} (hp : p.Contained)
    (h : p.Reaches P s r s') : r.Contained := by
  induction h with
  | here hs => exact hp
  | enter h hr hs ih => exact ih _ hr

end Course.Contained

namespace Process

variable {p : Process σ α} {f : α → Process σ β}

theorem contained_bind (hp : p.course.Contained) (hf : ∀ a, (f a).course.Contained) :
    (p >>= f).course.Contained := by
  rw [course_bind]
  exact hp.after hf rfl

theorem contained_attempt {k : Except Crash α → Process σ β}
    (hk : ∀ r, (k r).course.Contained) : (p.attempt >>= k).course.Contained := by
  rw [course_bind, course_attempt, Course.after_after]
  exact .after_any _ hk

theorem contained_exchangeWhen (ready : σ → Bool) (g : σ → α × σ) :
    (exchangeWhen ready g).course.Contained := fun _ _ => trivial

theorem contained_ask (g : σ → α) : (ask g).course.Contained := fun _ _ => trivial

theorem contained_change (g : σ → σ) : (change g).course.Contained := fun _ _ => trivial

/-- What is contained does not end in a panic. -/
theorem Ends.contained {s s' : σ} (h : p.Ends s (.error (.panicked q)) s') :
    ¬p.course.Contained := fun hp => by
  cases hp.reaches h.reaches

end Process

/-- **Other threads do not make a process panic** that is contained. -/
theorem Threads.Performs.contained {t u : Threads σ α} {p : Process σ β} {l : List (Threads σ α)}
    (h : t.Performs me p l (.error (.panicked q)) u) : ¬p.course.Contained := by
  intro hp
  obtain ⟨k, -, h⟩ := h
  generalize p.course = c at h hp
  generalize hr : (Course.finish (.error (.panicked q)) : Course σ β) = r at h
  induction h with
  | here =>
    subst hr
    cases hp
  | enter hready ho h ih => exact ih (hp _ hready) hr

/-! ## The bridge is contained

The operations of the bridge that enter hooks and implementations. -/

/-- The discipline that asks for nothing. -/
def Discipline.lax : Discipline World Unit where
  inv := fun _ _ => True
  within := fun _ => True
  demand := fun _ _ _ => True

/-- The conduct that allows everything. -/
def Conduct.lax : Conduct Unit where
  rel := fun _ _ => True
  trans := fun _ _ => trivial
  right := fun _ => trivial

theorem Discipline.lax_heedless : Discipline.lax.Heedless :=
  ⟨fun _ _ => trivial, fun _ => trivial⟩

theorem Process.keeps_lax (p : Run α) (me : ThreadId) :
    p.Keeps Discipline.lax Conduct.lax me := by
  intro x _
  unfold Process.Follows
  induction p.course with
  | done a => exact .inr trivial
  | crash c => exact .inr trivial
  | step ready effect next ih => exact fun s _ _ _ _ _ _ => ⟨trivial, x, trivial, ih s⟩

theorem Runner.keeps_lax (run : Runner) (me : ThreadId) :
    run.Keeps (Discipline.lax.manners Conduct.lax) me :=
  ⟨fun _ _ => Process.keeps_lax _ me, fun _ _ => Process.keeps_lax _ me⟩

/-- **What settles is contained**, be it under the discipline that asks for nothing. -/
theorem Process.Settles.contained {p : Run α} (hp : p.Settles Discipline.lax Conduct.lax me) :
    p.course.Contained := by
  have h := hp () trivial
  unfold Process.Follows at h
  generalize p.course = c at h
  induction c with
  | done a => trivial
  | crash c =>
    obtain hc | ⟨⟨a, ha⟩, -⟩ := h
    · cases hc
      rfl
    · cases ha
  | step ready effect next ih =>
    intro s hs
    obtain ⟨-, y, -, hn⟩ := h s (fun _ => ()) trivial rfl trivial hs trivial
    exact ih s hn

/-! ## The boundary of managed code

Calls of methods by native code, and with them all operations but two. -/

section Boundary

variable {code : Run (Except ManagedException α)} {member : String}

/-- **The boundary contains whatever it is put around.** -/
theorem contained_managedBoundary (member : String) (code : Run (Except ManagedException α)) :
    (managedBoundary member code).course.Contained := by
  refine Process.contained_attempt (fun r => ?_)
  match r with
  | .ok (.ok a) => trivial
  | .ok (.error e) => exact fun _ _ => trivial
  | .error (.panicked q) => exact fun _ _ => trivial
  | .error .tooDeep => rfl

/-- **An exception comes back as a fault** that names the entry point, and is logged. -/
theorem Process.Ends.managedBoundary_error {e : ManagedException}
    (h : code.Ends w (.ok (.error e)) v) : (managedBoundary member code).Ends w
      (.ok (.error (.managedFault member e)))
      (v.record (.log .warn ("Managed exception escaped " ++ member ++ ": " ++ e.render))) :=
  h.attempt ((Process.Ends.change _ _).bind (.pure _ _))

end Boundary

/-- **A call of a thunk does not end in a panic**, whatever the method does. -/
theorem Thunk.contained_call {params : List Tag} {ret : Tag} (th : Thunk params ret)
    (run : Runner) (me : ThreadId) (args : Tag.Args params) :
    (th.call run me args).course.Contained := by
  refine Process.contained_bind (contained_managedBoundary _ _) (fun r => ?_)
  cases r <;> trivial

/-- **Of all that native code may ask for, only two things panic**: the creation of an
instance and a collection. -/
theorem contained_nativeReply (run : Runner) (me : ThreadId) (op : NativeOp)
    (hnew : ∀ c, op ≠ .newInstance c) (hcollect : op ≠ .collect) :
    (Run.nativeReply run me op).course.Contained := by
  have hD := Discipline.lax_heedless
  have hrun := run.keeps_lax me
  cases op with
  | note line => exact Process.contained_change _
  | state o =>
    refine Process.contained_bind (Process.contained_ask _) (fun h? => ?_)
    cases h? with
    | some h => exact Process.contained_ask _
    | none => trivial
  | liveCount => exact Process.contained_ask _
  | handleOf o =>
    refine Process.contained_bind (Process.contained_ask _) (fun h? => ?_)
    cases h? with
    | some h => exact Process.contained_ask _
    | none => trivial
  | objectOf h => exact Process.contained_ask _
  | useResource h kind update =>
    have hsettles : (Run.useResource h kind update).Settles Discipline.lax Conduct.lax me :=
      hD.useResource h kind update
    exact hsettles.contained
  | destroy o => exact (hD.destroy hrun o).contained
  | release h =>
    refine Process.contained_bind (Process.contained_ask _) (fun r? => ?_)
    cases r? with
    | some r => exact (hD.destroyRecord hrun h).contained
    | none => trivial
  | forget o => exact Process.contained_change _
  | construct typeName o => exact (hD.construct hrun typeName o).contained
  | invoke m receiver args => exact (hD.invoke hrun m receiver args).contained
  | beginCall o m => exact (hD.beginCall o m).contained
  | endCall h => exact (hD.endCall hrun h).contained
  | enter m receiver args => exact contained_managedBoundary _ _
  | provide i => exact Process.contained_change _
  | load name =>
    refine Process.contained_bind (Process.contained_ask _) (fun i? => ?_)
    cases i? with
    | none => trivial
    | some i =>
      refine Process.contained_bind (Process.contained_ask _) (fun r => ?_)
      split
      · trivial
      · exact Process.contained_bind (Process.contained_change _) (fun _ => trivial)
  | newInstance c => exact absurd rfl (hnew c)
  | dropInstance o => exact Process.contained_exchangeWhen _ _
  | collect => exact absurd rfl hcollect
  | objectCount => exact Process.contained_ask _

/-! ## The ways without a boundary

Bodies, constructions and collections, from the inside out. -/

section Unwinding

variable {c : Class} {name : String} {body : MethodBody} {receiver : Option ObjectId}
  {args : List ManagedValue} {depth : Nat}

theorem contained_releaseLocals (f : FrameId) (n : Nat) :
    (Run.releaseLocals f n).course.Contained := by
  induction n with
  | zero => trivial
  | succ n ih => exact Process.contained_bind (Process.contained_change _) (fun _ => ih)

/-- **A body panics exactly if its code does** in the frame that was opened for it. The frame
is abandoned. -/
theorem runBody_panics_iff :
    (Run.runBody run me c name body receiver args depth).Ends w (.error (.panicked q)) w' ↔
      depth < w.domain.maxCallDepth ∧ ∃ v,
        (run.managed me ⟨c, w.domain.nextFrame, depth, ⟨name, receiver, args⟩⟩
          (body ⟨name, receiver, args⟩)).Ends
          ((w.onDomain (w.domain.openFrame name receiver).2).record (.body name receiver args))
          (.error (.panicked q)) v ∧
        w' = v.onDomain (v.domain.abandonFrame w.domain.nextFrame)
          [.abandoned w.domain.nextFrame] := by
  have limit : (Run.askDomain Domain.maxCallDepth).Ends w (.ok w.domain.maxCallDepth) w :=
    .ask _ w
  have opens : (Run.onDomain (·.openFrame name receiver)).Ends w (.ok w.domain.nextFrame)
      (w.onDomain (w.domain.openFrame name receiver).2) := .exchange _ w
  constructor
  · intro h
    have h := h.rest limit
    split at h
    · cases h
    next hdepth =>
    refine ⟨Nat.lt_of_not_le hdepth, ?_⟩
    obtain ⟨e, v, hcode, h⟩ := ((h.rest opens).rest (.change _ _)).of_attempt_bind
    cases e with
    | error crash =>
      cases h
      exact ⟨v, hcode, rfl⟩
    | ok result =>
      -- a body that has ended lets go of what its frame keeps, and this does not panic
      refine absurd ?_ h.contained
      exact Process.contained_bind (Process.contained_ask _) (fun _ =>
        Process.contained_bind (contained_releaseLocals _ _) (fun _ =>
          Process.contained_bind (Process.contained_change _) (fun _ => trivial)))
  · rintro ⟨hdepth, v, hcode, rfl⟩
    refine limit.bind ?_
    rw [if_neg (Nat.not_le.2 hdepth)]
    exact opens.bind ((Process.Ends.change _ _).bind
      (hcode.attempt ((Process.Ends.change _ _).bind rfl)))

/-! ### Constructions

The native side is constructed behind a boundary. The managed constructor is not, so it is the
only part of the construction of an object that can panic. -/

/-- **The creation of an object panics exactly if the constructor does** that is run when the
native side of the object is there. The object stays on the heap with the root of its
allocation, which belongs to nobody. -/
theorem newObject_panics_iff :
    (Run.newObject run me c depth).Ends w (.error (.panicked q)) w' ↔
      ∃ body h v v', c.constructor = some body ∧
        (Run.construct run me c.fullName (w.domain.allocate c).1).Ends
          (w.onDomain (w.domain.allocate c).2 [.allocated (w.domain.allocate c).1])
          (.ok (.ok h)) v ∧
        (Run.runBody run me c c.constructorFrame body (some (w.domain.allocate c).1) []
          depth).Ends v (.error (.panicked q)) v' ∧
        w' = v'.onDomain (v'.domain.abandonAllocation (w.domain.allocate c).1) := by
  have allocates : (Run.onDomain (·.allocate c) (fun o => [.allocated o])).Ends w
      (.ok (w.domain.allocate c).1)
      (w.onDomain (w.domain.allocate c).2 [.allocated (w.domain.allocate c).1]) := .exchange _ w
  constructor
  · intro h
    obtain ⟨built, v, hconstruct, h⟩ | ⟨crash, hcrash, hconstruct⟩ := (h.rest allocates).of_bind
    · cases built with
      | error e => cases h
      | ok handle =>
        dsimp only [Run.runConstructor] at h
        split at h
        · cases h
        next body hbody =>
        obtain ⟨e, v', hrun, h⟩ := h.of_attempt_bind
        match e with
        | .error crash =>
          cases h
          exact ⟨body, handle, v, v', hbody, hconstruct, hrun, rfl⟩
        | .ok (.error e) => cases h
        | .ok (.ok value) => cases h
    · cases hcrash
      exact absurd (Discipline.lax_heedless.construct (run.keeps_lax me) _ _).contained
        hconstruct.contained
  · rintro ⟨body, handle, v, v', hbody, hconstruct, hrun, rfl⟩
    refine allocates.bind (hconstruct.bind ?_)
    dsimp only [Run.runConstructor]
    rw [hbody]
    exact hrun.attempt ((Process.Ends.change _ _).bind rfl)

/-- **The creation of an instance by native code is not behind the boundary**: it panics exactly
if the native side of the object was constructed and the code of the constructor panics then, in
the first frame of a thread. The panic leaves the frame and the object behind. -/
theorem newInstance_panics_iff :
    (Run.newInstance run me c).Ends w (.error (.panicked q)) w' ↔
      ∃ body h v u, c.constructor = some body ∧
        (Run.construct run me c.fullName (w.domain.allocate c).1).Ends
          (w.onDomain (w.domain.allocate c).2 [.allocated (w.domain.allocate c).1])
          (.ok (.ok h)) v ∧
        0 < v.domain.maxCallDepth ∧
        (run.managed me
          ⟨c, v.domain.nextFrame, 0, ⟨c.constructorFrame, some (w.domain.allocate c).1, []⟩⟩
          (body ⟨c.constructorFrame, some (w.domain.allocate c).1, []⟩)).Ends
          ((v.onDomain (v.domain.openFrame c.constructorFrame
            (some (w.domain.allocate c).1)).2).record
              (.body c.constructorFrame (some (w.domain.allocate c).1) []))
          (.error (.panicked q)) u ∧
        w' = (u.onDomain (u.domain.abandonFrame v.domain.nextFrame)
          [.abandoned v.domain.nextFrame]).onDomain
            ((u.domain.abandonFrame v.domain.nextFrame).abandonAllocation
              (w.domain.allocate c).1) := by
  have hobject : (Run.newInstance run me c).Ends w (.error (.panicked q)) w' ↔
      (Run.newObject run me c 0).Ends w (.error (.panicked q)) w' := by
    refine ⟨fun h => ?_, fun h => h.bind_crash⟩
    obtain ⟨made, v, -, h⟩ | ⟨crash, hcrash, h⟩ := h.of_bind
    · cases made <;> cases h
    · cases hcrash
      exact h
  rw [hobject, newObject_panics_iff]
  constructor
  · rintro ⟨body, h, v, v', hbody, hconstruct, hpanic, rfl⟩
    obtain ⟨hdepth, u, hcode, rfl⟩ := runBody_panics_iff.1 hpanic
    exact ⟨body, h, v, u, hbody, hconstruct, hdepth, hcode, rfl⟩
  · rintro ⟨body, h, v, u, hbody, hconstruct, hdepth, hcode, rfl⟩
    exact ⟨body, h, v, _, hbody, hconstruct, runBody_panics_iff.2 ⟨hdepth, u, hcode, rfl⟩, rfl⟩

/-- A class whose constructor panics, and whose finalizer does. -/
def explosive (atStart atEnd : Bool) : Class where
  scope := ""
  name := "T"
  constructor := if atStart then some fun _ => .panic (.text "boom") else none
  finalizer := if atEnd then some fun _ => .panic (.text "boom") else none

/-- Where the constructor has panicked. -/
def explodedMaking : World :=
  ((Run.newInstance (.nested 1) mainThread (explosive true false)).advance plainHost).2

/-- The panic of the constructor comes out where native code asked for the instance. -/
theorem newInstance_panics_explosive :
    (Run.newInstance (.nested 1) mainThread (explosive true false)).Ends plainHost
      (.error (.panicked (.text "boom"))) explodedMaking := rfl

/-! ### Collections

What is behind a collection besides the finalizer is contained. The panic is that of a finalizer,
and of the first one that panics. -/

/-- **An object is freed with a panic exactly if its finalizer panics**, which is before its
native side is destroyed. -/
theorem reclaim_panics_iff {o : ObjectId} :
    (Run.reclaim run me o c).Ends w (.error (.panicked q)) w' ↔
      ∃ body, c.finalizer = some body ∧
        (Run.runBody run me c c.finalizerFrame body (some o) [] 0).Ends
          (w.record (.visited o)) (.error (.panicked q)) w' := by
  have visits : (Run.record (.visited o)).Ends w (.ok ()) (w.record (.visited o)) := .change _ w
  have hfree : (Run.free run me o).course.Contained :=
    Process.contained_bind (Process.contained_change _) (fun _ =>
      Process.contained_bind
        (Discipline.lax_heedless.destroy (run.keeps_lax me) o).contained (fun _ =>
          Process.contained_bind (Process.contained_change _) (fun _ =>
            Process.contained_change _)))
  constructor
  · intro h
    obtain ⟨-, v, -, h⟩ | ⟨crash, hcrash, h⟩ := h.of_bind
    · exact absurd hfree h.contained
    cases hcrash
    have h := h.rest visits
    split at h
    · cases h
    next body hbody =>
    refine ⟨body, hbody, ?_⟩
    obtain ⟨ended, v, -, h⟩ | ⟨crash, hcrash, h⟩ := h.of_bind
    · cases ended <;> cases h
    · cases hcrash
      exact h
  · rintro ⟨body, hbody, h⟩
    refine Process.Ends.bind_crash (visits.bind ?_)
    rw [hbody]
    exact h.bind_crash

theorem reclaimAll_panics_iff {l : List (ObjectId × Class)} :
    (Run.reclaimAll run me l).Ends w (.error (.panicked q)) w' ↔
      ∃ before o c after v, l = before ++ (o, c) :: after ∧
        (Run.reclaimAll run me before).Ends w (.ok ()) v ∧
        (Run.reclaim run me o c).Ends v (.error (.panicked q)) w' := by
  induction l generalizing w with
  | nil =>
    refine ⟨nofun, ?_⟩
    rintro ⟨before, o, c, after, v, hl, -⟩
    exact absurd hl.symm (by simp)
  | cons x rest ih =>
    obtain ⟨o, c⟩ := x
    constructor
    · intro h
      obtain ⟨⟨⟩, u, hfirst, h⟩ | ⟨crash, hcrash, h⟩ := h.of_bind
      · obtain ⟨before, o', c', after, v, rfl, hbefore, h⟩ := ih.1 h
        exact ⟨(o, c) :: before, o', c', after, v, rfl, hfirst.bind hbefore, h⟩
      · cases hcrash
        exact ⟨[], o, c, rest, w, rfl, .pure _ _, h⟩
    · rintro ⟨before, o', c', after, v, hl, hbefore, h⟩
      cases before with
      | nil =>
        cases hl
        cases hbefore
        exact h.bind_crash
      | cons y before =>
        cases hl
        obtain ⟨⟨⟩, u, hfirst, hbefore⟩ := hbefore.of_bind_ok
        exact hfirst.bind (ih.2 ⟨before, o', c', after, v, rfl, hbefore, h⟩)

/-- **A collection is not behind the boundary**: it panics exactly if the finalizer of an
object does that it comes to. All that it has taken is marked by then, and what comes after
that object is not freed. -/
theorem collect_panics_iff :
    (Run.collect run me).Ends w (.error (.panicked q)) w' ↔
      ∃ before o c after v body, w.domain.takeGarbage.1 = before ++ (o, c) :: after ∧
        (Run.reclaimAll run me before).Ends (w.onDomain w.domain.takeGarbage.2) (.ok ()) v ∧
        c.finalizer = some body ∧
        (Run.runBody run me c c.finalizerFrame body (some o) [] 0).Ends
          (v.record (.visited o)) (.error (.panicked q)) w' := by
  have takes : (Run.onDomain Domain.takeGarbage).Ends w (.ok w.domain.takeGarbage.1)
      (w.onDomain w.domain.takeGarbage.2) := .exchange _ w
  constructor
  · intro h
    obtain ⟨-, v, -, h⟩ | ⟨crash, hcrash, h⟩ := (h.rest takes).of_bind
    · cases h
    cases hcrash
    obtain ⟨before, o, c, after, v, hl, hbefore, h⟩ := reclaimAll_panics_iff.1 h
    obtain ⟨body, hbody, h⟩ := reclaim_panics_iff.1 h
    exact ⟨before, o, c, after, v, body, hl, hbefore, hbody, h⟩
  · rintro ⟨before, o, c, after, v, body, hl, hbefore, hbody, h⟩
    exact takes.bind (Process.Ends.bind_crash (reclaimAll_panics_iff.2
      ⟨before, o, c, after, v, hl, hbefore, reclaim_panics_iff.2 ⟨body, hbody, h⟩⟩))

/-- Where an object is garbage whose finalizer panics. -/
def explosiveDropped : World :=
  ((Run.runNative (.nested 2) mainThread (do
    let _ ← NativeCode.op (.newInstance (explosive false true))
    NativeCode.op (.dropInstance ⟨1⟩))).advance plainHost).2

/-- Where its finalizer has panicked. -/
def explodedCollecting : World :=
  ((Run.collect (.nested 1) mainThread).advance explosiveDropped).2

/-- The panic of the finalizer comes out where native code asked for the collection. -/
theorem collect_panics_explosive :
    (Run.collect (.nested 1) mainThread).Ends explosiveDropped
      (.error (.panicked (.text "boom"))) explodedCollecting := rfl

end Unwinding

end HostBridge
