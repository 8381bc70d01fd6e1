import HostBridge.Proofs.Interleaving

/-!
# Code that does the same

Two courses are **alike** for a kind of states when they enter the same sections and come
to the same end, whatever states of the kind they find (`Course.Alike`). Alike threads
have the same interleavings (`Threads.Alike.reaches`).

What the operations of the bridge and of the domain do depends on how code is run only
through the code that they enter. So runners that run it alike have all operations done
alike (`Runner.Alike`), where a runner of managed code is asked for bodies of one depth
only: those that are entered from native code, and those that a body calls itself.

The notion serves one purpose: to compare a program with another that has something done to
it, section by section. An equation of processes would say too much, since the two may differ
in states that never come up. The kind of states is where that is said; here it is that the
domain has a certain limit of depth, and so a runner that would go wrong beyond that limit is
as good as one that would not.
-/

namespace HostBridge

variable {σ α β : Type}

/-- **Courses that do the same** from states of a kind on. -/
inductive Course.Alike (P : σ → Prop) : Course σ α → Course σ α → Prop
  | done (a : α) : Alike P (.done a) (.done a)
  | crash (c : Crash) : Alike P (.crash c) (.crash c)
  | step (ready : σ → Bool) (effect : σ → σ) {next next' : σ → Course σ α}
      (h : ∀ s, P s → Alike P (next s) (next' s)) :
      Alike P (.step ready effect next) (.step ready effect next')

/-- **Processes that do the same** from states of a kind on. -/
def Process.Alike (P : σ → Prop) (p p' : Process σ α) : Prop := p.course.Alike P p'.course

namespace Course.Alike

variable {P : σ → Prop}

/-- A course does the same as itself. -/
theorem refl (p : Course σ α) : p.Alike P p := by
  induction p with
  | done a => exact .done a
  | crash c => exact .crash c
  | step ready effect next ih => exact .step _ _ (fun s _ => ih s)

/-- To do the same is mutual. -/
theorem symm {p p' : Course σ α} (h : p.Alike P p') : p'.Alike P p := by
  induction h with
  | done a => exact .done a
  | crash c => exact .crash c
  | step ready effect h ih => exact .step _ _ ih

/-- What follows courses that do the same has to do the same. -/
theorem after {p p' : Course σ α} {k k' : Except Crash α → Course σ β} (h : p.Alike P p')
    (hk : ∀ r, (k r).Alike P (k' r)) : (p.after k).Alike P (p'.after k') := by
  induction h with
  | done a => exact hk _
  | crash c => exact hk _
  | step ready effect h ih => exact .step _ _ (fun s hs => ih s hs)

end Course.Alike

namespace Process.Alike

variable {P : σ → Prop}

theorem refl (p : Process σ α) : p.Alike P p := Course.Alike.refl _

/-- **Sequences do the same** whose parts do. -/
theorem bind {p p' : Process σ α} {f f' : α → Process σ β} (h : p.Alike P p')
    (hf : ∀ a, (f a).Alike P (f' a)) : (p >>= f).Alike P (p' >>= f') := by
  unfold Process.Alike
  rw [course_bind, course_bind]
  refine Course.Alike.after h (fun r => ?_)
  cases r with
  | ok a => exact hf a
  | error c => exact .crash c

/-- What follows one process that is the same. -/
theorem next {p : Process σ α} {f f' : α → Process σ β} (hf : ∀ a, (f a).Alike P (f' a)) :
    (p >>= f).Alike P (p >>= f') := bind (refl p) hf

/-- What follows an attempt has to do the same for each of its ends, crashes included. -/
theorem attempt {p p' : Process σ α} {f f' : Except Crash α → Process σ β} (h : p.Alike P p')
    (hf : ∀ r, (f r).Alike P (f' r)) : (p.attempt >>= f).Alike P (p'.attempt >>= f') := by
  refine bind ?_ hf
  unfold Process.Alike
  rw [course_attempt, course_attempt]
  exact Course.Alike.after h (fun r => .refl _)

/-- What follows a question may go by the answer. -/
theorem ask {f : σ → α} {k k' : α → Process σ β} (h : ∀ s, P s → (k (f s)).Alike P (k' (f s))) :
    (Process.ask f >>= k).Alike P (Process.ask f >>= k') :=
  .step _ _ h

end Process.Alike

/-! ## Threads

The states are compared for equality, and only the courses for likeness: what one interleaving
comes to the other does, section by section. -/

namespace Threads

/-- **Threads that do the same** from states of a kind on. -/
structure Alike (P : σ → Prop) (t t' : Threads σ α) : Prop where
  state : t'.state = t.state
  todo : ∀ me, (t.todo me).Alike P (t'.todo me)

variable {P : σ → Prop} {t t' : Threads σ α}

theorem Alike.symm (h : t.Alike P t') : t'.Alike P t where
  state := h.state.symm
  todo := fun me => (h.todo me).symm

/-- A section that one thread enters, its like can enter. -/
theorem Alike.enter (h : t.Alike P t') (hs : P t.state) {me : ThreadId} {ready : σ → Bool}
    {effect : σ → σ} {next : σ → Course σ α} (ht : t.todo me = .step ready effect next) :
    ∃ next', t'.todo me = .step ready effect next' ∧
      Alike P ⟨effect t.state, Function.update t.todo me (next t.state)⟩
        ⟨effect t'.state, Function.update t'.todo me (next' t'.state)⟩ := by
  have hme := h.todo me
  rw [ht] at hme
  generalize hq : t'.todo me = q at hme
  cases hme with
  | step _ _ hnext =>
    refine ⟨_, rfl, ⟨by rw [h.state], fun you => ?_⟩⟩
    by_cases hyou : you = me
    · subst hyou
      simp only [Function.update_self, h.state]
      exact hnext _ hs
    · simp only [Function.update_of_ne hyou]
      exact h.todo you

/-- **Alike threads have the same interleavings**, if all states of one of them are of the
kind. -/
theorem Alike.reaches (h : t.Alike P t') (hP : ∀ u, t.Reaches (fun _ => True) u → P u.state) :
    (∀ u, t.Reaches (fun _ => True) u → ∃ u', t'.Reaches (fun _ => True) u' ∧ u.Alike P u') ∧
      ∀ u', t'.Reaches (fun _ => True) u' → ∃ u, t.Reaches (fun _ => True) u ∧ u.Alike P u' := by
  refine ⟨fun u hu => ?_, fun u' hu' => ?_⟩
  · induction hu with
    | here hs => exact ⟨t', .here trivial, h⟩
    | enter hu hstep hr hs ih =>
      obtain ⟨u', hu', halike⟩ := ih
      obtain ⟨next', hstep', halike'⟩ := halike.enter (hP _ hu) hstep
      exact ⟨_, hu'.enter hstep' (halike.state ▸ hr) trivial, halike'⟩
  · induction hu' with
    | here hs => exact ⟨t, .here trivial, h⟩
    | enter hu' hstep hr hs ih =>
      obtain ⟨u, hu, halike⟩ := ih
      have hs : P _ := halike.state ▸ hP u hu
      obtain ⟨next', hstep', halike'⟩ := halike.symm.enter hs hstep
      exact ⟨_, hu.enter hstep' (halike.state ▸ hr) trivial, halike'.symm⟩

end Threads

/-! ## Operations

One lemma for each operation, on the one condition that it enters code through its runner. -/

/-- **Runners that run code alike** on a thread: native code, and managed code of bodies that
are nested in so many others, if `limit` bodies may be nested. -/
structure Runner.Alike (P : World → Prop) (limit depth : Nat) (me : ThreadId)
    (run run' : Runner) : Prop where
  native : ∀ {α : Type} (code : NativeCode α), (run.native me code).Alike P (run'.native me code)
  managed : ∀ {α : Type} (x : Context) (code : ManagedCode α), x.depth = depth → depth < limit →
    (run.managed me x code).Alike P (run'.managed me x code)

namespace Runner.Alike

variable {P : World → Prop} {limit depth : Nat} {me : ThreadId} {run run' : Runner}
  (hrun : run.Alike P limit depth me run')

/-- Guarded code is run alike if the code is. -/
theorem catchNative {ε : Type} {member : String} {ofFault : NativeFault → ε}
    {code code' : Run (Except ε α)} (h : code.Alike P code') :
    (HostBridge.catchNative member ofFault code).Alike P
      (HostBridge.catchNative member ofFault code') :=
  .attempt h (fun _ => .refl _)

/-- The boundary is the same around code that is run alike. -/
theorem managedBoundary {member : String} {code code' : Run (Except ManagedException α)}
    (h : code.Alike P code') :
    (HostBridge.managedBoundary member code).Alike P
      (HostBridge.managedBoundary member code') :=
  .attempt h (fun _ => .refl _)

include hrun

/-! ### The bridge

Hooks and implementations are native code, which is run alike at any depth. -/

/-- A construction is done alike. -/
theorem attach (o : ObjectId) (typeName : String) (hooks : Hooks) :
    (Run.attach run me o typeName hooks).Alike P (Run.attach run' me o typeName hooks) := by
  refine .next (fun h => .next (fun result => ?_))
  cases result with
  | error state => exact .refl _
  | ok u => exact .bind (catchNative (.next (fun _ => hrun.native _))) (fun _ => .refl _)

theorem construct (typeName : String) (o : ObjectId) :
    (Run.construct run me typeName o).Alike P (Run.construct run' me typeName o) := by
  refine .next (fun registry => ?_)
  split
  · exact .bind (hrun.attach _ _ _) (fun _ => .refl _)
  · exact .refl _

theorem finishDestroy (h : Handle) :
    (Run.finishDestroy run me h).Alike P (Run.finishDestroy run' me h) := by
  refine .next (fun _ => .next (fun resource => .next (fun record? => ?_)))
  split
  · exact .bind (catchNative (.next (fun _ => .bind (hrun.native _) (fun _ => .refl _))))
      (fun _ => .refl _)
  · exact .refl _

/-- A request for destruction is done alike. -/
theorem destroyRecord (h : Handle) :
    (Run.destroyRecord run me h).Alike P (Run.destroyRecord run' me h) := by
  refine .next (fun verdict => ?_)
  cases verdict with
  | accepted => exact .next (fun _ => .bind (hrun.finishDestroy h) (fun _ => .refl _))
  | _ => exact .refl _

theorem destroy (o : ObjectId) : (Run.destroy run me o).Alike P (Run.destroy run' me o) := by
  refine .next (fun h? => ?_)
  cases h? with
  | some h => exact hrun.destroyRecord h
  | none => exact .refl _

theorem release (h : Handle) : (Run.release run me h).Alike P (Run.release run' me h) := by
  refine .next (fun r? => ?_)
  cases r? with
  | some r => exact hrun.destroyRecord h
  | none => exact .refl _

/-- The end of a call is done alike. -/
theorem leave (h : Handle) : (Run.leave run me h).Alike P (Run.leave run' me h) := by
  refine .next (fun last => ?_)
  split
  · exact hrun.finishDestroy h
  · exact .refl _

theorem endCall (h : Handle) : (Run.endCall run me h).Alike P (Run.endCall run' me h) := by
  refine .next (fun kept => ?_)
  split
  · exact .bind (hrun.leave h) (fun _ => .refl _)
  · exact .refl _

theorem runCall (m : Member) (c : NativeCall) (args : List BoundaryValue) :
    (Run.runCall run me m c args).Alike P (Run.runCall run' me m c args) :=
  catchNative (.next (fun _ => hrun.native _))

/-- A call of a bound member is done alike. -/
theorem invoke (m : Member) (receiver : Option ObjectId) (args : List BoundaryValue) :
    (Run.invoke run me m receiver args).Alike P (Run.invoke run' me m receiver args) := by
  refine .next (fun registry => ?_)
  split
  · exact .refl _
  split
  · cases receiver with
    | none => exact .refl _
    | some o =>
      refine .next (fun result => ?_)
      cases result with
      | error e => exact .refl _
      | ok h => exact .bind (hrun.runCall _ _ _) (fun _ => .bind (hrun.leave h) (fun _ => .refl _))
  · exact .bind (hrun.runCall _ _ _) (fun _ => .refl _)

/-- A call from managed into native code is done alike. -/
theorem callExtern (m : Member) (receiver : Option ObjectId) (args : List ManagedValue) :
    (Run.callExtern run me m receiver args).Alike P (Run.callExtern run' me m receiver args) := by
  refine .next (fun r => ?_)
  cases r with
  | error e => exact .refl _
  | ok xs => exact .bind (hrun.invoke _ _ _) (fun _ => .refl _)

/-! ### The domain

Managed code is run by a frame, and a frame has a depth. -/

variable (hP : ∀ w : World, P w → w.domain.maxCallDepth = limit)

include hP

/-- **A body is run alike**, because it is not run when it is nested too deeply. -/
theorem runBody (c : Class) (name : String) (body : MethodBody) (receiver : Option ObjectId)
    (args : List ManagedValue) :
    (Run.runBody run me c name body receiver args depth).Alike P
      (Run.runBody run' me c name body receiver args depth) := by
  refine .ask (fun w hw => ?_)
  rw [hP w hw]
  split
  · exact .refl _
  · next hdepth =>
    exact .next (fun f => .next (fun _ =>
      .attempt (hrun.managed _ _ rfl (Nat.lt_of_not_le hdepth)) (fun _ => .refl _)))

/-- A managed method is called alike, one frame deeper. -/
theorem runMethod (c : Class) (name : String) (receiver : Option ObjectId)
    (args : List ManagedValue) :
    (Run.runMethod run me c name receiver args depth).Alike P
      (Run.runMethod run' me c name receiver args depth) := by
  unfold Run.runMethod
  dsimp only
  split
  · exact .refl _
  split
  · exact .refl _
  · exact .bind (hrun.runBody hP _ _ _ _ _) (fun _ => .refl _)

theorem runConstructor (c : Class) (o : ObjectId) :
    (Run.runConstructor run me c o depth).Alike P (Run.runConstructor run' me c o depth) := by
  unfold Run.runConstructor
  split
  · exact .refl _
  · exact .attempt (hrun.runBody hP _ _ _ _ _) (fun _ => .refl _)

/-- An object is made alike, and its constructor run one frame deeper. -/
theorem newObject (c : Class) :
    (Run.newObject run me c depth).Alike P (Run.newObject run' me c depth) := by
  refine .next (fun o => .bind (hrun.construct _ _) (fun result => ?_))
  cases result with
  | error e => exact .refl _
  | ok h => exact hrun.runConstructor hP c o

end Runner.Alike

namespace Runner.Alike

/-! ### Code that is entered anew

From native code a body is entered at depth zero, however deep native code is itself. -/

variable {P : World → Prop} {limit : Nat} {me : ThreadId} {run run' : Runner}
  (hrun : run.Alike P limit 0 me run') (hP : ∀ w : World, P w → w.domain.maxCallDepth = limit)

include hrun hP

theorem reclaim (o : ObjectId) (c : Class) :
    (Run.reclaim run me o c).Alike P (Run.reclaim run' me o c) := by
  refine .bind (.next (fun _ => ?_)) (fun _ => .next (fun _ => .bind (hrun.destroy o)
    (fun _ => .refl _)))
  split
  · exact .refl _
  · exact .bind (hrun.runBody hP _ _ _ _ _) (fun _ => .refl _)

/-- A collection is done alike: finalizers are entered anew. -/
theorem reclaimAll (l : List (ObjectId × Class)) :
    (Run.reclaimAll run me l).Alike P (Run.reclaimAll run' me l) := by
  induction l with
  | nil => exact .refl _
  | cons e rest ih => exact .bind (hrun.reclaim hP e.1 e.2) (fun _ => ih)

theorem collectOnRequest : (Run.collectOnRequest run me).Alike P (Run.collectOnRequest run' me) :=
  .bind (.next (fun l => .bind (hrun.reclaimAll hP l) (fun _ => .refl _))) (fun _ => .refl _)

theorem newInstance (c : Class) :
    (Run.newInstance run me c).Alike P (Run.newInstance run' me c) :=
  .bind (hrun.newObject hP c) (fun _ => .refl _)

/-- A call from native into managed code is done alike. -/
theorem enterManaged (m : MethodRef) (receiver : Option ObjectId) (args : List BoundaryValue) :
    (Run.enterManaged run me m receiver args).Alike P
      (Run.enterManaged run' me m receiver args) := by
  refine managedBoundary (.next (fun c? => ?_))
  cases c? with
  | none => exact .refl _
  | some c =>
    refine .next (fun r => ?_)
    cases r with
    | error e => exact .refl _
    | ok xs => exact .bind (hrun.runMethod hP _ _ _ _) (fun _ => .refl _)

/-- **What native code asks for is done alike.** -/
theorem nativeReply (op : NativeOp) :
    (Run.nativeReply run me op).Alike P (Run.nativeReply run' me op) := by
  cases op with
  | destroy o => exact hrun.destroy o
  | release h => exact hrun.release h
  | construct typeName o => exact hrun.construct typeName o
  | invoke m receiver args => exact hrun.invoke m receiver args
  | endCall h => exact hrun.endCall h
  | enter m receiver args => exact hrun.enterManaged hP m receiver args
  | newInstance c => exact .bind (hrun.newInstance hP c) (fun _ => .refl _)
  | collect => exact hrun.collectOnRequest hP
  | _ => exact .refl _

/-- **Native code is run alike.** -/
theorem runNative (code : NativeCode α) :
    (Run.runNative run me code).Alike P (Run.runNative run' me code) := by
  induction code with
  | done a => exact .refl _
  | panic q => exact .refl _
  | perform op next ih => exact .bind (hrun.nativeReply hP op) ih

end Runner.Alike

end HostBridge
