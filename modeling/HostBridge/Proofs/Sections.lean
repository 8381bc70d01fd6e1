import HostBridge.Proofs.Evaluation

/-!
# What a section can do

Code is made of few kinds of sections. A section of the bridge is one of fifteen
(`Bridge.Section`); any other looks at the state, tells the history something,
takes over the classes of an assembly, puts an object on the heap, changes what
is in the domain besides, or changes the calls that native code keeps
(`World.Section`). Threads that run native code enter no other sections
(`World.section_of_reaches`), so what every section keeps, every interleaving
keeps (`World.keeps_of_sections`).

This is the inversion of the whole program, done once. Native code may be
anything, and it nests as deep as the fuel of the runner allows; an invariant of
all of that is nevertheless a statement about some twenty small functions, and
the invariants of the other modules on the bridge are proved so. The kinds are
kept **coarse on purpose** where nothing is decided: a section of the domain
that neither adds an object nor loads a class is of one kind, whatever else it
does to roots and frames.

No section changes the registry. This is why an assembly that is loaded finds
its native members bound from then on.
-/

namespace HostBridge

/-- **What one section of a thread can do to the bridge.** -/
inductive Bridge.Section (me : ThreadId) (b : Bridge) : Bridge → Prop
  | reserve : Section me b b.reserve.2
  | announce (o : ObjectId) (typeName : String) (hooks : Hooks) (h : Handle) :
    Section me b (b.announce o typeName hooks h).2
  | equip (h : Handle) (r : Resource) : Section me b (b.equip h r)
  | list (h : Handle) : Section me b (b.list h)
  | goLive (h : Handle) : Section me b (b.setLifecycle h .live)
  | withdraw (o : ObjectId) : Section me b (b.withdraw o)
  | giveUp (h : Handle) : Section me b (b.setLifecycle h .unconstructed)
  | admitCall (h : Handle) : Section me b (b.admitCall me h).2
  | dismiss (h : Handle) : Section me b (b.dismiss me h).2
  | condemn (h : Handle) (hb : b.isSettled h = true) : Section me b (b.condemn me h).2
  | unlist (h : Handle) : Section me b (b.unlist h)
  | takeResource (h : Handle) : Section me b (b.takeResource h).2
  | bury (h : Handle) : Section me b (b.setLifecycle h .destroyed)
  | forget (o : ObjectId) : Section me b (b.forget o)
  | useResource (h : Handle) (kind : ResourceKind) (update : kind.Carrier → kind.Carrier) :
    Section me b (b.useResource h kind update).2

namespace Domain

theorem classOf?_root (d : Domain) (o p : ObjectId) : (d.root o).classOf? p = d.classOf? p := by
  unfold classOf? root
  rw [Table.get?_modify]
  split
  · exact Option.map_map ..
  · rfl

theorem classOf?_unroot (d : Domain) (o p : ObjectId) :
    (d.unroot o).classOf? p = d.classOf? p := by
  unfold classOf? unroot
  rw [Table.get?_modify]
  split
  · exact Option.map_map ..
  · rfl

theorem classOf?_remove (d : Domain) (o p : ObjectId) :
    (d.remove o).classOf? p = if p = o then none else d.classOf? p := by
  unfold classOf? remove
  rw [Table.get?_erase]
  split <;> rfl

theorem classOf?_takeGarbage (d : Domain) (p : ObjectId) :
    d.takeGarbage.2.classOf? p = d.classOf? p := by
  unfold classOf? takeGarbage
  rw [Table.get?_map, Option.map_map]
  refine congrArg (Option.map · _) (funext fun x => ?_)
  dsimp only [Function.comp_apply]
  split <;> rfl

end Domain

/-! ## Sections of the domain

Most of them move roots about, open a frame or close one. What they have in
common is what they do not do: objects come only by an allocation and classes
only by a load, so an object keeps its class for as long as it is on the heap. -/

/-- **A change of a domain in which no object comes**, and no class is loaded. What stays on the
heap is of the class that it was of. -/
structure Domain.KeepsClasses (d d' : Domain) : Prop where
  maxCallDepth : d'.maxCallDepth = d.maxCallDepth
  classes : d'.classes = d.classes
  lastObject : d'.lastObject = d.lastObject
  classOf? : ∀ o c, d'.classOf? o = some c → d.classOf? o = some c

namespace Domain.KeepsClasses

/-- Giving a root back leaves the classes alone. -/
theorem unroot (o : ObjectId) (d : Domain) : d.KeepsClasses (d.unroot o) :=
  ⟨rfl, rfl, rfl, fun p _ hc => (d.classOf?_unroot o p).symm.trans hc⟩

/-- Taking an object off the heap leaves the classes of the others alone. -/
theorem remove (o : ObjectId) (d : Domain) : d.KeepsClasses (d.remove o) := by
  refine ⟨rfl, rfl, rfl, fun p c hc => ?_⟩
  rw [Domain.classOf?_remove] at hc
  split at hc
  · cases hc
  · exact hc

theorem openFrame (name : String) (receiver : Option ObjectId) (d : Domain) :
    d.KeepsClasses (d.openFrame name receiver).2 := by
  cases receiver with
  | none => exact ⟨rfl, rfl, rfl, fun _ _ => id⟩
  | some o => exact ⟨rfl, rfl, rfl, fun p _ hc => (d.classOf?_root o p).symm.trans hc⟩

/-- What a frame keeps of a result is a root, so no object comes by it. -/
theorem keep (f : FrameId) (v : ManagedValue) (d : Domain) : d.KeepsClasses (d.keep f v) := by
  unfold Domain.keep
  split
  · next o _ => exact ⟨rfl, rfl, rfl, fun p _ hc => (d.classOf?_root o p).symm.trans hc⟩
  · exact ⟨rfl, rfl, rfl, fun _ _ => id⟩

theorem releaseLocal (f : FrameId) (d : Domain) : d.KeepsClasses (d.releaseLocal f) := by
  unfold Domain.releaseLocal
  split
  · next o _ _ => exact ⟨rfl, rfl, rfl, (unroot o d).classOf?⟩
  · exact ⟨rfl, rfl, rfl, fun _ _ => id⟩

theorem closeFrame (f : FrameId) (d : Domain) : d.KeepsClasses (d.closeFrame f) := by
  unfold Domain.closeFrame
  split
  · next o _ => exact ⟨rfl, rfl, rfl, (unroot o d).classOf?⟩
  · exact ⟨rfl, rfl, rfl, fun _ _ => id⟩

theorem abandonFrame (f : FrameId) (d : Domain) : d.KeepsClasses (d.abandonFrame f) :=
  ⟨rfl, rfl, rfl, fun _ _ => id⟩

theorem release (o : ObjectId) (d : Domain) : d.KeepsClasses (d.release o).2 := by
  unfold Domain.release
  split
  · exact ⟨rfl, rfl, rfl, (unroot o d).classOf?⟩
  · exact ⟨rfl, rfl, rfl, fun _ _ => id⟩

/-- A construction ends without an object, one way or another. -/
theorem abandonAllocation (o : ObjectId) {d d' : Domain} (h : d.KeepsClasses d') :
    d.KeepsClasses (d'.abandonAllocation o) :=
  ⟨h.maxCallDepth, h.classes, h.lastObject, h.classOf?⟩

theorem refl (d : Domain) : d.KeepsClasses d := ⟨rfl, rfl, rfl, fun _ _ => id⟩

theorem hold (o : ObjectId) (d : Domain) : d.KeepsClasses (d.hold o) :=
  ⟨rfl, rfl, rfl, fun _ _ => id⟩

theorem adopt (f : FrameId) (o : ObjectId) (d : Domain) : d.KeepsClasses (d.adopt f o) :=
  ⟨rfl, rfl, rfl, fun _ _ => id⟩

/-- **A collection that begins** only marks objects; their classes are as they were. -/
theorem takeGarbage (d : Domain) : d.KeepsClasses d.takeGarbage.2 :=
  ⟨rfl, rfl, rfl, fun p _ hc => (d.classOf?_takeGarbage p).symm.trans hc⟩

/-- Making an image available loads no class yet. -/
theorem provide (i : Image) (d : Domain) : d.KeepsClasses (d.provide i) :=
  ⟨rfl, rfl, rfl, fun _ _ => id⟩

end Domain.KeepsClasses

/-- Members that are all looked up are all found. -/
theorem Registry.resolve_of_forM {r : Registry} {ms : List Member}
    (h : ms.forM (fun m => (r.resolve m).map (fun _ => ())) = .ok ()) :
    ∀ m ∈ ms, ∃ c, r.resolve m = .ok c := by
  induction ms with
  | nil => simp
  | cons m ms ih =>
    rw [List.forM] at h
    cases hm : r.resolve m with
    | error e =>
      rw [hm] at h
      cases h
    | ok c =>
      rw [hm] at h
      exact List.forall_mem_cons.2 ⟨⟨c, hm⟩, ih h⟩

/-- **What one section of a thread can do.** -/
inductive World.Section (me : ThreadId) (w : World) : World → Prop
  /-- The section only looks. -/
  | look : Section me w w
  /-- Something is added to the history. -/
  | tell (e : Event) : Section me w (w.record e)
  /-- The classes of an assembly are taken over. Their native members are bound. -/
  | load (i : Image) (hi : ∀ m ∈ i.externs, ∃ c, w.registry.resolve m = .ok c) :
    Section me w (w.onDomain (w.domain.addClasses i))
  /-- An object is put on the heap. -/
  | allocate (c : Class) :
    Section me w (w.onDomain (w.domain.allocate c).2 [.allocated (w.domain.allocate c).1])
  /-- Something else happens in the domain. -/
  | inDomain (d : Domain) (events : List Event) (hd : w.domain.KeepsClasses d) :
    Section me w (w.onDomain d events)
  /-- Something happens in the bridge. -/
  | inBridge (b : Bridge) (events : List Event) (hb : w.bridge.Section me b) :
    Section me w (w.onBridge b events)
  /-- The calls that native code keeps are others. -/
  | keep (kept : List (ThreadId × Handle)) : Section me w { w with kept := kept }

namespace World

variable {w w' : World} {me : ThreadId} {α β : Type} {run : Runner}

/-- **No section changes the registry.** -/
theorem Section.registry (h : w.Section me w') : w'.registry = w.registry := by
  cases h <;> rfl

/-- A section only adds to the history. -/
theorem Section.suffix (hs : w.Section me w') : w.history <:+ w'.history := by
  cases hs with
  | tell e => exact List.suffix_cons _ _
  | allocate c => exact List.suffix_cons _ _
  | inDomain d events hd => exact List.suffix_append _ _
  | inBridge b events hb => exact List.suffix_append _ _
  | _ => exact List.suffix_rfl

/-! ## Code enters no other sections

The proof goes by the operations of the program, each in its own discipline
lemma. A discipline says what a thread may do in one section and asks nothing of
what the code computes, so a lemma for an operation is put together from the
lemmas for its sections in the order of the text. -/

/-- The discipline in which the registry stays as it is, and a thread, whose stake is its
own number, enters sections of the kinds above only. -/
def sectioning (r : Registry) : Discipline World ThreadId where
  inv := fun w own => w.registry = r ∧ ∀ me, own me = me
  within := fun _ => True
  demand := fun w w' me => w.Section me w'

/-- The conduct of a thread, which keeps its number. -/
def numbered (me : ThreadId) : Conduct ThreadId where
  rel := fun x y => x = me ∧ y = me
  trans := fun h h' => ⟨h.1, h'.2⟩
  right := fun h => ⟨h.2, h.2⟩

/-- The manners of a thread that enters sections of the kinds above only. -/
def sectioned (r : Registry) (me : ThreadId) : Manners ThreadId where
  discipline := sectioning r
  native := numbered me
  managed := fun _ => numbered me
  asks := fun _ => True

/-- **Code enters sections of the kinds above only.** -/
abbrev Sectioned (r : Registry) (me : ThreadId) (p : Run α) : Prop :=
  p.Keeps (sectioning r) (numbered me) me

namespace Sectioned

variable {r : Registry} {ε : Type}

/-- A section is of these kinds if it is so in every state that is ready for it. -/
theorem exchangeWhen {ready : World → Bool} {f : World → α × World}
    (h : ∀ w : World, w.registry = r → ready w = true → w.Section me (f w).2) :
    Sectioned r me (Process.exchangeWhen ready f) := by
  intro x hx
  rw [← bind_pure (Process.exchangeWhen ready f)]
  refine Process.Follows.exchangeWhen (fun w own hinv hme _ hr _ => ?_)
  obtain ⟨rfl, -⟩ := hx
  have hs := h w hinv.1 hr
  refine ⟨hs, x, ⟨hs.registry.trans hinv.1, ?_⟩, .inr ⟨rfl, rfl⟩⟩
  rw [Function.update_eq_self_iff.2 hme.symm]
  exact hinv.2

theorem exchange {f : World → α × World} (h : ∀ w : World, w.Section me (f w).2) :
    Sectioned r me (Process.exchange f) := exchangeWhen (fun w _ _ => h w)

theorem change {f : World → World} (h : ∀ w : World, w.registry = r → w.Section me (f w)) :
    Sectioned r me (Process.change f) :=
  exchangeWhen (f := fun w => ((), f w)) (fun w hw _ => h w hw)

theorem await (ready : World → Bool) : Sectioned r me (Process.await ready) :=
  exchangeWhen (f := fun w => ((), w)) (fun _ _ _ => .look)

theorem ask (f : World → α) : Sectioned r me (Process.ask f) :=
  exchangeWhen (f := fun w => (f w, w)) (fun _ _ _ => .look)

theorem record (e : Event) : Sectioned r me (Run.record e) := change (fun _ _ => .tell e)

theorem log (level : LogLevel) (text : String) : Sectioned r me (Run.log level text) := record _

theorem askBridge (f : Bridge → α) : Sectioned r me (Run.askBridge f) := ask _

theorem askDomain (f : Domain → α) : Sectioned r me (Run.askDomain f) := ask _

/-- A section of the bridge is of these kinds if what it does to the bridge is one of the
fifteen. -/
theorem onBridge {f : Bridge → α × Bridge} {events : α → List Event}
    (h : ∀ b : Bridge, b.Section me (f b).2) : Sectioned r me (Run.onBridge f events) :=
  exchangeWhen (fun w _ _ => .inBridge _ _ (h w.bridge))

theorem changeBridge {f : Bridge → Bridge} {events : List Event}
    (h : ∀ b : Bridge, b.Section me (f b)) : Sectioned r me (Run.changeBridge f events) :=
  change (fun w _ => .inBridge _ _ (h w.bridge))

theorem onDomain {f : Domain → α × Domain} {events : α → List Event}
    (h : ∀ d : Domain, d.KeepsClasses (f d).2) :
    Sectioned r me (Run.onDomain f events) :=
  exchange (fun w => .inDomain _ _ (h w.domain))

/-- A section of the domain is of these kinds if no object comes and no class is loaded by it.
-/
theorem changeDomain {f : Domain → Domain} {events : List Event}
    (h : ∀ d : Domain, d.KeepsClasses (f d)) :
    Sectioned r me (Run.changeDomain f events) :=
  change (fun w _ => .inDomain _ _ (h w.domain))

/-- Catching panics enters a section only to log them. -/
theorem catchNative {member : String} {ofFault : NativeFault → ε} {code : Run (Except ε α)}
    (h : Sectioned r me code) : Sectioned r me (HostBridge.catchNative member ofFault code) :=
  .attempt h (fun _ => .pure _) (fun _ => .bind (log _ _) (fun _ => .pure _)) Process.doomed_crash

/-- Changing the domain because of a crash, on the way to the end of a run that was
nested too deeply. -/
theorem doomed_changeDomain {f : Domain → Domain} {events : List Event}
    (h : ∀ d : Domain, d.KeepsClasses (f d)) :
    (Run.changeDomain f events >>= fun _ => (Process.crash .tooDeep : Run α)).Doomed
      (sectioning r) me := by
  refine fun x => Process.Follows.change (fun w own hinv hme _ _ => ?_)
  have hs : w.Section x (w.onDomain (f w.domain) events) :=
    .inDomain _ _ (h w.domain)
  refine ⟨hs, x, ⟨hs.registry.trans hinv.1, ?_⟩, rfl⟩
  rw [Function.update_eq_self_iff.2 hme.symm]
  exact hinv.2

/-! ### The operations of the bridge

Those that run hooks are given a runner that keeps to the kinds above, which is
the induction hypothesis of the nesting. -/

section Bridge

variable (hrun : run.Keeps (sectioned r me) me)

include hrun

/-- Native code enters such sections only, if the runner that nests it does. -/
theorem native {code : NativeCode α} : Sectioned r me (run.native me code) :=
  hrun.native code code.asks_true

/-- **A construction** enters such sections only, on every way it can end. -/
theorem attach (o : ObjectId) (typeName : String) (hooks : Hooks) :
    Sectioned r me (Run.attach run me o typeName hooks) := by
  refine .bind (onBridge (fun _ => .reserve)) (fun h => ?_)
  refine .bind (onBridge (fun _ => .announce ..)) (fun result => ?_)
  cases result with
  | error state => exact .pure _
  | ok u =>
    refine .bind (catchNative (.bind (record _) (fun _ => native hrun))) (fun built => ?_)
    cases built with
    | ok resource =>
      exact .bind (changeBridge (fun _ => .equip ..)) (fun _ =>
        .bind (changeBridge (fun _ => .list _)) (fun _ =>
          .bind (changeBridge (fun _ => .goLive _)) (fun _ => .pure _)))
    | error fault =>
      exact .bind (changeBridge (fun _ => .withdraw _)) (fun _ =>
        .bind (changeBridge (fun _ => .giveUp _)) (fun _ =>
          .bind (log _ _) (fun _ => .pure _)))

theorem construct (typeName : String) (o : ObjectId) :
    Sectioned r me (Run.construct run me typeName o) := by
  refine .bind (ask _) (fun registry => ?_)
  split
  · refine .bind (attach hrun _ _ _) (fun result => ?_)
    cases result <;> exact .pure _
  · exact .pure _

theorem finishDestroy (h : Handle) : Sectioned r me (Run.finishDestroy run me h) := by
  refine .bind (changeBridge (fun _ => .unlist _)) (fun _ =>
    .bind (onBridge (fun _ => .takeResource _)) (fun resource =>
      .bind (askBridge _) (fun record? => ?_)))
  have last : Sectioned r me (Run.changeBridge (·.setLifecycle h .destroyed)) :=
    changeBridge (fun _ => .bury h)
  split
  · refine .bind (catchNative (.bind (record _) (fun _ =>
      .bind (native hrun) (fun _ => .pure _)))) (fun ended => ?_)
    cases ended with
    | ok u => exact last
    | error fault => exact .bind (log _ _) (fun _ => last)
  · exact last

/-- **A destruction** enters such sections only: the sections of the request, those of the wait,
and those of the hook. -/
theorem destroyRecord (h : Handle) : Sectioned r me (Run.destroyRecord run me h) := by
  refine .bind (exchangeWhen (fun w _ hw => .inBridge _ _ (.condemn h hw))) (fun verdict => ?_)
  cases verdict with
  | accepted => exact .bind (await _) (fun _ => .bind (finishDestroy hrun h) (fun _ => .pure _))
  | _ => exact .pure _

/-- The end of a call enters such sections only, also where it carries out a deferred
destruction. -/
theorem leave (h : Handle) : Sectioned r me (Run.leave run me h) := by
  refine .bind (onBridge (fun _ => .dismiss _)) (fun last => ?_)
  split
  · exact finishDestroy hrun h
  · exact .pure _

omit hrun in
theorem enter (o : ObjectId) (m : Member) : Sectioned r me (Run.enter me o m) := by
  refine .bind (askBridge _) (fun h? => ?_)
  cases h? with
  | none => exact .pure _
  | some h =>
    refine .bind (onBridge (fun _ => .admitCall _)) (fun result => ?_)
    cases result <;> exact .pure _

theorem runCall (m : Member) (c : NativeCall) (args : List BoundaryValue) :
    Sectioned r me (Run.runCall run me m c args) :=
  catchNative (.bind (record _) (fun _ => native hrun))

omit hrun in
theorem settle (m : Member) (result : Except CallFailure BoundaryValue) :
    Sectioned r me (Run.settle m result) := by
  cases result with
  | error failure => exact .pure _
  | ok v =>
    dsimp only [Run.settle]
    split
    · exact .pure _
    · exact .bind (log _ _) (fun _ => .pure _)

/-- **A call of a bound member** enters such sections only. -/
theorem invoke (m : Member) (receiver : Option ObjectId) (args : List BoundaryValue) :
    Sectioned r me (Run.invoke run me m receiver args) := by
  refine .bind (ask _) (fun registry => ?_)
  split
  · exact .pure _
  split
  · cases receiver with
    | none => exact .pure _
    | some o =>
      refine .bind (enter o m) (fun result => ?_)
      cases result with
      | error e => exact .pure _
      | ok h =>
        exact .bind (runCall hrun _ _ _) (fun _ => .bind (leave hrun h) (fun _ => settle _ _))
  · exact .bind (runCall hrun _ _ _) (fun _ => settle _ _)

theorem endCall (h : Handle) : Sectioned r me (Run.endCall run me h) := by
  refine .bind (exchange (fun _ => .keep _)) (fun kept => ?_)
  split
  · exact .bind (leave hrun h) (fun _ => .pure _)
  · exact .pure _

end Bridge

/-- Sections of the bridge are of the kinds above. -/
theorem bridged (r : Registry) (me : ThreadId) : (sectioned r me).Bridged me where
  ask := ask
  note := fun _ => record _
  log := log
  useResource := fun h kind update => by
    refine .bind (askBridge _) (fun r? => ?_)
    cases r? with
    | none => exact .pure _
    | some s => exact onBridge (fun _ => .useResource ..)
  forget := fun _ => changeBridge (fun _ => .forget _)
  construct := fun hrun typeName o _ => construct hrun typeName o
  destroyRecord := fun hrun => destroyRecord hrun
  invoke := fun hrun => invoke hrun
  beginCall := fun o m => by
    refine .bind (enter o m) (fun result => ?_)
    cases result with
    | error e => exact .pure _
    | ok h => exact .bind (change (fun _ _ => .keep _)) (fun _ => .pure _)
  endCall := fun hrun => endCall hrun

/-! ### The operations of the domain

Here a crash has its own sections: the frames and allocations it passes by are
taken note of on the way up. -/

section Domain

open Domain.KeepsClasses

theorem releaseLocals (f : FrameId) (n : Nat) : Sectioned r me (Run.releaseLocals f n) := by
  induction n with
  | zero => exact .pure _
  | succ n ih => exact .bind (changeDomain (releaseLocal f)) (fun _ => ih)

theorem keeping (x : Context) (result : Except ManagedException ManagedValue) :
    Sectioned r me (Run.keeping x result) := by
  cases result with
  | error e => exact .pure _
  | ok v => exact .bind (changeDomain (keep x.frame v)) (fun _ => .pure _)

/-- **An assembly that is loaded has its native members bound.** -/
theorem loadAssembly (name : String) : Sectioned r me (Run.loadAssembly name) := by
  refine .bind (askDomain _) (fun i? => ?_)
  cases i? with
  | none => exact .pure _
  | some i =>
    -- the registry that was asked is the one that is there when the classes are taken over
    intro x hx
    refine Process.Follows.ask (fun _ => .look) (fun w own hinv _ _ => ?_)
    rw [hinv.1]
    split
    · exact Process.Keeps.pure _ x hx
    · next hbound =>
      refine Process.Keeps.bind (change (fun v hv => .load i (fun m hm => ?_)))
        (fun _ => .pure _) x hx
      rw [hv]
      exact Registry.resolve_of_forM hbound m hm

variable (hrun : run.Keeps (sectioned r me) me)

include hrun

/-- **A managed body** enters such sections only, whether it returns, throws or panics. -/
theorem runBody (c : Class) (name : String) (body : MethodBody) (receiver : Option ObjectId)
    (args : List ManagedValue) (depth : Nat) :
    Sectioned r me (Run.runBody run me c name body receiver args depth) := by
  refine .bind (askDomain _) (fun limit => ?_)
  split
  · exact .pure _
  refine .bind (onDomain (openFrame name receiver)) (fun f => .bind (record _) (fun _ => ?_))
  refine .attempt (hrun.managed _ _) (fun result => ?_) (fun q => ?_) ?_
  · exact .bind (askDomain _) (fun locals => .bind (releaseLocals f _)
      (fun _ => .bind (changeDomain (closeFrame f)) (fun _ => .pure _)))
  · exact .bind (changeDomain (abandonFrame f)) (fun _ => .crash _)
  · exact doomed_changeDomain (abandonFrame f)

theorem runConstructor (c : Class) (o : ObjectId) (depth : Nat) :
    Sectioned r me (Run.runConstructor run me c o depth) := by
  unfold Run.runConstructor
  split
  · exact .pure _
  refine .attempt (runBody hrun _ _ _ _ _ _) (fun result => ?_) (fun q => ?_) ?_
  · cases result with
    | error e =>
      exact .bind (changeDomain (fun d => (unroot o d).abandonAllocation o)) (fun _ => .pure _)
    | ok v => exact .pure _
  · exact .bind (changeDomain (fun d => (refl d).abandonAllocation o)) (fun _ => .crash _)
  · exact doomed_changeDomain (fun d => (refl d).abandonAllocation o)

/-- **The making of an object** is the one place where an object is put on the heap. -/
theorem newObject (c : Class) (depth : Nat) : Sectioned r me (Run.newObject run me c depth) := by
  refine .bind (exchange (fun _ => .allocate c)) (fun o => ?_)
  refine .bind (construct hrun _ _) (fun result => ?_)
  cases result with
  | error e =>
    exact .bind (changeDomain (fun d => (remove o d).abandonAllocation o)) (fun _ => .pure _)
  | ok h => exact runConstructor hrun _ _ _

theorem reclaim (o : ObjectId) (c : Class) : Sectioned r me (Run.reclaim run me o c) := by
  refine .bind (.bind (record _) (fun _ => ?_)) (fun _ => .bind (record _) (fun _ =>
    .bind ((bridged r me).destroy hrun o) (fun _ => .bind ((bridged r me).forget o)
      (fun _ => changeDomain (remove o)))))
  split
  · exact .pure _
  · refine .bind (runBody hrun _ _ _ _ _ _) (fun result => ?_)
    cases result with
    | ok v => exact .pure _
    | error e => exact log _ _

/-- **A collection** enters such sections only, for any objects it has taken. -/
theorem reclaimAll (l : List (ObjectId × Class)) : Sectioned r me (Run.reclaimAll run me l) := by
  induction l with
  | nil => exact .pure _
  | cons e rest ih => exact .bind (reclaim hrun e.1 e.2) (fun _ => ih)

theorem collectOnRequest : Sectioned r me (Run.collectOnRequest run me) :=
  .bind (.bind (onDomain takeGarbage) (fun l => .bind (reclaimAll hrun l)
    (fun _ => .pure _))) (fun _ => .bind (record _) (fun _ => .pure _))

theorem newInstance (c : Class) : Sectioned r me (Run.newInstance run me c) := by
  refine .bind (newObject hrun c 0) (fun result => ?_)
  cases result with
  | error e => exact .pure _
  | ok o => exact .bind (changeDomain (hold o)) (fun _ => .pure _)

theorem managedNewObject (x : Context) (typeName : String) :
    Sectioned r me (Run.managedReply run me x (.newObject typeName)) := by
  refine .bind (askDomain _) (fun c? => ?_)
  cases c? with
  | error e => exact .pure _
  | ok c =>
    refine .bind (newObject hrun c _) (fun result => ?_)
    cases result with
    | error e => exact .pure _
    | ok o => exact .bind (changeDomain (adopt x.frame o)) (fun _ => .pure _)

omit hrun in
/-- All sections are of the kinds above. -/
theorem upheld (r : Registry) (me : ThreadId) : (sectioned r me).Upheld me where
  toBridged := bridged r me
  widen := fun _ hp => hp
  runBody := fun hrun => runBody hrun
  newObject := fun hrun => managedNewObject hrun
  keeping := keeping
  collect := fun hrun => collectOnRequest hrun
  newInstance := fun hrun => newInstance hrun
  dropInstance := fun o => onDomain (release o)
  provide := fun i => changeDomain (provide i)
  load := loadAssembly

end Domain

end Sectioned

/-- **Threads that run native code enter sections of the kinds above only**, however they
interleave. -/
theorem section_of_reaches {w : World} {n : Nat} {code : ThreadId → NativeCode α}
    {u : Threads World α} (hu : (w.threads n code).Reaches (fun _ => True) u) {me : ThreadId}
    {ready : World → Bool} {effect : World → World} {next : World → Course World α}
    (hme : u.todo me = .step ready effect next) (hr : ready u.state = true) :
    u.state.registry = w.registry ∧ u.state.Section me (effect u.state) := by
  have follow : ∀ me, ((w.threads n code).todo me).Follows (sectioning w.registry) me
      (fun e y => e = .error .tooDeep ∨ (numbered me).rel me y) me := fun me =>
    (Sectioned.upheld _ me).runNative ((Sectioned.upheld _ me).keeps_nested n) (code me)
      (code me).asks_true me ⟨rfl, rfl⟩
  have hstart : (sectioning w.registry).inv w id := ⟨rfl, fun _ => rfl⟩
  obtain ⟨own, hinv, hf⟩ := Threads.Reaches.keeps (D := sectioning w.registry) hu hstart follow
  have hstep := hf me
  rw [hme, hinv.2 me] at hstep
  exact ⟨hinv.1, (hstep u.state own hinv (hinv.2 me) trivial hr trivial).1⟩

/-- **What every section keeps, every interleaving keeps.** -/
theorem keeps_of_sections {w : World} {n : Nat} {code : ThreadId → NativeCode α}
    {I : World → Prop} (hw : I w)
    (hI : ∀ me v v', v.registry = w.registry → World.Section me v v' → I v → I v')
    {u : Threads World α} (hu : (w.threads n code).Reaches (fun _ => True) u) :
    u.state.registry = w.registry ∧ I u.state := by
  induction hu with
  | here hs => exact ⟨rfl, hw⟩
  | enter h hu hr hs ih =>
    obtain ⟨hreg, hsec⟩ := section_of_reaches h hu hr
    exact ⟨hsec.registry.trans hreg, hI _ _ _ hreg hsec ih.2⟩

/-- **What every section keeps, a process keeps** that is run alone. -/
theorem Sectioned.keeps_ends {p : Run α} {e : Except Crash α} {I : World → Prop}
    (hp : Sectioned w.registry me p) (h : p.Ends w e w') (hw : I w)
    (hI : ∀ v v', World.Section me v v' → I v → I v') : w'.registry = w.registry ∧ I w' := by
  have hstart : (sectioning w.registry).inv w id := ⟨rfl, fun _ => rfl⟩
  have hreaches := h.reaches
  clear h
  generalize Course.finish e = q at hreaches
  induction hreaches with
  | here hs => exact ⟨rfl, hw⟩
  | @enter ready effect next v hreach hr hs ih =>
    obtain ⟨-, hv⟩ := ih
    obtain ⟨y, hinv, hf⟩ := Course.Reaches.keeps (D := sectioning w.registry) hreach
      hstart (hp me ⟨rfl, rfl⟩)
    obtain ⟨hsec, -⟩ := hf v _ hinv (Function.update_self ..) trivial hr trivial
    obtain rfl : me = y := by
      have := hinv.2 me
      rw [Function.update_self] at this
      exact this.symm
    exact ⟨hsec.registry.trans hinv.1, hI _ _ hsec hv⟩

/-- **The registry is the same at every point of an interleaving.** -/
theorem registry_of_reaches {w : World} {n : Nat} {code : ThreadId → NativeCode α}
    {u : Threads World α} (hu : (w.threads n code).Reaches (fun _ => True) u) :
    u.state.registry = w.registry :=
  (keeps_of_sections (I := fun _ => True) trivial (fun _ _ _ _ _ _ => trivial) hu).1

end World

end HostBridge
