import HostBridge.Proofs.Domain.Exceptions
import HostBridge.Proofs.Domain.Seclusion

/-!
# Objects that are reclaimed on their own

A collection runs the finalizer of an object and then frees it. If the finalizer keeps to the
estate of the object, and so do the destruction hook and the members that the two call, all of
this is the business of the estate: wherever the estate is shown the same, the object is
reclaimed in the same way, its estate has changed in the same way, and the history has been told
the same (`Estate.ends_reclaim`).

Two things happen outside of the estate. The object leaves the heap, and its finalizer uses up a
number for its frame. The number is another one in each state, but the finalizer cannot tell; and
the root that the frame has on the object is gone with the frame.

So the change that one object makes has three parts: a number of frames, a change of the bridge
that is of the estate, and the events that the history is told (`World.after`). None of them
depends on the state beyond the estate. That is what makes it possible to compare two orders of
reclaiming, which come to an object in two different states.
-/

namespace HostBridge

variable {e : Estate} {w w' v : World} {me : ThreadId} {n : Nat}
  {T : Bridge → Bridge} {told : List Event}

/-! ## Frames that come and go

The frame of a finalizer, opened and closed again with nothing kept in between. -/

/-- A frame that has kept nothing but its receiver leaves nothing behind. -/
theorem Domain.closeFrame_openFrame (d : Domain) (name : String) (o : ObjectId) :
    (d.openFrame name (some o)).2.closeFrame d.nextFrame =
      { d with nextFrame := d.nextFrame + 1 } := by
  have hheap : (d.heap.modify o fun x => { x with roots := x.roots + 1 }).modify o
      (fun x => { x with roots := x.roots - 1 }) = d.heap :=
    Table.modify_modify_cancel (fun _ => rfl) _ _
  simp [openFrame, closeFrame, frame?, root, unroot, Frame.erase, hheap]

theorem Domain.locals_openFrame (d : Domain) (name : String) (receiver : Option ObjectId) :
    (d.openFrame name receiver).2.locals d.nextFrame = [] := by
  simp [openFrame, locals, frame?]

/-- The frames that the finalizer of a class takes, which is one if it runs. -/
def Domain.finalizerFrames (d : Domain) (c : Class) : Nat :=
  match c.finalizer with
  | none => 0
  | some _ => if 0 < d.maxCallDepth then 1 else 0

/-- **What code of an estate makes of a state**, which has opened so many frames. -/
def World.after (w : World) (frames : Nat) (T : Bridge → Bridge) (told : List Event) : World :=
  { w with
    bridge := T w.bridge
    domain := { w.domain with nextFrame := w.domain.nextFrame + frames }
    history := told ++ w.history }

/-- What is told in a section is told before what is told later. -/
theorem World.onBridge_after (w : World) (frames : Nat) (T : Bridge → Bridge)
    (told told' : List Event) :
    (w.onBridge w.bridge told').after frames T told = w.after frames T (told ++ told') := by
  simp [after, onBridge]

namespace Estate

/-- **The finalizer of an object keeps to its estate.** -/
def KeepsFinalizer (e : Estate) : Prop :=
  ∀ body, e.cls.finalizer = some body →
    e.KeepsManaged (fun _ => True) (body ⟨e.cls.finalizerFrame, some e.object, []⟩)

/-- The body of the finalizer, called on the object. -/
def finalizing (e : Estate) (body : MethodBody) : Callee :=
  ⟨e.cls, e.cls.finalizerFrame, body, some e.object, []⟩

/-- An object keeps its class where the body starts. -/
theorem classOf_opened (e : Estate) (body : MethodBody) (w : World) :
    ((e.finalizing body).opened w).domain.classOf? e.object = w.domain.classOf? e.object := by
  change ((w.domain.heap.modify e.object _).get? e.object).map _ = _
  rw [Table.get?_modify, if_pos rfl, Option.map_map]
  rfl

theorem agree_opened (body : MethodBody) (h : e.Agree w v) :
    e.Agree ((e.finalizing body).opened w) ((e.finalizing body).opened v) where
  bridge := h.bridge
  classOf := by rw [classOf_opened, classOf_opened, h.classOf]
  maxCallDepth := h.maxCallDepth
  registry := h.registry

theorem in_opened (body : MethodBody) (hw : e.In w) : e.In ((e.finalizing body).opened w) :=
  ⟨hw.bridge, (classOf_opened e body w).trans hw.classOf, hw.calls⟩

/-- The body's frame is gone, and what the body did has been done. -/
theorem leftFrame_opened (body : MethodBody) (v : World) (T : Bridge → Bridge)
    (told : List Event) :
    (((e.finalizing body).opened v).onBridge (T v.bridge) told).leftFrame v.domain.nextFrame =
      v.after 1 T (told ++ [.body e.cls.finalizerFrame (some e.object) []]) := by
  have hlocals := v.domain.locals_openFrame e.cls.finalizerFrame (some e.object)
  have hclose := v.domain.closeFrame_openFrame e.cls.finalizerFrame e.object
  simp only [World.leftFrame, Callee.opened, finalizing, World.onDomain, World.record,
    World.onBridge, hlocals, List.length_nil, Function.iterate_zero_apply, hclose, World.after]
  simp

/-- **The body of a finalizer goes the same way** wherever the estate is shown the same, if it
is entered at all. -/
theorem ends_finalizing {body : MethodBody} (hw : e.In w)
    (hbody : e.KeepsManaged (fun _ => True) (e.finalizing body).code)
    {r : Except ManagedException ManagedValue}
    (h : ((e.finalizing body).process (.nested n) me 0).Ends w (.ok r) w') :
    ∃ T told, e.Change T ∧ ∀ v, e.Agree w v →
      ((e.finalizing body).process (.nested n) me 0).Ends v (.ok r)
        (v.after (if 0 < w.domain.maxCallDepth then 1 else 0) T told) := by
  by_cases hdepth : 0 < w.domain.maxCallDepth
  · have hrun := e.runs_nested me n
    obtain ⟨r₀, u, hcode⟩ := Callee.of_process hdepth h
    obtain ⟨-, T, told, hT, hends⟩ := hrun.managed _ hbody (in_opened body hw) hcode
    -- the frame has a number of its own in each state, and the code does not ask for it
    have returns : ∀ v, e.Agree w v → ((e.finalizing body).process (.nested n) me 0).Ends v
        (.ok (r₀.mapError (·.pushFrame e.cls.finalizerFrame)))
        (v.after 1 T (told ++ [.body e.cls.finalizerFrame (some e.object) []])) := by
      intro v hwv
      have hv := hends _ (agree_opened body hwv)
      have hframe := hrun.frame _ v.domain.nextFrame hbody (in_opened body (hw.agree hwv)) hv
      rw [← leftFrame_opened]
      exact Callee.ends_process (c := e.finalizing body) (hwv.maxCallDepth ▸ hdepth) hframe
    obtain ⟨hr, -⟩ := (returns w (.refl w)).unique h
    rw [hr, if_pos hdepth]
    exact ⟨T, _, hT, returns⟩
  · have overflows : ∀ v, e.Agree w v → ((e.finalizing body).process (.nested n) me 0).Ends v
        (.ok (.error (Run.overflow w.domain.maxCallDepth e.cls.finalizerFrame))) v := by
      intro v hwv
      rw [← hwv.maxCallDepth]
      exact Callee.ends_overflow (c := e.finalizing body)
        (hwv.maxCallDepth ▸ Nat.not_lt.1 hdepth)
    obtain ⟨hr, -⟩ := (overflows w (.refl w)).unique h
    rw [hr, if_neg hdepth]
    exact ⟨_, [], .nothing, overflows⟩

/-- **A finalizer goes the same way** wherever the estate is shown the same. -/
theorem ends_runFinalizer (hw : e.In w) (hfin : e.KeepsFinalizer)
    (h : (Run.runFinalizer (.nested n) me e.object e.cls).Ends w (.ok ()) w') :
    ∃ T told, e.Change T ∧ ∀ v, e.Agree w v →
      (Run.runFinalizer (.nested n) me e.object e.cls).Ends v (.ok ())
        (v.after (w.domain.finalizerFrames e.cls) T told) := by
  have hvisit : ∀ v : World, (Run.record (.visited e.object)).Ends v (.ok ())
      (v.onBridge v.bridge [.visited e.object]) := .change _
  have h := Process.Ends.rest h (hvisit w)
  have hin : e.In (w.onBridge w.bridge [.visited e.object]) := Change.nothing.inState hw _
  unfold Run.runFinalizer Domain.finalizerFrames
  cases hbody : e.cls.finalizer with
  | none => exact ⟨_, [.visited e.object], .nothing, fun v _ => hvisit v⟩
  | some body =>
    rw [hbody] at h
    obtain ⟨r, u, hr, h⟩ := Process.Ends.of_bind_ok h
    have hr : ((e.finalizing body).process (.nested n) me 0).Ends _ (.ok r) u := hr
    obtain ⟨T, told, hT, hends⟩ := ends_finalizing hin (hfin body hbody) hr
    have returns : ∀ v, e.Agree w v → ((e.finalizing body).process (.nested n) me 0).Ends
        (v.onBridge v.bridge [.visited e.object]) (.ok r)
        (v.after (if 0 < w.domain.maxCallDepth then 1 else 0) T (told ++ [.visited e.object])) := by
      intro v hwv
      rw [← World.onBridge_after]
      exact hends _ (Change.nothing.agree hwv [.visited e.object])
    cases r with
    | ok value =>
      exact ⟨T, _, hT, fun v hwv => (hvisit v).bind ((returns v hwv).bind (.pure _ _))⟩
    | error x =>
      refine ⟨T, .log .warn ("Finalizer of " ++ e.cls.fullName ++ " " ++ e.object.render ++
        " threw " ++ x.render) :: (told ++ [.visited e.object]), hT, fun v hwv => ?_⟩
      exact (hvisit v).bind ((returns v hwv).bind (.change _ _))

theorem Change.agree_after (hT : e.Change T) (h : e.Agree w v) (frames : Nat)
    (told : List Event) : e.Agree (w.after frames T told) (v.after frames T told) :=
  ⟨hT.agreeOn h.bridge, h.classOf, h.maxCallDepth, h.registry⟩

theorem Change.in_after (hT : e.Change T) (hw : e.In w) (frames : Nat) (told : List Event) :
    e.In (w.after frames T told) :=
  ⟨hT.inBridge hw.bridge, hw.classOf, hw.calls⟩

/-- **An object is freed in the same way** wherever the estate is shown the same. -/
theorem ends_free (hw : e.In w)
    (h : (Run.free (.nested n) me e.object).Ends w (.ok ()) w') :
    ∃ T told, e.Change T ∧ ∀ v, e.Agree w v → (Run.free (.nested n) me e.object).Ends v (.ok ())
      ((v.onBridge (T v.bridge) told).onDomain (v.domain.remove e.object)) := by
  have hlocal : e.Local (do
      Run.record (.finalization e.object)
      let _ ← Run.destroy (.nested n) me e.object
      Run.forget e.object) (fun _ => True) :=
    .bind (.record _) fun _ _ => .bind (local_destroy (e.runs_nested me n)) fun _ _ => local_forget
  have hfree : Run.free (.nested n) me e.object = (do
      Run.record (.finalization e.object)
      let _ ← Run.destroy (.nested n) me e.object
      Run.forget e.object) >>= fun _ =>
        Run.changeDomain (·.remove e.object) [.freed e.object] := by
    simp only [Run.free, bind_assoc]
  rw [hfree] at h ⊢
  obtain ⟨_, u, hu, -⟩ := Process.Ends.of_bind_ok h
  obtain ⟨-, T, told, hT, hends⟩ := hlocal hw hu
  exact ⟨T, .freed e.object :: told, hT, fun v hwv => (hends v hwv).bind (.change _ _)⟩

end Estate

/-! ## Objects that are swept

The three parts put together, for one object. -/

/-- **An object is off the heap**, and its finalizer has had its frame. -/
def Domain.swept (d : Domain) (x : ObjectId × Class) : Domain :=
  { d with heap := d.heap.erase x.1, nextFrame := d.nextFrame + d.finalizerFrames x.2 }

/-- **What the reclaiming of an object makes of a state.** -/
def World.swept (w : World) (x : ObjectId × Class) (T : Bridge → Bridge) (told : List Event) :
    World :=
  { w with bridge := T w.bridge, domain := w.domain.swept x, history := told ++ w.history }

namespace Estate

/-- **An object is reclaimed in the same way** wherever the estate is shown the same. -/
theorem ends_reclaim (hw : e.In w) (hfin : e.KeepsFinalizer)
    (h : (Run.reclaim (.nested n) me e.object e.cls).Ends w (.ok ()) w') :
    ∃ T told, e.Change T ∧ ∀ v, e.Agree w v →
      (Run.reclaim (.nested n) me e.object e.cls).Ends v (.ok ())
        (v.swept (e.object, e.cls) T told) := by
  obtain ⟨_, u, hu, h⟩ := Process.Ends.of_bind_ok h
  obtain ⟨T, told, hT, hends⟩ := ends_runFinalizer hw hfin hu
  obtain ⟨-, rfl⟩ := (hends w (.refl w)).unique hu
  obtain ⟨T', told', hT', hends'⟩ := ends_free (hT.in_after hw _ told) h
  refine ⟨_, told' ++ told, hT.andThen hT', fun v hwv => (hends v hwv).bind ?_⟩
  have hframes : w.domain.finalizerFrames e.cls = v.domain.finalizerFrames e.cls := by
    unfold Domain.finalizerFrames
    rw [hwv.maxCallDepth]
  have hv := hends' _ (hT.agree_after hwv _ told)
  rw [hframes] at hv ⊢
  simpa [World.after, World.swept, World.onBridge, World.onDomain, Domain.swept,
    Domain.remove] using hv

end Estate

end HostBridge
