import HostBridge.Proofs.SelfTest.Scene

/-!
# Frames on a scene

What the sections of the domain make of the setting that they find: frames open and close, and
objects are allocated and handed on. Roots do not show in a setting, as they come and go with
their owners, so all there is to say of a section is which owners it leaves
(`Domain.Shows.balance`).

Of a body the self-test needs to know one thing (`Leads.runBody`): whatever the body does in
its frame, and whatever the frame keeps in the end, afterwards the frame is gone, and the
scene is the one that the body has left underneath.
-/

namespace HostBridge

open SelfTest

/-! ## Sections of the domain

One lemma for each of them, with the setting before and after. -/

namespace Domain.Shows

variable {d : Domain} {x : Setting} {o : ObjectId} {t : Frame} {rest : List Frame}

/-- A frame is opened on top. -/
theorem openFrame (h : d.Shows x) (name : String) (receiver : Option ObjectId) :
    (d.openFrame name receiver).2.Shows
      { x with frames := ⟨d.nextFrame, name, receiver, []⟩ :: x.frames } := by
  obtain ⟨heap, he⟩ := d.openFrame_eq name receiver
  refine h.balance (d.balances_openFrame name receiver) ⟨_, _, _, _, _, he⟩ ?_ ?_ ?_
  · rw [he, h.frames]
  · rw [he, h.allocating]
  · rw [he, h.held]

/-- The frame on top lets go of its oldest local. -/
theorem releaseLocal (h : d.Shows x) (hx : x.frames = t :: rest) {l : List ObjectId}
    (hl : t.locals = o :: l) :
    (d.releaseLocal t.id).Shows { x with frames := { t with locals := l } :: rest } := by
  have hf := h.frames.trans hx
  have he := releaseLocal_top hf rfl hl
  refine h.balance (balances_releaseLocal hf rfl hl) ⟨_, _, _, _, _, he⟩ ?_ ?_ ?_
  · rw [he]
    exact updateLocals_top (d := d.unroot o) hf rfl _
  · rw [he]
    exact h.allocating
  · rw [he]
    exact h.held

/-- The frame on top is closed. -/
theorem closeFrame (h : d.Shows x) (hx : x.frames = t :: rest) (hl : t.locals = []) :
    (d.closeFrame t.id).Shows { x with frames := rest } := by
  have hf := h.frames.trans hx
  obtain ⟨heap, he⟩ := d.closeFrame_eq t.id
  refine h.balance (balances_closeFrame hf rfl hl) ⟨_, _, _, _, _, he⟩ ?_ ?_ ?_
  · rw [he]
    exact erase_top hf rfl
  · rw [he]
    exact h.allocating
  · rw [he]
    exact h.held

/-- The frame on top takes over the object whose construction has ended. -/
theorem adopt (h : d.Shows x) (hx : x.frames = t :: rest) {l : List ObjectId}
    (ho : x.allocating = o :: l) :
    (d.adopt t.id o).Shows { x with
      frames := { t with locals := t.locals ++ [o] } :: rest
      allocating := l } := by
  have hf := h.frames.trans hx
  have ha := h.allocating.trans ho
  refine h.balance (balances_adopt hf rfl (ha ▸ List.mem_cons_self ..)) ⟨_, _, _, _, _, rfl⟩
    (updateLocals_top hf rfl _) ?_ h.held
  change d.allocating.erase o = l
  rw [ha, List.erase_cons_head]

/-- Native code takes over the object whose construction has ended. -/
theorem hold (h : d.Shows x) {l : List ObjectId} (ho : x.allocating = o :: l) :
    (d.hold o).Shows { x with allocating := l, held := o :: x.held } := by
  have ha := h.allocating.trans ho
  refine h.balance (balances_hold (ha ▸ List.mem_cons_self ..) 0) ⟨_, _, _, _, _, rfl⟩ h.frames
    ?_ (congrArg (o :: ·) h.held)
  change d.allocating.erase o = l
  rw [ha, List.erase_cons_head]

/-- Native code lets go of an object. -/
theorem letGo (h : d.Shows x) {l : List ObjectId} (ho : x.held = o :: l) :
    (d.letGo o).Shows { x with held := l } := by
  have hd := h.held.trans ho
  refine h.balance (balances_letGo (hd ▸ List.mem_cons_self ..) 0) ⟨_, _, _, _, _, rfl⟩ h.frames
    h.allocating ?_
  change d.held.erase o = l
  rw [hd, List.erase_cons_head]

/-- An object is put on the heap that nobody has named before. -/
theorem allocate (h : d.Shows x) (c : Class) (ho : x.owners x.nextObject = 0) :
    (d.allocate c).2.Shows { x with
      objects := (x.nextObject, c) :: x.objects
      allocating := x.nextObject :: x.allocating
      lastObject := x.lastObject + 1 } := by
  have hn := h.nextObject_eq
  refine { h with
    exact := h.exact.allocate c (by rw [h.owners_eq, hn, ho])
    classOf := fun p => ?_
    taken := fun p hp => ?_
    frames := h.frames
    allocating := ?_
    held := h.held
    lastObject := congrArg (· + 1) h.lastObject }
  · have hp := h.classOf p
    unfold Domain.classOf? Setting.classOf? at hp ⊢
    rw [get?_allocate, hn, List.find?_cons]
    by_cases hpn : p = x.nextObject
    · simp [hpn]
    · have hnp : x.nextObject ≠ p := fun he => hpn he.symm
      simpa [hpn, hnp] using hp
  · rw [get?_allocate] at hp
    by_cases hpn : p = d.nextObject
    · rw [if_pos hpn] at hp
      cases hp
    · rw [if_neg hpn] at hp
      exact h.taken p hp
  · change d.nextObject :: d.allocating = _
    rw [hn, h.allocating]

/-- Classes are found by their full names. -/
theorem findClass?_fullName (h : d.Shows x) (hx : x.loaded = true) {c : Class}
    (hc : c ∈ SelfTest.classes) : d.findClass? c.fullName = some c := by
  unfold Domain.findClass?
  rw [h.loaded hx c hc]

end Domain.Shows

namespace SelfTest

variable {run : Runner} {me : ThreadId} {s' : Scene} {c : Class}

/-! ## Bodies

A body that returns and a body that throws leave the scene in the same way. -/

/-- The scene with one frame more on top. -/
def Scene.enter (s : Scene) (t : Frame) : Scene :=
  { s with setting := { s.setting with frames := t :: s.setting.frames } }

namespace Leads

/-- A frame lets go of all its locals. -/
theorem releaseLocals {t : Frame} {locals : List ObjectId} (s : Scene) (hl : t.locals = locals) :
    Leads (Run.releaseLocals t.id locals.length) (s.enter t) ()
      (s.enter { t with locals := [] }) := by
  induction locals generalizing t with
  | nil =>
    obtain ⟨id, name, receiver, _⟩ := t
    obtain rfl := hl
    exact .pure _ _
  | cons o l ih =>
    refine .bind (.changeDomain (fun d hd => hd.releaseLocal rfl hl) rfl) ?_
    exact ih (t := { t with locals := l }) rfl

/-- **A body runs in a frame of its own**, whatever the number of the frame, and its frame
lets go of all that it kept. -/
theorem runBody {name : String} {body : MethodBody} {receiver : Option ObjectId}
    {args : List ManagedValue} {depth : Nat} {result : Except ManagedException ManagedValue}
    (locals : List ObjectId) (hdepth : depth < 2)
    (h : ∀ f, Leads (run.managed me ⟨c, f, depth, ⟨name, receiver, args⟩⟩
        (body ⟨name, receiver, args⟩))
      (s.enter ⟨f, name, receiver, []⟩) result (s'.enter ⟨f, name, receiver, locals⟩)) :
    Leads (Run.runBody run me c name body receiver args depth) s
      (result.mapError (·.pushFrame name)) s' := by
  unfold Run.runBody
  refine .bind_of fun w hw => ⟨_, w, s, .ask _ w, hw, ?_⟩
  have hlimit : ¬w.domain.maxCallDepth ≤ depth := by
    have := hw.domain.depth
    omega
  rw [if_neg hlimit]
  refine .bind_of fun w hw => ⟨_, _, s.enter ⟨w.domain.nextFrame, name, receiver, []⟩,
    .exchange _ w, ⟨hw.registry, hw.domain.openFrame name receiver, hw.bridge, hw.journal⟩, ?_⟩
  refine .bind (.record rfl) (.attempt (h w.domain.nextFrame) ?_)
  refine .bind (.askDomain fun d hd => Domain.locals_top hd.frames rfl) ?_
  refine .bind (.releaseLocals s' rfl) ?_
  exact .bind (.changeDomain (fun d hd => hd.closeFrame rfl rfl) rfl) (.pure _ _)

end Leads

end SelfTest

end HostBridge
