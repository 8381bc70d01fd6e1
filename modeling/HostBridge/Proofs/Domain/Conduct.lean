import HostBridge.Proofs.Bridge.Protocol
import HostBridge.Proofs.Domain.Sections

/-!
# Code that keeps the books

The discipline in which the books of a domain stay in order (`World.rooting`), for a
host that runs on one thread, and how code behaves in it (`Regime.manners`): native
code gives the frames back as it found them, and managed code changes the locals of
its own frame at most. The bridge has no part in the books, and its operations keep
them (`keeps_destroyRecord` and its kin) as long as the code does that they enter.

The stake of the one thread is the whole ledger: the world, and for each object
under construction the frame that it was begun in. So a section is a step from one
ledger to the next, and nothing is lost between two of them.

Two things are demanded of a section, and each is had in runs of one kind only
(`Regime`). In a tame run nothing is freed that somebody owns. In a run in which
nobody but the domain constructs instances, a collection begins only where no
construction is running that it could come upon.
-/

namespace HostBridge

variable {r : Regime} {me : ThreadId} {w w' : World} {x y z : Ledger} {α β : Type}

/-- **No construction is running but those of new objects**, if nobody else may
construct. -/
def World.Sound (r : Regime) (w : World) : Prop :=
  r = .sole → ∀ h s, w.bridge.records.get? h = some s → s.lifecycle = .constructing →
    s.object ∈ w.domain.allocating

/-- What begins no construction and leaves the domain alone keeps that. -/
theorem World.Sound.onward (hs : w.Sound r) (hb : w.bridge.Onward w'.bridge)
    (hd : w'.domain = w.domain) : w'.Sound r := by
  intro hr g s' hs' hl'
  obtain ⟨s, hg, ho, -, hl⟩ := hb g s' hs'
  rw [hd, ho]
  exact hs hr g s hg (hl hl')

/-- **The discipline of the books**: fewer objects are allocated than there are numbers
for, and a tame run stays tame. In a tame run, what is freed has no owner; and a
collection begins where no construction is running that it could come upon. -/
def World.rooting (r : Regime) (me : ThreadId) : Discipline World Ledger where
  inv := fun w own => (own me).world = w ∧ (own me).Balanced r me
  within := fun w => w.allocations < 2 ^ 64 ∧ (r = .tame → w.Tame)
  demand := fun w w' _ =>
    (r = .tame → ∀ o, w'.history = .freed o :: w.history → w.domain.owners o = 0) ∧
      (w'.domain.collections ≠ w.domain.collections → w.Sound r)

/-! ## Conduct

`Ledger.Returns` is what both kinds of code have in common, and it speaks of
objects that were there before only. What code makes and does not hand on is
garbage, or a local of a frame that is above. -/

/-- **Code has given back what it found**, but for the frames: objects are still where
they were, and the constructions of objects that were running are. -/
structure Ledger.Returns (x y : Ledger) : Prop where
  world : x.world.Extends [] y.world
  allocating : y.world.domain.allocating = x.world.domain.allocating
  births : ∀ o ∈ x.world.domain.allocating, y.births o = x.births o

namespace Ledger.Returns

theorem refl (x : Ledger) : x.Returns x := ⟨.refl _, rfl, fun _ _ => rfl⟩

theorem trans (h : x.Returns y) (h' : y.Returns z) : x.Returns z where
  world := h.world.trans h'.world
  allocating := h'.allocating.trans h.allocating
  births := fun o ho => (h'.births o (h.allocating ▸ ho)).trans (h.births o ho)

/-- What code gives back is as sound as it was. -/
theorem sound (h : x.Returns y) (hx : x.world.Sound r) : y.world.Sound r := by
  intro hr g s hs hl
  obtain ⟨s', hs', hl', ho⟩ := h.world.building g s hs hl
  rw [h.allocating, ← ho]
  exact hx hr g s' hs' hl'

/-- What carries the objects along gives back what it found, if no object gets a holder by it.
-/
theorem carry (h : x.Returns y) (hc : y.world.Carries me w')
    (hh : ∀ o, w'.domain.held.count o ≤ y.world.domain.held.count o)
    (ha : w'.domain.allocating = y.world.domain.allocating) : x.Returns ⟨w', y.births⟩ where
  world := h.world.carry hc (fun o _ => hh o)
  allocating := ha.trans h.allocating
  births := h.births

/-- A turn of the domain in which only frames and roots change. -/
theorem turn (h : x.Returns y) {d : Domain} (hc : y.world.domain.Continues d)
    (hh : d.held = y.world.domain.held) (ha : d.allocating = y.world.domain.allocating) :
    x.Returns ⟨y.world.onDomain d, y.births⟩ := by
  have hcar : y.world.Carries mainThread (y.world.onDomain d) := World.carries_of_continues hc
  exact h.carry hcar (fun o => Nat.le_of_eq (congrArg (List.count o) hh)) ha

end Ledger.Returns

/-- **The conduct of native code**: the frames are as they were. -/
def Ledger.native (r : Regime) : Conduct Ledger where
  rel := fun x y => x.world.Sound r ∧ x.Returns y ∧ y.world.domain.frames = x.world.domain.frames
  trans := fun h h' => ⟨h.1, h.2.1.trans h'.2.1, h'.2.2.trans h.2.2⟩
  right := fun h => ⟨h.2.1.sound h.1, .refl _, rfl⟩

/-- **A frame is on top**, with nothing under construction that was allocated since it
was opened. -/
structure Ledger.Atop (f : FrameId) (t : Frame) (rest : List Frame) (x : Ledger) : Prop where
  frames : x.world.domain.frames = t :: rest
  id : t.id = f
  births : ∀ o ∈ x.world.domain.allocating, x.births o ≤ f

theorem Ledger.Atop.returns {f : FrameId} {t : Frame} {rest : List Frame} {l : List ObjectId}
    (h : x.Atop f t rest) (hr : x.Returns y)
    (hf : y.world.domain.frames = { t with locals := l } :: rest) :
    y.Atop f { t with locals := l } rest where
  frames := hf
  id := h.id
  births := fun o ho => by
    rw [hr.allocating] at ho
    rw [hr.births o ho]
    exact h.births o ho

/-- **The conduct of managed code** in a frame: it is on top, and stays there. -/
def Ledger.managed (r : Regime) (f : FrameId) : Conduct Ledger where
  rel := fun x y => x.world.Sound r ∧ x.Returns y ∧ ∃ t rest l, x.Atop f t rest ∧
    y.world.domain.frames = { t with locals := l } :: rest
  trans := by
    rintro x y z ⟨hs, hr, t, rest, l, ht, hl⟩ ⟨-, hr', t', rest', l', ht', hl'⟩
    obtain ⟨rfl, rfl⟩ := List.cons.inj (hl.symm.trans ht'.frames)
    exact ⟨hs, hr.trans hr', t, rest, l', ht, hl'⟩
  right := by
    rintro x y ⟨hs, hr, t, rest, l, ht, hl⟩
    exact ⟨hr.sound hs, .refl _, _, rest, l, ht.returns hr hl, hl⟩

/-- **The manners of code towards the books.** -/
def Regime.manners (r : Regime) (me : ThreadId) : Manners Ledger where
  discipline := World.rooting r me
  native := Ledger.native r
  managed := Ledger.managed r
  asks := r.Permits

namespace Ledger

/-! ## Sections

A lemma for each kind of section, with the ledger in the place of state and
stake. They are stated for a ledger `x` and the world that the section makes of
it, and they leave the births as they are unless a construction begins or ends. -/

/-- **A section from a ledger to the next.** -/
theorem follows_section {ready : World → Bool} {f : World → α × World} {k : α → Run β}
    {post : Except Crash β → Ledger → Prop}
    (h : x.Balanced r me → (World.rooting r me).within x.world →
      (World.rooting r me).within (f x.world).2 → ready x.world = true →
      (World.rooting r me).demand x.world (f x.world).2 x ∧
        ∃ b, (Ledger.mk (f x.world).2 b).Balanced r me ∧
          (k (f x.world).1).Follows (World.rooting r me) me post ⟨(f x.world).2, b⟩) :
    (Process.exchangeWhen ready f >>= k).Follows (World.rooting r me) me post x := by
  refine Process.Follows.exchangeWhen (fun w own hinv hme hs hr hs' => ?_)
  obtain ⟨rfl, hb⟩ := hinv
  rw [hme] at hb hs hr hs' ⊢
  obtain ⟨hd, b, hb', hk⟩ := h hb hs hs' hr
  refine ⟨hd, _, ?_, hk⟩
  show _ ∧ _
  rw [Function.update_self]
  exact ⟨rfl, hb'⟩

/-- A change, likewise. -/
theorem follows_change {f : World → World} {k : Unit → Run β}
    {post : Except Crash β → Ledger → Prop}
    (h : x.Balanced r me → (World.rooting r me).within x.world →
      (World.rooting r me).within (f x.world) →
      (World.rooting r me).demand x.world (f x.world) x ∧
        ∃ b, (Ledger.mk (f x.world) b).Balanced r me ∧
          (k ()).Follows (World.rooting r me) me post ⟨f x.world, b⟩) :
    (Process.change f >>= k).Follows (World.rooting r me) me post x := by
  show (Process.exchangeWhen (fun _ => true) (fun w => ((), f w)) >>= k).Follows _ _ _ _
  exact follows_section (fun hb hs hs' _ => h hb hs hs')

/-- Nothing is freed by a section that carries the objects along. -/
theorem demand_of_carries (hc : w.Carries me w') : (World.rooting r me).demand w w' x :=
  ⟨fun _ o ho => absurd ho (hc.not_freed o), fun h => absurd hc.domain.collections h⟩

theorem demand_of_history (hw : w'.history = w.history)
    (hc : w'.domain.collections ≠ w.domain.collections → w.Sound r) :
    (World.rooting r me).demand w w' x :=
  ⟨fun _ o ho => absurd (hw.symm.trans ho) (by simp), hc⟩

/-- A question is answered of the world in the ledger. -/
theorem follows_ask {f : World → α} {k : α → Run β} {post : Except Crash β → Ledger → Prop}
    (h : x.Balanced r me → (k (f x.world)).Follows (World.rooting r me) me post x) :
    (Process.ask f >>= k).Follows (World.rooting r me) me post x := by
  refine Process.Follows.ask (fun w => ?_) (fun w own hinv hme _ => ?_)
  · exact demand_of_history rfl (fun h => absurd rfl h)
  · obtain ⟨rfl, hb⟩ := hinv
    rw [hme] at hb ⊢
    exact h hb

/-- A question settles if what comes after it does. -/
theorem settles_ask {f : World → α} {k : α → Run β} {C : Conduct Ledger}
    (h : ∀ x : Ledger, x.Balanced r me → (k (f x.world)).Settles (World.rooting r me) C me) :
    (Process.ask f >>= k).Settles (World.rooting r me) C me :=
  fun x hx => follows_ask (fun hb => h x hb x hx)

theorem settles_ask_pure (f : World → α) (C : Conduct Ledger) :
    (Process.ask f).Settles (World.rooting r me) C me := by
  rw [← bind_pure (Process.ask f)]
  exact settles_ask (fun _ _ => .pure _)

/-- **A section that gives back** what it found: frames and constructions are as they
were, and no object has got a native holder. -/
theorem settles_section {ready : World → Bool} {f : World → α × World}
    (hc : ∀ x : Ledger, x.Balanced r me → ready x.world = true →
      x.world.Carries me (f x.world).2 ∧ (Ledger.mk (f x.world).2 x.births).Balanced r me)
    (hd : ∀ w, (f w).2.domain.frames = w.domain.frames ∧
      (f w).2.domain.allocating = w.domain.allocating ∧
      ∀ o, (f w).2.domain.held.count o ≤ w.domain.held.count o) :
    (Process.exchangeWhen ready f).Settles (World.rooting r me) (Ledger.native r) me := by
  intro x hx
  rw [← bind_pure (Process.exchangeWhen ready f)]
  refine follows_section (fun hb _ _ hr => ?_)
  obtain ⟨hcar, hbal⟩ := hc x hb hr
  obtain ⟨hf, ha, hh⟩ := hd x.world
  exact ⟨demand_of_carries hcar, x.births, hbal,
    Or.inr ⟨⟨_, rfl⟩, hx.1, (Ledger.Returns.refl x).carry hcar hh ha, hf⟩⟩

/-- **A section that leaves the domain alone.** -/
theorem settles_idle {ready : World → Bool} {f : World → α × World}
    (hc : ∀ w : World, w.Carries me (f w).2) (hd : ∀ w, (f w).2.domain = w.domain) :
    (Process.exchangeWhen ready f).Settles (World.rooting r me) (Ledger.native r) me :=
  settles_section (fun x hb _ => ⟨hc x.world, hb.idle (hc x.world) (hd x.world)⟩)
    (fun w => by rw [hd w]; exact ⟨rfl, rfl, fun _ => Nat.le_refl _⟩)

theorem settles_idle_change {f : World → World} (hc : ∀ w : World, w.Carries me (f w))
    (hd : ∀ w, (f w).domain = w.domain) :
    (Process.change f).Settles (World.rooting r me) (Ledger.native r) me := by
  show (Process.exchangeWhen (fun _ => true) (fun w => ((), f w))).Settles _ _ _
  exact settles_idle hc hd

/-- A line for the history is no matter of the books, unless it tells of an object. -/
theorem settles_record {e : Event} (he : e.isVital = false) :
    (Run.record e).Settles (World.rooting r me) (Ledger.native r) me :=
  settles_idle_change (fun _ => World.carries_record he) (fun _ => rfl)

theorem settles_log (level : LogLevel) (text : String) :
    (Run.log level text).Settles (World.rooting r me) (Ledger.native r) me :=
  settles_record rfl

end Ledger

/-! ## Operations of the bridge

To the books the bridge is one thing only: somewhere a construction may be under
way. A change that goes on from there without beginning one is **onward**. -/

namespace Bridge

variable (b : Bridge)

/-- A record that does not become one of a construction goes on. -/
theorem onward_setLifecycle (h : Handle) {s : Lifecycle} (hs : s ≠ .constructing) :
    b.Onward (b.setLifecycle h s) :=
  b.onward_updateRecord h (fun _ => ⟨rfl, rfl, fun hl => absurd hl hs⟩)

theorem onward_forget (o : ObjectId) : b.Onward (b.forget o) := by
  refine onward_of_records ?_
  unfold forget
  split <;> rfl

theorem onward_condemn (h : Handle) : b.Onward (b.condemn me h).2 := by
  obtain hc | ⟨s, -, -, -, hc⟩ | ⟨s, -, -, -, hc⟩ := b.condemn_cases me h
  · rw [hc]
    exact onward_of_records rfl
  · rw [hc]
    exact b.onward_updateRecord h (fun _ => ⟨rfl, rfl, id⟩)
  · rw [hc]
    exact b.onward_setLifecycle h (by simp)

/-- A call that is admitted begins no construction. -/
theorem onward_admitCall (h : Handle) : b.Onward (b.admitCall me h).2 := by
  obtain ⟨s, hc⟩ | ⟨s, -, -, hc⟩ := b.admitCall_cases me h
  · rw [hc]
    exact onward_of_records rfl
  · rw [hc]
    exact b.onward_updateRecord h (fun _ => ⟨rfl, rfl, id⟩)

theorem onward_dismiss (h : Handle) : b.Onward (b.dismiss me h).2 := by
  cases hs : b.records.get? h with
  | none =>
    unfold dismiss
    rw [hs]
    exact onward_of_records rfl
  | some s =>
    obtain ⟨-, hc⟩ | ⟨-, hc⟩ := b.dismiss_cases me hs
    · rw [hc]
      exact b.onward_updateRecord h (fun _ => ⟨rfl, rfl, by simp⟩)
    · rw [hc]
      exact b.onward_updateRecord h (fun _ => ⟨rfl, rfl, id⟩)

theorem onward_useResource (h : Handle) (kind : ResourceKind)
    (update : kind.Carrier → kind.Carrier) : b.Onward (b.useResource h kind update).2 := by
  obtain ⟨e, hc⟩ | ⟨s, v, a, -, -, hc⟩ := b.useResource_cases h kind update
  · rw [hc]
    exact onward_of_records rfl
  · rw [hc]
    exact b.onward_updateRecord h (fun _ => ⟨rfl, rfl, id⟩)

end Bridge

namespace Ledger

/-! ### Sections and operations

Those that enter code need the code to keep the books; the others need nothing. -/

/-- **A section on the bridge in which no construction begins.** -/
theorem settles_onBridge {ready : Bridge → Bool} {f : Bridge → α × Bridge}
    {events : α → List Event} (hf : ∀ b : Bridge, b.Onward (f b).2)
    (he : ∀ a, ∀ e ∈ events a, e.isVital = false) :
    (Run.onBridgeWhen ready f events).Settles (World.rooting r me) (Ledger.native r) me :=
  settles_idle (fun w => World.carries_onBridge (hf w.bridge) (he _)) (fun _ => rfl)

theorem settles_changeBridge {f : Bridge → Bridge} {events : List Event}
    (hf : ∀ b : Bridge, b.Onward (f b)) (he : ∀ e ∈ events, e.isVital = false) :
    (Run.changeBridge f events).Settles (World.rooting r me) (Ledger.native r) me :=
  settles_idle_change (fun w => World.carries_onBridge (hf w.bridge) he) (fun _ => rfl)

theorem settles_await (ready : World → Bool) :
    (Process.await ready).Settles (World.rooting r me) (Ledger.native r) me :=
  settles_idle (f := fun w => ((), w)) (fun _ =>
    ⟨rfl, Bridge.onward_of_records rfl, fun _ => Or.inl, .refl _, [], rfl, by simp⟩) (fun _ => rfl)

/-- The use of a resource is none of the books' business. -/
theorem settles_useResource (h : Handle) (kind : ResourceKind)
    (update : kind.Carrier → kind.Carrier) :
    (Run.useResource h kind update).Settles (World.rooting r me) (Ledger.native r) me := by
  refine .bind (settles_ask_pure _ _) (fun s? => ?_)
  cases s? with
  | none => exact .pure _
  | some s =>
    exact settles_onBridge (fun b => b.onward_useResource h kind update)
      (fun _ _ he => Run.eq_of_mem_useEvents he ▸ rfl)

theorem settles_forget (o : ObjectId) :
    (Run.forget o).Settles (World.rooting r me) (Ledger.native r) me :=
  settles_changeBridge (fun b => b.onward_forget o) (by simp)

/-- The admission of a call leaves the books alone. -/
theorem settles_enter (o : ObjectId) (m : Member) :
    (Run.enter me o m).Settles (World.rooting r me) (Ledger.native r) me := by
  refine .bind (settles_ask_pure _ _) (fun h? => ?_)
  cases h? with
  | none => exact .pure _
  | some h =>
    refine .bind (settles_onBridge (fun b => b.onward_admitCall h) (fun a e he => ?_))
      (fun a => ?_)
    · cases a <;> simp [Run.admissionEvents] at he
      rw [he]
      rfl
    · cases a <;> exact .pure _

theorem settles_settle (m : Member) (result : Except CallFailure BoundaryValue) :
    (Run.settle m result).Settles (World.rooting r me) (Ledger.native r) me := by
  cases result with
  | error e => exact .pure _
  | ok v =>
    unfold Run.settle
    dsimp only
    split
    · exact .pure _
    · exact .bind (settles_log _ _) (fun _ => .pure _)

section Running

variable {run : Runner} (hrun : run.Keeps (r.manners me) me)

include hrun

/-- **A destruction gives back what it found**, whatever its hook does. -/
theorem settles_finishDestroy (h : Handle) :
    (Run.finishDestroy run me h).Settles (World.rooting r me) (Ledger.native r) me := by
  have last : ((Run.changeBridge (·.setLifecycle h .destroyed)) : Run Unit).Settles
      (World.rooting r me) (Ledger.native r) me :=
    settles_changeBridge (fun b => b.onward_setLifecycle h (by simp)) (by simp)
  refine .bind (settles_changeBridge (fun b => Bridge.onward_of_records rfl) (by simp))
    (fun _ => .bind (settles_onBridge (f := fun b => b.takeResource h)
      (fun b => b.onward_updateRecord h (fun _ => ⟨rfl, rfl, id⟩)) (by simp))
      (fun resource => settles_ask (fun x hb => ?_)))
  dsimp only
  cases resource with
  | none => exact last
  | some v =>
    cases hs : x.world.bridge.records.get? h with
    | none => exact last
    | some s =>
      have hook : (Run.record (.destruction h v)).Keeps (World.rooting r me) (Ledger.native r) me :=
        (settles_record rfl).keeps
      refine .bind (.catchNative settles_log _ _ (.bind hook (fun _ =>
        .bind (hrun.native _ ((hb.hosted.hooks h s hs).destroy h v)) (fun _ => .pure _))))
        (fun ended => ?_)
      cases ended with
      | ok a => exact last
      | error fault => exact .bind (settles_log _ _) (fun _ => last)

/-- **A request for destruction** gives back what it found, on every way it can come to. -/
theorem settles_destroyRecord (h : Handle) :
    (Run.destroyRecord run me h).Settles (World.rooting r me) (Ledger.native r) me := by
  refine .bind (settles_onBridge (fun b => b.onward_condemn h) (fun a e he => ?_))
    (fun verdict => ?_)
  · cases a <;> simp [Run.verdictEvents] at he
    all_goals
      rw [he]
      rfl
  · cases verdict with
    | accepted =>
      exact .bind (settles_await _) (fun _ => .bind (settles_finishDestroy hrun h)
        (fun _ => .pure _))
    | _ => exact .pure _

theorem settles_destroy (o : ObjectId) :
    (Run.destroy run me o).Settles (World.rooting r me) (Ledger.native r) me := by
  refine .bind (settles_ask_pure _ _) (fun h? => ?_)
  cases h? with
  | none => exact .pure _
  | some h => exact settles_destroyRecord hrun h

/-- **The end of a call** gives back what it found, also where it carries out a deferred
destruction. -/
theorem settles_leave (h : Handle) :
    (Run.leave run me h).Settles (World.rooting r me) (Ledger.native r) me := by
  refine .bind (settles_onBridge (fun b => b.onward_dismiss h) (fun a e he => ?_)) (fun last => ?_)
  · simp at he
    rw [he]
    rfl
  · cases last with
    | false => exact .pure _
    | true => exact settles_finishDestroy hrun h

/-- **An implementation gives back what it found**, as all native code does, and its panics are
stopped. -/
theorem settles_runCall (m : Member) (c : NativeCall) (args : List BoundaryValue)
    (hc : Program.Asks (I := nativeInterface) r.Permits (c.run args)) :
    (Run.runCall run me m c args).Settles (World.rooting r me) (Ledger.native r) me :=
  have start : (Run.record (.call m args)).Keeps (World.rooting r me) (Ledger.native r) me :=
    (settles_record rfl).keeps
  .catchNative settles_log _ _ (.bind start (fun _ => hrun.native _ hc))

end Running

end Ledger

end HostBridge
