import HostBridge.Proofs.Domain.Protocol

/-!
# Running managed code by the books

Bodies, constructions and collections keep the books of a domain, if the code does that
they enter. A body has the frame on top (`Ledger.Atop`) and gives back what its frame
kept; a construction has the root of its object until it hands it on (`Ledger.Bears`);
a collection has the objects that it took, which stay where they are until it comes to
them (`Ledger.Taken`), whatever the finalizers and hooks of others do.

So all code keeps the books (`Ledger.rooted`).

## Three ways of giving back

What code is asked to give back is stated by comparing the books at its start with those at its
end. Native code leaves the frames and the constructions as they were, gives no holder to an
object that was there, and lets be what a collection has taken. Managed code may in addition have
put locals on its own frame. A collection may have freed what it had taken itself.

Each of the three is a relation that can be put after itself. A loop gives back what its passes
give back, so the proof for a collection is the proof for one object, and an induction on the
list that only adds up.

## What stands between

A collection takes all its objects at once and comes to them one by one, and in between code
runs that may do anything that is allowed. What it needs to know of an object that it has not
come to is put in `Ledger.Taken`. The code in between keeps that, not because it knows of the
collection, but because it leaves alone whatever is marked.
-/

namespace HostBridge

variable {r : Regime} {me : ThreadId} {w w' : World} {x y z : Ledger} {run : Runner} {α β : Type}
  {f : FrameId} {t : Frame} {rest : List Frame} {o : ObjectId}

namespace Ledger

/-! ## Sections of the domain

A section keeps the books if the change of the domain does, and if what the history is told of
it is true. -/

theorem follows_onDomain {f : Domain → α × Domain} {events : α → List Event} {k : α → Run β}
    {post : Except Crash β → Ledger → Prop}
    (h : x.Balanced r me → (World.rooting r me).within x.world →
      (World.rooting r me).within
        (x.world.onDomain (f x.world.domain).2 (events (f x.world.domain).1)) →
      (World.rooting r me).demand x.world
          (x.world.onDomain (f x.world.domain).2 (events (f x.world.domain).1)) x ∧
        ∃ b, (Ledger.mk (x.world.onDomain (f x.world.domain).2 (events (f x.world.domain).1))
            b).Balanced r me ∧
          (k (f x.world.domain).1).Follows (World.rooting r me) me post
            ⟨x.world.onDomain (f x.world.domain).2 (events (f x.world.domain).1), b⟩) :
    (Run.onDomain f events >>= k).Follows (World.rooting r me) me post x :=
  follows_section (fun hb hs hs' _ => h hb hs hs')

theorem follows_changeDomain {f : Domain → Domain} {events : List Event} {k : Unit → Run β}
    {post : Except Crash β → Ledger → Prop}
    (h : x.Balanced r me → (World.rooting r me).within x.world →
      (World.rooting r me).within (x.world.onDomain (f x.world.domain) events) →
      (World.rooting r me).demand x.world (x.world.onDomain (f x.world.domain) events) x ∧
        ∃ b, (Ledger.mk (x.world.onDomain (f x.world.domain) events) b).Balanced r me ∧
          (k ()).Follows (World.rooting r me) me post
            ⟨x.world.onDomain (f x.world.domain) events, b⟩) :
    (Run.changeDomain f events >>= k).Follows (World.rooting r me) me post x :=
  follows_change h

/-- **A section in which roots change hands.** -/
theorem follows_balance {g : Domain → Domain} {k : Unit → Run β}
    {post : Except Crash β → Ledger → Prop}
    (hc : x.world.domain.Continues (g x.world.domain))
    (hb : x.world.domain.Balances (g x.world.domain) f)
    (hf : x.Balanced r me → ∀ o ∈ x.world.domain.allocating, x.births o ≤ f)
    (hk : (k ()).Follows (World.rooting r me) me post
      ⟨x.world.onDomain (g x.world.domain), x.births⟩) :
    (Run.changeDomain g >>= k).Follows (World.rooting r me) me post x :=
  have hcar : x.world.Carries me (x.world.onDomain (g x.world.domain)) :=
    World.carries_of_continues hc
  follows_changeDomain (fun hbal _ _ => ⟨demand_of_carries hcar, x.births,
    hbal.balances hcar hb (fun o ho => hf hbal o (hc.allocating.subset ho)), hk⟩)

theorem follows_record {e : Event} {k : Unit → Run β} {post : Except Crash β → Ledger → Prop}
    (he : e.isVital = false)
    (hk : ∀ z, x.Returns z → z.world.domain.frames = x.world.domain.frames →
      z.world.history = e :: x.world.history →
      (k ()).Follows (World.rooting r me) me post z) :
    (Run.record e >>= k).Follows (World.rooting r me) me post x := by
  have hcar : x.world.Carries me (x.world.record e) := World.carries_record he
  exact follows_change (fun hb _ _ => ⟨demand_of_carries hcar, x.births, hb.idle hcar rfl,
    hk _ ((Returns.refl x).carry hcar (fun _ => Nat.le_refl _) rfl) rfl rfl⟩)

/-- **A section of a frame on top** that changes its locals, and roots with them. -/
theorem follows_turn {l : List ObjectId} {g : Domain → Domain} {k : Unit → Run β}
    {post : Except Crash β → Ledger → Prop} (hy : y.Atop f t rest)
    (hc : y.world.domain.Continues (g y.world.domain))
    (hb : y.world.domain.Balances (g y.world.domain) f)
    (he : ∃ heap frames, g y.world.domain = { y.world.domain with heap, frames })
    (hf : (g y.world.domain).frames = { t with locals := l } :: rest)
    (hk : ∀ z, y.Returns z → z.world.domain.frames = { t with locals := l } :: rest →
      (k ()).Follows (World.rooting r me) me post z) :
    (Run.changeDomain g >>= k).Follows (World.rooting r me) me post y := by
  obtain ⟨heap, frames, he⟩ := he
  exact follows_balance hc hb (fun _ => hy.births)
    (hk _ ((Returns.refl y).turn hc (by rw [he]) (by rw [he])) hf)

/-! ## Bodies

A frame is opened with a root for its receiver. Whichever way the body leaves it, by a value or
by an exception, the frame gives back that root and those of its locals. After a panic it does
not, and the run is not tame any more. -/

/-- **A frame lets go of its locals**, one after the other. -/
theorem follows_releaseLocals {l : List ObjectId} {k : Unit → Run β}
    {post : Except Crash β → Ledger → Prop} (hy : y.Atop f t rest) (hl : t.locals = l)
    (hk : ∀ z, y.Returns z → z.world.domain.frames = { t with locals := [] } :: rest →
      (k ()).Follows (World.rooting r me) me post z) :
    (Run.releaseLocals f l.length >>= k).Follows (World.rooting r me) me post y := by
  induction l generalizing y t with
  | nil =>
    refine hk y (.refl y) ?_
    rw [← hl]
    exact hy.frames
  | cons o l ih =>
    have he : ∃ heap frames, y.world.domain.releaseLocal f =
        { y.world.domain with heap, frames } := by
      rw [Domain.releaseLocal_top hy.frames hy.id hl]
      exact ⟨_, _, rfl⟩
    show ((Run.changeDomain (·.releaseLocal f) >>= fun _ => Run.releaseLocals f l.length) >>=
      k).Follows _ _ _ _
    rw [bind_assoc]
    refine follows_turn hy (Domain.continues_releaseLocal hy.frames hy.id hl)
      (Domain.balances_releaseLocal hy.frames hy.id hl) he
      (Domain.releaseLocal_frames hy.frames hy.id hl) (fun z hz hf => ?_)
    exact ih (hy.returns hz hf) rfl (fun v hv hf' => hk v (hz.trans hv) hf')

/-- **The end of a body**: its frame lets go of everything and is closed. -/
theorem follows_close {p : Run β} {post : Except Crash β → Ledger → Prop}
    (hy : y.Atop f t rest)
    (hp : ∀ z, y.Returns z → z.world.domain.frames = rest →
      p.Follows (World.rooting r me) me post z) :
    (do
      Run.releaseLocals f (← Run.askDomain (·.locals f)).length
      Run.changeDomain (·.closeFrame f)
      p).Follows (World.rooting r me) me post y := by
  refine follows_ask (fun _ => ?_)
  dsimp only
  rw [Domain.locals_top hy.frames hy.id]
  refine follows_releaseLocals hy rfl (fun z hz hf => ?_)
  have hz' : z.Atop f { t with locals := [] } rest := hy.returns hz hf
  have hc := Domain.continues_closeFrame hz'.frames hz'.id rfl
  obtain ⟨heap, he⟩ := z.world.domain.closeFrame_eq f
  exact follows_balance hc (Domain.balances_closeFrame hz'.frames hz'.id rfl)
    (fun _ => hz'.births)
    (hp _ (hz.turn hc (by rw [he]) (by rw [he])) (Domain.closeFrame_frames hz'.frames hz'.id))

/-- **The end of a body that crashed**: its frame is struck. A tame run does not come to
this. -/
theorem follows_abandonFrame {k : Unit → Run β} {post : Except Crash β → Ledger → Prop}
    (hk : r ≠ .tame → ∀ z, (∀ t rest, y.Atop f t rest → y.Returns z ∧
      z.world.domain.frames = rest) → (k ()).Follows (World.rooting r me) me post z) :
    (Run.changeDomain (·.abandonFrame f) [.abandoned f] >>= k).Follows
      (World.rooting r me) me post y := by
  have hcar : y.world.Carries me
      (y.world.onDomain (y.world.domain.abandonFrame f) [.abandoned f]) :=
    World.carries_onDomain (Domain.continues_abandonFrame _ f) (by simp [Event.isVital])
  refine follows_changeDomain (fun hbal _ hs' => ⟨demand_of_carries hcar, y.births, ?_⟩)
  have hr : r ≠ .tame := fun hr => by
    have := (hs'.2 hr).1 (.abandoned f) (List.mem_cons_self ..)
    cases this
  refine ⟨hbal.dwindle hr hcar rfl rfl rfl (List.eraseP_sublist ..), hk hr _ (fun t rest hy => ?_)⟩
  exact ⟨(Returns.refl y).carry hcar (fun o => Nat.le_refl _) rfl,
    Domain.erase_top hy.frames hy.id⟩

/-- **A frame is opened** for a receiver, on top of those there are. -/
theorem follows_openFrame {name : String} {receiver : Option ObjectId} {k : FrameId → Run β}
    {post : Except Crash β → Ledger → Prop}
    (hk : ∀ f y, x.Returns y → y.world.history = x.world.history →
      y.Atop f { id := f, name, receiver } x.world.domain.frames →
      (k f).Follows (World.rooting r me) me post y) :
    (Run.onDomain (·.openFrame name receiver) >>= k).Follows (World.rooting r me) me post x := by
  refine follows_onDomain (fun hb _ _ => ?_)
  obtain ⟨heap, he⟩ := x.world.domain.openFrame_eq name receiver
  have hc := x.world.domain.continues_openFrame name receiver
  have hcar : x.world.Carries me
      (x.world.onDomain (x.world.domain.openFrame name receiver).2) :=
    World.carries_of_continues hc
  have ha : (x.world.domain.openFrame name receiver).2.allocating = x.world.domain.allocating := by
    rw [he]
  have hbirths : ∀ o ∈ (x.world.domain.openFrame name receiver).2.allocating,
      x.births o ≤ x.world.domain.nextFrame := fun o ho => (hb.secured o (ha ▸ ho)).1
  have hf : (x.world.domain.openFrame name receiver).2.frames =
      { id := x.world.domain.nextFrame, name, receiver } :: x.world.domain.frames := by
    rw [he]
  exact ⟨demand_of_carries hcar, x.births,
    hb.balances hcar (Domain.balances_openFrame _ name receiver) hbirths,
    hk _ _ ((Returns.refl x).turn hc (by rw [he]) ha) rfl ⟨hf, rfl, hbirths⟩⟩

/-- **A body gives back what its frame kept**, however it ends. In a tame run it does not
panic, and it starts unless that would be one too many. -/
theorem follows_runBody (hrun : run.Keeps (r.manners me) me) (c : Class) (name : String)
    (body : MethodBody) (receiver : Option ObjectId) (args : List ManagedValue) (depth : Nat)
    (hx : x.world.Sound r) :
    (Run.runBody run me c name body receiver args depth).Follows (World.rooting r me) me
      (fun e y => (∀ q, e = .error q → r ≠ .tame) ∧
        (e = .error .tooDeep ∨ (Ledger.native r).rel x y ∧ (depth < x.world.domain.maxCallDepth →
          .body name receiver args :: x.world.history <:+ y.world.history))) x := by
  refine follows_ask (fun _ => ?_)
  split
  · next hdepth =>
    exact .pure ⟨nofun, Or.inr ⟨⟨hx, .refl x, rfl⟩, fun h => absurd hdepth (Nat.not_le.2 h)⟩⟩
  refine follows_openFrame (fun f y hxy hxh hy => follows_record rfl (fun y₁ hy₁ hf hh => ?_))
  rw [hxh] at hh
  have hxy₁ : x.Returns y₁ := hxy.trans hy₁
  have htop := hy.returns hy₁ (hf.trans hy.frames)
  -- the code finds its frame on top, and leaves it there
  have hrel : (Ledger.managed r f).rel y₁ y₁ :=
    ⟨hxy₁.sound hx, .refl y₁, _, _, _, htop, htop.frames⟩
  refine Process.Follows.attempt
    ((hrun.managed ⟨c, f, depth, ⟨name, receiver, args⟩⟩ _ y₁ hrel).mono (fun e y₂ he => ?_))
  have back : (Ledger.managed r f).rel y₁ y₂ → ∃ t, y₂.Atop f t x.world.domain.frames ∧
      x.Returns y₂ ∧ .body name receiver args :: x.world.history <:+ y₂.world.history := by
    rintro ⟨-, hr, t, rest, l, ht, hl⟩
    obtain ⟨rfl, rfl⟩ := List.cons.inj (htop.frames.symm.trans ht.frames)
    exact ⟨_, ht.returns hr hl, hxy₁.trans hr, hh ▸ hr.world.history⟩
  cases e with
  | ok result =>
    obtain ⟨t, ht, hr, hstart⟩ := back (he.resolve_left (by simp))
    dsimp only
    refine follows_close ht (fun z hz hf => ?_)
    exact ⟨nofun, Or.inr ⟨⟨hx, hr.trans hz, hf⟩, fun _ => hstart.trans hz.world.history⟩⟩
  | error crash =>
    refine follows_abandonFrame (fun htame z hz => .crash ⟨fun _ _ => htame, ?_⟩)
    refine he.imp (fun h => ?_) (fun h => ?_)
    · cases h
      rfl
    · obtain ⟨t, ht, hr, hstart⟩ := back h
      obtain ⟨hz, hf⟩ := hz t _ ht
      exact ⟨⟨hx, hr.trans hz, hf⟩, fun _ => hstart.trans hz.world.history⟩

/-! ## Construction of objects

The object is allocated with one root, which belongs to the construction. The native side and
the constructor run while it has it. -/

/-- **A construction has the root of its object**, which came to the heap since. -/
structure Bears (o : ObjectId) (x y : Ledger) : Prop where
  world : x.world.Extends [] y.world
  fresh : x.world.allocations < o.number.toNat
  absent : x.world.domain.heap.get? o = none
  allocating : y.world.domain.allocating = o :: x.world.domain.allocating
  births : ∀ p ∈ x.world.domain.allocating, y.births p = x.births p
  frames : y.world.domain.frames = x.world.domain.frames

namespace Bears

variable (h : Bears o x y)

include h

theorem mem : o ∈ y.world.domain.allocating := by
  rw [h.allocating]
  exact List.mem_cons_self ..

theorem sound (hx : x.world.Sound r) : y.world.Sound r := by
  intro hr g s hs hl
  obtain ⟨s', hs', hl', ho⟩ := h.world.building g s hs hl
  rw [h.allocating, ← ho]
  exact List.mem_cons_of_mem _ (hx hr g s' hs' hl')

theorem returns (hr : (Ledger.native r).rel y z) : Bears o x z where
  world := h.world.trans hr.2.1.world
  fresh := h.fresh
  absent := h.absent
  allocating := hr.2.1.allocating.trans h.allocating
  births := fun p hp => (hr.2.1.births p (h.allocating ▸ List.mem_cons_of_mem _ hp)).trans
    (h.births p hp)
  frames := hr.2.2.trans h.frames

/-- Whoever takes the root over ends the construction. -/
theorem handOver (hc : y.world.Carries me w')
    (ha : w'.domain.allocating = y.world.domain.allocating.erase o)
    (hh : ∀ p, p ≠ o → w'.domain.held.count p ≤ y.world.domain.held.count p) :
    x.Returns ⟨w', y.births⟩ where
  world := h.world.carry hc (fun p hp => hh p (fun he => by
    have := h.fresh
    rw [← he] at this
    omega))
  allocating := by rw [ha, h.allocating, List.erase_cons_head]
  births := h.births

/-- An object whose native side could not be constructed is gone as if it had never
been. -/
theorem unallocate :
    x.Returns ⟨y.world.onDomain ((y.world.domain.remove o).abandonAllocation o), y.births⟩ where
  world := { h.world with
    pending := fun p hp hfin => by
      have hne : p ≠ o := by
        rintro rfl
        rw [h.absent] at hfin
        cases hfin
      obtain ⟨hv, hp'⟩ := h.world.pending p hp hfin
      refine ⟨hv, ?_⟩
      show ((y.world.domain.heap.erase o).get? p).map _ = _
      rwa [Table.get?_erase, if_neg hne] }
  allocating := by
    show y.world.domain.allocating.erase o = _
    rw [h.allocating, List.erase_cons_head]
  births := h.births

end Bears

/-- **How a construction ends**: with the root of its object, or with nothing. -/
def Constructs (r : Regime) (x : Ledger) :
    Except Crash (Except ManagedException ObjectId) → Ledger → Prop
  | .ok (.ok o), y => Bears o x y
  | .error .tooDeep, _ => True
  | _, y => (Ledger.native r).rel x y

/-! ### From the allocation to the constructor -/

/-- **A new object is born by its construction**: nobody knows its number yet. -/
theorem Balanced.bears (hb : x.Balanced r me) (hbound : x.world.allocations + 1 < 2 ^ 64)
    (c : Class) : Bears x.world.domain.nextObject x
      ⟨x.world.onDomain (x.world.domain.allocate c).2 [.allocated x.world.domain.nextObject],
        Function.update x.births x.world.domain.nextObject x.world.domain.nextFrame⟩ := by
  have hnum := hb.census.toNat_nextObject hbound
  obtain ⟨hnone, -, hnew⟩ := hb.census.nextObject_fresh hbound
  exact {
    world := {
      history := ⟨[_], rfl⟩
      held := fun _ _ => Nat.le_refl _
      pending := fun p _ hp => by
        have hne : p ≠ x.world.domain.nextObject := by
          rintro rfl
          rw [hnone] at hp
          cases hp
        refine ⟨List.countP_cons_of_neg (by simp [Event.isVisit]), ?_⟩
        show ((x.world.domain.allocate c).2.heap.get? p).map _ = _
        rwa [Domain.get?_allocate, if_neg hne]
      building := fun _ s hs hl => ⟨s, hs, hl, rfl⟩ }
    fresh := Nat.lt_of_lt_of_eq (Nat.lt_succ_self _) hnum.symm
    absent := hnone
    allocating := rfl
    births := fun p hp => Function.update_of_ne (ne_of_mem_of_not_mem hp hnew) _ _
    frames := rfl }

theorem follows_allocate {c : Class} {k : ObjectId → Run β} {post : Except Crash β → Ledger → Prop}
    (hk : ∀ o y, Bears o x y → (k o).Follows (World.rooting r me) me post y) :
    (Run.onDomain (·.allocate c) (fun o => [.allocated o]) >>= k).Follows
      (World.rooting r me) me post x := by
  refine follows_onDomain (fun hb hs hs' => ?_)
  have hcount : (x.world.onDomain (x.world.domain.allocate c).2
      [.allocated x.world.domain.nextObject]).allocations = x.world.allocations + 1 :=
    List.countP_cons_of_pos rfl
  have hbound : x.world.allocations + 1 < 2 ^ 64 := hcount ▸ hs'.1
  refine ⟨⟨fun _ o ho => ?_, fun h => absurd rfl h⟩, _, hb.allocate c hbound hs.2,
    hk _ _ (hb.bears hbound c)⟩
  cases (List.cons.inj ho).1

/-- **A constructor runs** as the receiver of its object. -/
theorem follows_runConstructor (hrun : run.Keeps (r.manners me) me) (c : Class)
    (hy : Bears o x y) (hx : x.world.Sound r) (depth : Nat) :
    (Run.runConstructor run me c o depth).Follows (World.rooting r me) me (Constructs r x) y := by
  unfold Run.runConstructor
  split
  · exact hy
  refine Process.Follows.attempt ((follows_runBody hrun c c.constructorFrame _ (some o) [] depth
    (hy.sound hx)).mono (fun e z hz => ?_))
  obtain ⟨htame, hz⟩ := hz
  cases e with
  | ok result =>
    have hbz : Bears o x z := hy.returns (hz.resolve_left (by simp)).1
    cases result with
    | ok v => exact hbz
    | error e =>
      have hcar : z.world.Carries me
          (z.world.onDomain ((z.world.domain.unroot o).abandonAllocation o)) :=
        World.carries_of_continues (Domain.continues_abandonAllocation hbz.mem)
      refine follows_balance hcar.domain (Domain.balances_abandonAllocation hbz.mem _)
        (fun hb p hp => (hb.secured p hp).1) ?_
      exact ⟨hx, hbz.handOver hcar rfl (fun _ _ => Nat.le_refl _), hbz.frames⟩
  | error crash =>
    -- the root of the construction stays behind without an owner
    have hcar : z.world.Carries me (z.world.onDomain (z.world.domain.abandonAllocation o)) :=
      World.carries_of_continues (Domain.continues_strikeAllocation _ o)
    refine follows_changeDomain (fun hb _ _ => ⟨demand_of_carries hcar, z.births,
      hb.dwindle (htame _ rfl) hcar rfl rfl rfl (.refl _), .crash ?_⟩)
    cases crash with
    | tooDeep => trivial
    | panicked q =>
      have hbz : Bears o x z := hy.returns (hz.resolve_left (by simp)).1
      exact ⟨hx, hbz.handOver hcar rfl (fun _ _ => Nat.le_refl _), hbz.frames⟩

/-- **A new object** comes with the root of its construction, or does not come. -/
theorem follows_newObject (hrun : run.Keeps (r.manners me) me) (c : Class) (depth : Nat)
    (hx : x.world.Sound r) :
    (Run.newObject run me c depth).Follows (World.rooting r me) me (Constructs r x) x := by
  refine follows_allocate (fun o y hy => ?_)
  refine Process.Follows.bind ((follows_construct hrun c.fullName o (hy.sound hx)
    (fun _ => hy.mem)).mono (fun e z hz => ?_))
  obtain rfl | ⟨⟨built, rfl⟩, hz⟩ := hz
  · trivial
  have hbz : Bears o x z := hy.returns hz
  cases built with
  | ok h => exact follows_runConstructor hrun c hbz hx depth
  | error e =>
    refine follows_changeDomain (fun hb _ _ => ⟨demand_of_history rfl (fun h => absurd rfl h),
      z.births, hb.unallocate o, ?_⟩)
    exact ⟨hx, hbz.unallocate, hbz.frames⟩

/-! ## Collection -/

/-- **What a collection gives back**: everything but objects that it had taken. -/
structure Sweeps (taken : List ObjectId) (x y : Ledger) : Prop where
  world : x.world.Extends taken y.world
  allocating : y.world.domain.allocating = x.world.domain.allocating
  births : ∀ o ∈ x.world.domain.allocating, y.births o = x.births o
  frames : y.world.domain.frames = x.world.domain.frames

namespace Sweeps

variable {taken taken' : List ObjectId}

theorem of_native (h : (Ledger.native r).rel x y) : Sweeps taken x y :=
  ⟨h.2.1.world.mono (List.nil_subset _), h.2.1.allocating, h.2.1.births, h.2.2⟩

theorem trans (h : Sweeps taken x y) (h' : Sweeps taken y z) : Sweeps taken x z :=
  ⟨h.world.trans h'.world, h'.allocating.trans h.allocating,
    fun o ho => (h'.births o (h.allocating ▸ ho)).trans (h.births o ho),
    h'.frames.trans h.frames⟩

theorem mono (h : Sweeps taken x y) (ht : taken ⊆ taken') : Sweeps taken' x y :=
  ⟨h.world.mono ht, h.allocating, h.births, h.frames⟩

theorem sound (h : Sweeps taken x y) (hx : x.world.Sound r) : y.world.Sound r := by
  intro hr g s hs hl
  obtain ⟨s', hs', hl', ho⟩ := h.world.building g s hs hl
  rw [h.allocating, ← ho]
  exact hx hr g s' hs' hl'

/-- No object that was there has got an owner. -/
theorem owners_le (h : Sweeps taken x y) (ho : o.number.toNat ≤ x.world.allocations) :
    y.world.domain.owners o ≤ x.world.domain.owners o := by
  have := h.world.held o ho
  unfold Domain.owners
  rw [h.allocating, h.frames]
  omega

end Sweeps

/-! ### Objects of the batch

What a collection knows of an object that it has not come to. It is what makes the visit right:
the object is marked, was not visited before, and nobody owns it. -/

/-- **An object that a collection has taken** and not come to yet. Its construction is over. In a
tame run, nobody owns it. -/
structure Taken (r : Regime) (o : ObjectId) (x : Ledger) : Prop where
  finalizing : (x.world.domain.heap.get? o).map HeapObject.finalizing = some true
  built : o ∉ x.world.domain.allocating
  visits : x.world.visits o = 0
  known : o.number.toNat ≤ x.world.allocations
  ownerless : r = .tame → x.world.domain.owners o = 0

theorem Taken.sweeps {taken : List ObjectId} (h : Taken r o x) (hs : Sweeps taken x y)
    (ho : o ∉ taken) : Taken r o y := by
  obtain ⟨hv, hf⟩ := hs.world.pending o ho h.finalizing
  exact ⟨hf, hs.allocating ▸ h.built, hv.trans h.visits,
    Nat.le_trans h.known hs.world.allocations,
    fun hr => Nat.le_zero.1 (h.ownerless hr ▸ hs.owners_le h.known)⟩

theorem follows_visit {k : Unit → Run β} {post : Except Crash β → Ledger → Prop}
    (ho : Taken r o x)
    (hk : ∀ y, Sweeps [o] x y → (k ()).Follows (World.rooting r me) me post y) :
    (Run.record (.visited o) >>= k).Follows (World.rooting r me) me post x := by
  refine follows_change
    (fun hb _ _ => ⟨⟨fun _ p hp => ?_, fun h => absurd rfl h⟩, x.births,
      hb.visit ho.visits ho.finalizing, hk _ ?_⟩)
  · cases (List.cons.inj hp).1
  · refine ⟨⟨⟨[_], rfl⟩, fun _ _ => Nat.le_refl _, fun p hp hf => ⟨?_, hf⟩,
      fun _ s hs hl => ⟨s, hs, hl, rfl⟩⟩, rfl, fun _ _ => rfl, rfl⟩
    refine List.countP_cons_of_neg ?_
    have hne : ¬o = p := fun he => hp (he ▸ List.mem_singleton_self o)
    simpa [Event.isVisit] using hne

theorem follows_remove {post : Except Crash Unit → Ledger → Prop}
    (hbuilt : o ∉ x.world.domain.allocating)
    (ho : r = .tame → x.world.domain.owners o = 0)
    (hk : ∀ y, Sweeps [o] x y → post (.ok ()) y) :
    (Run.changeDomain (·.remove o) [.freed o]).Follows (World.rooting r me) me post x := by
  rw [← bind_pure (Run.changeDomain _ _)]
  refine follows_changeDomain (fun hb _ _ => ⟨⟨fun hr p hp => ?_, fun h => absurd rfl h⟩, x.births,
    hb.free hbuilt, hk _ ?_⟩)
  · cases (List.cons.inj hp).1
    exact ho hr
  · refine ⟨⟨⟨[_], rfl⟩, fun _ _ => Nat.le_refl _, fun p hp hf => ⟨?_, ?_⟩,
      fun _ s hs hl => ⟨s, hs, hl, rfl⟩⟩, rfl, fun _ _ => rfl, rfl⟩
    · exact List.countP_cons_of_neg (by simp [Event.isVisit])
    · show ((x.world.domain.heap.erase o).get? p).map _ = _
      rwa [Table.get?_erase, if_neg (fun he : p = o => hp (he ▸ List.mem_singleton_self o))]

theorem follows_runFinalizer (hrun : run.Keeps (r.manners me) me) (c : Class)
    (hx : x.world.Sound r) (ho : Taken r o x) :
    (Run.runFinalizer run me o c).Follows (World.rooting r me) me
      (fun e y => e = .error .tooDeep ∨ Sweeps [o] x y) x := by
  refine follows_visit ho (fun y hy => ?_)
  split
  · exact Or.inr hy
  · refine Process.Follows.bind ((follows_runBody hrun c c.finalizerFrame _ (some o) [] 0
      (hy.sound hx)).mono (fun e z hz => ?_))
    have hxz : e ≠ .error .tooDeep → Sweeps [o] x z :=
      fun he => hy.trans (.of_native (hz.2.resolve_left he).1)
    match e with
    | .error .tooDeep => exact Or.inl rfl
    | .error (.panicked q) => exact Or.inr (hxz (by simp))
    | .ok (.ok v) => exact Or.inr (hxz (by simp))
    | .ok (.error e) =>
      have hsw : Sweeps [o] x z := hxz (by simp)
      exact (settles_log (r := r) .warn _ z ⟨hsw.sound hx, .refl z, rfl⟩).mono
        (fun _ v hv => hv.imp id (fun hv => hsw.trans (.of_native hv.2)))

/-- An object is freed that the collection has come to. -/
theorem follows_free (hrun : run.Keeps (r.manners me) me) (hx : x.world.Sound r)
    (hbuilt : o ∉ x.world.domain.allocating)
    (ho : r = .tame → x.world.domain.owners o = 0)
    (hknown : o.number.toNat ≤ x.world.allocations) :
    (Run.free run me o).Follows (World.rooting r me) me
      (fun e y => e = .error .tooDeep ∨ Sweeps [o] x y) x := by
  have mark : (Run.record (.finalization o)).Settles (World.rooting r me) (native r) me :=
    settles_record rfl
  refine mark.follows ⟨hx, .refl x, rfl⟩ (fun _ y h₁ => ?_) (fun _ => Or.inl rfl)
  refine (settles_destroy hrun o).follows ((native r).right h₁) (fun _ y₂ h₂ => ?_)
    (fun _ => Or.inl rfl)
  refine (settles_forget o).follows ((native r).right h₂) (fun _ y₃ h₃ => ?_)
    (fun _ => Or.inl rfl)
  have hy₃ : Sweeps [o] x y₃ := .of_native ((native r).trans ((native r).trans h₁ h₂) h₃)
  refine follows_remove (hy₃.allocating ▸ hbuilt) (fun hr => ?_) (fun z hz => Or.inr (hy₃.trans hz))
  exact Nat.le_zero.1 (ho hr ▸ hy₃.owners_le hknown)

/-- **Freeing an object** touches no other that was taken. -/
theorem follows_reclaim (hrun : run.Keeps (r.manners me) me) (c : Class) (hx : x.world.Sound r)
    (ho : Taken r o x) :
    (Run.reclaim run me o c).Follows (World.rooting r me) me
      (fun e y => e = .error .tooDeep ∨ Sweeps [o] x y) x := by
  refine Process.Follows.bind ((follows_runFinalizer hrun c hx ho).mono (fun e y hy => ?_))
  cases e with
  | error q => exact hy.imp (fun hq => by cases hq; rfl) id
  | ok a =>
    have hy := hy.resolve_left (by simp)
    exact (follows_free hrun (hy.sound hx) (hy.allocating ▸ ho.built)
      (fun hr => Nat.le_zero.1 (ho.ownerless hr ▸ hy.owners_le ho.known))
      (Nat.le_trans ho.known hy.world.allocations)).mono (fun _ _ hz => hz.imp id hy.trans)

/-- One object after the other is given up, and those that are still to come stay taken. -/
theorem follows_reclaimAll (hrun : run.Keeps (r.manners me) me) (l : List (ObjectId × Class))
    (hl : (l.map Prod.fst).Nodup) (hx : x.world.Sound r) (ht : ∀ o ∈ l.map Prod.fst, Taken r o x) :
    (Run.reclaimAll run me l).Follows (World.rooting r me) me
      (fun e y => e = .error .tooDeep ∨ Sweeps (l.map Prod.fst) x y) x := by
  -- what is still to come is pending while others are freed
  induction l generalizing x with
  | nil => exact Or.inr (.of_native (r := r) ⟨hx, .refl x, rfl⟩)
  | cons e rest ih =>
    obtain ⟨hne, hrest⟩ := List.nodup_cons.1 hl
    refine Process.Follows.bind ((follows_reclaim hrun e.2 hx
      (ht e.1 (List.mem_cons_self ..))).mono (fun q y hy => ?_))
    have hmono : Sweeps [e.1] x y → Sweeps ((e :: rest).map Prod.fst) x y :=
      fun h => h.mono (List.cons_subset_cons _ (List.nil_subset _))
    cases q with
    | error q => exact hy.imp (fun hq => by cases hq; rfl) hmono
    | ok a =>
      have hy := hy.resolve_left (by simp)
      refine (ih hrest (hy.sound hx) (fun p hp => ?_)).mono (fun q z hz => hz.imp id (fun hz => ?_))
      · refine (ht p (List.mem_cons_of_mem _ hp)).sweeps hy (fun hm => hne ?_)
        rw [← List.mem_singleton.1 hm]
        exact hp
      · exact (hmono hy).trans (hz.mono (List.subset_cons_self _ _))

/-! ### The whole collection -/

/-- **What a collection takes**: what has no roots, is on the heap for no other
collection, and was never visited. -/
theorem Balanced.taken (hb : x.Balanced r me) {c : Class}
    (ho : (o, c) ∈ x.world.domain.takeGarbage.1) :
    (x.world.domain.heap.get? o).map HeapObject.finalizing = some false ∧
      Taken r o ⟨x.world.onDomain x.world.domain.takeGarbage.2, x.births⟩ := by
  obtain ⟨v, hv, hroots, hfin, -⟩ := (Domain.mem_takeGarbage hb.census.order).1 ho
  have hfalse : (x.world.domain.heap.get? o).map HeapObject.finalizing = some false := by
    rw [hv, Option.map_some, hfin]
  refine ⟨hfalse, ⟨?_, fun hm => ?_, hb.census.unvisited o hfalse,
    hb.census.heap o (by simp [hv]), fun hr => ?_⟩⟩
  · show (x.world.domain.takeGarbage.2.heap.get? o).map _ = _
    rw [Domain.get?_takeGarbage, hv]
    simp [Domain.isGarbage, hroots, hfin]
  · -- it has no roots, and what is under construction has one
    obtain ⟨-, v', hv', -, hle⟩ := hb.secured o hm
    obtain rfl := Option.some.inj (hv.symm.trans hv')
    have hpos : 0 < x.world.domain.allocating.count o := List.count_pos_iff.2 hm
    unfold Domain.ownersSince at hle
    omega
  · exact (hb.exact hr o v hv).symm.trans hroots

/-- A collection that takes the garbage changes nothing else. -/
theorem returns_takeGarbage (x : Ledger) :
    x.Returns ⟨x.world.onDomain x.world.domain.takeGarbage.2, x.births⟩ := by
  refine ⟨⟨List.suffix_rfl, fun _ _ => Nat.le_refl _, fun p _ hp => ⟨rfl, ?_⟩,
    fun _ s hs hl => ⟨s, hs, hl, rfl⟩⟩, rfl, fun _ _ => rfl⟩
  obtain ⟨v, hv, hfin⟩ := Option.map_eq_some_iff.1 hp
  show (x.world.domain.takeGarbage.2.heap.get? p).map _ = _
  rw [Domain.get?_takeGarbage, hv]
  simp [Domain.isGarbage, hfin]

/-- **A collection frees what it takes**, and leaves alone what others have taken. -/
theorem follows_collect (hrun : run.Keeps (r.manners me) me) (hx : x.world.Sound r) :
    (Run.collect run me).Follows (World.rooting r me) me
      (fun e y => e = .error .tooDeep ∨ (native r).rel x y) x := by
  refine follows_onDomain (fun hb _ _ => ⟨demand_of_history rfl (fun _ => hx), x.births,
    hb.takeGarbage, ?_⟩)
  have htake := x.returns_takeGarbage
  have hfresh : ∀ o ∈ x.world.domain.takeGarbage.1.map Prod.fst,
      (x.world.domain.heap.get? o).map HeapObject.finalizing = some false ∧
        Taken r o ⟨x.world.onDomain x.world.domain.takeGarbage.2, x.births⟩ := by
    intro o ho
    obtain ⟨e, he, rfl⟩ := List.mem_map.1 ho
    exact hb.taken he
  refine Process.Follows.bind ((follows_reclaimAll hrun x.world.domain.takeGarbage.1
    (Domain.nodup_takeGarbage hb.census.order) (htake.sound hx) (fun o ho => (hfresh o ho).2)).mono
    (fun e y hy => ?_))
  -- what others have taken before is not among what this collection takes
  have hxy : Sweeps (x.world.domain.takeGarbage.1.map Prod.fst)
      ⟨x.world.onDomain x.world.domain.takeGarbage.2, x.births⟩ y → (native r).rel x y := by
    intro hs
    refine ⟨hx, ⟨?_, hs.allocating, hs.births⟩, hs.frames⟩
    exact { (htake.world.mono (List.nil_subset _)).trans hs.world with
      pending := fun p _ hp => by
        have hp' : p ∉ x.world.domain.takeGarbage.1.map Prod.fst := by
          intro hm
          rw [(hfresh p hm).1] at hp
          cases hp
        exact ((htake.world.mono (List.nil_subset _)).trans hs.world).pending p hp' hp }
  cases e with
  | ok a => exact Or.inr (hxy (hy.resolve_left (by simp)))
  | error q => exact hy.imp (fun hq => by cases hq; rfl) hxy

/-! ## What code asks of the domain

All operations of native and of managed code, and with them all code, by induction on the levels
of the nesting. -/

theorem managed_of_native (hx : (managed r f).rel x x) (h : (native r).rel x y) :
    (managed r f).rel x y := by
  obtain ⟨hs, -, t, rest, l, ht, hl⟩ := hx
  exact ⟨hs, h.2.1, t, rest, l, ht, h.2.2.trans hl⟩

/-- **Native code that makes an object holds it.** -/
theorem keeps_newInstance (hrun : run.Keeps (r.manners me) me) (c : Class) :
    (Run.newInstance run me c).Keeps (World.rooting r me) (native r) me := by
  intro x hx
  refine Process.Follows.bind ((follows_newObject hrun c 0 hx.1).mono (fun e y hy => ?_))
  match e, hy with
  | .ok (.ok o), hy =>
    have hcar : y.world.Carries me (y.world.onDomain (y.world.domain.hold o)) :=
      World.carries_of_continues (Domain.continues_hold hy.mem)
    refine follows_balance hcar.domain (Domain.balances_hold hy.mem _)
      (fun hb p hp => (hb.secured p hp).1) ?_
    refine Or.inr ⟨hx.1, hy.handOver hcar rfl (fun p hp => ?_), hy.frames⟩
    exact Nat.le_of_eq (List.count_cons_of_ne (Ne.symm hp))
  | .ok (.error e), hy => exact Or.inr hy
  | .error .tooDeep, _ => exact Or.inl rfl
  | .error (.panicked q), hy => exact Or.inr hy

/-- **A frame that makes an object keeps it.** -/
theorem keeps_newObject (hrun : run.Keeps (r.manners me) me) (c : Context) (typeName : String) :
    (Run.managedReply run me c (.newObject typeName)).Keeps (World.rooting r me)
      (managed r c.frame) me := by
  intro x hx
  refine follows_ask (fun _ => ?_)
  dsimp only
  cases x.world.domain.classNamed c.cls typeName with
  | error e => exact Or.inr hx
  | ok cls =>
    refine Process.Follows.bind ((follows_newObject hrun cls (c.depth + 1) hx.1).mono
      (fun e y hy => ?_))
    match e, hy with
    | .ok (.ok o), hy =>
      obtain ⟨hs, -, t, rest, l, ht, hl⟩ := hx
      have hf : y.world.domain.frames = t :: rest := hy.frames.trans ht.frames
      have hcar : y.world.Carries me (y.world.onDomain (y.world.domain.adopt c.frame o)) :=
        World.carries_of_continues (Domain.continues_adopt hf ht.id hy.mem)
      have hret := hy.handOver hcar rfl (fun _ _ => Nat.le_refl _)
      refine follows_changeDomain (fun hb _ _ => ⟨demand_of_carries hcar, y.births, hb.balances
        hcar (Domain.balances_adopt hf ht.id hy.mem) (fun p hp => ?_), ?_⟩)
      · have hp' : p ∈ x.world.domain.allocating := hret.allocating ▸ hp
        exact hret.births p hp' ▸ ht.births p hp'
      · exact Or.inr ⟨hs, hret, t, rest, _, ht, Domain.adopt_frames hf ht.id o⟩
    | .ok (.error e), hy => exact Or.inr (managed_of_native hx hy)
    | .error .tooDeep, _ => exact Or.inl rfl
    | .error (.panicked q), hy => exact Or.inr (managed_of_native hx hy)

/-- **A frame keeps what a call returned.** -/
theorem keeps_keeping (c : Context) (result : Except ManagedException ManagedValue) :
    (Run.keeping c result).Keeps (World.rooting r me) (managed r c.frame) me := by
  cases result with
  | error e => exact .pure _
  | ok v =>
    intro x hx
    obtain ⟨hs, -, t, rest, l, ht, hl⟩ := hx
    obtain ⟨l', hl'⟩ := Domain.keep_frames ht.frames ht.id v
    exact follows_turn ht (Domain.continues_keep ht.frames ht.id v)
      (Domain.balances_keep ht.frames ht.id v) (Domain.keep_eq _ _ v) hl'
      (fun z hz hf => Or.inr ⟨hs, hz, t, rest, l', ht, hf⟩)

theorem settles_dropInstance (o : ObjectId) :
    (Run.onDomain (·.release o)).Settles (World.rooting r me) (native r) me := by
  refine settles_section (fun x hb _ => ?_) (fun w => ?_)
  · dsimp only
    unfold Domain.release
    split
    · next hm =>
      have hheld : o ∈ x.world.domain.held := List.contains_iff_mem.1 hm
      have hcar : x.world.Carries me (x.world.onDomain (x.world.domain.letGo o)) :=
        World.carries_of_continues (Domain.continues_letGo hheld)
      exact ⟨hcar, hb.balances hcar (Domain.balances_letGo hheld x.world.domain.nextFrame)
        (fun p hp => (hb.secured p hp).1)⟩
    · have hcar : x.world.Carries me (x.world.onDomain x.world.domain) :=
        World.carries_of_continues (.refl _)
      exact ⟨hcar, hb.idle hcar rfl⟩
  · dsimp only
    unfold Domain.release
    split
    · exact ⟨rfl, rfl, fun p => List.erase_sublist.count_le p⟩
    · exact ⟨rfl, rfl, fun p => Nat.le_refl _⟩

/-- Images and classes have no part in the books. -/
theorem settles_classes {g : Domain → Domain}
    (hg : ∀ d, ∃ images classes, g d = { d with images, classes }) :
    (Run.changeDomain g).Settles (World.rooting r me) (native r) me := by
  intro x hx
  rw [← bind_pure (Run.changeDomain g)]
  obtain ⟨images, classes, he⟩ := hg x.world.domain
  have hc : x.world.domain.Continues (g x.world.domain) := by
    rw [he]
    exact ⟨rfl, rfl, rfl, rfl, fun _ => rfl, fun _ => Or.inl, .refl _, Nat.le_refl _,
      fun t ht => Or.inr ⟨t, ht, rfl⟩⟩
  have hb : x.world.domain.Balances (g x.world.domain) x.world.domain.nextFrame := by
    rw [he]
    exact Domain.balances_of_heap_eq rfl (fun _ _ _ => rfl)
  refine follows_balance hc hb (fun hb p hp => (hb.secured p hp).1) ?_
  refine Or.inr ⟨⟨(), rfl⟩, hx.1, (Returns.refl x).turn hc (by rw [he]) (by rw [he]), ?_⟩
  show (g x.world.domain).frames = _
  rw [he]

theorem settles_loadAssembly (name : String) :
    (Run.loadAssembly name).Settles (World.rooting r me) (native r) me := by
  refine .bind (settles_ask_pure _ _) (fun i? => ?_)
  cases i? with
  | none => exact .pure _
  | some i =>
    refine .bind (settles_ask_pure _ _) (fun registry => ?_)
    split
    · exact .pure _
    · exact .bind (settles_classes (fun _ => ⟨_, _, rfl⟩)) (fun _ => .pure _)

/-- **All code keeps the books.** -/
theorem rooted (r : Regime) (me : ThreadId) : (r.manners me).Upheld me where
  toBridged := bridged r me
  widen := fun _ hp _ hx => (hp _ ⟨hx.1, .refl _, rfl⟩).mono
    (fun _ _ h => h.imp id (managed_of_native hx))
  runBody := fun hrun c name body receiver args depth _ hx =>
    (follows_runBody hrun c name body receiver args depth hx.1).mono
      (fun _ _ h => h.2.imp id And.left)
  newObject := fun hrun => keeps_newObject hrun
  keeping := keeps_keeping
  collect := fun hrun => .bind (fun _ hx => follows_collect hrun hx.1)
    (fun _ => .bind (settles_record rfl).keeps (fun _ => .pure _))
  newInstance := fun hrun => keeps_newInstance hrun
  dropInstance := fun o => (settles_dropInstance o).keeps
  provide := fun _ => (settles_classes (fun _ => ⟨_, _, rfl⟩)).keeps
  load := fun name => (settles_loadAssembly name).keeps

end Ledger

end HostBridge
