import HostBridge.Proofs.Bridge.Calls
import HostBridge.Proofs.Domain.Owners
import HostBridge.Proofs.Domain.Reclaiming

/-!
# The order of a collection

A collection visits what it takes in an order of its own. As long as everything unrooted is
secluded, so that finalizers and destruction hooks act on nothing but their own objects, nobody
can tell the order (`sweep_order_is_free`): the collection returns or not, what it returns, the
heap and the instances that it leaves, and what the history tells of each object are the same.

The estates of two objects are apart, because a handle is the handle of one object. So each object
is swept as it would be swept on its own (`Run.ends_reclaimAll`), whatever was swept before, and
what is left in the end are the changes of all the estates, one after the other. Changes of
estates that are apart can be exchanged, and with them the objects (`World.sweptAll_perm`). Only
the history shows in which order they were swept, and there each object has its own piece.

## Two collections from one state

The two collections that are compared start from the same state, but for the order that the
domain will go by. As soon as the first object is swept they are in different states, and from
there on no state of the one need be a state of the other. What links them is that each object
does the same in both. It is looked at once, at the state where the collection begins
(`Estate.Sweeps`), and that gives the change of its estate and the events of its sweep. Every
other state in which it might be swept shows its estate the same.

A collection may also not come to an end, or end in a panic. Then the other one does not return
either, since a collection returns only if each of the objects can be swept on its own.
-/

namespace HostBridge

variable {α : Type} {e : Estate} {w w' v : World} {me : ThreadId} {n : Nat}
  {T : Bridge → Bridge} {told : List Event}

/-! ## Objects that are swept on their own

An object of the batch, at the state where the collection begins and at any state that shows its
estate the same. -/

namespace Estate

/-- **The estate of an object that a collection takes**: it is in the state, and the finalizer
keeps to it. -/
structure Of (e : Estate) (w : World) (x : ObjectId × Class) : Prop where
  object : e.object = x.1
  cls : e.cls = x.2
  inState : e.In w
  finalizer : e.KeepsFinalizer

/-- **An object is swept on its own**, wherever its estate is shown as in a state. -/
structure Sweeps (e : Estate) (n : Nat) (me : ThreadId) (w : World) (x : ObjectId × Class)
    (T : Bridge → Bridge) (told : List Event) : Prop where
  object : e.object = x.1
  change : e.Change T
  ends : ∀ v, e.Agree w v → (Run.reclaim (.nested n) me x.1 x.2).Ends v (.ok ()) (v.swept x T told)

variable {x : ObjectId × Class} {e' : Estate}

theorem Of.agree (he : e.Of w x) (h : e.Agree w v) : e.Of v x :=
  ⟨he.object, he.cls, he.inState.agree h, he.finalizer⟩

theorem Of.exists_sweeps (he : e.Of w x)
    (h : (Run.reclaim (.nested n) me x.1 x.2).Ends w (.ok ()) w') :
    ∃ T told, e.Sweeps n me w x T told := by
  obtain ⟨o, c⟩ := x
  obtain ⟨rfl, rfl, hw, hfin⟩ := he
  obtain ⟨T, told, hT, hends⟩ := ends_reclaim hw hfin h
  exact ⟨T, told, rfl, hT, hends⟩

theorem Sweeps.agree (h : e.Sweeps n me w x T told) (hv : e.Agree w v) :
    e.Sweeps n me v x T told :=
  ⟨h.object, h.change, fun u hu => h.ends u (hv.trans hu)⟩

/-- What an object leaves behind, the estates of others do not show. -/
theorem Sweeps.aside (h : e.Sweeps n me w x T told) (hx : e.Apart e') (v : World) :
    e'.Agree v (v.swept x T told) where
  bridge := h.change.aside hx v.bridge
  classOf := by
    have hne : e'.object ≠ x.1 := fun ho => hx.object (h.object.trans ho.symm)
    change ((v.domain.heap.erase x.1).get? e'.object).map _ = _
    rw [Table.get?_erase, if_neg hne]
    rfl
  maxCallDepth := rfl
  registry := rfl

end Estate

/-! ## Sweeping one object after the other

The changes that the objects make, composed, and why they commute. -/

/-- **What sweeping objects makes of a state**: the changes of their estates, and what was told of
them, one after the other. -/
def World.sweptAll (w : World) (l : List (ObjectId × Class)) (T : ObjectId → Bridge → Bridge)
    (told : ObjectId → List Event) : World :=
  { w with
    bridge := l.foldl (fun b x => T x.1 b) w.bridge
    domain := l.foldl Domain.swept w.domain
    history := l.reverse.flatMap (fun x => told x.1) ++ w.history }

/-- What comes first in the list is swept first. -/
theorem World.sweptAll_cons (w : World) (x : ObjectId × Class) (l : List (ObjectId × Class))
    (T : ObjectId → Bridge → Bridge) (told : ObjectId → List Event) :
    w.sweptAll (x :: l) T told = (w.swept x (T x.1) (told x.1)).sweptAll l T told := by
  simp [sweptAll, swept]

/-- The estates of objects have nothing in common. -/
def Estate.AllApart (E : ObjectId → Estate) (l : List (ObjectId × Class)) : Prop :=
  l.Pairwise fun x y => (E x.1).Apart (E y.1)

section Sweeping

variable {E : ObjectId → Estate} {S : ObjectId → Bridge → Bridge}
  {tells : ObjectId → List Event} {l : List (ObjectId × Class)}

/-- **Objects that are swept on their own are swept one after the other**, and each leaves behind
what it leaves on its own. -/
theorem Run.ends_reclaimAll (hl : ∀ x ∈ l, (E x.1).Sweeps n me w x (S x.1) (tells x.1))
    (happart : Estate.AllApart E l) :
    (Run.reclaimAll (.nested n) me l).Ends w (.ok ()) (w.sweptAll l S tells) := by
  induction l generalizing w with
  | nil => exact .pure _ _
  | cons x l ih =>
    obtain ⟨hx, hl⟩ := List.forall_mem_cons.1 hl
    obtain ⟨haside, happart⟩ := List.pairwise_cons.1 happart
    rw [World.sweptAll_cons]
    refine (hx.ends w (.refl w)).bind (ih (fun y hy => ?_) happart)
    exact (hl y hy).agree (hx.aside (haside y hy) w)

/-- **Where objects were swept one after the other**, each can be on its own. -/
theorem Run.ends_reclaim_of_all (hl : ∀ x ∈ l, (E x.1).Of w x) (happart : Estate.AllApart E l)
    (h : (Run.reclaimAll (.nested n) me l).Ends w (.ok ()) w') :
    ∀ x ∈ l, ∃ v, (Run.reclaim (.nested n) me x.1 x.2).Ends w (.ok ()) v := by
  induction l generalizing w with
  | nil => exact fun x hx => nomatch hx
  | cons x l ih =>
    obtain ⟨hx, hl⟩ := List.forall_mem_cons.1 hl
    obtain ⟨haside, happart⟩ := List.pairwise_cons.1 happart
    obtain ⟨_, v, hv, h⟩ := Process.Ends.of_bind_ok h
    obtain ⟨T, told, hsweeps⟩ := hx.exists_sweeps hv
    obtain ⟨-, rfl⟩ := (hsweeps.ends w (.refl w)).unique hv
    have later : ∀ y ∈ l, (E y.1).Agree w (w.swept x T told) :=
      fun y hy => hsweeps.aside (haside y hy) w
    refine List.forall_mem_cons.2 ⟨⟨_, hv⟩, fun y hy => ?_⟩
    -- the objects that are swept later would have been swept in the same way before
    obtain ⟨u, hu⟩ := ih (fun y hy => (hl y hy).agree (later y hy)) happart h y hy
    obtain ⟨T', told', hsweeps'⟩ := ((hl y hy).agree (later y hy)).exists_sweeps hu
    exact ⟨_, hsweeps'.ends w (later y hy).symm⟩

/-- Two objects leave the heap, and their frames are counted, in either order. -/
theorem Domain.swept_comm (d : Domain) (x y : ObjectId × Class) :
    (d.swept x).swept y = (d.swept y).swept x :=
  calc (d.swept x).swept y = { d with
        heap := (d.heap.erase x.1).erase y.1
        nextFrame := d.nextFrame + d.finalizerFrames x.2 + d.finalizerFrames y.2 } := rfl
    _ = { d with
        heap := (d.heap.erase y.1).erase x.1
        nextFrame := d.nextFrame + d.finalizerFrames y.2 + d.finalizerFrames x.2 } := by
      rw [Table.erase_comm d.heap x.1 y.1, Nat.add_right_comm]
    _ = (d.swept y).swept x := rfl

/-- **In whatever order objects are swept, the same is left of a state**, but for its history. -/
theorem World.sweptAll_perm {l' : List (ObjectId × Class)} (hperm : l.Perm l')
    (hl : ∀ x ∈ l, (E x.1).Sweeps n me w x (S x.1) (tells x.1))
    (happart : ∀ x ∈ l, ∀ y ∈ l, x.1 ≠ y.1 → (E x.1).Apart (E y.1)) (v : World) :
    (v.sweptAll l' S tells).bridge = (v.sweptAll l S tells).bridge ∧
      (v.sweptAll l' S tells).domain = (v.sweptAll l S tells).domain := by
  refine ⟨(hperm.foldl_eq' (fun x hx y hy b => ?_) _).symm,
    (hperm.foldl_eq' (fun x _ y _ d => d.swept_comm x y) _).symm⟩
  by_cases hxy : x.1 = y.1
  · rw [hxy]
  · exact ((hl x hx).change.comm (hl y hy).change (happart x hx y hy hxy) b).symm

end Sweeping

/-! ## Collections -/

namespace World

/-- **An object is garbage**, of a class. -/
def Garbage (w : World) (o : ObjectId) (c : Class) : Prop :=
  ∃ x, w.domain.heap.get? o = some x ∧ Domain.isGarbage x = true ∧ x.cls = c

/-- The state in which a collection will visit what it takes in an order. -/
def sweeping (w : World) (order : Nat → List (ObjectId × Class) → List (ObjectId × Class)) :
    World :=
  w.onDomain { w.domain with sweepOrder := order }

/-- The state in which a collection has taken the garbage. -/
def taken (w : World) : World := w.onDomain w.domain.takeGarbage.2

end World

/-- **An object is secluded**: its finalizer, its destruction hook and the members that they call
on it keep to its estate. -/
structure Estate.Secludes (e : Estate) (w : World) : Prop where
  handle : e.handle? = w.bridge.find? e.object
  finalizer : e.KeepsFinalizer
  hook : ∀ h r, e.handle? = some h → w.bridge.records.get? h = some r →
    ∀ u, e.KeepsNative (fun _ => True) (r.hooks.destroy h u)
  calls : e.KeepsCalls w.registry

section Collecting

variable {order : Nat → List (ObjectId × Class) → List (ObjectId × Class)} {o : ObjectId}
  {c : Class}

/-! ### The batch

The same objects in every order. -/

theorem World.Garbage.class_eq {c' : Class} (h : w.Garbage o c) (h' : w.Garbage o c') :
    c' = c := by
  obtain ⟨x, hx, -, rfl⟩ := h
  obtain ⟨x', hx', -, rfl⟩ := h'
  rw [hx] at hx'
  cases hx'
  rfl

/-- A collection takes the garbage, whatever the order. -/
theorem World.mem_takeGarbage_sweeping (ho : ∀ n l, (order n l).Perm l) :
    (o, c) ∈ (w.sweeping order).domain.takeGarbage.1 ↔ w.Garbage o c := by
  refine (Domain.mem_takeGarbage (d := (w.sweeping order).domain) ho).trans ?_
  change (∃ x, w.domain.heap.get? o = some x ∧ _) ↔ _
  simp only [Garbage, Domain.isGarbage, Bool.and_eq_true, decide_eq_true_eq, Bool.not_eq_true',
    and_assoc]

/-- A collection counts what it has taken. -/
theorem Run.collect_ends_iff {k : Nat} : (Run.collect (.nested n) me).Ends w (.ok k) w' ↔
    k = w.domain.takeGarbage.1.length ∧
      (Run.reclaimAll (.nested n) me w.domain.takeGarbage.1).Ends w.taken (.ok ()) w' := by
  have htake : (Run.onDomain Domain.takeGarbage).Ends w (.ok w.domain.takeGarbage.1) w.taken :=
    .exchange _ w
  constructor
  · intro h
    obtain ⟨_, v, hv, h⟩ := Process.Ends.of_bind_ok (Process.Ends.rest h htake)
    obtain ⟨hk, rfl⟩ := (Process.Ends.pure _ _).unique h
    exact ⟨Except.ok.inj hk, hv⟩
  · rintro ⟨rfl, h⟩
    exact htake.bind (h.bind (.pure _ _))

/-- The estate of secluded garbage is in the state in which a collection has taken it. -/
theorem Estate.Secludes.of_taken {own : ThreadId → Stakes} (hw : w.Accounted own)
    (h : e.Secludes w) (hg : w.Garbage e.object e.cls) : e.Of w.taken (e.object, e.cls) where
  object := rfl
  cls := rfl
  finalizer := h.finalizer
  inState := by
    refine ⟨⟨fun g hfound => h.handle.trans hfound, fun g r hh hr => ⟨?_, h.hook g r hh hr⟩⟩, ?_,
      h.calls⟩
    · have howner := hw.owner e.object g (h.handle.symm.trans hh)
      rw [show w.bridge.records.get? g = some r from hr] at howner
      exact Option.some.inj howner
    · obtain ⟨x, hx, hgarbage, hcls⟩ := hg
      change (w.domain.takeGarbage.2.heap.get? e.object).map HeapObject.cls = _
      rw [Domain.get?_takeGarbage, hx, Option.map_some, Option.map_some, if_pos hgarbage, ← hcls]

/-- Objects that are secluded have nothing in common. -/
theorem Estate.Secludes.apart {own : ThreadId → Stakes} {e' : Estate} (hw : w.Accounted own)
    (h : e.Secludes w) (h' : e'.Secludes w) (hne : e.object ≠ e'.object) : e.Apart e' where
  object := hne
  handle := fun g hg hg' => by
    have howner := hw.owner e.object g (h.handle.symm.trans hg)
    have howner' := hw.owner e'.object g (h'.handle.symm.trans hg')
    exact hne (Option.some.inj (howner.symm.trans howner'))

/-- In which order a collection is going to visit what it takes, no estate shows. -/
theorem Estate.agree_sweeping (e : Estate) (w : World)
    (order : Nat → List (ObjectId × Class) → List (ObjectId × Class)) :
    e.Agree w.taken (w.sweeping order).taken :=
  ⟨.refl _, rfl, rfl, rfl⟩

theorem Domain.foldl_swept_sweepOrder (d : Domain) (l : List (ObjectId × Class)) :
    l.foldl Domain.swept { d with sweepOrder := order } =
      { l.foldl Domain.swept d with sweepOrder := order } := by
  induction l generalizing d with
  | nil => rfl
  | cons x l ih => exact ih (d.swept x)

/-! ### Estates of the batch

One estate for each object that is garbage. They are chosen at the state where the collection
begins, and stay what they were in all states that it comes to. -/

/-- **Every object that is garbage has an estate**, and the estates have nothing in common. -/
structure World.Parted (w : World) (E : ObjectId → Estate) : Prop where
  of : ∀ x : ObjectId × Class, w.Garbage x.1 x.2 → (E x.1).Of w.taken x
  apart : ∀ x y : ObjectId × Class, w.Garbage x.1 x.2 → w.Garbage y.1 y.2 → x.1 ≠ y.1 →
    (E x.1).Apart (E y.1)

theorem World.Accounted.exists_parted {own : ThreadId → Stakes} (hw : w.Accounted own)
    (hown : ∀ o c, w.Garbage o c → ∃ e : Estate, e.object = o ∧ e.cls = c ∧ e.Secludes w) :
    ∃ E, w.Parted E := by
  have hestate : ∀ o, (∃ c, w.Garbage o c) →
      ∃ e : Estate, e.object = o ∧ w.Garbage o e.cls ∧ e.Secludes w := by
    rintro o ⟨c, hc⟩
    obtain ⟨e, ho, rfl, he⟩ := hown o c hc
    exact ⟨e, ho, hc, he⟩
  have : Nonempty Estate := ⟨⟨⟨0⟩, none, { scope := "", name := "" }, fun _ => False⟩⟩
  choose! E hobject hgarbage hsecludes using hestate
  refine ⟨E, ⟨fun ⟨o, c⟩ hx => ?_, fun x y hx hy hne => ?_⟩⟩
  · have ho := hobject o ⟨c, hx⟩
    have hc := hx.class_eq (hgarbage o ⟨c, hx⟩)
    have h := (hsecludes o ⟨c, hx⟩).of_taken hw (by rw [ho, hc]; exact hx)
    rwa [ho, hc] at h
  · refine (hsecludes x.1 ⟨_, hx⟩).apart hw (hsecludes y.1 ⟨_, hy⟩) ?_
    rwa [hobject x.1 ⟨_, hx⟩, hobject y.1 ⟨_, hy⟩]

namespace World.Parted

variable {E : ObjectId → Estate} {levels : Nat} (hE : w.Parted E)

include hE

theorem allApart (ho : ∀ n l, (order n l).Perm l) :
    Estate.AllApart E (w.sweeping order).domain.takeGarbage.1 := by
  have hnodup := Domain.nodup_takeGarbage (d := (w.sweeping order).domain) ho
  have hne := List.pairwise_map.1 hnodup
  refine hne.imp_of_mem fun {x y} hx hy hxy => ?_
  exact hE.apart x y ((mem_takeGarbage_sweeping ho).1 hx) ((mem_takeGarbage_sweeping ho).1 hy) hxy

/-- **A collection that returns** has reclaimed what can be reclaimed on its own. -/
theorem ends_reclaim (ho : ∀ n l, (order n l).Perm l) {k : Nat} {v : World}
    (h : (Run.collect (.nested levels) me).Ends (w.sweeping order) (.ok k) v)
    (hg : w.Garbage o c) :
    ∃ u, (Run.reclaim (.nested levels) me o c).Ends w.taken (.ok ()) u := by
  obtain ⟨-, hall⟩ := Run.collect_ends_iff.1 h
  have hof : ∀ x ∈ (w.sweeping order).domain.takeGarbage.1,
      (E x.1).Of (w.sweeping order).taken x := fun x hx =>
    (hE.of x ((mem_takeGarbage_sweeping ho).1 hx)).agree ((E x.1).agree_sweeping w order)
  have hmem := (mem_takeGarbage_sweeping ho).2 hg
  obtain ⟨u, hu⟩ := Run.ends_reclaim_of_all hof (hE.allApart ho) hall _ hmem
  obtain ⟨T, told, hsweeps⟩ := (hof _ hmem).exists_sweeps hu
  exact ⟨_, hsweeps.ends _ ((E o).agree_sweeping w order).symm⟩

/-- What is left of each object that can be reclaimed on its own. -/
theorem exists_sweeps (levels : Nat) (me : ThreadId) :
    ∃ (S : ObjectId → Bridge → Bridge) (tells : ObjectId → List Event), ∀ o c, w.Garbage o c →
      (∃ u, (Run.reclaim (.nested levels) me o c).Ends w.taken (.ok ()) u) →
      (E o).Sweeps levels me w.taken (o, c) (S o) (tells o) := by
  have hsweeps : ∀ o, (∃ c, w.Garbage o c ∧
      ∃ u, (Run.reclaim (.nested levels) me o c).Ends w.taken (.ok ()) u) →
      ∃ T told, ∀ c, w.Garbage o c → (E o).Sweeps levels me w.taken (o, c) T told := by
    rintro o ⟨c, hc, u, hu⟩
    obtain ⟨T, told, h⟩ := (hE.of (o, c) hc).exists_sweeps hu
    exact ⟨T, told, fun c' hc' => hc.class_eq hc' ▸ h⟩
  have : Nonempty (Bridge → Bridge) := ⟨id⟩
  choose! S tells h using hsweeps
  exact ⟨S, tells, fun o c hc hu => h o ⟨c, hc, hu⟩ c hc⟩

/-- **A collection returns** where everything can be reclaimed on its own. -/
theorem ends_collect {S : ObjectId → Bridge → Bridge} {tells : ObjectId → List Event}
    (hsweeps : ∀ o c, w.Garbage o c → (E o).Sweeps levels me w.taken (o, c) (S o) (tells o))
    (ho : ∀ n l, (order n l).Perm l) :
    (Run.collect (.nested levels) me).Ends (w.sweeping order)
      (.ok (w.sweeping order).domain.takeGarbage.1.length)
      ((w.sweeping order).taken.sweptAll (w.sweeping order).domain.takeGarbage.1 S tells) := by
  refine Run.collect_ends_iff.2 ⟨rfl, Run.ends_reclaimAll (fun x hx => ?_) (hE.allApart ho)⟩
  exact (hsweeps x.1 x.2 ((mem_takeGarbage_sweeping ho).1 hx)).agree
    ((E x.1).agree_sweeping w order)

/-- **Collections in two orders** leave the same behind. -/
theorem sweptAll_eq (order order' : Nat → List (ObjectId × Class) → List (ObjectId × Class))
    {S : ObjectId → Bridge → Bridge} {tells : ObjectId → List Event}
    (hsweeps : ∀ o c, w.Garbage o c → (E o).Sweeps levels me w.taken (o, c) (S o) (tells o))
    {l l' : List (ObjectId × Class)} (hl : ∀ x ∈ l, w.Garbage x.1 x.2) (hperm : l.Perm l') :
    ((w.sweeping order').taken.sweptAll l' S tells).domain =
        { ((w.sweeping order).taken.sweptAll l S tells).domain with sweepOrder := order' } ∧
      ((w.sweeping order').taken.sweptAll l' S tells).bridge =
        ((w.sweeping order).taken.sweptAll l S tells).bridge := by
  obtain ⟨hbridge, hdomain⟩ := sweptAll_perm hperm (fun x hx => hsweeps x.1 x.2 (hl x hx))
    (fun x hx y hy hne => hE.apart x y (hl x hx) (hl y hy) hne) (w.sweeping order').taken
  exact ⟨hdomain.trans (Domain.foldl_swept_sweepOrder (w.sweeping order).taken.domain l), hbridge⟩

end World.Parted

end Collecting

/-- **The order of a collection is free**, at every point of every interleaving from the start of
a host on, as long as everything unrooted is secluded. Whether a collection returns does not
depend on the order in which it visits what it takes: it does so exactly if each of the objects
can be reclaimed on its own. In every order it then returns the same number and leaves the same
domain, the heap included, and the same instances. And the history tells the same of each
object: all that is told of it in one order is told of it, in one piece, in every other. -/
theorem sweep_order_is_free (hw : w.Fresh) (n : Nat) (code : ThreadId → NativeCode α)
    {t : Threads World α}
    (ht : Threads.Reaches (fun w => w.constructions < 2 ^ 64) (w.threads n code) t)
    (hown : ∀ o c, t.state.Garbage o c →
      ∃ e : Estate, e.object = o ∧ e.cls = c ∧ e.Secludes t.state)
    (levels : Nat) (me : ThreadId) :
    ∃ told : ObjectId → List Event,
      ∀ order order' : Nat → List (ObjectId × Class) → List (ObjectId × Class),
      (∀ n l, (order n l).Perm l) → (∀ n l, (order' n l).Perm l) →
      ((∃ k v, (Run.collect (.nested levels) me).Ends (t.state.sweeping order) (.ok k) v) ↔
        ∀ o c, t.state.Garbage o c →
          ∃ v, (Run.reclaim (.nested levels) me o c).Ends t.state.taken (.ok ()) v) ∧
      ∀ k v, (Run.collect (.nested levels) me).Ends (t.state.sweeping order) (.ok k) v →
        ∃ v', (Run.collect (.nested levels) me).Ends (t.state.sweeping order') (.ok k) v' ∧
          v'.domain = { v.domain with sweepOrder := order' } ∧ v'.bridge = v.bridge ∧
          v.history = (t.state.sweeping order).domain.takeGarbage.1.reverse.flatMap
            (fun x => told x.1) ++ t.state.history ∧
          v'.history = (t.state.sweeping order').domain.takeGarbage.1.reverse.flatMap
            (fun x => told x.1) ++ t.state.history := by
  obtain ⟨own, hacc⟩ := hw.accounted_of_reaches ht
  obtain ⟨E, hE⟩ := hacc.exists_parted hown
  obtain ⟨S, told, hsweeps⟩ := hE.exists_sweeps levels me
  refine ⟨told, fun order order' ho ho' => ⟨⟨fun ⟨k, v, h⟩ o c hg => hE.ends_reclaim ho h hg,
    fun h => ⟨_, _, hE.ends_collect (fun o c hg => hsweeps o c hg (h o c hg)) ho⟩⟩, ?_⟩⟩
  intro k v hv
  have hall : ∀ o c, t.state.Garbage o c →
      (E o).Sweeps levels me t.state.taken (o, c) (S o) (told o) := fun o c hg =>
    hsweeps o c hg (hE.ends_reclaim ho hv hg)
  obtain ⟨hk, rfl⟩ := (hE.ends_collect hall ho).unique hv
  obtain rfl := Except.ok.inj hk
  have hperm : (t.state.sweeping order).domain.takeGarbage.1.Perm
      (t.state.sweeping order').domain.takeGarbage.1 := (ho _ _).trans (ho' _ _).symm
  obtain ⟨hdomain, hbridge⟩ := hE.sweptAll_eq order order' hall
    (fun x hx => (World.mem_takeGarbage_sweeping ho).1 hx) hperm
  rw [hperm.length_eq]
  exact ⟨_, hE.ends_collect hall ho', hdomain, hbridge, rfl, rfl⟩

/-! ## Two bells

Two objects whose finalizers call a member on them and dispose of them, and then throw. -/

/-- A member of bells, which counts in the resource how often it is called. -/
def bellRing : Member := ⟨"Bell", "Ring", ⟨[], .void⟩, .perInstance⟩

/-- The implementation of the member. -/
def bellCall : NativeCall :=
  .ofRaw [.object] .void fun
    | [.object h] => do
      let _ ← NativeCode.op (.useResource h .long (· + 1))
      return .ok .void
    | _ => return .ok .void

/-- A bell is made silent, and its destruction is noted. -/
def bellHooks : Hooks where
  construct := fun _ => .done (.ok ⟨.long, 0⟩)
  destroy := fun h _ => NativeCode.note (h.render ++ " is melted down")

/-- A class whose finalizer calls the member on the object, disposes of the object and throws. -/
def bell : Class where
  scope := ""
  name := "Bell"
  externs := [⟨"Ring", ⟨[], .void⟩, .perInstance⟩]
  finalizer := some fun a =>
    match a.receiver with
    | some o => do
      let _ ← ManagedCode.op (.callExtern o "Ring" [])
      let _ ← ManagedCode.op (.dispose o)
      return .error ⟨ManagedException.plain, "cracked", []⟩
    | none => return .ok .void

/-- A host with bells. -/
def bellHost : World :=
  .start ⟨Table.empty.insert bellRing.key ⟨bellRing, bellCall⟩,
    Table.empty.insert "Bell" bellHooks⟩ .empty "host" 8

theorem bellHost_fresh : bellHost.Fresh := ⟨rfl, rfl, rfl⟩

/-- Makes two bells and lets go of them. -/
def casting : NativeCode Unit := do
  let _ ← NativeCode.op (.newInstance bell)
  let _ ← NativeCode.op (.newInstance bell)
  let _ ← NativeCode.op (.dropInstance ⟨1⟩)
  let _ ← NativeCode.op (.dropInstance ⟨2⟩)
  return

/-- Where nobody holds them. -/
def bellsCast : World := ((casting.course 1 mainThread).advance bellHost).2

/-- The estate of a bell. -/
def bellEstate (o : ObjectId) : Estate := ⟨o, bellsCast.bridge.find? o, bell, (· = bellRing)⟩

theorem bellEstate_secludes (o : ObjectId) (h : Handle) (hfound : bellsCast.bridge.find? o = some h)
    (hr : (bellsCast.bridge.records.get? h).map Record.hooks = some bellHooks) :
    (bellEstate o).Secludes bellsCast where
  handle := rfl
  finalizer := by
    intro body hbody
    obtain rfl := Option.some.inj hbody
    refine ⟨⟨rfl, fun m hm => ?_, fun v hv => nomatch hv⟩, fun _ _ => ⟨rfl, fun _ _ => trivial⟩⟩
    exact (Option.some.inj hm).symm
  hook := by
    intro g r hg hr' u
    obtain rfl : h = g := Option.some.inj (hfound.symm.trans hg)
    rw [hr'] at hr
    rw [Option.some.inj hr]
    exact ⟨trivial, fun _ _ => trivial⟩
  calls := by
    rintro m c xs rfl hc -
    cases xs with
    | cons x xs => cases hc
    | nil =>
      obtain rfl := Except.ok.inj hc
      refine ⟨fun _ g hg => ⟨hg, fun _ _ x hx => ?_⟩, fun hi => nomatch hi⟩
      cases hx
      trivial

/-- What is garbage there is one of the two bells. -/
theorem bellsCast_garbage {o : ObjectId} {c : Class} (h : bellsCast.Garbage o c) :
    (o = ⟨1⟩ ∨ o = ⟨2⟩) ∧ c = bell := by
  obtain ⟨x, hx, -, rfl⟩ := h
  have hmem : (o, x) ∈ [(⟨1⟩, ⟨bell, 0, false⟩), (⟨2⟩, ⟨bell, 0, false⟩)] := Table.mem_toList.2 hx
  obtain h | h := List.mem_pair.1 hmem
  · exact ⟨.inl (congrArg Prod.fst h), congrArg (fun e => e.2.cls) h⟩
  · exact ⟨.inr (congrArg Prod.fst h), congrArg (fun e => e.2.cls) h⟩

/-- The bells are melted down in either order, and each of them is told of the same. -/
theorem sweep_order_is_free_bells : ∃ (t : Threads World Unit) (told : ObjectId → List Event)
    (v v' : World),
    (bellHost.threads 1 fun _ => casting).Reaches (fun w => w.constructions < 2 ^ 64) t ∧
    (Run.collect (.nested 3) mainThread).Ends (t.state.sweeping fun _ l => l) (.ok 2) v ∧
    (Run.collect (.nested 3) mainThread).Ends (t.state.sweeping fun _ l => l.reverse) (.ok 2) v' ∧
    v'.domain.heap = v.domain.heap ∧ v'.bridge = v.bridge ∧
    v.history = told ⟨2⟩ ++ told ⟨1⟩ ++ t.state.history ∧
    v'.history = told ⟨1⟩ ++ told ⟨2⟩ ++ t.state.history := by
  have hwithin : (casting.course 1 mainThread).Always (fun w => w.constructions < 2 ^ 64)
      bellHost := by decide +kernel
  have hreach : (casting.course 1 mainThread).Reaches (fun w => w.constructions < 2 ^ 64)
      bellHost _ bellsCast :=
    .of_forall (fun q s hq => (hq.always hwithin).here)
      ((casting.course 1 mainThread).reaches_advance bellHost)
  obtain ⟨t, ht, hstate, -⟩ :=
    (bellHost.threads 1 fun _ => casting).reaches_alone hreach rfl
  have hown : ∀ o c, t.state.Garbage o c →
      ∃ e : Estate, e.object = o ∧ e.cls = c ∧ e.Secludes t.state := by
    rw [hstate]
    intro o c hg
    obtain ⟨rfl | rfl, rfl⟩ := bellsCast_garbage hg
    · exact ⟨bellEstate ⟨1⟩, rfl, rfl, bellEstate_secludes _ ⟨1⟩ rfl rfl⟩
    · exact ⟨bellEstate ⟨2⟩, rfl, rfl, bellEstate_secludes _ ⟨2⟩ rfl rfl⟩
  obtain ⟨told, htold⟩ :=
    sweep_order_is_free bellHost_fresh 1 (fun _ => casting) ht hown 3 mainThread
  obtain ⟨-, hsame⟩ := htold (fun _ l => l) (fun _ l => l.reverse) (fun _ l => .refl l)
    (fun _ l => l.reverse_perm)
  rw [hstate] at hsame
  obtain ⟨v, hcollect⟩ : ∃ v, (Run.collect (.nested 3) mainThread).Ends
      (bellsCast.sweeping fun _ l => l) (.ok 2) v := ⟨_, rfl⟩
  have htaken : (bellsCast.sweeping fun _ l => l).domain.takeGarbage.1 =
      [(⟨1⟩, bell), (⟨2⟩, bell)] := rfl
  have htaken' : (bellsCast.sweeping fun _ l => l.reverse).domain.takeGarbage.1 =
      [(⟨2⟩, bell), (⟨1⟩, bell)] := rfl
  obtain ⟨v', hv', hdomain, hbridge, hhistory, hhistory'⟩ := hsame 2 v hcollect
  rw [htaken] at hhistory
  rw [htaken'] at hhistory'
  refine ⟨t, told, v, v', ht, ?_⟩
  rw [hstate]
  exact ⟨hcollect, hv', by rw [hdomain], hbridge, by simpa using hhistory, by simpa using hhistory'⟩

end HostBridge
