import HostBridge.Proofs.Evaluation
import HostBridge.Proofs.Domain.Owners

/-!
# The books of a domain

What has to hold of a host that runs on one thread, so that the roots of its objects
can be told from their owners (`Ledger.Balanced`), and what code may change of it
until it returns (`World.Extends`).

The objects of a domain are numbered in the order in which they are allocated, and
a collection comes to an object at most once. Two things are said of roots. An
object under construction has a root for each of its owners, those aside that named
it too early; so no collection takes it. In a **tame** run, in which no managed body
panics and nothing is named too early, every object has exactly as many roots as
owners.

Most sections neither put an object on the heap nor take one (`World.Carries`). What
they do to the books is said once, for all of them.

## Named too early

Numbers of objects are known in advance, and nothing keeps code from using one
before there is an object of that number. A root that is asked for then is not
counted, while the frame that asked for it stands as an owner all the same. When
the object comes, the frame gives back a root that it never took. The books allow
for this by the birth of an object, the frame that was opened first after the
object was allocated: frames before it are owners that do not count.
-/

namespace HostBridge

/-! ## What happened to objects

The history is counted for what was allocated and what was visited, since the
state forgets both when an object leaves the heap. -/

/-- Whether an object was put on the heap. -/
def Event.isAllocation : Event → Bool
  | .allocated _ => true
  | _ => false

/-- Whether a collection came to an object. -/
def Event.isVisit (o : ObjectId) : Event → Bool
  | .visited p => p = o
  | _ => false

/-- Whether a managed body ended without a result. -/
def Event.isAbandonment : Event → Bool
  | .abandoned _ => true
  | _ => false

/-- Whether an object was put on the heap, visited or freed. -/
def Event.isVital : Event → Bool
  | .allocated _ | .visited _ | .freed _ => true
  | _ => false

namespace World

/-- The number of objects that were put on the heap. -/
def allocations (w : World) : Nat := w.history.countP Event.isAllocation

/-- How often a collection came to an object. -/
def visits (w : World) (o : ObjectId) : Nat := w.history.countP (Event.isVisit o)

section Append

variable {w w' : World} {events : List Event}

/-- Events of another kind do not count as allocations. -/
theorem allocations_append (hw : w'.history = events ++ w.history)
    (he : ∀ e ∈ events, e.isAllocation = false) : w'.allocations = w.allocations := by
  unfold allocations
  rw [hw, List.countP_append, List.countP_eq_zero.2 (fun e hm => by simp [he e hm]), Nat.zero_add]

/-- Events of another kind do not count as visits. -/
theorem visits_append {o : ObjectId} (hw : w'.history = events ++ w.history)
    (he : ∀ e ∈ events, e.isVisit o = false) : w'.visits o = w.visits o := by
  unfold visits
  rw [hw, List.countP_append, List.countP_eq_zero.2 (fun e hm => by simp [he e hm]), Nat.zero_add]

end Append

/-- **A tame state**: no managed body has panicked, and no active frame names the
object that is allocated next. -/
def Tame (w : World) : Prop :=
  (∀ e ∈ w.history, e.isAbandonment = false) ∧
    ∀ t ∈ w.domain.frames, t.receiver ≠ some w.domain.nextObject ∧ w.domain.nextObject ∉ t.locals

instance (w : World) : Decidable w.Tame := inferInstanceAs (Decidable (_ ∧ _))

end World

/-! ## Sections that carry the objects along

These are all sections but three: an allocation, the beginning of a collection, and
the freeing of an object. Frames may be opened and closed by them and roots come
and go, for the books say what roots have to do with owners and not how many there
are. -/

/-- **A change of the domain in which no object comes or goes**, and none is taken
by a collection. -/
structure Domain.Continues (d d' : Domain) : Prop where
  lastObject : d'.lastObject = d.lastObject
  maxCallDepth : d'.maxCallDepth = d.maxCallDepth
  sweepOrder : d'.sweepOrder = d.sweepOrder
  collections : d'.collections = d.collections
  objects : ∀ o, (d'.heap.get? o).map HeapObject.finalizing =
    (d.heap.get? o).map HeapObject.finalizing
  held : ∀ o ∈ d'.held, o ∈ d.held ∨ o ∈ d.allocating
  allocating : d'.allocating.Sublist d.allocating
  nextFrame : d.nextFrame ≤ d'.nextFrame
  frames : ∀ t ∈ d'.frames, t.id < d'.nextFrame ∨ ∃ s ∈ d.frames, s.id = t.id

theorem Domain.Continues.refl (d : Domain) : d.Continues d :=
  ⟨rfl, rfl, rfl, rfl, fun _ => rfl, fun _ => Or.inl, .refl _, Nat.le_refl _,
    fun t ht => Or.inr ⟨t, ht, rfl⟩⟩

/-- **A change of the bridge in which no construction begins.** -/
def Bridge.Onward (b b' : Bridge) : Prop :=
  ∀ h r', b'.records.get? h = some r' → ∃ r, b.records.get? h = some r ∧
    r'.object = r.object ∧ r'.hooks = r.hooks ∧
      (r'.lifecycle = .constructing → r.lifecycle = .constructing)

theorem Bridge.onward_of_records {b b' : Bridge} (h : b'.records = b.records) : b.Onward b' :=
  fun _ r hr => ⟨r, h ▸ hr, rfl, rfl, id⟩

/-- A change of one record that leaves its instance and hooks alone, and begins no construction.
-/
theorem Bridge.onward_updateRecord (b : Bridge) (h : Handle) {f : Record → Record}
    (hf : ∀ r, (f r).object = r.object ∧ (f r).hooks = r.hooks ∧
      ((f r).lifecycle = .constructing → r.lifecycle = .constructing)) :
    b.Onward (b.updateRecord h f) := by
  intro g r' hr'
  unfold updateRecord at hr'
  rw [Table.get?_modify] at hr'
  by_cases hg : g = h
  · rw [if_pos hg] at hr'
    obtain ⟨r, hr, rfl⟩ := Option.map_eq_some_iff.1 hr'
    exact ⟨r, hr, hf r⟩
  · rw [if_neg hg] at hr'
    exact ⟨r', hr', rfl, rfl, id⟩

/-- **A section that carries the objects along**: none comes, goes, is taken or
visited. -/
structure World.Carries (me : ThreadId) (w w' : World) : Prop where
  registry : w'.registry = w.registry
  bridge : w.bridge.Onward w'.bridge
  kept : ∀ c ∈ w'.kept, c ∈ w.kept ∨ c.1 = me
  domain : w.domain.Continues w'.domain
  history : ∃ events, w'.history = events ++ w.history ∧ ∀ e ∈ events, e.isVital = false

namespace World

variable {me : ThreadId} {w w' w'' : World}

/-- A line that tells of no object carries the objects along. -/
theorem carries_record {e : Event} (he : e.isVital = false) : w.Carries me (w.record e) :=
  ⟨rfl, Bridge.onward_of_records rfl, fun _ => Or.inl, .refl _, [e], rfl, by simpa using he⟩

theorem carries_onBridge {b : Bridge} {events : List Event} (hb : w.bridge.Onward b)
    (he : ∀ e ∈ events, e.isVital = false) : w.Carries me (w.onBridge b events) :=
  ⟨rfl, hb, fun _ => Or.inl, .refl _, events, rfl, he⟩

/-- A change of the domain in which no object comes or goes carries the objects along. -/
theorem carries_onDomain {d : Domain} {events : List Event} (hd : w.domain.Continues d)
    (he : ∀ e ∈ events, e.isVital = false) : w.Carries me (w.onDomain d events) :=
  ⟨rfl, Bridge.onward_of_records rfl, fun _ => Or.inl, hd, events, rfl, he⟩

theorem carries_of_continues {d : Domain} (hd : w.domain.Continues d) :
    w.Carries me (w.onDomain d) :=
  carries_onDomain hd (by simp)

namespace Carries

variable (hc : w.Carries me w')

include hc

theorem allocations : w'.allocations = w.allocations := by
  obtain ⟨events, he, hv⟩ := hc.history
  refine allocations_append he (fun e hm => ?_)
  have := hv e hm
  cases e <;> simp_all [Event.isVital, Event.isAllocation]

theorem visits (o : ObjectId) : w'.visits o = w.visits o := by
  obtain ⟨events, he, hv⟩ := hc.history
  refine visits_append he (fun e hm => ?_)
  have := hv e hm
  cases e <;> simp_all [Event.isVital, Event.isVisit]

/-- The history is only added to. -/
theorem suffix : w.history <:+ w'.history := by
  obtain ⟨events, he, -⟩ := hc.history
  exact ⟨events, he.symm⟩

/-- Nothing is freed. -/
theorem not_freed (o : ObjectId) : w'.history ≠ .freed o :: w.history := by
  intro hf
  obtain ⟨events, he, hv⟩ := hc.history
  have hn : events = [.freed o] := List.append_cancel_right (he.symm.trans hf)
  have := hv (.freed o) (by simp [hn])
  cases this

end Carries

end World

/-! ## What code leaves behind

The relation is read from the outside: it speaks of the objects that were there
when the code was entered, of what a collection had taken by then, and of the
constructions that were running. It composes, so it is known of a call once it is
known of what the call is made of. -/

/-- **What holds after code has run**, compared with the state it started from: no
object that was there has got a native holder, what a collection has taken is still
there, unless it is one of some objects, and no construction is left half done. -/
structure World.Extends (taken : List ObjectId) (w w' : World) : Prop where
  history : w.history <:+ w'.history
  held : ∀ o, o.number.toNat ≤ w.allocations →
    w'.domain.held.count o ≤ w.domain.held.count o
  pending : ∀ o, o ∉ taken → (w.domain.heap.get? o).map HeapObject.finalizing = some true →
    w'.visits o = w.visits o ∧ (w'.domain.heap.get? o).map HeapObject.finalizing = some true
  building : ∀ h r', w'.bridge.records.get? h = some r' → r'.lifecycle = .constructing →
    ∃ r, w.bridge.records.get? h = some r ∧ r.lifecycle = .constructing ∧ r.object = r'.object

namespace World.Extends

variable {me : ThreadId} {taken taken' : List ObjectId} {w w' w'' : World}

theorem refl (w : World) : w.Extends taken w :=
  ⟨List.suffix_rfl, fun _ _ => Nat.le_refl _, fun _ _ h => ⟨rfl, h⟩,
    fun _ r hr hl => ⟨r, hr, hl, rfl⟩⟩

theorem allocations (h : w.Extends taken w') : w.allocations ≤ w'.allocations :=
  h.history.sublist.countP_le

/-- What two pieces of code leave behind, one after the other. -/
theorem trans (h : w.Extends taken w') (h' : w'.Extends taken w'') : w.Extends taken w'' where
  history := h.history.trans h'.history
  held := fun o ho => Nat.le_trans (h'.held o (Nat.le_trans ho h.allocations)) (h.held o ho)
  pending := fun o ht hp => by
    obtain ⟨hv, hp'⟩ := h.pending o ht hp
    obtain ⟨hv', hp''⟩ := h'.pending o ht hp'
    exact ⟨hv'.trans hv, hp''⟩
  building := fun g r'' hr'' hl'' => by
    obtain ⟨r', hr', hl', ho'⟩ := h'.building g r'' hr'' hl''
    obtain ⟨r, hr, hl, ho⟩ := h.building g r' hr' hl'
    exact ⟨r, hr, hl, ho.trans ho'⟩

/-- More objects may be excepted. -/
theorem mono (h : w.Extends taken w') (ht : taken ⊆ taken') : w.Extends taken' w' :=
  { h with pending := fun o ho => h.pending o (fun hm => ho (ht hm)) }

/-- One more section that carries the objects along, and gives no native holder to an
object that was there at the start. -/
theorem carry (h : w.Extends taken w') (hc : w'.Carries me w'')
    (hh : ∀ o, o.number.toNat ≤ w.allocations →
      w''.domain.held.count o ≤ w'.domain.held.count o) : w.Extends taken w'' where
  history := h.history.trans hc.suffix
  held := fun o ho => Nat.le_trans (hh o ho) (h.held o ho)
  pending := fun o ht hp => by
    obtain ⟨hv, hp'⟩ := h.pending o ht hp
    exact ⟨(hc.visits o).trans hv, (hc.domain.objects o).trans hp'⟩
  building := fun g r'' hr'' hl'' => by
    obtain ⟨r', hr', ho', -, hl'⟩ := hc.bridge g r'' hr''
    obtain ⟨r, hr, hl, ho⟩ := h.building g r' hr' (hl' hl'')
    exact ⟨r, hr, hl, ho.trans ho'.symm⟩

end World.Extends

/-! ## The books

They are in four parts: the host around the domain, the census of its objects, the
roots of what is under construction, and in a tame run the roots of everything. -/

/-- **What a run is taken to be.** -/
inductive Regime where
  /-- No managed body panics, and no object is named before it is allocated. -/
  | tame
  /-- Nobody but the domain constructs instances. -/
  | sole
deriving DecidableEq

/-- An operation constructs no instance, or leaves that to the domain. -/
def NativeOp.NoConstruction (op : NativeOp) : Prop := ∀ typeName o, op ≠ .construct typeName o

/-- What native code may ask for. -/
def Regime.Permits : Regime → NativeOp → Prop
  | .tame, _ => True
  | .sole, op => op.NoConstruction

/-- **The host around the domain**: its native code asks for what it may, and calls are
kept running on one thread. -/
structure World.Hosted (r : Regime) (me : ThreadId) (w : World) : Prop where
  registry : w.registry.Asks r.Permits
  hooks : ∀ h s, w.bridge.records.get? h = some s → s.hooks.Asks r.Permits
  kept : ∀ c ∈ w.kept, c.1 = me

/-- **Objects are numbered, and visited once.** -/
structure World.Census (w : World) : Prop where
  numbered : w.domain.lastObject.toNat = w.allocations
  heap : ∀ o, w.domain.heap.get? o ≠ none → o.number.toNat ≤ w.allocations
  held : ∀ o ∈ w.domain.held, o.number.toNat ≤ w.allocations
  allocating : ∀ o ∈ w.domain.allocating, o.number.toNat ≤ w.allocations
  distinct : w.domain.allocating.Nodup
  frames : ∀ t ∈ w.domain.frames, t.id < w.domain.nextFrame
  order : ∀ n l, (w.domain.sweepOrder n l).Perm l
  visits : ∀ o, w.visits o ≤ 1
  unborn : ∀ o, w.allocations < o.number.toNat → w.visits o = 0
  unvisited : ∀ o, (w.domain.heap.get? o).map HeapObject.finalizing = some false →
    w.visits o = 0

/-- **A host with its books**: the state, and for each object the number of the next
frame at the time of its allocation. -/
structure Ledger where
  /-- The state. -/
  world : World
  /-- The frame that was opened first after an object was allocated. -/
  births : ObjectId → FrameId

/-- **The books are in order.** -/
structure Ledger.Balanced (r : Regime) (me : ThreadId) (x : Ledger) : Prop where
  hosted : x.world.Hosted r me
  census : x.world.Census
  depth : r = .sole → 0 < x.world.domain.maxCallDepth
  secured : x.world.domain.Secured x.births
  exact : r = .tame → x.world.domain.Exact

variable {r : Regime} {me : ThreadId} {w w' : World}

/-- The host around the domain stays what it is where the objects are carried along. -/
theorem World.Hosted.carry (hw : w.Hosted r me) (hc : w.Carries me w') : w'.Hosted r me where
  registry := hc.registry ▸ hw.registry
  hooks := fun h s' hs' => by
    obtain ⟨s, hs, -, hh, -⟩ := hc.bridge h s' hs'
    exact hh ▸ hw.hooks h s hs
  kept := fun c hm => (hc.kept c hm).elim (hw.kept c) id

/-- **The census stays right** where no object comes or goes. -/
theorem World.Census.carry (hw : w.Census) (hc : w.Carries me w') : w'.Census where
  numbered := by rw [hc.domain.lastObject, hc.allocations, hw.numbered]
  heap := fun o ho => by
    rw [hc.allocations]
    refine hw.heap o (fun hn => ho ?_)
    have := hc.domain.objects o
    rwa [hn, Option.map_none, Option.map_eq_none_iff] at this
  held := fun o ho => by
    rw [hc.allocations]
    exact (hc.domain.held o ho).elim (hw.held o) (hw.allocating o)
  allocating := fun o ho => by
    rw [hc.allocations]
    exact hw.allocating o (hc.domain.allocating.subset ho)
  distinct := hw.distinct.sublist hc.domain.allocating
  frames := fun t ht => by
    obtain h | ⟨s, hs, he⟩ := hc.domain.frames t ht
    · exact h
    · rw [← he]
      exact Nat.lt_of_lt_of_le (hw.frames s hs) hc.domain.nextFrame
  order := by
    rw [hc.domain.sweepOrder]
    exact hw.order
  visits := fun o => by
    rw [hc.visits]
    exact hw.visits o
  unborn := fun o ho => by
    rw [hc.visits]
    exact hw.unborn o (hc.allocations ▸ ho)
  unvisited := fun o ho => by
    rw [hc.visits]
    exact hw.unvisited o ((hc.domain.objects o).symm.trans ho)

namespace Ledger.Balanced

variable {x : Ledger} (hx : x.Balanced r me)

include hx

/-- **Books that balanced balance** after a section whose roots come and go with their
owners. -/
theorem balances (hc : x.world.Carries me w') {f : FrameId}
    (hb : x.world.domain.Balances w'.domain f)
    (hf : ∀ o ∈ w'.domain.allocating, x.births o ≤ f) :
    (Ledger.mk w' x.births).Balanced r me where
  hosted := hx.hosted.carry hc
  census := hx.census.carry hc
  depth := fun hr => hc.domain.maxCallDepth ▸ hx.depth hr
  secured := hb.secured hx.secured hc.domain.allocating.subset hc.domain.nextFrame hf
  exact := fun hr => hb.exact (hx.exact hr)

/-- What does not touch the domain changes nothing in the books. -/
theorem idle (hc : x.world.Carries me w') (hd : w'.domain = x.world.domain) :
    (Ledger.mk w' x.births).Balanced r me where
  hosted := hx.hosted.carry hc
  census := hx.census.carry hc
  depth := fun hr => hc.domain.maxCallDepth ▸ hx.depth hr
  secured := hd ▸ hx.secured
  exact := fun hr => hd ▸ hx.exact hr

/-- Owners may go without their roots where roots are not counted exactly. -/
theorem dwindle (hr : r ≠ .tame) (hc : x.world.Carries me w')
    (hh : w'.domain.heap = x.world.domain.heap) (hheld : w'.domain.held = x.world.domain.held)
    (hn : w'.domain.nextFrame = x.world.domain.nextFrame)
    (hf : w'.domain.frames.Sublist x.world.domain.frames) :
    (Ledger.mk w' x.births).Balanced r me where
  hosted := hx.hosted.carry hc
  census := hx.census.carry hc
  depth := fun hr => hc.domain.maxCallDepth ▸ hx.depth hr
  secured := hx.secured.dwindle hh hn hheld hc.domain.allocating hf
  exact := fun h => absurd h hr

end Ledger.Balanced

end HostBridge
