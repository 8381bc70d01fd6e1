import HostBridge.Proofs.Domain.Ledger

/-!
# Sections that keep the books

What each section on a domain does to its books: those in which roots change hands,
and those in which an object comes to the heap, is taken by a collection, visited, or
removed.

There are two questions to each section, and they are answered apart. Whether the
objects are **carried along** is a matter of the heap and of the collections, and is
shown for the sections on frames and holders in the first half. Whether the **books**
are right after it is a matter of roots, which was settled where the section was
shown to balance. The sections that change which objects there are do not carry
anything along, and the second half has a lemma for each of them in each book.
-/

namespace HostBridge

variable {r : Regime} {me : ThreadId} {d : Domain} {x : Ledger} {o p : ObjectId}
  {f : FrameId} {t : Frame} {rest : List Frame}

/-! ## Roots that change hands

All are instances of one lemma: what balances changes no object but in the number of
its roots, so only the other fields of the domain are left to be compared. -/

namespace Domain

/-- **What balances carries the objects along**, if it leaves the rest of the domain alone but
for frames, holders and constructions. -/
theorem continues_of_balances {d d' : Domain} (hb : d.Balances d' f)
    (hl : d'.lastObject = d.lastObject) (hm : d'.maxCallDepth = d.maxCallDepth)
    (hs : d'.sweepOrder = d.sweepOrder) (hc : d'.collections = d.collections)
    (hh : ∀ o ∈ d'.held, o ∈ d.held ∨ o ∈ d.allocating)
    (ha : d'.allocating.Sublist d.allocating) (hn : d.nextFrame ≤ d'.nextFrame)
    (hf : ∀ t ∈ d'.frames, t.id < d'.nextFrame ∨ ∃ s ∈ d.frames, s.id = t.id) :
    d.Continues d' :=
  ⟨hl, hm, hs, hc, hb.objects, hh, ha, hn, hf⟩

/-- A finished construction that goes to native code carries the objects along. -/
theorem continues_hold (ho : o ∈ d.allocating) : d.Continues (d.hold o) := by
  refine continues_of_balances (d.balances_hold ho 0) rfl rfl rfl rfl (fun p hp => ?_)
    List.erase_sublist (Nat.le_refl _) (fun t ht => Or.inr ⟨t, ht, rfl⟩)
  obtain rfl | hp := List.mem_cons.1 hp
  · exact Or.inr ho
  · exact Or.inl hp

/-- A holder that lets go carries the objects along. -/
theorem continues_letGo (ho : o ∈ d.held) : d.Continues (d.letGo o) :=
  continues_of_balances (d.balances_letGo ho 0) rfl rfl rfl rfl
    (fun _ hp => Or.inl (List.mem_of_mem_erase hp)) (.refl _) (Nat.le_refl _)
    (fun t ht => Or.inr ⟨t, ht, rfl⟩)

/-- A constructor that threw carries the objects along, its own included. -/
theorem continues_abandonAllocation (ho : o ∈ d.allocating) :
    d.Continues ((d.unroot o).abandonAllocation o) :=
  continues_of_balances (d.balances_abandonAllocation ho 0) rfl rfl rfl rfl
    (fun _ hp => Or.inl hp) List.erase_sublist (Nat.le_refl _) (fun t ht => Or.inr ⟨t, ht, rfl⟩)

/-- **A frame that is opened** carries the objects along. -/
theorem continues_openFrame (d : Domain) (name : String) (receiver : Option ObjectId) :
    d.Continues (d.openFrame name receiver).2 := by
  have hb := d.balances_openFrame name receiver
  obtain ⟨heap, he⟩ := d.openFrame_eq name receiver
  rw [he] at hb ⊢
  refine continues_of_balances hb rfl rfl rfl rfl (fun _ => Or.inl) (.refl _) (Nat.le_succ _)
    (fun t ht => ?_)
  obtain rfl | ht := List.mem_cons.1 ht
  · exact Or.inl (Nat.lt_succ_self _)
  · exact Or.inr ⟨t, ht, rfl⟩

/-- The frame on top is changed, and nothing of it that others see. -/
theorem frames_of_top {d' : Domain} (hf : d.frames = t :: rest) {l : List ObjectId}
    (hf' : d'.frames = { t with locals := l } :: rest) :
    ∀ s ∈ d'.frames, s.id < d'.nextFrame ∨ ∃ s' ∈ d.frames, s'.id = s.id := by
  intro s hs
  rw [hf'] at hs
  obtain rfl | hs := List.mem_cons.1 hs
  · exact Or.inr ⟨t, by simp [hf], rfl⟩
  · exact Or.inr ⟨s, by simp [hf, hs], rfl⟩

section Top

variable (hf : d.frames = t :: rest) (ht : t.id = f)

include hf ht

/-- The frame that asked for an object has it among its locals. -/
theorem adopt_frames (o : ObjectId) :
    (d.adopt f o).frames = { t with locals := t.locals ++ [o] } :: rest :=
  updateLocals_top hf ht _

theorem continues_adopt (ho : o ∈ d.allocating) : d.Continues (d.adopt f o) :=
  continues_of_balances (balances_adopt hf ht ho) rfl rfl rfl rfl (fun _ => Or.inl)
    List.erase_sublist (Nat.le_refl _) (frames_of_top hf (adopt_frames hf ht o))

/-- A frame that keeps what a call returned has it among its locals at most. -/
theorem keep_frames (v : ManagedValue) :
    ∃ l, (d.keep f v).frames = { t with locals := l } :: rest := by
  unfold keep
  cases v.asObject? with
  | none => exact ⟨t.locals, hf⟩
  | some o => exact ⟨_, updateLocals_top (d := d.root o) hf ht _⟩

/-- A frame that keeps a result carries the objects along. -/
theorem continues_keep (v : ManagedValue) : d.Continues (d.keep f v) := by
  have hb := balances_keep hf ht v
  obtain ⟨l, hl⟩ := keep_frames hf ht v
  obtain ⟨heap, frames, he⟩ := d.keep_eq f v
  rw [he] at hb hl ⊢
  exact continues_of_balances hb rfl rfl rfl rfl (fun _ => Or.inl) (.refl _) (Nat.le_refl _)
    (frames_of_top hf hl)

theorem releaseLocal_frames {l : List ObjectId} (hl : t.locals = o :: l) :
    (d.releaseLocal f).frames = { t with locals := l } :: rest := by
  rw [releaseLocal_top hf ht hl]
  exact updateLocals_top (d := d.unroot o) hf ht _

/-- A local that is given up carries the objects along. -/
theorem continues_releaseLocal {l : List ObjectId} (hl : t.locals = o :: l) :
    d.Continues (d.releaseLocal f) := by
  have hb := balances_releaseLocal hf ht hl
  have hfr := releaseLocal_frames hf ht hl
  rw [releaseLocal_top hf ht hl] at hb hfr ⊢
  exact continues_of_balances hb rfl rfl rfl rfl (fun _ => Or.inl) (.refl _) (Nat.le_refl _)
    (frames_of_top hf hfr)

/-- The frame on top is closed, and the one below it is on top. -/
theorem closeFrame_frames : (d.closeFrame f).frames = rest := by
  obtain ⟨heap, he⟩ := d.closeFrame_eq f
  rw [he]
  exact erase_top hf ht

/-- **A frame that is closed** carries the objects along. -/
theorem continues_closeFrame (hl : t.locals = []) : d.Continues (d.closeFrame f) := by
  have hb := balances_closeFrame hf ht hl
  obtain ⟨heap, he⟩ := d.closeFrame_eq f
  rw [he] at hb ⊢
  exact continues_of_balances hb rfl rfl rfl rfl (fun _ => Or.inl) (.refl _) (Nat.le_refl _)
    (fun s hs => Or.inr ⟨s, List.mem_of_mem_eraseP hs, rfl⟩)

end Top

/-- A frame that a panic leaves behind carries the objects along. -/
theorem continues_abandonFrame (d : Domain) (f : FrameId) : d.Continues (d.abandonFrame f) :=
  ⟨rfl, rfl, rfl, rfl, fun _ => rfl, fun _ => Or.inl, .refl _, Nat.le_refl _,
    fun s hs => Or.inr ⟨s, List.mem_of_mem_eraseP hs, rfl⟩⟩

theorem continues_strikeAllocation (d : Domain) (o : ObjectId) :
    d.Continues (d.abandonAllocation o) :=
  ⟨rfl, rfl, rfl, rfl, fun _ => rfl, fun _ => Or.inl, List.erase_sublist, Nat.le_refl _,
    fun s hs => Or.inr ⟨s, hs, rfl⟩⟩

end Domain

/-! ## Objects that come and go

The census counts: an object more is a number more, and the number is new. For a
visit it has to be known that the object is marked and was not visited, which the
collection knows of what it has taken. -/

namespace World

variable {w : World}

/-- The host around a domain is no matter of the domain. -/
theorem Hosted.onDomain (hw : w.Hosted r me) (d : Domain) (events : List Event) :
    (w.onDomain d events).Hosted r me :=
  ⟨hw.registry, hw.hooks, hw.kept⟩

namespace Census

variable (hw : w.Census)

include hw

section Fresh

variable (hb : w.allocations + 1 < 2 ^ 64)

include hb

/-- The number of the next object was not used before. -/
theorem toNat_nextObject : w.domain.nextObject.number.toNat = w.allocations + 1 := by
  unfold Domain.nextObject
  rw [UInt64.toNat_add, hw.numbered]
  exact Nat.mod_eq_of_lt hb

/-- **A new object is unknown**: nobody holds it, nothing constructs it, and it is not on the
heap. -/
theorem nextObject_fresh : w.domain.heap.get? w.domain.nextObject = none ∧
    w.domain.nextObject ∉ w.domain.held ∧ w.domain.nextObject ∉ w.domain.allocating := by
  have hn := hw.toNat_nextObject hb
  refine ⟨?_, fun hm => ?_, fun hm => ?_⟩
  · by_contra hne
    have := hw.heap _ hne
    omega
  · have := hw.held _ hm
    omega
  · have := hw.allocating _ hm
    omega

/-- Nothing owns a new object but those who named it too early. -/
theorem ownersSince_nextObject {g : FrameId}
    (hg : ∀ t ∈ w.domain.frames, g ≤ t.id → t.claims w.domain.nextObject = 0) :
    w.domain.ownersSince g w.domain.nextObject = 0 := by
  obtain ⟨-, hheld, halloc⟩ := hw.nextObject_fresh hb
  have hsum : ((w.domain.frames.filter (fun t => g ≤ t.id)).map
      (·.claims w.domain.nextObject)).sum = 0 := by
    rw [List.sum_eq_zero_iff]
    intro n hn
    obtain ⟨t, ht, rfl⟩ := List.mem_map.1 hn
    obtain ⟨hm, hi⟩ := List.mem_filter.1 ht
    exact hg t hm (by simpa using hi)
  unfold Domain.ownersSince
  rw [List.count_eq_zero.2 hheld, List.count_eq_zero.2 halloc, hsum]

/-- **An object that is allocated** is counted. -/
theorem allocate (c : Class) :
    (w.onDomain (w.domain.allocate c).2 [.allocated w.domain.nextObject]).Census := by
  have hn := hw.toNat_nextObject hb
  obtain ⟨-, -, halloc⟩ := hw.nextObject_fresh hb
  have hcount : (w.onDomain (w.domain.allocate c).2
      [.allocated w.domain.nextObject]).allocations = w.allocations + 1 :=
    List.countP_cons_of_pos rfl
  have hvisits : ∀ o, (w.onDomain (w.domain.allocate c).2
      [.allocated w.domain.nextObject]).visits o = w.visits o :=
    fun o => List.countP_cons_of_neg (by simp [Event.isVisit])
  have hget := w.domain.get?_allocate c
  refine {
    numbered := hn.trans hcount.symm
    heap := fun o ho => ?_
    held := fun o ho => ?_
    allocating := fun o ho => ?_
    distinct := List.nodup_cons.2 ⟨halloc, hw.distinct⟩
    frames := hw.frames
    order := hw.order
    visits := fun o => hvisits o ▸ hw.visits o
    unborn := fun o ho => ?_
    unvisited := fun o ho => ?_ }
  · rw [hcount]
    by_cases h : o = w.domain.nextObject
    · exact Nat.le_of_eq (h ▸ hn)
    · have := hw.heap o (by simpa [World.onDomain, hget, h] using ho)
      omega
  · rw [hcount]
    exact Nat.le_succ_of_le (hw.held o ho)
  · rw [hcount]
    obtain rfl | ho := List.mem_cons.1 ho
    · exact Nat.le_of_eq hn
    · exact Nat.le_succ_of_le (hw.allocating o ho)
  · rw [hvisits]
    exact hw.unborn o (by omega)
  · rw [hvisits]
    by_cases h : o = w.domain.nextObject
    · -- no collection has come to an object with a number that high
      exact hw.unborn o (by rw [h, hn]; omega)
    · exact hw.unvisited o (by simpa [World.onDomain, hget, h] using ho)

end Fresh

/-- An object that has been removed is not missed. -/
theorem remove (o : ObjectId) {events : List Event} (he : ∀ e ∈ events, e.isAllocation = false)
    (hv : ∀ p, ∀ e ∈ events, e.isVisit p = false) :
    (w.onDomain (w.domain.remove o) events).Census := by
  have hcount : (w.onDomain (w.domain.remove o) events).allocations = w.allocations :=
    World.allocations_append rfl he
  have hvisits : ∀ p, (w.onDomain (w.domain.remove o) events).visits p = w.visits p :=
    fun p => World.visits_append rfl (hv p)
  have hget : ∀ p, (w.domain.remove o).heap.get? p =
      if p = o then none else w.domain.heap.get? p := fun p => Table.get?_erase _ _ _
  exact {
    numbered := hw.numbered.trans hcount.symm
    heap := fun p hp => by
      rw [hcount]
      refine hw.heap p (fun hn => hp ?_)
      show (w.domain.remove o).heap.get? p = none
      rw [hget, hn, ite_self]
    held := fun p hp => hcount ▸ hw.held p hp
    allocating := fun p hp => hcount ▸ hw.allocating p hp
    distinct := hw.distinct
    frames := hw.frames
    order := hw.order
    visits := fun p => hvisits p ▸ hw.visits p
    unborn := fun p hp => by
      rw [hvisits]
      exact hw.unborn p (hcount ▸ hp)
    unvisited := fun p hp => by
      rw [hvisits]
      refine hw.unvisited p ?_
      have hp' : ((w.domain.remove o).heap.get? p).map HeapObject.finalizing = some false := hp
      rw [hget] at hp'
      split at hp'
      · cases hp'
      · exact hp' }

/-- A collection that takes the garbage changes no number and visits nothing. -/
theorem takeGarbage : (w.onDomain w.domain.takeGarbage.2).Census := by
  have hget := w.domain.get?_takeGarbage
  exact { hw with
    heap := fun o ho => hw.heap o (fun hn => ho (by rw [World.onDomain, hget, hn, Option.map_none]))
    unvisited := fun o ho => by
      refine hw.unvisited o ?_
      rw [World.onDomain, hget, Option.map_map] at ho
      obtain ⟨x, hx, hfin⟩ := Option.map_eq_some_iff.1 ho
      rw [hx, Option.map_some]
      by_cases hg : Domain.isGarbage x = true
      · simp [hg] at hfin
      · simpa [hg] using hfin }

/-- **A collection comes to what it has taken**, for the first time. -/
theorem visit {o : ObjectId} (hv : w.visits o = 0)
    (hp : (w.domain.heap.get? o).map HeapObject.finalizing = some true) :
    (w.record (.visited o)).Census := by
  have hvisits : ∀ p, (w.record (.visited o)).visits p = w.visits p + if p = o then 1 else 0 := by
    intro p
    refine List.countP_cons.trans ?_
    simp [Event.isVisit, eq_comm, World.visits]
  have hcount : (w.record (.visited o)).allocations = w.allocations :=
    List.countP_cons_of_neg (by simp [Event.isAllocation])
  have ho : o.number.toNat ≤ w.allocations := hw.heap o (fun hn => by simp [hn] at hp)
  refine {
    numbered := hw.numbered.trans hcount.symm
    heap := hcount ▸ hw.heap
    held := hcount ▸ hw.held
    allocating := hcount ▸ hw.allocating
    distinct := hw.distinct
    frames := hw.frames
    order := hw.order
    visits := fun p => ?_
    unborn := fun p hp => ?_
    unvisited := fun p hp' => ?_ }
  · rw [hvisits]
    split
    · next h => rw [h, hv]
    · exact hw.visits p
  · rw [hcount] at hp
    rw [hvisits, hw.unborn p hp, if_neg (fun h => by rw [h] at hp; omega)]
  · have hp'' : (w.domain.heap.get? p).map HeapObject.finalizing = some false := hp'
    have hne : p ≠ o := fun h => by simp [h, hp] at hp''
    rw [hvisits, if_neg hne, hw.unvisited p hp'']

end Census

end World

/-! ### The books

The same five sections, for all four parts of the books at once. -/

namespace Ledger.Balanced

variable (hx : x.Balanced r me)

include hx

/-- **An allocation keeps the books**, with the next frame for the birth of the object. -/
theorem allocate (c : Class) (hb : x.world.allocations + 1 < 2 ^ 64)
    (htame : r = .tame → x.world.Tame) :
    (Ledger.mk
      (x.world.onDomain (x.world.domain.allocate c).2 [.allocated x.world.domain.nextObject])
      (Function.update x.births x.world.domain.nextObject
        x.world.domain.nextFrame)).Balanced r me where
  hosted := hx.hosted.onDomain _ _
  census := hx.census.allocate hb c
  depth := hx.depth
  -- the frames that are open were opened before the object was born
  secured := hx.secured.allocate c (hx.census.ownersSince_nextObject hb
    (fun t ht hi => absurd (hx.census.frames t ht) (Nat.not_lt.2 hi)))
  exact := fun hr => (hx.exact hr).allocate c (by
    rw [← Domain.ownersSince_zero]
    refine hx.census.ownersSince_nextObject hb (fun t ht _ => ?_)
    obtain ⟨hrec, hloc⟩ := (htame hr).2 t ht
    rw [Frame.claims, if_neg hrec, List.count_eq_zero.2 hloc])

/-- The object of a construction that failed is removed. -/
theorem unallocate (o : ObjectId) :
    (Ledger.mk (x.world.onDomain ((x.world.domain.remove o).abandonAllocation o))
      x.births).Balanced r me where
  hosted := hx.hosted.onDomain _ _
  census := by
    have hremove : World.Census (x.world.onDomain (x.world.domain.remove o) []) :=
      hx.census.remove o (by simp) (by simp)
    have hcar : (x.world.onDomain (x.world.domain.remove o)).Carries me
        (x.world.onDomain ((x.world.domain.remove o).abandonAllocation o)) :=
      World.carries_of_continues (Domain.continues_strikeAllocation _ o)
    exact hremove.carry hcar
  depth := hx.depth
  secured :=
    have hstruck : (x.world.domain.abandonAllocation o).Secured x.births :=
      hx.secured.dwindle rfl rfl rfl List.erase_sublist (.refl _)
    hstruck.remove hx.census.distinct.not_mem_erase
  exact := fun hr => ((hx.exact hr).remove o).strikeAllocation
    (by rw [Domain.remove, Table.get?_erase, if_pos rfl])

/-- **A collection that begins keeps the books**: it takes nothing that is under construction.
-/
theorem takeGarbage :
    (Ledger.mk (x.world.onDomain x.world.domain.takeGarbage.2) x.births).Balanced r me where
  hosted := hx.hosted.onDomain _ _
  census := hx.census.takeGarbage
  depth := hx.depth
  secured := hx.secured.takeGarbage
  exact := fun hr => (hx.exact hr).takeGarbage

/-- A visit of what was taken keeps the books. -/
theorem visit {o : ObjectId} (hv : x.world.visits o = 0)
    (hp : (x.world.domain.heap.get? o).map HeapObject.finalizing = some true) :
    (Ledger.mk (x.world.record (.visited o)) x.births).Balanced r me where
  hosted := ⟨hx.hosted.registry, hx.hosted.hooks, hx.hosted.kept⟩
  census := hx.census.visit hv hp
  depth := hx.depth
  secured := hx.secured
  exact := hx.exact

/-- What a collection frees is not under construction. -/
theorem free (ho : o ∉ x.world.domain.allocating) :
    (Ledger.mk (x.world.onDomain (x.world.domain.remove o) [.freed o]) x.births).Balanced r me where
  hosted := hx.hosted.onDomain _ _
  census := hx.census.remove o (by simp [Event.isAllocation]) (by simp [Event.isVisit])
  depth := hx.depth
  secured := hx.secured.remove ho
  exact := fun hr => (hx.exact hr).remove o

end Ledger.Balanced

end HostBridge
