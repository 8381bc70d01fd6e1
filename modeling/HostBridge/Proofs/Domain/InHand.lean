import HostBridge.Proofs.Domain.Ledger

/-!
# What a thread has in hand

An object comes off the heap in two ways: its construction fails, or a collection frees it that
has taken it. So a thread knows what it has **in hand** (`Errand`), the objects that it is
constructing and those that its collections have taken, and it takes nothing else off the heap.
`World.InHand` says what holds of these objects on a host that runs on one thread, whatever
panics there and whatever code names what it should not know, and this module shows how the
sections on a domain keep it.

What was taken and is not in hand any more is **stranded**. It stays where it is for good.

The errand is the stake of the thread. It goes into a call with what it has in hand and comes
back with the same, except that a panic may come out of a collection halfway; then the rest of
what was taken is forgotten, and the mark that keeps other collections away stays on it. This
is the one invariant of the domain that survives panics without a loss, because it says nothing
of roots.
-/

namespace HostBridge

variable {S : ObjectId → Prop} {x : Errand} {w w' : World} {o p : ObjectId}

/-- **Objects are numbered** in the order in which they were put on the heap, and a collection
visits all that it takes. -/
structure World.Numbered (w : World) : Prop where
  last : w.domain.lastObject.toNat = w.allocations
  heap : ∀ o, w.domain.heap.get? o ≠ none → o.number.toNat ≤ w.allocations
  order : ∀ n l, (w.domain.sweepOrder n l).Perm l

namespace World.Numbered

variable (hw : w.Numbered) (hb : w.allocations + 1 < 2 ^ 64)

include hw hb

/-- The number of the next object was not used before. -/
theorem toNat_nextObject : w.domain.nextObject.number.toNat = w.allocations + 1 := by
  unfold Domain.nextObject
  rw [UInt64.toNat_add, hw.last]
  exact Nat.mod_eq_of_lt hb

/-- The next object is not on the heap yet. -/
theorem get?_nextObject : w.domain.heap.get? w.domain.nextObject = none := by
  by_contra hne
  have := hw.heap _ hne
  rw [hw.toNat_nextObject hb] at this
  omega

end World.Numbered

/-- Whether a collection has taken an object that is on the heap. -/
def Domain.mark (d : Domain) (o : ObjectId) : Option Bool :=
  (d.heap.get? o).map HeapObject.finalizing

/-- What has no mark is not on the heap. -/
theorem Domain.mark_eq_none {d : Domain} : d.mark o = none ↔ d.heap.get? o = none :=
  Option.map_eq_none_iff

/-! ## What is in hand

Three kinds of change cover all sections: nothing comes or goes, one object goes, or one comes.
All that they are looked at for is the mark of each object. -/

/-- **What a thread has in hand**: the objects that it is constructing, and those that its
collections have taken. -/
structure Errand where
  /-- Under construction, the one begun last in front. -/
  building : List ObjectId := []
  /-- Taken by a collection. -/
  taken : List ObjectId := []

/-- **What may come off the heap is in hand**: a construction of it is running, or a collection
has taken it. What is stranded was taken, and is not in hand. -/
structure World.InHand (S : ObjectId → Prop) (w : World) (x : Errand) : Prop where
  numbered : w.Numbered
  known : ∀ o ∈ x.building ++ x.taken, o.number.toNat ≤ w.allocations
  building : ∀ o ∈ x.building, o ∈ w.domain.allocating
  once : x.building.Nodup
  taken : ∀ o ∈ x.taken, w.domain.mark o ≠ some false
  stranded : ∀ o, S o → w.domain.mark o = some true ∧ o ∉ x.building ∧ o ∉ x.taken

/-- **A change of a domain in which no object comes or goes**, and none is taken by a
collection. -/
structure Domain.Stays (d d' : Domain) : Prop where
  lastObject : d'.lastObject = d.lastObject
  sweepOrder : d'.sweepOrder = d.sweepOrder
  mark : ∀ o, d'.mark o = d.mark o

/-- **A steady change**: no construction begins or ends, either. -/
structure Domain.Steady (d d' : Domain) : Prop extends d.Stays d' where
  allocating : d'.allocating = d.allocating

namespace Domain

variable (d : Domain)

/-- A root more is no mark. -/
theorem mark_root (p o : ObjectId) : (d.root p).mark o = d.mark o := by
  unfold mark root
  rw [Table.get?_modify]
  split
  · rw [Option.map_map]
    rfl
  · rfl

theorem mark_unroot (p o : ObjectId) : (d.unroot p).mark o = d.mark o := by
  unfold mark unroot
  rw [Table.get?_modify]
  split
  · rw [Option.map_map]
    rfl
  · rfl

/-- **What is removed is marked no more**, and the other marks stay. -/
theorem mark_remove (p o : ObjectId) : (d.remove p).mark o = if o = p then none else d.mark o := by
  unfold mark remove
  rw [Table.get?_erase]
  split <;> rfl

/-- A frame that is opened changes roots only. -/
theorem steady_openFrame (name : String) (receiver : Option ObjectId) :
    d.Steady (d.openFrame name receiver).2 := by
  cases receiver with
  | none => exact ⟨⟨rfl, rfl, fun _ => rfl⟩, rfl⟩
  | some p => exact ⟨⟨rfl, rfl, d.mark_root p⟩, rfl⟩

theorem steady_keep (f : FrameId) (v : ManagedValue) : d.Steady (d.keep f v) := by
  unfold keep
  split
  · next p _ => exact ⟨⟨rfl, rfl, d.mark_root p⟩, rfl⟩
  · exact ⟨⟨rfl, rfl, fun _ => rfl⟩, rfl⟩

theorem steady_releaseLocal (f : FrameId) : d.Steady (d.releaseLocal f) := by
  unfold releaseLocal
  split
  · next p _ _ => exact ⟨⟨rfl, rfl, d.mark_unroot p⟩, rfl⟩
  · exact ⟨⟨rfl, rfl, fun _ => rfl⟩, rfl⟩

theorem steady_closeFrame (f : FrameId) : d.Steady (d.closeFrame f) := by
  unfold closeFrame
  split
  · next p _ => exact ⟨⟨rfl, rfl, d.mark_unroot p⟩, rfl⟩
  · exact ⟨⟨rfl, rfl, fun _ => rfl⟩, rfl⟩

/-- **A frame that is abandoned** changes no mark. -/
theorem steady_abandonFrame (f : FrameId) : d.Steady (d.abandonFrame f) :=
  ⟨⟨rfl, rfl, fun _ => rfl⟩, rfl⟩

theorem steady_release (p : ObjectId) : d.Steady (d.release p).2 := by
  unfold release
  split
  · exact ⟨⟨rfl, rfl, d.mark_unroot p⟩, rfl⟩
  · exact ⟨⟨rfl, rfl, fun _ => rfl⟩, rfl⟩

end Domain

/-- **A change of a domain in which no object comes**, none is taken by a collection, and none
goes but one at most. -/
structure Domain.Loses (p : ObjectId) (d d' : Domain) : Prop where
  lastObject : d'.lastObject = d.lastObject
  sweepOrder : d'.sweepOrder = d.sweepOrder
  mark : ∀ o, d'.mark o = d.mark o ∨ o = p ∧ d'.mark o = none

/-- Where nothing goes, one object at most does. -/
theorem Domain.Stays.loses {d d' : Domain} (h : d.Stays d') (p : ObjectId) : d.Loses p d' :=
  ⟨h.lastObject, h.sweepOrder, fun o => .inl (h.mark o)⟩

/-- What was not there unmarked is not there unmarked after an object has gone. -/
theorem Domain.Loses.mark_ne {d d' : Domain} (h : d.Loses p d') (ho : d.mark o ≠ some false) :
    d'.mark o ≠ some false := by
  obtain he | ⟨-, he⟩ := h.mark o
  · rwa [he]
  · rw [he]
    simp

/-- Removing an object loses that one. -/
theorem Domain.loses_remove (d : Domain) (p : ObjectId) : d.Loses p (d.remove p) := by
  refine ⟨rfl, rfl, fun o => ?_⟩
  rw [mark_remove]
  by_cases ho : o = p
  · exact .inr ⟨ho, if_pos ho⟩
  · exact .inl (if_neg ho)

/-- The numbers stay right where an object goes. -/
theorem World.Numbered.loses (hw : w.Numbered) (hd : w.domain.Loses p w'.domain)
    (hcount : w'.allocations = w.allocations) : w'.Numbered where
  last := by rw [hd.lastObject, hcount, hw.last]
  heap := fun o ho => by
    rw [hcount]
    refine hw.heap o (fun hn => ho (Domain.mark_eq_none.1 ?_))
    obtain he | ⟨-, he⟩ := hd.mark o
    · rw [he, Domain.mark_eq_none.2 hn]
    · exact he
  order := by
    rw [hd.sweepOrder]
    exact hw.order

namespace World.InHand

variable (h : w.InHand S x)

include h

/-- **What is in hand stays in hand** where nothing comes or goes. -/
theorem steady (hd : w.domain.Steady w'.domain) (hcount : w'.allocations = w.allocations) :
    w'.InHand S x where
  numbered := h.numbered.loses (hd.loses ⟨0⟩) hcount
  known := fun o ho => hcount ▸ h.known o ho
  building := fun o ho => hd.allocating ▸ h.building o ho
  once := h.once
  taken := fun o ho => hd.mark o ▸ h.taken o ho
  stranded := fun o ho => hd.mark o ▸ h.stranded o ho

/-- A thread may forget what it has in hand. Constructions that it forgets need not be running. -/
theorem forget (hd : w.domain.Stays w'.domain) (hcount : w'.allocations = w.allocations) :
    w'.InHand S {} where
  numbered := h.numbered.loses (hd.loses ⟨0⟩) hcount
  known := by simp
  building := by simp
  once := List.nodup_nil
  taken := by simp
  stranded := fun o ho =>
    ⟨(hd.mark o).trans (h.stranded o ho).1, List.not_mem_nil, List.not_mem_nil⟩

/-! ### Constructions

They nest: a constructor may make objects, and what was begun last ends first. -/

/-- **A new object is in hand.** Nobody knows it yet. -/
theorem allocate (hb : w.allocations + 1 < 2 ^ 64) (c : Class) :
    (w.onDomain (w.domain.allocate c).2 [.allocated w.domain.nextObject]).InHand S
      { x with building := w.domain.nextObject :: x.building } := by
  have hnum := h.numbered.toNat_nextObject hb
  have hcount : (w.onDomain (w.domain.allocate c).2
      [.allocated w.domain.nextObject]).allocations = w.allocations + 1 :=
    List.countP_cons_of_pos rfl
  have hget := w.domain.get?_allocate c
  have hfresh : ∀ q, q.number.toNat ≤ w.allocations → q ≠ w.domain.nextObject := by
    rintro q hq rfl
    omega
  have hmark : ∀ q, q.number.toNat ≤ w.allocations →
      (w.domain.allocate c).2.mark q = w.domain.mark q := by
    intro q hq
    unfold Domain.mark
    rw [hget, if_neg (hfresh q hq)]
  exact {
    numbered := {
      last := hnum.trans hcount.symm
      heap := fun q hq => by
        rw [hcount]
        by_cases hne : q = w.domain.nextObject
        · exact Nat.le_of_eq (hne ▸ hnum)
        · have hq' : (w.domain.allocate c).2.heap.get? q ≠ none := hq
          rw [hget, if_neg hne] at hq'
          exact Nat.le_succ_of_le (h.numbered.heap q hq')
      order := h.numbered.order }
    known := fun q hq => by
      rw [hcount]
      obtain rfl | hq := List.mem_cons.1 hq
      · exact Nat.le_of_eq hnum
      · exact Nat.le_succ_of_le (h.known q hq)
    building := fun q hq => List.mem_cons.2 ((List.mem_cons.1 hq).imp id (h.building q))
    once := List.nodup_cons.2
      ⟨fun hm => hfresh _ (h.known _ (List.mem_append_left _ hm)) rfl, h.once⟩
    taken := fun q hq => by
      show (w.domain.allocate c).2.mark q ≠ some false
      rw [hmark q (h.known q (List.mem_append_right _ hq))]
      exact h.taken q hq
    stranded := fun q hq => by
      obtain ⟨hm, hb, ht⟩ := h.stranded q hq
      have hknown : q.number.toNat ≤ w.allocations := by
        refine h.numbered.heap q (fun hn => ?_)
        rw [Domain.mark_eq_none.2 hn] at hm
        cases hm
      refine ⟨(hmark q hknown).trans hm, fun hmem => ?_, ht⟩
      obtain rfl | hmem := List.mem_cons.1 hmem
      · exact hfresh _ hknown rfl
      · exact hb hmem }

/-- What is stranded is not what one object in hand is lost for. -/
theorem stranded_of_loses (hd : w.domain.Loses p w'.domain) (hp : p ∈ x.building ∨ p ∈ x.taken)
    (ho : S o) : w'.domain.mark o = some true := by
  obtain ⟨hm, hhand⟩ := h.stranded o ho
  obtain he | ⟨rfl, -⟩ := hd.mark o
  · exact he.trans hm
  · exact absurd hp (not_or.2 hhand)

/-- **A construction that is over** has its object out of hand: it is where it was, or gone. -/
theorem conclude {rest : List ObjectId} (hx : x.building = p :: rest)
    (hd : w.domain.Loses p w'.domain)
    (ha : w'.domain.allocating = w.domain.allocating.erase p)
    (hcount : w'.allocations = w.allocations) : w'.InHand S { x with building := rest } := by
  have hp : p ∈ x.building := hx ▸ List.mem_cons_self ..
  have honce := List.nodup_cons.1 (hx ▸ h.once)
  have hsub : ∀ q ∈ rest, q ∈ x.building := fun q hq => hx ▸ List.mem_cons_of_mem _ hq
  exact {
    numbered := h.numbered.loses hd hcount
    known := fun q hq => by
      rw [hcount]
      exact h.known q ((List.mem_append.1 hq).elim
        (fun hq => List.mem_append_left _ (hsub q hq)) (List.mem_append_right _))
    building := fun q hq => by
      rw [ha]
      exact (List.mem_erase_of_ne (ne_of_mem_of_not_mem hq honce.1)).2
        (h.building q (hsub q hq))
    once := honce.2
    taken := fun q hq => hd.mark_ne (h.taken q hq)
    stranded := fun q hq =>
      have hhand := (h.stranded q hq).2
      ⟨h.stranded_of_loses hd (.inl hp) hq, fun hm => hhand.1 (hsub q hm), hhand.2⟩ }

/-! ### Collections

They nest as well, through finalizers. An object that an outer collection has taken is marked,
and so an inner one does not take it again. -/

/-- **What a collection takes is in hand**, and was not before. -/
theorem takeGarbage : (w.onDomain w.domain.takeGarbage.2).InHand S
    { x with taken := w.domain.takeGarbage.1.map Prod.fst ++ x.taken } := by
  have hmark : ∀ q, w.domain.takeGarbage.2.mark q = w.domain.mark q ∨
      w.domain.takeGarbage.2.mark q = some true := by
    intro q
    unfold Domain.mark
    rw [Domain.get?_takeGarbage]
    cases w.domain.heap.get? q with
    | none => exact .inl rfl
    | some x =>
      rw [Option.map_some]
      split
      · exact .inr rfl
      · exact .inl rfl
  have hmem : ∀ q ∈ w.domain.takeGarbage.1.map Prod.fst, w.domain.mark q = some false ∧
      w.domain.takeGarbage.2.mark q = some true :=
    fun q hq => (Domain.mem_fst_takeGarbage h.numbered.order).1 hq
  exact {
    numbered := {
      last := h.numbered.last
      heap := fun q hq => by
        refine h.numbered.heap q (fun hn => hq ?_)
        show w.domain.takeGarbage.2.heap.get? q = none
        rw [Domain.get?_takeGarbage, hn]
        rfl
      order := h.numbered.order }
    known := fun q hq => by
      obtain hq | hq := List.mem_append.1 hq
      · exact h.known q (List.mem_append_left _ hq)
      obtain hq | hq := List.mem_append.1 hq
      · refine h.numbered.heap q (fun hn => ?_)
        have := (hmem q hq).1
        rw [Domain.mark_eq_none.2 hn] at this
        cases this
      · exact h.known q (List.mem_append_right _ hq)
    building := h.building
    once := h.once
    taken := fun q hq => by
      show w.domain.takeGarbage.2.mark q ≠ some false
      obtain hq | hq := List.mem_append.1 hq
      · rw [(hmem q hq).2]
        simp
      · obtain he | he := hmark q
        · rw [he]
          exact h.taken q hq
        · rw [he]
          simp
    stranded := fun q hq => by
      obtain ⟨hm, hb, ht⟩ := h.stranded q hq
      refine ⟨?_, hb, fun hq' => ?_⟩
      · obtain he | he := hmark q
        · exact he.trans hm
        · exact he
      · obtain hq' | hq' := List.mem_append.1 hq'
        · rw [(hmem q hq').1] at hm
          cases hm
        · exact ht hq' }

/-- **What is freed was in hand.** Nobody misses it. -/
theorem remove (hp : p ∈ x.taken) (hd : w.domain.Loses p w'.domain)
    (ha : w'.domain.allocating = w.domain.allocating) (hcount : w'.allocations = w.allocations) :
    w'.InHand S x where
  numbered := h.numbered.loses hd hcount
  known := fun q hq => hcount ▸ h.known q hq
  building := fun q hq => ha ▸ h.building q hq
  once := h.once
  taken := fun q hq => hd.mark_ne (h.taken q hq)
  stranded := fun q hq => ⟨h.stranded_of_loses hd (.inr hp) hq, (h.stranded q hq).2⟩

end World.InHand

end HostBridge
