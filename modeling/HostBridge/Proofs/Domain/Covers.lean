import HostBridge.Proofs.Domain.Owners

/-!
# Roots to spare

The roots of an object **cover** its owners when there is a root for each of them
(`Domain.Covers`). What is left over are roots to spare: nobody has them to give back.

Whichever frame a section works on, and wherever that frame is among the active ones, it
takes a root from an object only together with an owner, unless the object is under
construction. So an object that a collection cannot take stays covered, with as many roots to
spare (`Domain.Lasts`). A collection cannot take it as long as it has an owner or a root to
spare (`Domain.Covers.not_mem_takeGarbage`).

A frame that is abandoned leaves its roots behind: they are to spare from then on
(`Domain.Covers.abandonFrame`).

## Between the two ways to count

Roots that are exactly as many as owners, as in a run where nothing panics, would be the
simpler notion, and it is lost with the first panic. That roots are at least as many is kept
by every section, but it says too little: it does not say that a root which somebody forgot
will never be taken by somebody else. What is kept here is the **surplus**. It can only grow,
and it grows where a frame is abandoned. An object with a surplus is on the heap for ever,
which is how one shows that something is leaked.

Unlike in the books, no frame has to be on top. Code that panicked may have left frames that
nobody closes, and a later frame of the same thread is then not where the program would have
it. So the lemmas say what a frame claims wherever it is in the list, and what happens if it
is not there at all.
-/

namespace HostBridge

namespace Frame

variable {f : FrameId} {t : Frame} {frames : List Frame}

/-! ## Claims of frames

What the active frames own is a sum over them. A change of one frame changes its own
summand, and the equations below say by how much, without subtracting. -/

/-- Locals that a frame is given, and those that it had, make up the difference. -/
theorem sum_claims_updateLocals (h : frames.find? (fun x => x.id = f) = some t)
    (g : List ObjectId → List ObjectId) (o : ObjectId) :
    ((updateLocals f g frames).map (·.claims o)).sum + t.locals.count o =
      (frames.map (·.claims o)).sum + (g t.locals).count o := by
  induction frames with
  | nil => cases h
  | cons s rest ih =>
    unfold updateLocals
    by_cases hs : s.id = f
    · rw [List.find?_cons_of_pos (by simpa using hs)] at h
      obtain rfl := Option.some.inj h
      rw [if_pos hs]
      simp only [List.map_cons, List.sum_cons, claims]
      omega
    · rw [List.find?_cons_of_neg (by simpa using hs)] at h
      have := ih h
      rw [if_neg hs]
      simp only [List.map_cons, List.sum_cons]
      omega

/-- A frame that is not active is given no locals. -/
theorem updateLocals_of_find?_eq_none (h : frames.find? (fun x => x.id = f) = none)
    (g : List ObjectId → List ObjectId) : updateLocals f g frames = frames := by
  induction frames with
  | nil => rfl
  | cons s rest ih =>
    obtain ⟨hs, hrest⟩ := List.forall_mem_cons.1 (List.find?_eq_none.1 h)
    unfold updateLocals
    rw [if_neg (by simpa using hs), ih (List.find?_eq_none.2 hrest)]

/-- A frame that is struck owns nothing any more. -/
theorem sum_claims_erase (h : frames.find? (fun x => x.id = f) = some t) (o : ObjectId) :
    ((erase f frames).map (·.claims o)).sum + t.claims o = (frames.map (·.claims o)).sum := by
  unfold erase
  induction frames with
  | nil => cases h
  | cons s rest ih =>
    by_cases hs : s.id = f
    · rw [List.find?_cons_of_pos (by simpa using hs)] at h
      obtain rfl := Option.some.inj h
      rw [List.eraseP_cons_of_pos (by simpa using hs), List.map_cons, List.sum_cons, Nat.add_comm]
    · rw [List.find?_cons_of_neg (by simpa using hs)] at h
      have := ih h
      rw [List.eraseP_cons_of_neg (by simpa using hs)]
      simp only [List.map_cons, List.sum_cons]
      omega

/-- A frame that is not active is not struck. -/
theorem erase_of_find?_eq_none (h : frames.find? (fun x => x.id = f) = none) :
    erase f frames = frames :=
  List.eraseP_of_forall_not (List.find?_eq_none.1 h)

end Frame

namespace Domain

variable {d d' : Domain} {o p : ObjectId} {f : FrameId} {t : Frame} {n : Nat}

/-- **The owners of an object**, when the locals of one frame are others. -/
theorem owners_updateLocals (h : d.frame? f = some t) (g : List ObjectId → List ObjectId)
    (o : ObjectId) :
    (d.updateLocals f g).owners o + t.locals.count o = d.owners o + (g t.locals).count o := by
  have := Frame.sum_claims_updateLocals h g o
  simp only [owners, updateLocals]
  omega

theorem updateLocals_of_frame?_eq_none (h : d.frame? f = none)
    (g : List ObjectId → List ObjectId) : d.updateLocals f g = d := by
  unfold updateLocals
  rw [Frame.updateLocals_of_find?_eq_none h]

/-- A frame that is abandoned owns nothing any more. -/
theorem owners_abandonFrame (h : d.frame? f = some t) (o : ObjectId) :
    (d.abandonFrame f).owners o + t.claims o = d.owners o := by
  have := Frame.sum_claims_erase h o
  simp only [owners, abandonFrame]
  omega

/-- To abandon a frame that is not active changes nothing. -/
theorem abandonFrame_of_frame?_eq_none (h : d.frame? f = none) : d.abandonFrame f = d := by
  unfold abandonFrame
  rw [Frame.erase_of_find?_eq_none h]

/-- **Nobody becomes an owner** by a frame being abandoned. -/
theorem owners_abandonFrame_le (d : Domain) (f : FrameId) (o : ObjectId) :
    (d.abandonFrame f).owners o ≤ d.owners o := by
  cases h : d.frame? f with
  | none => rw [abandonFrame_of_frame?_eq_none h]
  | some t => exact Nat.le.intro (owners_abandonFrame h o)

/-- A construction that ends without its object is an owner of no other. -/
theorem owners_abandonAllocation (hop : o ≠ p) (d : Domain) :
    (d.abandonAllocation p).owners o = d.owners o := by
  simp only [owners, abandonAllocation]
  rw [List.count_erase_of_ne hop]

/-! ## Roots that cover the owners

An object under construction is left out. Its owners are not settled, and a section that ends
the construction takes the root of the allocation away for good reason. -/

/-- **The roots of an object cover its owners**, with so many to spare. The object is on the
heap, no collection has taken it, and its construction is not running. -/
def Covers (d : Domain) (o : ObjectId) (n : Nat) : Prop :=
  o ∉ d.allocating ∧
    ∃ x, d.heap.get? o = some x ∧ x.finalizing = false ∧ d.owners o + n ≤ x.roots

namespace Covers

theorem not_mem_allocating (h : d.Covers o n) : o ∉ d.allocating := h.1

/-- What is covered is on the heap. -/
theorem get?_ne_none (h : d.Covers o n) : d.heap.get? o ≠ none := by
  obtain ⟨-, x, hx, -⟩ := h
  rw [hx]
  simp

/-- **No collection takes an object that is covered** and has an owner, or a root to spare. -/
theorem not_mem_takeGarbage (h : d.Covers o n) (hn : 0 < d.owners o + n)
    (ho : ∀ n l, (d.sweepOrder n l).Perm l) : o ∉ d.takeGarbage.1.map Prod.fst := by
  obtain ⟨-, x, hx, -, hroots⟩ := h
  intro hm
  obtain ⟨⟨p, c⟩, he, rfl⟩ := List.mem_map.1 hm
  obtain ⟨y, hy, hr, -⟩ := (mem_takeGarbage ho).1 he
  obtain rfl := Option.some.inj (hx.symm.trans hy)
  omega

/-! ### Ways to stay covered

Three ways for a section that works on roots, as for the exact count: no root is touched, one
is added, or one is taken together with an owner. Each is an inequality here. -/

/-- No root is touched, and nobody has become an owner. -/
theorem of_heap (h : d.Covers o n) (hh : d'.heap.get? o = d.heap.get? o)
    (ha : o ∉ d'.allocating) (ho : d'.owners o ≤ d.owners o) : d'.Covers o n := by
  obtain ⟨-, x, hx, hf, hr⟩ := h
  exact ⟨ha, x, hh.trans hx, hf, by omega⟩

/-- Some object has got a root, and an owner with it at most. -/
theorem root (h : d.Covers o n) (hh : d'.heap = (d.root p).heap)
    (ha : d'.allocating = d.allocating)
    (ho : d'.owners o ≤ d.owners o + if o = p then 1 else 0) : d'.Covers o n := by
  obtain ⟨hn, x, hx, hf, hr⟩ := h
  refine ⟨ha ▸ hn, ?_⟩
  rw [hh, Domain.root, Table.get?_modify, hx]
  by_cases hop : o = p
  · rw [if_pos hop] at ho ⊢
    exact ⟨_, rfl, hf, by dsimp only; omega⟩
  · rw [if_neg hop] at ho ⊢
    exact ⟨x, rfl, hf, by omega⟩

/-- Some object has lost a root, and an owner with it at least. -/
theorem unroot (h : d.Covers o n) (hh : d'.heap = (d.unroot p).heap) (ha : o ∉ d'.allocating)
    (ho : d'.owners o + (if o = p then 1 else 0) ≤ d.owners o) : d'.Covers o n := by
  obtain ⟨-, x, hx, hf, hr⟩ := h
  refine ⟨ha, ?_⟩
  rw [hh, Domain.unroot, Table.get?_modify, hx]
  by_cases hop : o = p
  · rw [if_pos hop] at ho ⊢
    exact ⟨_, rfl, hf, by dsimp only; omega⟩
  · rw [if_neg hop] at ho ⊢
    exact ⟨x, rfl, hf, by omega⟩

/-- **A frame that is abandoned leaves its roots behind**, to spare. -/
theorem abandonFrame (h : d.Covers o n) (hf : d.frame? f = some t) :
    (d.abandonFrame f).Covers o (n + t.claims o) := by
  obtain ⟨hn, x, hx, hfin, hr⟩ := h
  have := owners_abandonFrame hf o
  exact ⟨hn, x, hx, hfin, by omega⟩

end Covers

/-! ## What sections leave covered

The condition that there is an owner or a root to spare is what a collection asks about, and
so it stands in the definition: an object that has neither may be taken. -/

/-- **What has an owner or a root to spare stays covered.** -/
def Lasts (d d' : Domain) : Prop := ∀ o n, 0 < d.owners o + n → d.Covers o n → d'.Covers o n

theorem Lasts.refl (d : Domain) : d.Lasts d := fun _ _ _ h => h

/-- A section that touches neither heap nor owners. -/
theorem lasts_of_eq (hh : d'.heap = d.heap) (ha : d'.allocating = d.allocating)
    (hheld : d'.held = d.held) (hf : d'.frames = d.frames) : d.Lasts d' := by
  intro o n _ h
  refine h.of_heap (by rw [hh]) (ha ▸ h.not_mem_allocating) (Nat.le_of_eq ?_)
  unfold owners
  rw [ha, hheld, hf]

/-- **A frame that is opened** roots its receiver, and owns that root. -/
theorem lasts_openFrame (d : Domain) (name : String) (receiver : Option ObjectId) :
    d.Lasts (d.openFrame name receiver).2 := by
  intro o n _ h
  cases receiver with
  | none =>
    refine h.of_heap rfl h.not_mem_allocating ?_
    simp [owners, openFrame, Frame.claims]
  | some p =>
    refine h.root (p := p) rfl rfl ?_
    simp only [owners, openFrame, Domain.root, List.map_cons, List.sum_cons, Frame.claims,
      Option.some.injEq, List.count_nil, eq_comm (a := o)]
    omega

/-- A frame that keeps a result roots it, and owns that root. -/
theorem lasts_keep (d : Domain) (f : FrameId) (v : ManagedValue) : d.Lasts (d.keep f v) := by
  intro o n _ h
  unfold keep
  split
  · next p _ =>
    refine h.root (p := p) rfl rfl ?_
    cases hf : (d.root p).frame? f with
    | none =>
      rw [updateLocals_of_frame?_eq_none hf]
      exact Nat.le_add_right ..
    | some t =>
      have := owners_updateLocals hf (· ++ [p]) o
      have hc := count_cons_add [] p o
      rw [List.count_append] at this
      rw [List.count_nil] at hc
      have hroot : (d.root p).owners o = d.owners o := rfl
      omega
  · exact h

/-- A local that is given up takes its root along. -/
theorem lasts_releaseLocal (d : Domain) (f : FrameId) : d.Lasts (d.releaseLocal f) := by
  intro o n _ h
  unfold releaseLocal
  split
  · next p rest hl =>
    refine h.unroot (p := p) rfl h.not_mem_allocating ?_
    -- a frame with locals is there
    cases hf : d.frame? f with
    | none =>
      rw [locals, hf] at hl
      cases hl
    | some t =>
      rw [locals, hf] at hl
      have hlocals : t.locals = p :: rest := hl
      have := owners_updateLocals (d := d.unroot p) hf (fun _ => rest) o
      have hc := count_cons_add rest p o
      have hunroot : (d.unroot p).owners o = d.owners o := rfl
      rw [hlocals] at this
      omega
  · exact h

/-- **A frame that is abandoned** takes no root along. -/
theorem lasts_abandonFrame (d : Domain) (f : FrameId) : d.Lasts (d.abandonFrame f) :=
  fun o _ _ h => h.of_heap rfl h.not_mem_allocating (d.owners_abandonFrame_le f o)

/-- A frame that is closed gives the root of its receiver back. -/
theorem lasts_closeFrame (d : Domain) (f : FrameId) : d.Lasts (d.closeFrame f) := by
  intro o n hn h
  unfold closeFrame
  split
  · next p hp =>
    refine h.unroot (p := p) rfl h.not_mem_allocating ?_
    obtain ⟨t, ht, hrec⟩ := Option.bind_eq_some_iff.1 hp
    have := owners_abandonFrame ht o
    have hclaims : (if o = p then 1 else 0) ≤ t.claims o := by
      unfold Frame.claims
      rw [hrec]
      simp only [Option.some.injEq, eq_comm (a := o)]
      omega
    show (d.abandonFrame f).owners o + _ ≤ _
    omega
  · exact d.lasts_abandonFrame f o n hn h

/-- A holder that lets go gives its root back. -/
theorem lasts_release (d : Domain) (p : ObjectId) : d.Lasts (d.release p).2 := by
  intro o n _ h
  unfold release
  split
  · next hp =>
    refine h.unroot (p := p) rfl h.not_mem_allocating ?_
    have := count_erase_add d.held (List.contains_iff_mem.1 hp) o
    simp only [owners, letGo, Domain.unroot]
    omega
  · exact h

/-! ### Objects under construction

They are not covered, so that their sections need to be looked at for the other objects only. -/

/-- **A construction that is over** concerns its object alone. -/
theorem lasts_of_mem_allocating (hp : p ∈ d.allocating)
    (hh : ∀ o, o ≠ p → d'.heap.get? o = d.heap.get? o)
    (ha : d'.allocating = d.allocating.erase p)
    (ho : ∀ o, o ≠ p → d'.owners o ≤ d.owners o) : d.Lasts d' := by
  intro o n _ h
  have hop : o ≠ p := by
    rintro rfl
    exact h.not_mem_allocating hp
  refine h.of_heap (hh o hop) (fun hm => h.not_mem_allocating ?_) (ho o hop)
  exact List.mem_of_mem_erase (ha ▸ hm)

/-- The root of a finished construction goes to native code. -/
theorem lasts_hold (hp : p ∈ d.allocating) : d.Lasts (d.hold p) := by
  refine lasts_of_mem_allocating hp (fun _ _ => rfl) rfl (fun o hop => ?_)
  simp only [owners, hold]
  rw [List.count_erase_of_ne hop, List.count_cons_of_ne hop.symm]

/-- The root of a finished construction goes to the frame that asked for it. -/
theorem lasts_adopt (hp : p ∈ d.allocating) (f : FrameId) : d.Lasts (d.adopt f p) := by
  refine lasts_of_mem_allocating hp (fun _ _ => rfl) rfl (fun o hop => ?_)
  have hadopt : (d.adopt f p).owners o = (d.updateLocals f (· ++ [p])).owners o := by
    simp only [owners, adopt, updateLocals]
    rw [List.count_erase_of_ne hop]
  rw [hadopt]
  cases hf : d.frame? f with
  | none => rw [updateLocals_of_frame?_eq_none hf]
  | some t =>
    have := owners_updateLocals hf (· ++ [p]) o
    rw [List.count_append, List.count_singleton, beq_false_of_ne hop.symm] at this
    simpa using this.le

/-- A construction that ends without its object leaves the others covered. -/
theorem lasts_abandonAllocation (d : Domain) (p : ObjectId) : d.Lasts (d.abandonAllocation p) := by
  intro o n _ h
  refine h.of_heap rfl (fun hm => h.not_mem_allocating (List.mem_of_mem_erase hm)) ?_
  have : (d.allocating.erase p).count o ≤ d.allocating.count o := List.erase_sublist.count_le o
  simp only [owners, abandonAllocation]
  omega

theorem lasts_unroot_abandonAllocation (hp : p ∈ d.allocating) :
    d.Lasts ((d.unroot p).abandonAllocation p) := by
  refine lasts_of_mem_allocating hp (fun o hop => ?_) rfl
    (fun o hop => Nat.le_of_eq (owners_abandonAllocation hop (d.unroot p)))
  exact (Table.get?_modify ..).trans (if_neg hop)

/-- An object whose native construction failed leaves the others covered when it goes. -/
theorem lasts_remove_abandonAllocation (hp : p ∈ d.allocating) :
    d.Lasts ((d.remove p).abandonAllocation p) := by
  refine lasts_of_mem_allocating hp (fun o hop => ?_) rfl
    (fun o hop => Nat.le_of_eq (owners_abandonAllocation hop (d.remove p)))
  exact (Table.get?_erase ..).trans (if_neg hop)

/-- A new object has a place of its own. -/
theorem lasts_allocate (hd : d.heap.get? d.nextObject = none) (c : Class) :
    d.Lasts (d.allocate c).2 := by
  intro o n _ h
  have hop : o ≠ d.nextObject := by
    rintro rfl
    exact h.get?_ne_none hd
  refine h.of_heap ?_ (fun hm => ?_) (Nat.le_of_eq ?_)
  · rw [get?_allocate, if_neg hop]
  · exact h.not_mem_allocating ((List.mem_cons.1 hm).resolve_left hop)
  · rw [← ownersSince_zero, ownersSince_allocate, if_neg hop, ownersSince_zero, Nat.add_zero]

/-- **A collection takes nothing that is covered** and has an owner, or a root to spare. -/
theorem lasts_takeGarbage (d : Domain) : d.Lasts d.takeGarbage.2 := by
  intro o n hn h
  obtain ⟨ha, x, hx, hf, hr⟩ := h
  refine ⟨ha, x, ?_, hf, hr⟩
  have hroots : x.roots ≠ 0 := by omega
  have hg : isGarbage x = false := by simp [isGarbage, hroots]
  rw [get?_takeGarbage, hx, Option.map_some, hg]
  rfl

/-- What a collection has taken is not covered, and may be removed. -/
theorem lasts_remove (hp : (d.heap.get? p).map HeapObject.finalizing ≠ some false) :
    d.Lasts (d.remove p) := by
  intro o n _ h
  have hop : o ≠ p := by
    rintro rfl
    obtain ⟨-, x, hx, hf, -⟩ := h
    exact hp (by rw [hx, Option.map_some, hf])
  exact h.of_heap ((Table.get?_erase ..).trans (if_neg hop)) h.not_mem_allocating (Nat.le_refl _)

end Domain

end HostBridge
