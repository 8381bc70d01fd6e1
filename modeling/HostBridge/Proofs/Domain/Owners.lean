import HostBridge.Domain.Basic
import Mathlib.Algebra.GroupWithZero.Nat
import Mathlib.Algebra.Order.BigOperators.Group.List
import Mathlib.Algebra.Order.Group.Nat
import Mathlib.Data.List.Count
import Mathlib.Logic.Function.Basic

/-!
# Who owns the roots

Every root of an object on the heap should have an owner: native code that holds
the object, a construction that is running, or an active frame that has the object
for its receiver or among its locals (`Domain.owners`). A change of the domain
**balances** when it adds and drops roots together with their owners
(`Domain.Balances`), and this module shows so for each section that does either.

Nothing keeps code from naming an object before it is allocated. A frame that does
so claims a root that nobody gave it. `Domain.ownersSince` therefore counts the
frames from a number on only: frames are closed in the reverse order of their
numbers, and while an object is under construction, none is closed that was opened
before.

A root is a number in the object and nothing else. Whose it is the domain does not
record, and a root that is given back too often is a root less of somebody else.
This is why the statement about a change is one about all objects at once, and why
giving back is shown to balance only for an owner who is there: the counter stops
at zero, so an owner without a root would take none away and still be gone.
-/

namespace HostBridge

/-- **How many roots of an object a frame owns**: one as its receiver, and one for
every time it is among the locals. -/
def Frame.claims (t : Frame) (o : ObjectId) : Nat :=
  (if t.receiver = some o then 1 else 0) + t.locals.count o

namespace Domain

variable {d d' : Domain} {o p : ObjectId} {f g : FrameId} {t : Frame} {rest : List Frame}

/-- **The owners of roots of an object**: native holders, the construction that
allocated it, and active frames. -/
def owners (d : Domain) (o : ObjectId) : Nat :=
  d.held.count o + d.allocating.count o + (d.frames.map (·.claims o)).sum

/-- The owners of roots of an object, without the frames that were opened before
the one of a number. -/
def ownersSince (d : Domain) (g : FrameId) (o : ObjectId) : Nat :=
  d.held.count o + d.allocating.count o +
    ((d.frames.filter (fun t => g ≤ t.id)).map (·.claims o)).sum

/-- Counted from the first frame on, the owners are all owners. -/
theorem ownersSince_zero (d : Domain) (o : ObjectId) : d.ownersSince 0 o = d.owners o := by
  unfold ownersSince owners
  rw [List.filter_eq_self.2 (by simp)]

/-- **Every object has as many roots as owners.** -/
def Exact (d : Domain) : Prop :=
  ∀ o x, d.heap.get? o = some x → x.roots = d.owners o

/-- **Every object under construction is on the heap**, with a root for each of its owners,
those aside that named it too early, and no collection has taken it. Its birth is the number of
the frame that was opened next. -/
def Secured (d : Domain) (births : ObjectId → FrameId) : Prop :=
  ∀ o ∈ d.allocating, births o ≤ d.nextFrame ∧ ∃ x, d.heap.get? o = some x ∧
    x.finalizing = false ∧ d.ownersSince (births o) o ≤ x.roots

/-- **Roots come and go with their owners**, as far as frames from a number on are
concerned: no object enters or leaves the heap, and every object has as many roots
more or fewer than before as it has owners. -/
def Balances (d d' : Domain) (f : FrameId) : Prop :=
  ∃ count : ObjectId → Nat → Nat,
    (∀ o, d'.heap.get? o = (d.heap.get? o).map (fun x => { x with roots := count o x.roots })) ∧
    ∀ o n, ∀ g ≤ f, d.ownersSince g o ≤ n →
      count o n + d.ownersSince g o = n + d'.ownersSince g o

/-! ## Ways to balance

Each section of the domain that touches roots is of one of three kinds: nothing
changes, one object gets an owner and a root, or it loses both. -/

/-- Where neither roots nor owners change, they balance. -/
theorem balances_of_heap_eq (hh : d'.heap = d.heap)
    (ho : ∀ p, ∀ g ≤ f, d'.ownersSince g p = d.ownersSince g p) : d.Balances d' f := by
  refine ⟨fun _ n => n, fun p => ?_, fun p n g hg _ => ?_⟩
  · rw [hh]
    cases d.heap.get? p <;> rfl
  · rw [ho p g hg]

/-- A new owner gets a root. -/
theorem balances_gain (hh : d'.heap = (d.root o).heap)
    (ho : ∀ p, ∀ g ≤ f, d'.ownersSince g p = d.ownersSince g p + if p = o then 1 else 0) :
    d.Balances d' f := by
  refine ⟨fun p n => n + if p = o then 1 else 0, fun p => ?_, fun p n g hg _ => ?_⟩
  · rw [hh, root, Table.get?_modify]
    by_cases hp : p = o
    · simp [hp]
    · cases d.heap.get? p <;> simp [hp]
  · rw [ho p g hg]
    dsimp only
    omega

/-- An owner gives its root back. It had one, so that none is taken from an object
without roots. -/
theorem balances_lose (hh : d'.heap = (d.unroot o).heap)
    (ho : ∀ p, ∀ g ≤ f, d.ownersSince g p = d'.ownersSince g p + if p = o then 1 else 0) :
    d.Balances d' f := by
  refine ⟨fun p n => n - if p = o then 1 else 0, fun p => ?_, fun p n g hg hn => ?_⟩
  · rw [hh, unroot, Table.get?_modify]
    by_cases hp : p = o
    · simp [hp]
    · cases d.heap.get? p <;> simp [hp]
  · -- there are as many roots as owners at least, and one owner is the one that goes
    rw [ho p g hg] at hn ⊢
    dsimp only
    omega

/-! ## Construction and native holders

A construction owns the first root of its object, and hands it on to whoever asked
for the object: no root changes then, only the owner. -/

theorem count_erase_add (l : List ObjectId) (ho : o ∈ l) (p : ObjectId) :
    (l.erase o).count p + (if p = o then 1 else 0) = l.count p := by
  by_cases hp : p = o
  · subst hp
    have := List.count_pos_iff.2 ho
    rw [List.count_erase_self, if_pos rfl]
    omega
  · rw [List.count_erase_of_ne hp, if_neg hp, Nat.add_zero]

theorem count_cons_add (l : List ObjectId) (o p : ObjectId) :
    (o :: l).count p = l.count p + if p = o then 1 else 0 := by
  rw [List.count_cons]
  simp only [beq_iff_eq, eq_comm (a := p)]

/-- The root of a finished construction goes to native code. -/
theorem balances_hold (ho : o ∈ d.allocating) (f : FrameId) : d.Balances (d.hold o) f := by
  refine balances_of_heap_eq rfl (fun p g _ => ?_)
  have hc := count_cons_add d.held o p
  have he := count_erase_add d.allocating ho p
  simp only [ownersSince, hold]
  omega

/-- A holder that lets go gives its root back. -/
theorem balances_letGo (ho : o ∈ d.held) (f : FrameId) : d.Balances (d.letGo o) f := by
  refine balances_lose rfl (fun p g _ => ?_)
  have he := count_erase_add d.held ho p
  simp only [ownersSince, letGo, unroot]
  omega

/-- A constructor threw: the root of the construction is given back. -/
theorem balances_abandonAllocation (ho : o ∈ d.allocating) (f : FrameId) :
    d.Balances ((d.unroot o).abandonAllocation o) f := by
  refine balances_lose rfl (fun p g _ => ?_)
  have he := count_erase_add d.allocating ho p
  simp only [ownersSince, abandonAllocation, unroot]
  omega

/-! ## Frames

A frame is opened on top and closed on top, so the lemmas on what is in a frame are
for the first of the list. Its locals are given back one after the other before it
is closed. -/

/-- The owners, with what the frame on top claims set apart. -/
theorem ownersSince_of_frames (hf : d.frames = t :: rest) (hg : g ≤ t.id) (p : ObjectId) :
    d.ownersSince g p = d.held.count p + d.allocating.count p +
      (t.claims p + ((rest.filter (fun t => g ≤ t.id)).map (·.claims p)).sum) := by
  unfold ownersSince
  rw [hf, List.filter_cons_of_pos (by simpa using hg), List.map_cons, List.sum_cons]

theorem openFrame_eq (d : Domain) (name : String) (receiver : Option ObjectId) :
    ∃ heap, (d.openFrame name receiver).2 =
      { d with
        heap := heap
        frames := { id := d.nextFrame, name := name, receiver := receiver } :: d.frames
        nextFrame := d.nextFrame + 1 } := by
  cases receiver <;> exact ⟨_, rfl⟩

/-- A frame that is opened roots its receiver. -/
theorem balances_openFrame (d : Domain) (name : String) (receiver : Option ObjectId) :
    d.Balances (d.openFrame name receiver).2 d.nextFrame := by
  have hs : ∀ p, ∀ g ≤ d.nextFrame, (d.openFrame name receiver).2.ownersSince g p =
      d.ownersSince g p + if receiver = some p then 1 else 0 := by
    intro p g hg
    obtain ⟨heap, he⟩ := d.openFrame_eq name receiver
    rw [he, ownersSince_of_frames rfl hg]
    simp only [Frame.claims, List.count_nil, ownersSince]
    omega
  cases receiver with
  | none => exact balances_of_heap_eq rfl (fun p g hg => by simpa using hs p g hg)
  | some o =>
    refine balances_gain rfl (fun p g hg => ?_)
    rw [hs p g hg]
    simp [eq_comm]

theorem keep_eq (d : Domain) (f : FrameId) (v : ManagedValue) :
    ∃ heap frames, d.keep f v = { d with heap := heap, frames := frames } := by
  unfold keep
  cases v.asObject? <;> exact ⟨_, _, rfl⟩

theorem closeFrame_eq (d : Domain) (f : FrameId) :
    ∃ heap, d.closeFrame f = { d with heap := heap, frames := Frame.erase f d.frames } := by
  unfold closeFrame
  split <;> exact ⟨_, rfl⟩

section Top

variable (hf : d.frames = t :: rest) (ht : t.id = f)

include hf ht

/-- The frame on top is found by its number. -/
theorem frame?_top : d.frame? f = some t := by
  unfold frame?
  rw [hf, List.find?_cons_of_pos (by simpa using ht)]

theorem locals_top : d.locals f = t.locals := by
  rw [locals, frame?_top hf ht]
  rfl

theorem updateLocals_top (l : List ObjectId → List ObjectId) :
    (d.updateLocals f l).frames = { t with locals := l t.locals } :: rest := by
  simp [updateLocals, hf, Frame.updateLocals, ht]

/-- Closing the frame on top leaves the rest. -/
theorem erase_top : Frame.erase f d.frames = rest := by
  unfold Frame.erase
  rw [hf, List.eraseP_cons_of_pos (by simpa using ht)]

/-- The root of a finished construction goes to the frame that asked for it. -/
theorem balances_adopt (ho : o ∈ d.allocating) : d.Balances (d.adopt f o) f := by
  refine balances_of_heap_eq rfl (fun p g hg => ?_)
  have hfr : (d.adopt f o).frames = { t with locals := t.locals ++ [o] } :: rest :=
    updateLocals_top hf ht _
  rw [ownersSince_of_frames hf (ht ▸ hg), ownersSince_of_frames hfr (ht ▸ hg)]
  have he := count_erase_add d.allocating ho p
  have hc := count_cons_add [] o p
  simp only [adopt, updateLocals, Frame.claims, List.count_append]
  rw [List.count_nil] at hc
  omega

/-- A frame roots the object that it got back from a call. -/
theorem balances_keep (v : ManagedValue) : d.Balances (d.keep f v) f := by
  unfold keep
  cases v.asObject? with
  | none => exact balances_of_heap_eq rfl (fun _ _ _ => rfl)
  | some o =>
    refine balances_gain rfl (fun p g hg => ?_)
    have hfr : ((d.root o).updateLocals f (· ++ [o])).frames =
        { t with locals := t.locals ++ [o] } :: rest := updateLocals_top (d := d.root o) hf ht _
    rw [ownersSince_of_frames hf (ht ▸ hg), ownersSince_of_frames hfr (ht ▸ hg)]
    have hc := count_cons_add [] o p
    simp only [root, updateLocals, Frame.claims, List.count_append]
    rw [List.count_nil] at hc
    omega

theorem releaseLocal_top {l : List ObjectId} (hl : t.locals = o :: l) :
    d.releaseLocal f = (d.unroot o).updateLocals f (fun _ => l) := by
  rw [releaseLocal, locals_top hf ht, hl]

/-- A local that is given up is a root given back. -/
theorem balances_releaseLocal {l : List ObjectId} (hl : t.locals = o :: l) :
    d.Balances (d.releaseLocal f) f := by
  rw [releaseLocal_top hf ht hl]
  refine balances_lose rfl (fun p g hg => ?_)
  have hfr : ((d.unroot o).updateLocals f (fun _ => l)).frames =
      { t with locals := l } :: rest := updateLocals_top (d := d.unroot o) hf ht _
  rw [ownersSince_of_frames hf (ht ▸ hg), ownersSince_of_frames hfr (ht ▸ hg)]
  have hc := count_cons_add l o p
  simp only [unroot, updateLocals, Frame.claims, hl]
  omega

/-- A frame without locals owns nothing but its receiver, which it lets go of. -/
theorem balances_closeFrame (hl : t.locals = []) : d.Balances (d.closeFrame f) f := by
  have hs : ∀ p, ∀ g ≤ f, d.ownersSince g p =
      (d.closeFrame f).ownersSince g p + if t.receiver = some p then 1 else 0 := by
    intro p g hg
    obtain ⟨heap, he⟩ := d.closeFrame_eq f
    rw [ownersSince_of_frames hf (ht ▸ hg), he, erase_top hf ht]
    simp only [Frame.claims, hl, List.count_nil, ownersSince]
    omega
  unfold closeFrame at hs ⊢
  rw [frame?_top hf ht, Option.bind_some] at hs ⊢
  cases hr : t.receiver with
  | none =>
    rw [hr] at hs
    exact balances_of_heap_eq rfl (fun p g hg => by simpa using (hs p g hg).symm)
  | some o =>
    rw [hr] at hs
    refine balances_lose rfl (fun p g hg => ?_)
    rw [hs p g hg]
    simp [eq_comm]

end Top

/-! ## Roots and owners after a section

What balances keeps both books: where roots were as many as owners they still are,
and what is under construction is still secured. -/

namespace Balances

variable (h : d.Balances d' f)

include h

/-- **Where roots were counted exactly they still are.** -/
theorem exact (hd : d.Exact) : d'.Exact := by
  obtain ⟨count, hh, hn⟩ := h
  intro o x' hx'
  obtain ⟨x, hx, rfl⟩ := Option.map_eq_some_iff.1 ((hh o).symm.trans hx')
  have hroots := hd o x hx
  have hb := hn o x.roots 0 (Nat.zero_le f) (by rw [ownersSince_zero, hroots])
  rw [ownersSince_zero, ownersSince_zero] at hb
  dsimp only
  omega

/-- **What is under construction stays secured**, if nothing new is. -/
theorem secured {births : ObjectId → FrameId} (hd : d.Secured births)
    (ha : d'.allocating ⊆ d.allocating) (hn : d.nextFrame ≤ d'.nextFrame)
    (hf : ∀ o ∈ d'.allocating, births o ≤ f) : d'.Secured births := by
  obtain ⟨count, hh, hc⟩ := h
  intro o ho
  obtain ⟨hb, x, hx, hfin, hle⟩ := hd o (ha ho)
  have := hc o x.roots _ (hf o ho) hle
  refine ⟨Nat.le_trans hb hn, { x with roots := count o x.roots }, ?_, hfin, ?_⟩
  · rw [hh, hx, Option.map_some]
  · dsimp only
    omega

/-- What balances takes no object and brings none. -/
theorem objects (o : ObjectId) : (d'.heap.get? o).map HeapObject.finalizing =
    (d.heap.get? o).map HeapObject.finalizing := by
  obtain ⟨count, hh, -⟩ := h
  rw [hh, Option.map_map]
  rfl

end Balances

/-- A frame that is struck, or a construction that is, owns nothing any more. -/
theorem ownersSince_mono (hh : d'.held = d.held) (ha : d'.allocating.Sublist d.allocating)
    (hf : d'.frames.Sublist d.frames) (g : FrameId) (o : ObjectId) :
    d'.ownersSince g o ≤ d.ownersSince g o := by
  have hs : ((d'.frames.filter (fun t => g ≤ t.id)).map (·.claims o)).sum ≤
      ((d.frames.filter (fun t => g ≤ t.id)).map (·.claims o)).sum :=
    ((hf.filter _).map _).sum_le_sum (fun _ _ => Nat.zero_le _)
  have hc := ha.count_le o
  unfold ownersSince
  rw [hh]
  omega

/-- Owners may go without their roots. -/
theorem Secured.dwindle {births : ObjectId → FrameId} (hd : d.Secured births)
    (hheap : d'.heap = d.heap) (hn : d'.nextFrame = d.nextFrame) (hh : d'.held = d.held)
    (ha : d'.allocating.Sublist d.allocating) (hf : d'.frames.Sublist d.frames) :
    d'.Secured births := by
  intro o ho
  obtain ⟨hb, x, hx, hfin, hle⟩ := hd o (ha.subset ho)
  exact ⟨hn ▸ hb, x, hheap ▸ hx, hfin, Nat.le_trans (ownersSince_mono hh ha hf _ _) hle⟩

/-! ## Objects that come and go

The two sections that change which objects there are. -/

/-- The object that is allocated next. -/
def nextObject (d : Domain) : ObjectId := ⟨d.lastObject + 1⟩

/-- A new object has one owner more, which is its construction. -/
theorem ownersSince_allocate (d : Domain) (c : Class) (g : FrameId) (p : ObjectId) :
    (d.allocate c).2.ownersSince g p = d.ownersSince g p + if p = d.nextObject then 1 else 0 := by
  have hc := count_cons_add d.allocating d.nextObject p
  have ha : (d.allocate c).2.allocating = d.nextObject :: d.allocating := rfl
  have hh : (d.allocate c).2.held = d.held := rfl
  have hf : (d.allocate c).2.frames = d.frames := rfl
  unfold ownersSince
  rw [ha, hh, hf]
  omega

/-- The heap after an allocation has one object more, with one root. -/
theorem get?_allocate (d : Domain) (c : Class) (p : ObjectId) :
    (d.allocate c).2.heap.get? p =
      if p = d.nextObject then some { cls := c, roots := 1 } else d.heap.get? p :=
  Table.get?_insert _ _ _ _

/-- A new object has one root and one owner, if nobody named it before. -/
theorem Exact.allocate (hd : d.Exact) (c : Class) (hn : d.owners d.nextObject = 0) :
    (d.allocate c).2.Exact := by
  intro p x hx
  rw [get?_allocate] at hx
  rw [← ownersSince_zero, ownersSince_allocate, ownersSince_zero]
  by_cases hp : p = d.nextObject
  · rw [if_pos hp] at hx ⊢
    obtain rfl := Option.some.inj hx
    rw [hp, hn]
  · rw [if_neg hp] at hx ⊢
    exact hd p x hx

/-- What is under construction is secured from its birth on. -/
theorem Secured.allocate {births : ObjectId → FrameId} (hd : d.Secured births) (c : Class)
    (hn : d.ownersSince d.nextFrame d.nextObject = 0) :
    (d.allocate c).2.Secured (Function.update births d.nextObject d.nextFrame) := by
  intro p hp
  rw [get?_allocate]
  by_cases hpn : p = d.nextObject
  · rw [if_pos hpn, hpn, Function.update_self, ownersSince_allocate, hn, if_pos rfl]
    exact ⟨Nat.le_refl _, _, rfl, rfl, Nat.le_refl _⟩
  · rw [if_neg hpn, Function.update_of_ne hpn, ownersSince_allocate, if_neg hpn, Nat.add_zero]
    exact hd p ((List.mem_cons.1 hp).resolve_left hpn)

/-- Where an object is off the heap its owners are no matter any more. -/
theorem Exact.remove (hd : d.Exact) (o : ObjectId) : (d.remove o).Exact := by
  intro p x hx
  rw [Domain.remove, Table.get?_erase] at hx
  by_cases hp : p = o
  · rw [if_pos hp] at hx
    cases hx
  · rw [if_neg hp] at hx
    exact hd p x hx

/-- What is not under construction may go. -/
theorem Secured.remove {births : ObjectId → FrameId} (hd : d.Secured births)
    (ho : o ∉ d.allocating) : (d.remove o).Secured births := by
  intro p hp
  obtain ⟨hb, x, hx, hs⟩ := hd p hp
  exact ⟨hb, x, (Table.get?_erase ..).trans ((if_neg (ne_of_mem_of_not_mem hp ho)).trans hx), hs⟩

/-- A construction that is struck with its object leaves the others as they were. -/
theorem Exact.strikeAllocation (hd : d.Exact) (ho : d.heap.get? o = none) :
    (d.abandonAllocation o).Exact := by
  intro p x hx
  rw [hd p x hx]
  have hp : p ≠ o := by
    rintro rfl
    exact Option.some_ne_none x (hx.symm.trans ho)
  unfold owners abandonAllocation
  rw [List.count_erase_of_ne hp]

/-! ## Collection

A collection takes what has no roots, and marks it so that no other takes it. The
order in which it goes through the objects is a parameter of the domain, and all
that is known of it is that nothing is lost or doubled by it. -/

/-- **What a collection marks**: the garbage, and nothing else. -/
theorem get?_takeGarbage (d : Domain) (p : ObjectId) :
    d.takeGarbage.2.heap.get? p = (d.heap.get? p).map
      (fun x => if isGarbage x then { x with finalizing := true } else x) :=
  Table.get?_map _ _ _

theorem Exact.takeGarbage (hd : d.Exact) : d.takeGarbage.2.Exact := by
  intro p x' hx'
  obtain ⟨x, hx, rfl⟩ := Option.map_eq_some_iff.1 ((d.get?_takeGarbage p).symm.trans hx')
  refine Eq.trans ?_ (hd p x hx)
  split <;> rfl

/-- **No collection takes an object that is under construction.** -/
theorem Secured.takeGarbage {births : ObjectId → FrameId} (hd : d.Secured births) :
    d.takeGarbage.2.Secured births := by
  intro p hp
  obtain ⟨hb, x, hx, hfin, hle⟩ := hd p hp
  have hpos : 0 < x.roots := by
    have hc : 0 < d.allocating.count p := List.count_pos_iff.2 hp
    have : d.allocating.count p ≤ d.ownersSince (births p) p := by
      unfold ownersSince
      omega
    omega
  have hg : isGarbage x = false := by simp [isGarbage, Nat.ne_of_gt hpos]
  refine ⟨hb, x, (d.get?_takeGarbage p).trans ?_, hfin, hle⟩
  rw [hx, Option.map_some, hg]
  rfl

/-- **The garbage** is what has no roots and was not taken before, each object once. -/
theorem mem_takeGarbage (ho : ∀ n l, (d.sweepOrder n l).Perm l) {c : Class} :
    (o, c) ∈ d.takeGarbage.1 ↔
      ∃ x, d.heap.get? o = some x ∧ x.roots = 0 ∧ x.finalizing = false ∧ x.cls = c := by
  unfold Domain.takeGarbage
  rw [(ho _ _).mem_iff]
  simp only [List.mem_map, List.mem_filter, Prod.exists, Prod.mk.injEq, Table.mem_toList]
  constructor
  · rintro ⟨p, x, ⟨hx, hg⟩, rfl, rfl⟩
    simp only [isGarbage, Bool.and_eq_true, decide_eq_true_eq, Bool.not_eq_true'] at hg
    exact ⟨x, hx, hg.1, hg.2, rfl⟩
  · rintro ⟨x, hx, hr, hf, rfl⟩
    exact ⟨o, x, ⟨hx, by simp [isGarbage, hr, hf]⟩, rfl, rfl⟩

/-- The garbage is what a collection has taken. -/
theorem mem_fst_takeGarbage (ho : ∀ n l, (d.sweepOrder n l).Perm l) :
    o ∈ d.takeGarbage.1.map Prod.fst ↔
      (d.heap.get? o).map HeapObject.finalizing = some false ∧
        (d.takeGarbage.2.heap.get? o).map HeapObject.finalizing = some true := by
  rw [get?_takeGarbage]
  constructor
  · intro hm
    obtain ⟨⟨p, c⟩, he, rfl⟩ := List.mem_map.1 hm
    obtain ⟨x, hx, hr, hf, -⟩ := (mem_takeGarbage ho).1 he
    simp [hx, hf, isGarbage, hr]
  · rintro ⟨hf, ht⟩
    obtain ⟨x, hx, hf⟩ := Option.map_eq_some_iff.1 hf
    have hr : x.roots = 0 := by
      by_contra hr
      simp [hx, hf, isGarbage, hr] at ht
    exact List.mem_map.2 ⟨(o, x.cls), (mem_takeGarbage ho).2 ⟨x, hx, hr, hf, rfl⟩, rfl⟩

/-- **A collection takes no object twice.** -/
theorem nodup_takeGarbage (ho : ∀ n l, (d.sweepOrder n l).Perm l) :
    (d.takeGarbage.1.map Prod.fst).Nodup := by
  unfold Domain.takeGarbage
  refine ((ho _ _).map Prod.fst).nodup_iff.2 ?_
  rw [List.map_map]
  exact d.heap.nodup_toList.sublist (List.filter_sublist.map _)

end Domain

end HostBridge
