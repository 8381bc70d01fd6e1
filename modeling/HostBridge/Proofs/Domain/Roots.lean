import HostBridge.Proofs.Bridge.Calls
import HostBridge.Proofs.Domain.Running

/-!
# Roots

The runtime adds roots and drops them in many places: where an object is made, where its
constructor throws, where a body starts and ends, where a frame keeps what a call
returned, and where native code lets go. In a tame run on one thread it never loses count
(`roots_count_owners`): the roots of an object are its owners, wherever the run has come
to, and whatever exceptions left bodies on the way.

The count is right after each section, and not only after each operation. For that every root
must have an owner at any moment. A construction owns the root that it is going to hand on, and
a frame that lets go of its locals still owns those that it has not come to.
-/

namespace HostBridge

variable {w w' : World} {o : ObjectId} {α : Type}

/-- **A domain without objects.** It may know images and classes, allow any depth of
calls, and visit garbage in any order. -/
structure Domain.Opened (d : Domain) : Prop where
  heap : d.heap = .empty
  lastObject : d.lastObject = 0
  frames : d.frames = []
  allocating : d.allocating = []
  held : d.held = []
  order : ∀ n l, (d.sweepOrder n l).Perm l

namespace Domain

variable {d : Domain}

/-- What the owners of an object are. -/
theorem owners_eq (d : Domain) (o : ObjectId) :
    d.owners o = d.held.count o + d.frames.countP (fun t => t.receiver = some o) +
      (d.frames.map (fun t => t.locals.count o)).sum + d.allocating.count o := by
  have hframes : ∀ l : List Frame, (l.map (·.claims o)).sum =
      l.countP (fun t => t.receiver = some o) + (l.map (fun t => t.locals.count o)).sum := by
    intro l
    induction l with
    | nil => rfl
    | cons t l ih =>
      rw [List.map_cons, List.sum_cons, ih, List.countP_cons, List.map_cons, List.sum_cons,
        Frame.claims]
      simp only [decide_eq_true_eq]
      omega
  unfold owners
  rw [hframes]
  omega

theorem owners_eq_zero (h : d.owners o = 0) : o ∉ d.held ∧ o ∉ d.allocating ∧
    ∀ t ∈ d.frames, t.receiver ≠ some o ∧ o ∉ t.locals := by
  rw [owners_eq] at h
  have hframes : d.frames.countP (fun t => t.receiver = some o) = 0 := by omega
  have hlocals : (d.frames.map (fun t => t.locals.count o)).sum = 0 := by omega
  rw [List.sum_eq_zero_iff] at hlocals
  refine ⟨List.count_eq_zero.1 (by omega), List.count_eq_zero.1 (by omega), fun t ht => ⟨?_, ?_⟩⟩
  · simpa using List.countP_eq_zero.1 hframes t ht
  · exact List.count_eq_zero.1 (hlocals _ (List.mem_map.2 ⟨t, ht, rfl⟩))

theorem Opened.census (hd : w.domain.Opened) (hw : w.history = []) : w.Census := by
  have hcount : w.allocations = 0 := by
    unfold World.allocations
    rw [hw]
    rfl
  have hvisits : ∀ o, w.visits o = 0 := by
    intro o
    unfold World.visits
    rw [hw]
    rfl
  exact {
    numbered := by
      rw [hd.lastObject, hcount]
      rfl
    heap := fun o ho => absurd (by rw [hd.heap]; rfl) ho
    held := by simp [hd.held]
    allocating := by simp [hd.allocating]
    distinct := by simp [hd.allocating]
    frames := by simp [hd.frames]
    order := hd.order
    visits := fun o => by simp [hvisits]
    unborn := fun o _ => hvisits o
    unvisited := fun o _ => hvisits o }

end Domain

/-- **The books of a host that starts are in order.** -/
theorem World.Fresh.balanced (hw : w.Fresh) (hd : w.domain.Opened) {r : Regime} {me : ThreadId}
    (hr : w.registry.Asks r.Permits) (hdepth : r = .sole → 0 < w.domain.maxCallDepth) :
    (Ledger.mk w (fun _ => 0)).Balanced r me where
  hosted := {
    registry := hr
    hooks := fun h s hs => by
      rw [hw.bridge] at hs
      cases hs
    kept := by simp [hw.kept] }
  census := hd.census hw.history
  depth := hdepth
  secured := fun o ho => by
    rw [hd.allocating] at ho
    cases ho
  exact := fun _ o x hx => by
    rw [hd.heap] at hx
    cases hx

/-- **A run keeps its books** wherever it comes to. At its end, no frame is left and no
construction. -/
theorem World.Fresh.balanced_of_reaches (hw : w.Fresh) (hd : w.domain.Opened) {r : Regime}
    (hr : w.registry.Asks r.Permits) (hdepth : r = .sole → 0 < w.domain.maxCallDepth) {n : Nat}
    {code : NativeCode α} (hcode : Program.Asks (I := nativeInterface) r.Permits code)
    {q : Course World α}
    (hq : Course.Reaches (World.rooting r mainThread).within (code.course n mainThread) w q w') :
    ∃ births, (Ledger.mk w' births).Balanced r mainThread ∧
      q.Follows (World.rooting r mainThread) mainThread
        (fun e y => e = .error .tooDeep ∨ (Ledger.native r).rel ⟨w, fun _ => 0⟩ y)
        ⟨w', births⟩ := by
  have hsound : w.Sound r := by
    intro _ h s hs
    rw [hw.bridge] at hs
    cases hs
  have hupheld := Ledger.rooted r mainThread
  have hinv : (World.rooting r mainThread).inv w (fun _ => ⟨w, fun _ => 0⟩) :=
    ⟨rfl, hw.balanced hd hr hdepth⟩
  obtain ⟨y, hy, hf⟩ := Course.Reaches.keeps hq hinv
    (hupheld.runNative (hupheld.keeps_nested n) code hcode _ ⟨hsound, .refl _, rfl⟩)
  obtain ⟨rfl, hb⟩ : y.world = w' ∧ y.Balanced r mainThread := by
    simpa [World.rooting] using hy
  exact ⟨y.births, hb, hf⟩

/-! ## Tame runs

A state is tame if no body has panicked on the way to it, and no active frame names the object
that is allocated next. -/

/-- **A tame run in which numbers do not run out.** -/
def World.Ordinary (w : World) : Prop := w.allocations < 2 ^ 64 ∧ w.Tame

instance : DecidablePred World.Ordinary := fun _ => inferInstanceAs (Decidable (_ ∧ _))

/-- **The roots of an object are its owners**, at every point of a run on one thread in
which no managed body panics and no object is named before it is allocated:
* an object on the heap has a root for each native holder, for each active frame whose
  receiver it is, for each time it is among the locals of an active frame, and one more
  while the construction that allocated it is running;
* a section takes from the roots of an object what it takes from its owners, so that
  no root is taken from an object without roots;
* an object that a collection frees has no owner;
* when no frame, no holder and no construction is left, no object has roots. At the end
  of the code of the host, no frame and no construction is left. -/
theorem roots_count_owners {w : World} (hw : w.Fresh) (hd : w.domain.Opened) (n : Nat)
    (code : NativeCode α) {q : Course World α} {w' : World}
    (hq : Course.Reaches World.Ordinary (code.course n mainThread) w q w') :
    (∀ o x, w'.domain.heap.get? o = some x →
      x.roots = w'.domain.held.count o +
        w'.domain.frames.countP (fun t => t.receiver = some o) +
        (w'.domain.frames.map (fun t => t.locals.count o)).sum +
        if o ∈ w'.domain.allocating then 1 else 0) ∧
    (∀ ready effect next, q = .step ready effect next → ready w' = true →
      (effect w').Ordinary → ∀ o,
      (∀ x x', w'.domain.heap.get? o = some x → (effect w').domain.heap.get? o = some x' →
        x'.roots + w'.domain.owners o = x.roots + (effect w').domain.owners o) ∧
      ((effect w').history = .freed o :: w'.history →
        o ∉ w'.domain.held ∧ o ∉ w'.domain.allocating ∧
          ∀ t ∈ w'.domain.frames, t.receiver ≠ some o ∧ o ∉ t.locals)) ∧
    (w'.domain.frames = [] → w'.domain.held = [] → w'.domain.allocating = [] →
      ∀ o x, w'.domain.heap.get? o = some x → x.roots = 0) ∧
    (∀ a, q = .done a → w'.domain.frames = [] ∧ w'.domain.allocating = []) := by
  have hall : ∀ op, Regime.tame.Permits op := fun _ => trivial
  have hq' : Course.Reaches (World.rooting .tame mainThread).within _ w q w' :=
    hq.mono (fun v hv => ⟨hv.1, fun _ => hv.2⟩)
  obtain ⟨births, hb, hf⟩ := hw.balanced_of_reaches hd (w.registry.asks_of_forall hall)
    (fun h => by cases h) (code.asks_of_forall hall) hq'
  have hexact : w'.domain.Exact := hb.exact rfl
  refine ⟨fun o x hx => ?_, ?_, fun hframes hheld halloc o x hx => ?_, ?_⟩
  · rw [hexact o x hx, Domain.owners_eq, List.Nodup.count hb.census.distinct]
  · rintro ready effect next rfl hr hord o
    -- the section that comes next keeps the books, as all that is still to do
    obtain ⟨hdemand, y, hy, -⟩ := hf w' (fun _ => ⟨w', births⟩) ⟨rfl, hb⟩ rfl hq'.within hr
      ⟨hord.1, fun _ => hord.2⟩
    obtain ⟨hworld, hb'⟩ : y.world = effect w' ∧ y.Balanced .tame mainThread := by
      simpa [World.rooting] using hy
    have hexact' : (effect w').domain.Exact := hworld ▸ hb'.exact rfl
    refine ⟨fun x x' hx hx' => ?_, fun hfreed => ?_⟩
    · rw [hexact o x hx, hexact' o x' hx', Nat.add_comm]
    · exact Domain.owners_eq_zero (hdemand.1 rfl o hfreed)
  · rw [hexact o x hx, Domain.owners, hframes, hheld, halloc]
    rfl
  · rintro a rfl
    have hend : (Ledger.native .tame).rel ⟨w, fun _ => 0⟩ ⟨w', births⟩ :=
      Or.resolve_left hf (by simp)
    exact ⟨hend.2.2.trans hd.frames, hend.2.1.allocating.trans hd.allocating⟩

theorem plainHost_opened : plainHost.domain.Opened :=
  ⟨rfl, rfl, rfl, rfl, rfl, fun _ l => .refl l⟩

/-- A class whose constructor writes a line to the journal. -/
def journaling : Class where
  scope := ""
  name := "C"
  constructor := some fun _ => .perform (.note "made") fun _ => .done (.ok .void)

/-- Where the constructor of an object is about to write its line. -/
def making : Course World Unit × World :=
  ((NativeCode.course (do
    let _ ← NativeCode.op (.newInstance journaling)
    return) 1 mainThread).play World.Ordinary 5 plainHost).get (by decide +kernel)

theorem roots_count_owners_making :
    (making.2.domain.heap.get? ⟨1⟩).map HeapObject.roots = some 2 := by
  have hreach : Course.Reaches World.Ordinary _ plainHost making.1 making.2 :=
    (Course.Reaches.here (by decide)).play (Option.some_get _).symm
  obtain ⟨x, hx⟩ : ∃ x, making.2.domain.heap.get? ⟨1⟩ = some x :=
    Option.isSome_iff_exists.1 (by decide +kernel)
  have := (roots_count_owners plainHost_fresh plainHost_opened 1 _ hreach).1 ⟨1⟩ x hx
  rw [hx, Option.map_some, this]
  decide +kernel

end HostBridge
