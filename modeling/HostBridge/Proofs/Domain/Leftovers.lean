import HostBridge.Proofs.Domain.Retention
import HostBridge.Proofs.Domain.Unwinding

/-!
# What panics leave behind

A host goes on after a panic (`World.GoesOn`), but two kinds of objects are stranded then: no
later collection frees them, whether anybody refers to them or not (`World.Strands`).

A frame that a panic leaves gives back no roots, so what it kept stays on the heap
(`abandoned_frame_strands`), and so does an object whose constructor panics
(`abandoned_construction_strands`). A collection that a finalizer ends with a panic has marked
more than it has freed, and what is marked is not taken again: neither the object of that
finalizer nor those that were to come after it (`interrupted_collection_strands`).

Stranded is a property of the future: whatever the host runs from here on, the object is on the
heap. It follows from one of two properties of the present, which no section takes back. The
object has a root to spare, which no owner is ever going to give back; or it is marked, and no
collection that is still going on has it in hand.
-/

namespace HostBridge

variable {w w' v : World} {o : ObjectId} {n k : Nat} {α : Type}

/-! ## Hosts that go on

What a host can be made to do after a panic that it has caught, as a relation between states. -/

/-- **A host goes on**: it runs native code on one thread, one piece after the other, and may
drop each of them at any point, such as where it panics. What native code does after one of its
operations is a piece of its own. -/
inductive World.GoesOn (w : World) : World → Prop
  /-- Nothing has run yet. -/
  | here : GoesOn w w
  /-- One more piece of native code has come so far. -/
  | run {v w' : World} {α : Type} {n : Nat} {code : NativeCode α} {q : Course World α}
      (h : GoesOn w v) (hq : (code.course n mainThread).Reaches World.Numerable v q w') :
      GoesOn w w'

/-- **An object is stranded**: it stays on the heap, and no collection takes it, whatever native
code the host runs from now on. -/
def World.Strands (w : World) (o : ObjectId) : Prop :=
  ∀ w', w.GoesOn w' →
    w'.domain.heap.get? o ≠ none ∧ o ∉ w'.domain.takeGarbage.1.map Prod.fst

namespace World.Numbered

variable (hw : w.Numbered)

include hw

theorem goesOn (h : w.GoesOn w') : w'.Numbered := by
  induction h with
  | here => exact hw
  | run h hq ih => exact ih.of_reaches hq

/-- **What has a root to spare is stranded.** -/
theorem strands_of_covers (hc : w.domain.Covers o k) (hk : 0 < k) : w.Strands o := by
  intro w' h
  have hcovers : w'.domain.Covers o k := by
    induction h with
    | here => exact hc
    | run h hq ih =>
      exact (hw.goesOn h).covers_of_reaches (.here hq.start) ih
        (hq.mono (fun _ hv => ⟨hv, by omega⟩))
  exact ⟨hcovers.get?_ne_none,
    hcovers.not_mem_takeGarbage (by omega) (hw.goesOn h).order⟩

/-- **What was taken and is still there is stranded**, when code starts to run. -/
theorem strands_of_mark (ho : w.domain.mark o = some true) : w.Strands o := by
  intro w' h
  have hmark : w'.domain.mark o = some true := by
    induction h with
    | here => exact ho
    | run h hq ih => exact (hw.goesOn h).mark_of_reaches ih hq
  refine ⟨fun hn => ?_, fun hm => ?_⟩
  · rw [Domain.mark_eq_none.2 hn] at hmark
    cases hmark
  · obtain ⟨hfree, -⟩ := (Domain.mem_fst_takeGarbage (hw.goesOn h).order).1 hm
    cases hmark.symm.trans hfree

/-- A run strands what it has left with a root to spare. -/
theorem strands_of_reaches {code : NativeCode α} {p q : Course World α}
    (hp : (code.course n mainThread).Reaches World.Numerable w p v) (hc : v.domain.Covers o k)
    (hk : 0 < k) (hq : p.Reaches World.Numerable v q w') : w'.Strands o :=
  (hw.of_reaches (hp.trans hq)).strands_of_covers
    (hw.covers_of_reaches hp hc (hq.mono (fun _ hv => ⟨hv, by omega⟩))) hk

end World.Numbered

/-! ## Frames that are abandoned

The frame of a body that panics, and the frame of a constructor that does. -/

/-- **What an abandoned frame kept is stranded**, wherever a run comes to the end of a body that
panics, the first one in it. Be it the receiver of the frame or one of its locals: the object
stays on the heap whatever the run does next, and whatever the host does after it. -/
theorem abandoned_frame_strands (hw : w.Fresh) (hd : w.domain.Opened) {code : NativeCode α}
    {f : FrameId} {t : Frame} {k : Except Crash Unit → Course World α}
    (hq : (code.course n mainThread).Reaches World.Ordinary w
      ((Run.changeDomain (·.abandonFrame f) [.abandoned f]).course.after k) v)
    (hf : v.domain.frame? f = some t) (ho : t.receiver = some o ∨ o ∈ t.locals)
    (hmark : v.domain.mark o = some false) (ha : o ∉ v.domain.allocating) {q : Course World α}
    (hr : (k (.ok ())).Reaches World.Numerable
      (v.onDomain (v.domain.abandonFrame f) [.abandoned f]) q w') : w'.Strands o := by
  -- up to here the roots of the object are its owners, so that those of the frame are left over
  obtain ⟨births, hb⟩ := hw.tame_of_reaches hd hq
  have hcovers := (hb.exact rfl).covers ha hmark
  have hclaims : 0 < t.claims o := by
    unfold Frame.claims
    obtain hrec | hloc := ho
    · rw [if_pos hrec]
      omega
    · have := List.count_pos_iff.2 hloc
      omega
  have hafter : (code.course n mainThread).Reaches World.Numerable w (k (.ok ()))
      (v.onDomain (v.domain.abandonFrame f) [.abandoned f]) :=
    .enter (hq.mono (fun _ hv => hv.1)) rfl hr.start
  exact (hw.numbered hd).strands_of_reaches hafter (hcovers.abandonFrame hf) (by omega) hr

/-- **An object is stranded whose constructor panics**, the first body in a run to do so: nobody
gets the root of its allocation. -/
theorem abandoned_construction_strands (hw : w.Fresh) (hd : w.domain.Opened)
    {code : NativeCode α} {f : FrameId} {k : Except Crash Unit → Course World α}
    (hq : (code.course n mainThread).Reaches World.Ordinary w
      ((Run.changeDomain (·.abandonFrame f) [.abandoned f] >>= fun _ =>
        Run.changeDomain (·.abandonAllocation o)).course.after k) v)
    (ho : o ∈ v.domain.allocating) {q : Course World α}
    (hr : (k (.ok ())).Reaches World.Numerable
      ((v.onDomain (v.domain.abandonFrame f) [.abandoned f]).onDomain
        ((v.domain.abandonFrame f).abandonAllocation o)) q w') : w'.Strands o := by
  obtain ⟨births, hb⟩ := hw.tame_of_reaches hd hq
  have hcovers : ((v.domain.abandonFrame f).abandonAllocation o).Covers o 1 := by
    obtain ⟨-, x, hx, hfin, -⟩ := hb.secured o ho
    refine ⟨hb.census.distinct.not_mem_erase, x, hx, hfin, ?_⟩
    have hframe := v.domain.owners_abandonFrame_le f o
    have hcount := Domain.count_erase_add v.domain.allocating ho o
    rw [if_pos rfl] at hcount
    rw [hb.exact rfl o x hx]
    simp only [Domain.owners, Domain.abandonFrame, Domain.abandonAllocation] at hframe hcount ⊢
    omega
  have hafter : (code.course n mainThread).Reaches World.Numerable w (k (.ok ()))
      ((v.onDomain (v.domain.abandonFrame f) [.abandoned f]).onDomain
        ((v.domain.abandonFrame f).abandonAllocation o)) :=
    .enter (.enter (hq.mono (fun _ hv => hv.1)) rfl hr.start) rfl hr.start
  exact (hw.numbered hd).strands_of_reaches hafter hcovers Nat.one_pos hr

/-! ## Collections that a panic ends

What was reclaimed before the panic is gone. The rest of the batch is marked. -/

theorem Run.reclaimAll_append (run : Runner) (me : ThreadId) (l l' : List (ObjectId × Class)) :
    Run.reclaimAll run me (l ++ l') =
      Run.reclaimAll run me l >>= fun _ => Run.reclaimAll run me l' := by
  induction l with
  | nil => rfl
  | cons e l ih => simp only [List.cons_append, Run.reclaimAll, ih, bind_assoc]

/-- **What a collection comes to later is stranded for now**, if the thread has in hand what comes
before. -/
theorem World.Numbered.inHand_takeGarbage (hw : w.Numbered) {before after : List (ObjectId × Class)}
    (hl : w.domain.takeGarbage.1 = before ++ after) :
    (w.onDomain w.domain.takeGarbage.2).InHand (· ∈ after.map Prod.fst)
      { taken := before.map Prod.fst } := by
  have hstart : w.InHand (fun _ => False) {} :=
    ⟨hw, by simp, by simp, List.nodup_nil, by simp, fun _ => False.elim⟩
  have htaken := hstart.takeGarbage
  have hmap : w.domain.takeGarbage.1.map Prod.fst = before.map Prod.fst ++ after.map Prod.fst := by
    rw [hl, List.map_append]
  have hsub : before.map Prod.fst ⊆ w.domain.takeGarbage.1.map Prod.fst ++ [] := by
    rw [hmap, List.append_nil]
    exact List.subset_append_left ..
  have hnodup := Domain.nodup_takeGarbage hw.order
  rw [hmap] at hnodup
  refine ⟨htaken.numbered, fun p hp => htaken.known p (hsub hp), htaken.building, htaken.once,
    fun p hp => htaken.taken p (hsub hp), fun p hp => ⟨?_, List.not_mem_nil, fun hb => ?_⟩⟩
  · exact ((Domain.mem_fst_takeGarbage hw.order).1 (hmap ▸ List.mem_append_right _ hp)).2
  · exact (List.nodup_append.1 hnodup).2.2 p hb p hp rfl

/-- **A collection that panics strands objects**: the one whose finalizer panicked, and all that
were to come after it. -/
theorem interrupted_collection_strands {m : Nat} {q : Panic} (hw : w.Numbered)
    (hP : ∀ r v, (Run.collect (.nested m) mainThread).course.Reaches (fun _ => True) w r v →
      v.Numerable)
    (h : (Run.collect (.nested m) mainThread).Ends w (.error (.panicked q)) w') :
    ∃ before o c after, w.domain.takeGarbage.1 = before ++ (o, c) :: after ∧
      c.finalizer ≠ none ∧ ∀ p ∈ o :: after.map Prod.fst, w'.Strands p := by
  obtain ⟨before, o, c, after, v, body, hl, hbefore, hbody, hpanic⟩ := collect_panics_iff.1 h
  refine ⟨before, o, c, after, hl, by simp [hbody], fun p hp => ?_⟩
  let S : ObjectId → Prop := (· ∈ ((o, c) :: after).map Prod.fst)
  have hrun : (Runner.nested m).Keeps _ mainThread := (Lasting.upheld S mainThread).keeps_nested m
  -- where the collection runs the two parts of it that matter
  have hstart : (Run.collect (.nested m) mainThread).course.Meets (fun _ => True) w
      (Run.collect (.nested m) mainThread) w := .start _ trivial
  have hmeets := (hstart.next (.exchange _ w)).first
  rw [show w.domain.takeGarbage.1 = _ from hl, Run.reclaimAll_append] at hmeets
  have hmeets' := (hmeets.next hbefore).first.first.next (.change _ v)
  rw [hbody] at hmeets'
  have hwithin : ∀ {β : Type} {p : Run β} {u : World},
      (Run.collect (.nested m) mainThread).course.Meets (fun _ => True) w p u →
      ∀ r v, p.course.Reaches (fun _ => True) u r v → (World.lasting S mainThread).within v := by
    intro β p u hm r v hv
    obtain ⟨r', hr'⟩ := hm.reaches hv
    exact hP r' v hr'
  have hinv : (World.lasting S mainThread).inv (w.onDomain w.domain.takeGarbage.2)
      (fun _ => { taken := before.map Prod.fst }) := hw.inHand_takeGarbage hl
  obtain ⟨y, hy, -⟩ := hbefore.keeps (hwithin hmeets.first) hinv
    (Lasting.follows_reclaimAll hrun before (List.Subset.refl _))
  have hy' : (World.lasting S mainThread).inv (v.record (.visited o)) (Function.update _ _ y) :=
    World.lasting_heedless.inv hy (v.idle_record rfl)
  obtain ⟨z, hz, -⟩ := hpanic.keeps (hwithin hmeets'.first) hy'
    (Lasting.runBody hrun c c.finalizerFrame body (some o) [] 0 _ ⟨rfl, List.Subset.refl _⟩)
  have hleft : w'.InHand S z := by simpa [World.lasting] using hz
  exact hleft.numbered.strands_of_mark (hleft.stranded p hp).1

/-! ## A host that leaks

One method, one call, one panic. -/

/-- A method that makes an object and panics. -/
def leaky : Class where
  scope := ""
  name := "S"
  methods := [⟨"Leak", .nullary, .static, fun _ =>
    .perform (.newObject "T") fun _ => .panic (.text "boom")⟩]

/-- Native code enters the method, behind the boundary. -/
def leaking : NativeCode Unit :=
  .perform (.provide ⟨"A", [token, leaky]⟩) fun _ => .perform (.load "A") fun _ =>
    .perform (.enter ⟨"S", "Leak", 0⟩ none []) fun _ => .done ()

/-- Where the panic has been caught. -/
def leaked : Course World Unit × World :=
  ((leaking.course 3 mainThread).play World.Numerable 20 plainHost).get (by decide +kernel)

/-- A collection after that. -/
def leakedCollected : World := ((Run.collect (.nested 1) mainThread).advance leaked.2).2

/-- **Not all that nobody refers to is freed** by the next collection, even if it comes to its
end. -/
theorem leaked_outlives_collection : ¬∀ w, plainHost.GoesOn w →
    ∀ m count w', (Run.collect (.nested m) mainThread).Ends w (.ok count) w' →
      ∀ o, w.domain.owners o = 0 → w'.domain.heap.get? o = none := by
  intro h
  have hreach : plainHost.GoesOn leaked.2 :=
    .run .here ((Course.Reaches.here (by decide)).play (Option.some_get _).symm)
  have hnone := h leaked.2 hreach 1 0 leakedCollected rfl ⟨1⟩ (by decide +kernel)
  have hsome : (leakedCollected.domain.heap.get? ⟨1⟩).isSome = true := by decide +kernel
  rw [hnone] at hsome
  cases hsome

end HostBridge
