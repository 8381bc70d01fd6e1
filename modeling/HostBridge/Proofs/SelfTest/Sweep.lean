import HostBridge.Proofs.SelfTest.Objects

/-!
# The collection of the self-test

A collection takes all objects that nobody owns, which are all but the test object, and comes
to them one after the other, in an order that is up to the domain. One that has a counter
leaves a line in the journal; the others, test objects of earlier runs, leave none. So the
scene in between depends on the order. The scene in the end does not (`collect_ends`): no
counter is left, and every one of them has its line (`Scene.sweepAll`).

The order is any permutation of what was found. Sweeping a list is a fold over it, and what is
left after the fold is described by counting and by filtering, for neither of which the order of
the list makes a difference.
-/

namespace HostBridge

open SelfTest

/-- Objects that are not kept have no class any more. -/
theorem SelfTest.Setting.classOf?_filter {x y : Setting} {p : ObjectId → Prop} [DecidablePred p]
    (hy : y.objects = x.objects.filter (fun e => p e.1)) (o : ObjectId) :
    y.classOf? o = if p o then x.classOf? o else none := by
  unfold Setting.classOf?
  rw [hy, find?_filter_key Prod.fst p]
  split <;> rfl

namespace Domain.Shows

variable {d : Domain} {x : Setting} {o : ObjectId}

/-- An object that a collection has taken comes off the heap. -/
theorem remove (h : d.Shows x) {l : List ObjectId} (hx : x.taken = o :: l) :
    (d.remove o).Shows { x with
      objects := x.objects.filter (fun e => e.1 ≠ o)
      taken := l } := by
  have hget : ∀ p, (d.remove o).heap.get? p = if p = o then none else d.heap.get? p :=
    fun p => Table.get?_erase ..
  refine { h with exact := h.exact.remove o, classOf := fun p => ?_, taken := fun p hp => ?_,
                  frames := h.frames, allocating := h.allocating, held := h.held,
                  lastObject := h.lastObject }
  · rw [Setting.classOf?_filter (p := (· ≠ o)) rfl, ← h.classOf]
    unfold Domain.classOf?
    rw [hget]
    by_cases hpo : p = o
    · rw [if_pos hpo, if_neg (not_not_intro hpo)]
      rfl
    · rw [if_neg hpo, if_pos hpo]
  · rw [hget] at hp
    by_cases hpo : p = o
    · rw [if_pos hpo] at hp
      cases hp
    · rw [if_neg hpo] at hp
      have := h.taken p hp
      rw [hx] at this
      exact (List.mem_cons.1 this).resolve_left hpo

/-- **A collection takes what nobody owns.** -/
theorem mem_takeGarbage (h : d.Shows x) (hx : x.taken = []) {c : Class} :
    (o, c) ∈ d.takeGarbage.1 ↔ x.classOf? o = some c ∧ x.owners o = 0 := by
  rw [Domain.mem_takeGarbage h.order, ← h.classOf, ← h.owners_eq]
  unfold Domain.classOf?
  constructor
  · rintro ⟨y, hy, hr, -, rfl⟩
    exact ⟨by rw [hy]; rfl, (h.exact o y hy).symm.trans hr⟩
  · rintro ⟨hc, ho⟩
    obtain ⟨y, hy, rfl⟩ := Option.map_eq_some_iff.1 hc
    refine ⟨y, hy, (h.exact o y hy).trans ho, ?_, rfl⟩
    by_contra hf
    have htaken := h.taken o (by rw [hy, Option.map_some, Bool.eq_true_of_not_eq_false hf])
    rw [hx] at htaken
    cases htaken

theorem takeGarbage (h : d.Shows x) (hx : x.taken = []) :
    d.takeGarbage.2.Shows { x with taken := d.takeGarbage.1.map Prod.fst } := by
  refine { h with exact := h.exact.takeGarbage, classOf := fun o => ?_, taken := fun o ho => ?_,
                  frames := h.frames, allocating := h.allocating, held := h.held,
                  lastObject := h.lastObject }
  · refine Eq.trans ?_ (h.classOf o)
    unfold Domain.classOf?
    rw [get?_takeGarbage, Option.map_map]
    congr 1
    funext y
    by_cases hy : isGarbage y <;> simp [hy]
  · refine (mem_fst_takeGarbage h.order).2 ⟨?_, ho⟩
    rw [get?_takeGarbage, Option.map_map] at ho
    obtain ⟨y, hy, -⟩ := Option.map_eq_some_iff.1 ho
    rw [hy, Option.map_some]
    by_contra hf
    have htaken := h.taken o (by simpa [hy] using hf)
    rw [hx] at htaken
    cases htaken

end Domain.Shows

namespace SelfTest

variable {m made : Nat} {me : ThreadId} {s : Scene} {t o : ObjectId} {x : Counter}

/-- **The scene without an object**, which a collection had taken: its counter is
destroyed. -/
def Scene.sweep (s : Scene) (o : ObjectId) : Scene where
  setting := { s.setting with
    objects := s.setting.objects.filter (fun e => e.1 ≠ o)
    taken := s.setting.taken.tail }
  counters := s.counters.filter (fun x => x.object ≠ o)
  nextHandle := s.nextHandle
  journal := if s.counters.any (fun x => x.object = o) then "MyObject deleted." :: s.journal
    else s.journal

namespace Leads

/-- **An object with a counter is reclaimed.** -/
theorem reclaim_counter (hx : x ∈ s.counters) (hidle : x.callers = []) {l : List ObjectId}
    (ht : s.setting.taken = x.object :: l) :
    Leads (Run.reclaim (.nested (m + 2)) me x.object myObjectClass) s () (s.sweep x.object) := by
  have hany : s.counters.any (fun y => y.object = x.object) = true :=
    List.any_eq_true.2 ⟨x, hx, by simp⟩
  have hsweep : s.sweep x.object = { s with
      setting := { s.setting with
        objects := s.setting.objects.filter (fun e => e.1 ≠ x.object)
        taken := l }
      counters := s.counters.filter (fun y => y.object ≠ x.object)
      journal := "MyObject deleted." :: s.journal } := by
    unfold Scene.sweep
    rw [hany, ht]
    rfl
  rw [hsweep]
  refine .bind (.bind (.record rfl) (.bind (.runBody [] Nat.zero_lt_two
    fun f => .saying _) (.pure _ _))) ?_
  refine .bind (.record rfl) (.destroy hx hidle ?_)
  exact .changeDomain (fun d hd => hd.remove ht) rfl

/-- **An object without a native side is reclaimed.** -/
theorem reclaim_other (ho : ∀ x ∈ s.counters, x.object ≠ o) {l : List ObjectId}
    (ht : s.setting.taken = o :: l) :
    Leads (Run.reclaim (.nested (m + 2)) me o testClass) s () (s.sweep o) := by
  have hsweep : s.sweep o = { s with setting := { s.setting with
      objects := s.setting.objects.filter (fun e => e.1 ≠ o)
      taken := l } } := by
    have hany : s.counters.any (fun y => y.object = o) = false :=
      List.any_eq_false.2 (by simpa using ho)
    have hfilter : s.counters.filter (fun x => x.object ≠ o) = s.counters :=
      List.filter_eq_self.2 (by simpa using ho)
    unfold Scene.sweep
    rw [hany, hfilter, ht]
    rfl
  rw [hsweep]
  refine .bind (.bind (.record rfl) (.pure _ _)) ?_
  exact .bind (.record rfl) (.bind (.destroy_none ho) (.bind (.forget_none ho)
    (.changeDomain (fun d hd => hd.remove ht) rfl)))

/-- **Everything that a collection has taken is reclaimed**, in the order in which it is
visited. -/
theorem reclaimAll {l : List (ObjectId × Class)} (hn : (l.map Prod.fst).Nodup)
    (ht : s.setting.taken = l.map Prod.fst) (hidle : ∀ x ∈ s.counters, x.callers = [])
    (hl : ∀ e ∈ l, (∃ x ∈ s.counters, x.object = e.1) ∧ e.2 = myObjectClass ∨
      (∀ x ∈ s.counters, x.object ≠ e.1) ∧ e.2 = testClass) :
    Leads (Run.reclaimAll (.nested (m + 2)) me l) s () ((l.map Prod.fst).foldl Scene.sweep s) := by
  induction l generalizing s with
  | nil => exact .pure _ _
  | cons e l ih =>
    obtain ⟨o, c⟩ := e
    obtain ⟨ho, hn⟩ := List.nodup_cons.1 hn
    have hfirst : Leads (Run.reclaim (.nested (m + 2)) me o c) s () (s.sweep o) := by
      obtain ⟨⟨x, hx, rfl⟩, rfl⟩ | ⟨hno, rfl⟩ := hl _ (List.mem_cons_self ..)
      · exact .reclaim_counter hx (hidle x hx) ht
      · exact .reclaim_other hno ht
    refine .bind hfirst (ih hn ?_ ?_ ?_)
    · exact (congrArg List.tail ht).trans rfl
    · exact fun x hx => hidle x (List.mem_filter.1 hx).1
    · intro e he
      have hne : e.1 ≠ o := fun heo => ho (List.mem_map.2 ⟨e, he, heo⟩)
      refine (hl e (List.mem_cons_of_mem _ he)).imp (And.imp_left ?_) (And.imp_left ?_)
      · rintro ⟨x, hx, hxe⟩
        exact ⟨x, List.mem_filter.2 ⟨hx, by simpa [hxe] using hne⟩, hxe⟩
      · exact fun hno x hx => hno x (List.mem_filter.1 hx).1

end Leads

/-! ## What a collection leaves

The scene after the whole batch, as a function of the scene before it. The order in which the
counters were deleted does not show in it, since they all write the same line. -/

namespace Scene

/-- Without its object, one counter fewer is live, if the object had one. -/
theorem length_sweep (hn : (s.counters.map Counter.object).Nodup) (o : ObjectId) :
    (s.sweep o).counters.length + (if s.counters.any (fun x => x.object = o) then 1 else 0) =
      s.counters.length := by
  have herase : (s.counters.map Counter.object).erase o =
      (s.sweep o).counters.map Counter.object := by
    rw [hn.erase_eq_filter, List.filter_map]
    refine congrArg _ (List.filter_congr fun x _ => ?_)
    rw [Bool.eq_iff_iff]
    simp
  have hlength := congrArg List.length herase
  rw [List.length_erase, List.length_map, List.length_map] at hlength
  have hany : s.counters.any (fun x => x.object = o) = true ↔
      o ∈ s.counters.map Counter.object := by simp
  by_cases ho : o ∈ s.counters.map Counter.object
  · have hpos : 0 < s.counters.length := by
      obtain ⟨x, hx, -⟩ := List.mem_map.1 ho
      exact List.length_pos_of_mem hx
    rw [if_pos ho] at hlength
    rw [if_pos (hany.2 ho)]
    omega
  · rw [if_neg ho] at hlength
    rw [if_neg (mt hany.1 ho)]
    omega

/-- **What objects leave that are swept one after the other**: every counter that goes has
its line in the journal. -/
theorem sweepAll (hn : (s.counters.map Counter.object).Nodup) (l : List ObjectId) :
    (l.foldl sweep s).setting = { s.setting with
      objects := s.setting.objects.filter (fun e => e.1 ∉ l)
      taken := s.setting.taken.drop l.length } ∧
    (l.foldl sweep s).counters = s.counters.filter (fun x => x.object ∉ l) ∧
    (l.foldl sweep s).nextHandle = s.nextHandle ∧
    ∃ k, k + (l.foldl sweep s).counters.length = s.counters.length ∧
      (l.foldl sweep s).journal = List.replicate k "MyObject deleted." ++ s.journal := by
  induction l generalizing s with
  | nil => exact ⟨by simp, by simp, rfl, 0, by simp, rfl⟩
  | cons o l ih =>
    have hsub : ((s.sweep o).counters.map Counter.object).Nodup :=
      hn.sublist (List.filter_sublist.map _)
    obtain ⟨hset, hcount, hnext, k, hk, hj⟩ := ih hsub
    have hlength := length_sweep hn o
    refine ⟨?_, ?_, hnext, k + if s.counters.any (fun x => x.object = o) then 1 else 0, ?_, ?_⟩
    · rw [List.foldl_cons, hset]
      simp [sweep, List.filter_filter, Bool.and_comm]
    · rw [List.foldl_cons, hcount]
      simp [sweep, List.filter_filter, Bool.and_comm]
    · rw [List.foldl_cons]
      omega
    · rw [List.foldl_cons, hj]
      by_cases hany : s.counters.any (fun x => x.object = o) = true
      · rw [if_pos hany, List.replicate_succ', List.append_assoc]
        simp [sweep, hany]
      · rw [if_neg hany]
        simp [sweep, hany]

/-- The scene where a collection has taken objects. -/
def taking (s : Scene) (l : List ObjectId) : Scene :=
  { s with setting := { s.setting with taken := l } }

/-- **The scene that a collection leaves**: the test object is on the heap, and nothing
else. -/
def collected (s : Scene) (t : ObjectId) : Scene where
  setting := { s.setting with objects := s.setting.objects.filter (fun e => e.1 = t) }
  nextHandle := s.nextHandle
  journal := List.replicate s.counters.length "MyObject deleted." ++ s.journal

/-- Its class is the only one that is left. -/
theorem classOf?_collected (s : Scene) (t o : ObjectId) :
    (s.collected t).setting.classOf? o = if o = t then s.setting.classOf? o else none :=
  Setting.classOf?_filter (p := (· = t)) rfl o

theorem lastObject_collected (s : Scene) (t : ObjectId) :
    (s.collected t).setting.lastObject = s.setting.lastObject := rfl

/-- Only the test object has an owner. -/
theorem Resting.owners_eq_zero_iff (h : s.Resting t made) : s.setting.owners o = 0 ↔ o ≠ t := by
  unfold Setting.owners
  rw [h.held, h.allocating, h.frames]
  simp [List.count_eq_zero, eq_comm]

/-- What is swept when everything goes but the test object. -/
theorem Resting.foldl_sweep (h : s.Resting t made) (hn : (s.counters.map Counter.object).Nodup)
    {l : List ObjectId} (hl : ∀ o, o ∈ l ↔ o ≠ t ∧ (s.setting.classOf? o).isSome) :
    l.foldl sweep (s.taking l) = s.collected t := by
  obtain ⟨hset, hcount, hnext, k, hk, hj⟩ := sweepAll (s := s.taking l) hn l
  have hnone : s.counters.filter (fun x => x.object ∉ l) = [] := by
    refine List.filter_eq_nil_iff.2 fun x hx => ?_
    have hx' := h.counted x hx
    have hne : x.object ≠ t := by
      intro he
      rw [he, h.test] at hx'
      exact absurd (congrArg Class.name (Option.some.inj hx')) (by decide)
    simpa using (hl _).2 ⟨hne, by rw [hx']; rfl⟩
  have hobjects : s.setting.objects.filter (fun e => e.1 ∉ l) =
      s.setting.objects.filter (fun e => e.1 = t) := by
    refine List.filter_congr fun e he => ?_
    have hsome : (s.setting.classOf? e.1).isSome := by
      unfold Setting.classOf?
      rw [Option.isSome_map, List.find?_isSome]
      exact ⟨e, he, by simp⟩
    by_cases het : e.1 = t
    · simp [(hl t).not.2 (by simp), het]
    · simp [(hl e.1).2 ⟨het, hsome⟩, het]
  have hgone : (l.foldl sweep (s.taking l)).counters = [] := hcount.trans hnone
  refine Scene.ext ?_ hgone hnext ?_
  · rw [hset]
    simp only [taking, collected, hobjects, List.drop_length, h.taken]
  · rw [hgone] at hk
    rw [hj]
    exact congrArg (fun n => List.replicate n _ ++ s.journal) hk

end Scene

/-- **The self-test collects**, in whatever order the garbage is visited. -/
theorem collect_ends (h : s.Resting t made) {w : World} (hw : w.Shows s) :
    ∃ n w', (Run.collect (.nested (m + 2)) me).Ends w (.ok n) w' ∧ w'.Shows (s.collected t) := by
  obtain ⟨g, hg⟩ : ∃ g, g = w.domain.takeGarbage.1 := ⟨_, rfl⟩
  have hmem : ∀ o c, (o, c) ∈ g ↔ s.setting.classOf? o = some c ∧ o ≠ t := by
    intro o c
    rw [hg, hw.domain.mem_takeGarbage h.taken, h.owners_eq_zero_iff]
  have hn : (g.map Prod.fst).Nodup := hg ▸ Domain.nodup_takeGarbage hw.domain.order
  have hkinds : ∀ e ∈ g, (∃ x ∈ s.counters, x.object = e.1) ∧ e.2 = myObjectClass ∨
      (∀ x ∈ s.counters, x.object ≠ e.1) ∧ e.2 = testClass := by
    intro e he
    have hclass := ((hmem e.1 e.2).1 he).1
    by_cases hx : ∃ x ∈ s.counters, x.object = e.1
    · obtain ⟨x, hx, hxe⟩ := hx
      have hcounted := h.counted x hx
      rw [hxe, hclass] at hcounted
      exact .inl ⟨⟨x, hx, hxe⟩, Option.some.inj hcounted⟩
    · exact .inr ⟨by simpa using hx, (h.others _ _ hclass).resolve_left hx⟩
  have htake : (w.onDomain w.domain.takeGarbage.2).Shows (s.taking (g.map Prod.fst)) :=
    ⟨hw.registry, hg ▸ hw.domain.takeGarbage h.taken, hw.bridge, hw.journal⟩
  have hall : ∀ o, o ∈ g.map Prod.fst ↔ o ≠ t ∧ (s.setting.classOf? o).isSome := by
    intro o
    rw [Option.isSome_iff_exists]
    constructor
    · intro ho
      obtain ⟨⟨_, c⟩, he, rfl⟩ := List.mem_map.1 ho
      obtain ⟨hc, hne⟩ := (hmem _ c).1 he
      exact ⟨hne, c, hc⟩
    · rintro ⟨hne, c, hc⟩
      exact List.mem_map.2 ⟨(o, c), (hmem o c).2 ⟨hc, hne⟩, rfl⟩
  have hreclaim : Leads (Run.reclaimAll (.nested (m + 2)) me g) (s.taking (g.map Prod.fst)) ()
      (s.collected t) := by
    rw [← h.foldl_sweep hw.bridge.objects hall]
    exact .reclaimAll hn rfl h.idle hkinds
  obtain ⟨w', hends, hw'⟩ := hreclaim _ htake
  subst hg
  exact ⟨_, w', .bind (.exchange _ w) (hends.bind (.pure _ _)), hw'⟩

end SelfTest

end HostBridge
