import HostBridge.Proofs.Domain.Covers
import HostBridge.Proofs.Domain.Idle
import HostBridge.Proofs.Domain.InHand

/-!
# Objects that last

On a host that runs on one thread, whatever panics and whatever code names what it should not
know, an object whose roots cover its owners stays covered as long as it has an owner or a root
to spare (`World.Numbered.covers_of_reaches`): every section lets such objects be
(`lasts_of_reaches`), because it takes nothing off the heap but what its thread has in
hand.

So an object with roots to spare is never freed, and neither is one that was taken and is not in
hand any more (`World.Numbered.mark_of_reaches`).

## Why not count

In an orderly run the roots of an object are exactly as many as its owners. A panic breaks the
count, since a frame that is left in the middle gives back nothing, and so does code that names
an object which is not there yet. What survives is an inequality, and in one direction only:
roots are never fewer than owners, for those objects at least for which it held at the start.
That is enough to say what is *not* freed.

The discipline `World.lasting` knows what the thread has in hand (`Errand`): the objects that it
is making, and those that its collections have taken. It asks of a section only that it lets be
what is covered. The two do not get into each other's way, since nothing that is covered is in
hand.
-/

namespace HostBridge

variable {S : ObjectId → Prop} {me : ThreadId} {run : Runner} {x : Errand} {w w' : World}
  {o : ObjectId} {rest : List ObjectId} {α β : Type}

/-- Numbers for objects have not run out. -/
def World.Numerable (w : World) : Prop := w.allocations < 2 ^ 64

instance : DecidablePred World.Numerable := fun _ => inferInstanceAs (Decidable (_ < _))

/-- **The discipline of a thread that knows what it has in hand**, and lets be what is
covered. -/
def World.lasting (S : ObjectId → Prop) (me : ThreadId) : Discipline World Errand where
  inv := fun w own => w.InHand S (own me)
  within := World.Numerable
  demand := fun w w' _ => w.domain.Lasts w'.domain

/-- **The conduct of all code**: it constructs what it was constructing before, and what was taken
is still in hand. -/
def Errand.conduct : Conduct Errand where
  rel := fun x y => y.building = x.building ∧ x.taken ⊆ y.taken
  trans := fun h h' => ⟨h'.1.trans h.1, List.Subset.trans h.2 h'.2⟩
  right := fun _ => ⟨rfl, List.Subset.refl _⟩

/-- Code of one thread lets be what is covered. -/
abbrev Lasting (S : ObjectId → Prop) (me : ThreadId) (p : Run α) : Prop :=
  p.Keeps (World.lasting S me) Errand.conduct me

theorem World.lasting_heedless : (World.lasting S me).Heedless where
  inv := fun h hi => h.steady (by rw [hi.domain]; exact ⟨⟨rfl, rfl, fun _ => rfl⟩, rfl⟩)
    hi.allocations
  demand := fun {w w' _} hi => by
    show w.domain.Lasts w'.domain
    rw [hi.domain]
    exact .refl _

theorem World.allocations_onDomain (w : World) (d : Domain) {events : List Event}
    (he : ∀ e ∈ events, e.isAllocation = false) :
    (w.onDomain d events).allocations = w.allocations :=
  allocations_append rfl he

namespace Lasting

open World (lasting lasting_heedless)

/-! ## Sections

A section of the domain lets the covered objects be, and may change what is in hand. -/

/-- **A section of the domain**, from what its thread has in hand to what it has then. -/
theorem follows_onDomain {f : Domain → α × Domain} {events : α → List Event} {k : α → Run β}
    {post : Except Crash β → Errand → Prop}
    (h : ∀ w : World, w.InHand S x → (w.onDomain (f w.domain).2 (events (f w.domain).1)).Numerable →
      w.domain.Lasts (f w.domain).2 ∧
        ∃ y, (w.onDomain (f w.domain).2 (events (f w.domain).1)).InHand S y ∧
          (k (f w.domain).1).Follows (lasting S me) me post y) :
    (Run.onDomain f events >>= k).Follows (lasting S me) me post x := by
  refine Process.Follows.exchange (fun w own hinv hme _ hs' => ?_)
  subst hme
  obtain ⟨hl, y, hy, hk⟩ := h w hinv hs'
  refine ⟨hl, y, ?_, hk⟩
  show World.InHand S _ (Function.update own me y me)
  rwa [Function.update_self]

theorem follows_changeDomain {f : Domain → Domain} {events : List Event} {k : Unit → Run β}
    {post : Except Crash β → Errand → Prop}
    (h : ∀ w : World, w.InHand S x → w.domain.Lasts (f w.domain) ∧
      ∃ y, (w.onDomain (f w.domain) events).InHand S y ∧
        (k ()).Follows (lasting S me) me post y) :
    (Run.changeDomain f events >>= k).Follows (lasting S me) me post x := by
  show (Run.onDomain (fun d => ((), f d)) (fun _ => events) >>= k).Follows _ _ _ _
  exact follows_onDomain (fun w hw _ => h w hw)

/-- **A section in which no object comes or goes.** -/
theorem onDomain {f : Domain → α × Domain} (hs : ∀ d : Domain, d.Steady (f d).2)
    (hl : ∀ d : Domain, d.Lasts (f d).2) : Lasting S me (Run.onDomain f) := by
  intro x hx
  rw [← bind_pure (Run.onDomain f)]
  exact follows_onDomain (fun w hw _ => ⟨hl w.domain, x, hw.steady (hs w.domain)
    (w.allocations_onDomain _ (by simp)), .inr hx⟩)

theorem changeDomain {f : Domain → Domain} {events : List Event}
    (he : ∀ e ∈ events, e.isAllocation = false) (hs : ∀ d : Domain, d.Steady (f d))
    (hl : ∀ d : Domain, d.Lasts (f d)) : Lasting S me (Run.changeDomain f events) := by
  intro x hx
  rw [← bind_pure (Run.changeDomain f events)]
  exact follows_changeDomain (fun w hw => ⟨hl w.domain, x, hw.steady (hs w.domain)
    (w.allocations_onDomain _ he), .inr hx⟩)

/-- Leaving a frame because of a crash, on the way to the end of a run that was nested too
deeply. -/
theorem doomed_abandonFrame (f : FrameId) :
    (Run.changeDomain (·.abandonFrame f) [.abandoned f] >>= fun _ =>
      (Process.crash .tooDeep : Run β)).Doomed (lasting S me) me :=
  fun x => follows_changeDomain (fun w hw => ⟨w.domain.lasts_abandonFrame f, x,
    hw.steady (w.domain.steady_abandonFrame f)
      (w.allocations_onDomain _ (by simp [Event.isAllocation])),
    rfl⟩)

/-- **A construction that is over** has its object out of hand. -/
theorem follows_conclude {g : Domain → Domain} {k : Unit → Run β}
    {post : Except Crash β → Errand → Prop} (hx : x.building = o :: rest)
    (hd : ∀ d : Domain, d.Loses o (g d))
    (ha : ∀ d : Domain, (g d).allocating = d.allocating.erase o)
    (hl : ∀ d : Domain, o ∈ d.allocating → d.Lasts (g d))
    (hk : (k ()).Follows (lasting S me) me post { x with building := rest }) :
    (Run.changeDomain g >>= k).Follows (lasting S me) me post x :=
  follows_changeDomain (fun w hw =>
    ⟨hl w.domain (hw.building o (hx ▸ List.mem_cons_self ..)), _,
      hw.conclude hx (hd w.domain) (ha w.domain) (w.allocations_onDomain _ (by simp)), hk⟩)

/-! ## Running managed code

Frames are opened and closed, and whatever the body does in between it does behind the runner.
A frame that a panic leaves has nothing to give back. -/

theorem releaseLocals (f : FrameId) (n : Nat) : Lasting S me (Run.releaseLocals f n) := by
  induction n with
  | zero => exact .pure _
  | succ n ih =>
    exact .bind (changeDomain (by simp) (·.steady_releaseLocal f) (·.lasts_releaseLocal f))
      (fun _ => ih)

theorem keeping (x : Context) (result : Except ManagedException ManagedValue) :
    Lasting S me (Run.keeping x result) := by
  cases result with
  | error e => exact .pure _
  | ok v =>
    exact .bind (changeDomain (by simp) (·.steady_keep x.frame v) (·.lasts_keep x.frame v))
      (fun _ => .pure _)

theorem loadAssembly (name : String) : Lasting S me (Run.loadAssembly name) := by
  refine .bind (lasting_heedless.askDomain _).keeps (fun i? => ?_)
  cases i? with
  | none => exact .pure _
  | some i =>
    refine .bind (lasting_heedless.ask _).keeps (fun r => ?_)
    split
    · exact .pure _
    · exact .bind (changeDomain (by simp) (fun _ => ⟨⟨rfl, rfl, fun _ => rfl⟩, rfl⟩)
        (fun _ => Domain.lasts_of_eq rfl rfl rfl rfl)) (fun _ => .pure _)

section Running

variable (hrun : run.Keeps ((lasting S me).manners Errand.conduct) me)

include hrun

theorem runBody (c : Class) (name : String) (body : MethodBody) (receiver : Option ObjectId)
    (args : List ManagedValue) (depth : Nat) :
    Lasting S me (Run.runBody run me c name body receiver args depth) := by
  refine .bind (lasting_heedless.askDomain _).keeps (fun limit => ?_)
  split
  · exact .pure _
  refine .bind (onDomain (·.steady_openFrame name receiver) (·.lasts_openFrame name receiver))
    (fun f => .bind (lasting_heedless.record rfl).keeps (fun _ => ?_))
  refine .attempt (hrun.managed _ _) (fun result => ?_) (fun q => ?_) (doomed_abandonFrame f)
  · exact .bind (lasting_heedless.askDomain _).keeps (fun locals => .bind (releaseLocals f _)
      (fun _ => .bind (changeDomain (by simp) (·.steady_closeFrame f) (·.lasts_closeFrame f))
        (fun _ => .pure _)))
  · exact .bind (changeDomain (by simp [Event.isAllocation]) (·.steady_abandonFrame f)
      (·.lasts_abandonFrame f)) (fun _ => .crash _)

/-! ### Construction of objects

The object is in hand from its allocation until the construction is over. -/

/-- **How a construction ends**: with its object still in hand, or with what was there
before. -/
def Made (x : Errand) : Except Crash (Except ManagedException ObjectId) → Errand → Prop
  | .ok (.ok o), y => y.building = o :: x.building ∧ x.taken ⊆ y.taken
  | .error .tooDeep, _ => True
  | _, y => Errand.conduct.rel x y

theorem follows_runConstructor (c : Class) (depth : Nat) {y : Errand}
    (hy : y.building = o :: x.building) (ht : x.taken ⊆ y.taken) :
    (Run.runConstructor run me c o depth).Follows (lasting S me) me (Made x) y := by
  unfold Run.runConstructor
  split
  · exact ⟨hy, ht⟩
  refine Process.Follows.attempt ((runBody hrun c c.constructorFrame _ (some o) [] depth y
    ⟨rfl, List.Subset.refl _⟩).mono (fun e z hz => ?_))
  match e with
  | .ok (.ok v) =>
    obtain ⟨hb, ht'⟩ := hz.resolve_left (by simp)
    exact ⟨hb.trans hy, List.Subset.trans ht ht'⟩
  | .ok (.error e) =>
    obtain ⟨hb, ht'⟩ := hz.resolve_left (by simp)
    have hd : ∀ d : Domain, d.Stays ((d.unroot o).abandonAllocation o) :=
      fun d => ⟨rfl, rfl, d.mark_unroot o⟩
    exact follows_conclude (hb.trans hy) (fun d => (hd d).loses o) (fun _ => rfl)
      (fun _ => Domain.lasts_unroot_abandonAllocation) ⟨rfl, List.Subset.trans ht ht'⟩
  | .error (.panicked q) =>
    obtain ⟨hb, ht'⟩ := hz.resolve_left (by simp)
    exact follows_conclude (hb.trans hy) (fun d => ⟨rfl, rfl, fun _ => .inl rfl⟩) (fun _ => rfl)
      (fun d _ => d.lasts_abandonAllocation o) (.crash ⟨rfl, List.Subset.trans ht ht'⟩)
  | .error .tooDeep =>
    -- nothing is known of what is in hand, and nothing needs to be
    exact follows_changeDomain (fun w hw => ⟨w.domain.lasts_abandonAllocation o, {},
      hw.forget ⟨rfl, rfl, fun _ => rfl⟩ (w.allocations_onDomain _ (by simp)), .crash trivial⟩)

/-- **A construction has its object in hand**, until it is made or has failed. -/
theorem follows_newObject (c : Class) (depth : Nat) :
    (Run.newObject run me c depth).Follows (lasting S me) me (Made x) x := by
  refine follows_onDomain (fun w hw hs' => ?_)
  have hcount : (w.onDomain (w.domain.allocate c).2 [.allocated w.domain.nextObject]).allocations =
      w.allocations + 1 :=
    List.countP_cons_of_pos rfl
  have hbound : w.allocations + 1 < 2 ^ 64 := hcount ▸ hs'
  refine ⟨Domain.lasts_allocate (hw.numbered.get?_nextObject hbound) c, _, hw.allocate hbound c, ?_⟩
  refine (lasting_heedless.construct hrun c.fullName _).follows ⟨rfl, List.Subset.refl _⟩
    (fun built y hy => ?_) (fun _ => trivial)
  cases built with
  | ok h => exact follows_runConstructor hrun c depth hy.1 hy.2
  | error e =>
    refine follows_conclude hy.1 (fun d => ?_) (fun _ => rfl)
      (fun _ => Domain.lasts_remove_abandonAllocation) ⟨rfl, hy.2⟩
    exact ⟨rfl, rfl, (d.loses_remove _).mark⟩

theorem newInstance (c : Class) : Lasting S me (Run.newInstance run me c) := by
  refine fun x hx => Process.Follows.bind ((follows_newObject hrun c 0).mono (fun e y hy => ?_))
  match e with
  | .ok (.ok o) =>
    exact follows_conclude hy.1 (fun _ => ⟨rfl, rfl, fun _ => .inl rfl⟩) (fun _ => rfl)
      (fun _ => Domain.lasts_hold) (.inr ⟨rfl, hy.2⟩)
  | .ok (.error e) => exact .inr hy
  | .error (.panicked q) => exact .inr hy
  | .error .tooDeep => exact .inl rfl

theorem managedNewObject (c : Context) (typeName : String) :
    Lasting S me (Run.managedReply run me c (.newObject typeName)) := by
  refine .bind (lasting_heedless.askDomain _).keeps (fun c? => ?_)
  cases c? with
  | error e => exact .pure _
  | ok cls =>
    refine fun x hx => Process.Follows.bind ((follows_newObject hrun cls _).mono (fun e y hy => ?_))
    match e with
    | .ok (.ok o) =>
      exact follows_conclude hy.1 (fun _ => ⟨rfl, rfl, fun _ => .inl rfl⟩) (fun _ => rfl)
        (fun _ hm => Domain.lasts_adopt hm _) (.inr ⟨rfl, hy.2⟩)
    | .ok (.error e) => exact .inr hy
    | .error (.panicked q) => exact .inr hy
    | .error .tooDeep => exact .inl rfl

/-! ### Collection

What was taken stays in hand until it is freed, or until a panic ends the collection. -/

/-- **What is freed was taken**, by a collection of the thread that frees it. -/
theorem follows_reclaim (c : Class) (ho : o ∈ x.taken) :
    (Run.reclaim run me o c).Follows (lasting S me) me
      (fun r y => r = .error .tooDeep ∨ Errand.conduct.rel x y) x := by
  have finalize : Lasting S me (Run.runFinalizer run me o c) := by
    refine .bind (lasting_heedless.record rfl).keeps (fun _ => ?_)
    split
    · exact .pure _
    · refine .bind (runBody hrun _ _ _ _ _ _) (fun result => ?_)
      cases result with
      | ok v => exact .pure _
      | error e => exact (lasting_heedless.log _ _).keeps
  have before : Lasting S me (do
      Run.runFinalizer run me o c
      Run.record (.finalization o)
      let _ ← Run.destroy run me o
      Run.forget o) :=
    .bind finalize (fun _ => .bind (lasting_heedless.record rfl).keeps (fun _ =>
      .bind (lasting_heedless.destroy hrun o).keeps (fun _ =>
        (lasting_heedless.bridged Errand.conduct me).forget o)))
  have hparts : Run.reclaim run me o c = (do
      Run.runFinalizer run me o c
      Run.record (.finalization o)
      let _ ← Run.destroy run me o
      Run.forget o) >>= fun _ => Run.changeDomain (·.remove o) [.freed o] := by
    simp only [Run.reclaim, Run.free, bind_assoc]
  rw [hparts]
  refine before.follows ⟨rfl, List.Subset.refl _⟩ (fun _ y hy => ?_)
    (fun crash y hy => hy.imp (fun hc => by rw [hc]) id)
  rw [← bind_pure (Run.changeDomain _ _)]
  have ho' : o ∈ y.taken := hy.2 ho
  refine follows_changeDomain (fun w hw => ⟨Domain.lasts_remove (hw.taken o ho'), y, ?_, .inr hy⟩)
  exact hw.remove ho' (w.domain.loses_remove o) rfl
    (w.allocations_onDomain _ (by simp [Event.isAllocation]))

theorem follows_reclaimAll (l : List (ObjectId × Class)) (hl : l.map Prod.fst ⊆ x.taken) :
    (Run.reclaimAll run me l).Follows (lasting S me) me
      (fun r y => r = .error .tooDeep ∨ Errand.conduct.rel x y) x := by
  induction l generalizing x with
  | nil => exact .inr ⟨rfl, List.Subset.refl _⟩
  | cons e rest ih =>
    obtain ⟨he, hrest⟩ := List.cons_subset.1 hl
    refine Process.Follows.bind ((follows_reclaim hrun e.2 he).mono (fun r y hy => ?_))
    cases r with
    | ok u =>
      have hxy := hy.resolve_left (by simp)
      exact (ih (List.Subset.trans hrest hxy.2)).mono
        (fun r z hz => hz.imp id (Errand.conduct.trans hxy))
    | error crash => exact hy.imp (fun hc => by cases hc; rfl) id

theorem collectOnRequest : Lasting S me (Run.collectOnRequest run me) := by
  refine .bind ?_ (fun count => .bind (lasting_heedless.record rfl).keeps (fun _ => .pure _))
  intro x hx
  refine follows_onDomain (fun w hw _ => ⟨w.domain.lasts_takeGarbage, _, hw.takeGarbage, ?_⟩)
  refine Process.Follows.bind ((follows_reclaimAll hrun _ (List.subset_append_left ..)).mono
    (fun r y hy => ?_))
  cases r with
  | ok u =>
    obtain ⟨hb, ht⟩ := hy.resolve_left (by simp)
    exact .inr ⟨hb, fun o ho => ht (List.mem_append_right _ ho)⟩
  | error crash =>
    refine hy.imp (fun hc => by cases hc; rfl) (fun hy => ⟨hy.1, fun o ho => ?_⟩)
    exact hy.2 (List.mem_append_right _ ho)

end Running

/-- **All code lets be what is covered.** -/
theorem upheld (S : ObjectId → Prop) (me : ThreadId) :
    ((lasting S me).manners Errand.conduct).Upheld me where
  toBridged := lasting_heedless.bridged _ me
  widen := fun _ hp => hp
  runBody := fun hrun => runBody hrun
  newObject := fun hrun => managedNewObject hrun
  keeping := keeping
  collect := fun hrun => collectOnRequest hrun
  newInstance := fun hrun => newInstance hrun
  dropInstance := fun o => onDomain (·.steady_release o) (·.lasts_release o)
  provide := fun _ => changeDomain (by simp) (fun _ => ⟨⟨rfl, rfl, fun _ => rfl⟩, rfl⟩)
    (fun _ => Domain.lasts_of_eq rfl rfl rfl rfl)
  load := loadAssembly

end Lasting

/-! ## Runs

Of all code, since no operation is excluded here. -/

namespace World.Numbered

variable {n : Nat} {code : NativeCode α} {q r : Course World α} {w'' : World}

/-- **A run knows what it has in hand**, wherever it comes to. -/
theorem inHand_of_reaches (hw : w.Numbered) (hS : ∀ o, S o → w.domain.mark o = some true)
    (hq : (code.course n mainThread).Reaches World.Numerable w q w') :
    ∃ x, w'.InHand S x ∧ q.Follows (World.lasting S mainThread) mainThread
      (fun e y => e = .error .tooDeep ∨ Errand.conduct.rel {} y) x := by
  have hstart : (World.lasting S mainThread).inv w (fun _ => {}) :=
    ⟨hw, by simp, by simp, List.nodup_nil, by simp,
      fun o ho => ⟨hS o ho, List.not_mem_nil, List.not_mem_nil⟩⟩
  have hupheld := Lasting.upheld S mainThread
  obtain ⟨x, hx, hf⟩ := Course.Reaches.keeps (D := World.lasting S mainThread) hq hstart
    (hupheld.runNative (hupheld.keeps_nested n) code code.asks_true _ ⟨rfl, List.Subset.refl _⟩)
  refine ⟨x, ?_, hf⟩
  simpa [World.lasting] using hx

theorem of_reaches (hw : w.Numbered)
    (hq : (code.course n mainThread).Reaches World.Numerable w q w') : w'.Numbered := by
  obtain ⟨x, hx, -⟩ := hw.inHand_of_reaches (S := fun _ => False) (fun _ => False.elim) hq
  exact hx.numbered

/-- **Every section of a run lets be what is covered**, as long as it has an owner or a root to
spare. -/
theorem lasts_of_reaches (hw : w.Numbered) {ready : World → Bool} {effect : World → World}
    {next : World → Course World α}
    (hq : (code.course n mainThread).Reaches World.Numerable w (.step ready effect next) w')
    (hr : ready w' = true) (he : (effect w').Numerable) :
    w'.domain.Lasts (effect w').domain := by
  obtain ⟨x, hx, hf⟩ := hw.inHand_of_reaches (S := fun _ => False) (fun _ => False.elim) hq
  exact (hf w' (fun _ => x) hx rfl hq.within hr he).1

/-- **What is covered stays covered**, from any point of a run to any later one, as long as it has
an owner or a root to spare. -/
theorem covers_of_reaches (hw : w.Numbered) {k : Nat}
    (hq : (code.course n mainThread).Reaches World.Numerable w q w') (hc : w'.domain.Covers o k)
    (hr : q.Reaches (fun v => v.Numerable ∧ 0 < v.domain.owners o + k) w' r w'') :
    w''.domain.Covers o k := by
  induction hr with
  | here hs => exact hc
  | enter h hready hs ih =>
    exact hw.lasts_of_reaches (hq.trans (h.mono (fun _ hv => hv.1))) hready hs.1 o k h.within.2 ih

/-- **What was taken, and is not in hand when code starts to run, is never freed.** -/
theorem mark_of_reaches (hw : w.Numbered) (ho : w.domain.mark o = some true)
    (hq : (code.course n mainThread).Reaches World.Numerable w q w') :
    w'.domain.mark o = some true := by
  obtain ⟨x, hx, -⟩ := hw.inHand_of_reaches (S := fun p => p = o) (by rintro _ rfl; exact ho) hq
  exact (hx.stranded o rfl).1

end World.Numbered

end HostBridge
