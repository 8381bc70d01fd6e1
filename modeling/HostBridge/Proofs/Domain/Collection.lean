import HostBridge.Proofs.Bridge.Identities
import HostBridge.Proofs.Domain.Classes

/-!
# Collections

A collection takes its garbage once, and then comes to one object after the other while
finalizers and destruction hooks run in between, which may make objects, dispose of
others, and collect again. Nobody but the domain constructs instances; then the
collection comes to all it took, and to each object in order: its finalizer, its native
side, its place on the heap (`collect_reclaims_garbage`).

What happens is told as a relation between states (`Run.Finalizes`, `Run.Reclaims`,
`Run.ReclaimsAll`), which speaks of the code that runs in between only as far as it has to
come to an end (`Run.Completes`). Two things keep a collection going. What it has taken
stays on the heap until it comes there; and no destruction that it asks for has to wait,
because an object under construction is no garbage and no call is running on another
thread.

## What code may do in between

A finalizer may try to keep its own object alive: it may hand it to native code that holds it,
or collect once more. An object that was taken is marked, and a
marked object is neither taken again nor removed by anyone but the collection that marked it.
So a nested collection has garbage of its own, and the objects that the outer one took are
there when it comes to them.

The instance of such an object may be gone by then, since code can destroy it directly. The
collection then finds nothing to destroy and goes on.

## How the proof goes

From what is known where the collection starts, one object is reclaimed
(`Run.Proceeds.exists_reclaims`) in a state that is again as good as the first. The induction is
on the list of what was taken. The relations are inductive types of the same shape, so each of
the facts about a whole collection, that all were visited and that all are gone, is an induction
on the relation and never looks at the code.
-/

namespace HostBridge

variable {w w' v v' : World} {o : ObjectId} {c : Class} {h : Handle} {s : Record}
  {me : ThreadId} {run : Runner} {α β γ : Type}

/-- **Numbers have not run out**, neither for objects nor for handles. -/
def World.Countable (w : World) : Prop := w.allocations < 2 ^ 64 ∧ w.constructions < 2 ^ 64

instance : DecidablePred World.Countable := fun _ => inferInstanceAs (Decidable (_ ∧ _))

/-! ## What a collection does

The relations, and what they say of the history and of the heap. -/

namespace Run

/-- **The finalizer of an object has run** from its start to its end, if its class has one.
An exception is logged. -/
inductive Finalizes (run : Runner) (me : ThreadId) (o : ObjectId) (c : Class) (w : World) :
    World → Prop
  /-- There is none. -/
  | absent (hc : c.finalizer = none) : Finalizes run me o c w (w.record (.visited o))
  /-- It returned. -/
  | returned {body : MethodBody} {value : ManagedValue} {v : World}
      (hc : c.finalizer = some body)
      (hb : (runBody run me c c.finalizerFrame body (some o) [] 0).Ends
        (w.record (.visited o)) (.ok (.ok value)) v)
      (hh : .body c.finalizerFrame (some o) [] :: .visited o :: w.history <:+ v.history) :
      Finalizes run me o c w v
  /-- It threw. -/
  | threw {body : MethodBody} {e : ManagedException} {v : World}
      (hc : c.finalizer = some body)
      (hb : (runBody run me c c.finalizerFrame body (some o) [] 0).Ends
        (w.record (.visited o)) (.ok (.error e)) v)
      (hh : .body c.finalizerFrame (some o) [] :: .visited o :: w.history <:+ v.history) :
      Finalizes run me o c w (v.record (.log .warn
        ("Finalizer of " ++ c.fullName ++ " " ++ o.render ++ " threw " ++ e.render)))

/-- **An object was reclaimed**: after its finalizer, its destruction was asked for, and it
was still there when that came to its end. A native side that was live, with no call on it,
was destroyed by this request. -/
inductive Reclaims (run : Runner) (me : ThreadId) (o : ObjectId) (c : Class) (w : World) :
    World → Prop
  | intro {w₁ w₂ : World} {b : Bool} (finalized : Finalizes run me o c w w₁)
      (destroyed : (destroy run me o).Ends (w₁.record (.finalization o)) (.ok b) w₂)
      (later : .finalization o :: w₁.history <:+ w₂.history)
      (live : ∀ h s, w₁.bridge.find? o = some h → w₁.bridge.records.get? h = some s →
        s.lifecycle = .live → s.inFlight = [] → b = true ∧ ∃ u, s.resource = some u ∧
          .destruction h u :: .condemned h :: .finalization o :: w₁.history <:+ w₂.history)
      (here : w₂.domain.heap.get? o ≠ none) :
      Reclaims run me o c w
        ((w₂.onBridge (w₂.bridge.forget o)).onDomain (w₂.domain.remove o) [.freed o])

/-- **Objects were reclaimed** one after the other. -/
inductive ReclaimsAll (run : Runner) (me : ThreadId) :
    List (ObjectId × Class) → World → World → Prop
  | nil (w : World) : ReclaimsAll run me [] w w
  | cons {e : ObjectId × Class} {rest : List (ObjectId × Class)} {w w₁ w₂ : World}
      (h : Reclaims run me e.1 e.2 w w₁) (h' : ReclaimsAll run me rest w₁ w₂) :
      ReclaimsAll run me (e :: rest) w w₂

/-- A finalizer adds to the history, and first of all that its object was come to. -/
theorem Finalizes.suffix (h : Finalizes run me o c w w') :
    .visited o :: w.history <:+ w'.history := by
  cases h with
  | absent hc => exact List.suffix_rfl
  | returned hc hb hh => exact (List.suffix_cons _ _).trans hh
  | threw hc hb hh => exact ((List.suffix_cons _ _).trans hh).trans (List.suffix_cons _ _)

theorem Reclaims.suffix (h : Reclaims run me o c w w') :
    .visited o :: w.history <:+ w'.history := by
  cases h with
  | intro finalized destroyed later live here =>
    exact ((finalized.suffix.trans (List.suffix_cons _ _)).trans later).trans
      (List.suffix_cons _ _)

theorem ReclaimsAll.suffix {l : List (ObjectId × Class)} (h : ReclaimsAll run me l w w') :
    w.history <:+ w'.history := by
  induction h with
  | nil w => exact List.suffix_rfl
  | cons h h' ih => exact ((List.suffix_cons _ _).trans h.suffix).trans ih

/-- What is told of a finalizer is what the program does. -/
theorem Finalizes.ends (h : Finalizes run me o c w w') :
    (runFinalizer run me o c).Ends w (.ok ()) w' := by
  have visit : (Run.record (.visited o)).Ends w (.ok ()) (w.record (.visited o)) := .change _ w
  unfold runFinalizer
  refine visit.bind ?_
  cases h with
  | absent hc =>
    rw [hc]
    exact .pure _ _
  | returned hc hb hh =>
    rw [hc]
    exact hb.bind (.pure _ _)
  | threw hc hb hh =>
    rw [hc]
    exact hb.bind (.change _ _)

/-- What is told of an object that was reclaimed is what the program does. -/
theorem Reclaims.ends (h : Reclaims run me o c w w') :
    (reclaim run me o c).Ends w (.ok ()) w' := by
  cases h with
  | @intro w₁ w₂ b finalized destroyed later live here =>
    have mark : (Run.record (.finalization o)).Ends w₁ (.ok ()) (w₁.record (.finalization o)) :=
      .change _ w₁
    exact finalized.ends.bind
      (mark.bind (destroyed.bind ((Process.Ends.change _ _).bind (.change _ _))))

/-- What is told of objects that were reclaimed is what the program does. -/
theorem ReclaimsAll.ends {l : List (ObjectId × Class)} (h : ReclaimsAll run me l w w') :
    (reclaimAll run me l).Ends w (.ok ()) w' := by
  induction h with
  | nil w => exact .pure _ _
  | cons h h' ih => exact h.ends.bind ih

/-- **An object that was reclaimed is off the heap.** -/
theorem Reclaims.gone (h : Reclaims run me o c w w') : w'.domain.heap.get? o = none := by
  cases h with
  | intro finalized destroyed later live here => exact (Table.get?_erase _ _ _).trans (if_pos rfl)

/-- **Objects that were reclaimed stay off the heap** while the others are reclaimed, whatever
finalizers and hooks put on it meanwhile: their numbers are not given out again. -/
theorem ReclaimsAll.gone {l : List (ObjectId × Class)} {m : Nat}
    (h : ReclaimsAll (.nested m) me l w w') (hw : w.Serial) (hb : w'.Numerable)
    (hl : ∀ o ∈ l.map Prod.fst, o.number.toNat ≤ w.domain.lastObject.toNat) :
    ∀ o ∈ l.map Prod.fst, w'.domain.heap.get? o = none := by
  induction h with
  | nil w => simp
  | @cons e rest w w₁ w₂ h h' ih =>
    have hrun : ∀ r, (Runner.nested m).Keeps (World.sectioned r me) me := fun r =>
      (World.Sectioned.upheld r me).keeps_nested m
    have hb₁ : w₁.Numerable := Nat.lt_of_le_of_lt h'.suffix.sublist.countP_le hb
    obtain ⟨hw₁, hlater⟩ := hw.later_of_ends (World.Sectioned.reclaim (hrun _) e.1 e.2) h.ends hb₁
    obtain ⟨-, hlater'⟩ :=
      hw₁.later_of_ends (World.Sectioned.reclaimAll (hrun _) rest) h'.ends hb
    obtain ⟨hfirst, hrest⟩ := List.forall_mem_cons.1 hl
    refine List.forall_mem_cons.2 ⟨?_, ih hw₁ hb fun o ho =>
      (hrest o ho).trans hlater.lastObject⟩
    exact hlater'.gone (hfirst.trans hlater.lastObject) h.gone

/-- Objects that were reclaimed have been visited. -/
theorem ReclaimsAll.visited {l : List (ObjectId × Class)} (h : ReclaimsAll run me l w w') :
    ∀ o ∈ l.map Prod.fst, .visited o ∈ w'.history := by
  induction h with
  | nil w => simp
  | cons h h' ih =>
    intro o ho
    obtain rfl | ho := List.mem_cons.1 ho
    · exact (h.suffix.trans h'.suffix).subset (List.mem_cons_self ..)
    · exact ih o ho

/-- **The code that a collection enters comes to an end**, and numbers do not run out
meanwhile: the finalizers of what it takes return or throw, and destruction hooks return
or panic. -/
structure Completes (run : Runner) (me : ThreadId) (w : World) : Prop where
  countable : ∀ q v, (collect run me).course.Reaches (fun _ => True) w q v → v.Countable
  finalizers : ∀ e ∈ w.domain.takeGarbage.1, ∀ body v earlier, e.2.finalizer = some body →
    (collect run me).course.Meets (fun _ => True) w
      (runBody run me e.2 e.2.finalizerFrame body (some e.1) [] 0) v →
    v.history = .visited e.1 :: earlier →
    ∃ result v', (runBody run me e.2 e.2.finalizerFrame body (some e.1) [] 0).Ends v
      (.ok result) v'
  hooks : ∀ h s u v earlier, v.bridge.records.get? h = some s →
    (collect run me).course.Meets (fun _ => True) w (run.native me (s.hooks.destroy h u)) v →
    v.history = .destruction h u :: earlier →
    ∃ e v', (run.native me (s.hooks.destroy h u)).Ends v e v' ∧ e ≠ .error .tooDeep

end Run

/-! ## States in which no destruction waits

A destruction waits for a construction behind its handle and for calls. On one thread neither
is going on for garbage, except for the calls that the thread itself is inside of, and those
defer the destruction instead. -/

/-- **A state of a host that runs on one thread**: its books are in order, and other
threads have no calls running. -/
structure World.InOrder (me : ThreadId) (w : World) : Prop where
  countable : w.Countable
  accounted : ∃ own, w.Accounted own ∧ ∀ t, t ≠ me → ∀ h, (own t h).calls = 0
  books : ∃ births, (Ledger.mk w births).Balanced .sole me

namespace World.InOrder

variable (hv : v.InOrder me)

include hv

/-- **What a collection has taken is not under construction.** -/
theorem isSettled (hs : v.Sound .sole)
    (hf : (v.domain.heap.get? o).map HeapObject.finalizing = some true)
    (ho : v.bridge.find? o = some h) : v.bridge.isSettled h = true := by
  obtain ⟨own, hown, -⟩ := hv.accounted
  obtain ⟨births, hb⟩ := hv.books
  unfold Bridge.isSettled
  rw [decide_eq_true_eq]
  intro hl
  obtain ⟨s, hr, hob⟩ := Option.map_eq_some_iff.1 (hown.owner o h ho)
  have hc : s.lifecycle = .constructing := by
    unfold Bridge.lifecycleAt at hl
    rwa [hr] at hl
  -- an object under construction has roots, and is taken by no collection
  have halloc : o ∈ v.domain.allocating := hob ▸ hs rfl h s hr hc
  obtain ⟨-, x, hx, hfin, -⟩ := hb.secured o halloc
  rw [hx, Option.map_some, hfin] at hf
  cases hf

/-- Calls are running on this thread only. -/
theorem inFlight_eq_nil (hr : v.bridge.records.get? h = some s) (hm : me ∉ s.inFlight) :
    s.inFlight = [] := by
  obtain ⟨own, hown, hother⟩ := hv.accounted
  obtain ⟨births, hb⟩ := hv.books
  obtain ⟨φ, hφ⟩ := hown.standing h
  refine List.eq_nil_iff_forall_not_mem.2 (fun t ht => ?_)
  have hne : t ≠ me := fun he => hm (he ▸ ht)
  have hcount : s.inFlight.count t = (own t h).calls + v.kept.count (t, h) := by
    have := hφ.tallies.calls t
    rwa [Sight.inFlight, show (v.sight h).record = some s from hr] at this
  -- another thread has none to end, and keeps none running
  have hkept : v.kept.count (t, h) = 0 :=
    List.count_eq_zero.2 (fun hk => hne (hb.hosted.kept _ hk))
  rw [hother t hne h, hkept] at hcount
  exact List.count_eq_zero.1 hcount ht

/-- A live native side without calls is open, and has its resource. -/
theorem isOpen (hr : v.bridge.records.get? h = some s) (hl : s.lifecycle = .live)
    (hi : s.inFlight = []) : s.isOpen = true ∧ ∃ u, s.resource = some u := by
  obtain ⟨own, hown, -⟩ := hv.accounted
  obtain ⟨φ, hφ⟩ := hown.standing h
  have hrec : (v.sight h).record = some s := hr
  -- a destruction that was left to the last call has calls to wait for
  have hphase : φ = .live := by
    have hφl : φ.outline.lifecycle = some .live := by
      rw [← hφ.shows.lifecycle, hrec, ← hl]
      rfl
    refine (Phase.of_live hφl).resolve_right (fun hp => ?_)
    have := hφ.shows.awaited (by rw [hp]; rfl)
    rw [Sight.inFlight, hrec] at this
    exact this hi
  have hpending := hφ.shows.pending
  have hequipped := hφ.shows.equipped
  rw [hrec, hphase] at hpending hequipped
  refine ⟨?_, Option.isSome_iff_exists.1 hequipped⟩
  unfold Record.isOpen
  rw [hl, show s.destroyPending = false from hpending]
  rfl

end World.InOrder

/-! ## Collections that come to an end

The assumption is about code: what runs behind the boundary comes to an end, wherever the
collection may run it. -/

/-- **A collection that is going to end**, by the manners of its code and wherever it comes
to. -/
structure Run.Proceeds (run : Runner) (me : ThreadId) (w : World) : Prop
    extends Run.Completes run me w where
  keeps : run.Keeps (Regime.sole.manners me) me
  inOrder : ∀ q v, (Run.collect run me).course.Reaches (fun _ => True) w q v → v.InOrder me

namespace Run.Proceeds

variable (hw : Run.Proceeds run me w)

include hw

theorem inOrder_of_meets {m : Run β}
    (hm : (Run.collect run me).course.Meets (fun _ => True) w m v) : v.InOrder me :=
  have ⟨_, hq⟩ := hm
  hw.inOrder _ _ hq

/-- **What code keeps of the books, it has kept at its end.** -/
theorem kept {m : Run β} {e : Except Crash β} {post : Ledger → Except Crash β → Ledger → Prop}
    (hm : (Run.collect run me).course.Meets (fun _ => True) w m v) (he : m.Ends v e v')
    (hf : ∀ x : Ledger, x.world = v → x.Balanced .sole me →
      m.Follows (World.rooting .sole me) me (post x) x) :
    ∃ x y : Ledger, x.world = v ∧ y.world = v' ∧ post x e y := by
  obtain ⟨births, hb⟩ := (hw.inOrder_of_meets hm).books
  have hin : ∀ q u, m.course.Reaches (fun _ => True) v q u →
      (World.rooting .sole me).within u := by
    intro q u hu
    obtain ⟨q', hq'⟩ := hm.reaches hu
    exact ⟨(hw.countable q' u hq').1, nofun⟩
  have hinv : (World.rooting .sole me).inv v (fun _ => ⟨v, births⟩) := ⟨rfl, hb⟩
  obtain ⟨y, ⟨hy, -⟩, hpost⟩ := he.keeps hin hinv (hf ⟨v, births⟩ rfl hb)
  rw [Function.update_self] at hy
  exact ⟨⟨v, births⟩, y, rfl, hy, hpost⟩

/-- Code that gives back what it found, from where no construction is running that a
collection could come upon. -/
theorem returns {m : Run β} {e : Except Crash β}
    (hm : (Run.collect run me).course.Meets (fun _ => True) w m v) (he : m.Ends v e v')
    (hs : v.Sound .sole) (hdeep : e ≠ .error .tooDeep)
    (hk : m.Keeps (World.rooting .sole me) (Ledger.native .sole) me) :
    v.Extends [] v' ∧ v'.Sound .sole := by
  obtain ⟨x, y, rfl, rfl, hpost⟩ := hw.kept hm he
    (fun x hx _ => hk x ⟨hx ▸ hs, .refl x, rfl⟩)
  have hrel := hpost.resolve_left hdeep
  exact ⟨hrel.2.1.world, hrel.2.1.sound hs⟩

/-! ### Destructions

The sections of a destruction from its request to its end, each of them ready when it is come
to. -/

/-- A destruction hook comes to an end behind the boundary. -/
theorem hook_ends {u : Resource} {member : String} (hr : v.bridge.records.get? h = some s)
    (hs : v.Sound .sole)
    (hm : (Run.collect run me).course.Meets (fun _ => True) w (catchNative member id (do
      Run.record (.destruction h u)
      run.native me (s.hooks.destroy h u)
      return Except.ok ())) v) :
    ∃ r v', (catchNative member id (do
      Run.record (.destruction h u)
      run.native me (s.hooks.destroy h u)
      return Except.ok ()) : Run (Except NativeFault Unit)).Ends v (.ok r) v' ∧
        .destruction h u :: v.history <:+ v'.history := by
  have start : (Run.record (.destruction h u)).Ends v (.ok ()) (v.record (.destruction h u)) :=
    .change _ v
  have hr' : (v.record (.destruction h u)).bridge.records.get? h = some s := hr
  have hnative := (hm.catchNative.next start).first
  obtain ⟨e, v₁, he, hdeep⟩ := hw.hooks h s u _ _ hr' hnative rfl
  obtain ⟨births, hb⟩ := (hw.inOrder_of_meets hnative).books
  have hgrown := (hw.returns hnative he hs hdeep
    (hw.keeps.native _ ((hb.hosted.hooks h s hr').destroy h u))).1.history
  have hcode : ∃ e' : Except Crash (Except NativeFault Unit), e' ≠ .error .tooDeep ∧ ((do
      Run.record (.destruction h u)
      run.native me (s.hooks.destroy h u)
      return Except.ok ()) : Run (Except NativeFault Unit)).Ends v e' v₁ := by
    cases e with
    | ok a => exact ⟨_, by simp, start.bind (he.bind (.pure _ _))⟩
    | error q => exact ⟨.error q, by simpa using hdeep, start.bind he.bind_crash⟩
  obtain ⟨e', hdeep', he'⟩ := hcode
  obtain ⟨r, v', hend, hh⟩ := he'.catchNative member id hdeep'
  exact ⟨r, v', hend, hgrown.trans hh⟩

/-- **A destruction that is under way comes to its end**, whatever its hook does. -/
theorem finishDestroy_ends (hs : v.Sound .sole)
    (hm : (Run.collect run me).course.Meets (fun _ => True) w (Run.finishDestroy run me h) v) :
    ∃ v', (Run.finishDestroy run me h).Ends v (.ok ()) v' ∧
      ∀ s u, v.bridge.records.get? h = some s → s.resource = some u →
        .destruction h u :: v.history <:+ v'.history := by
  obtain ⟨v₂, hv₂⟩ : ∃ v₂, v₂ = v.onBridge ((v.bridge.unlist h).takeResource h).2 := ⟨_, rfl⟩
  have hget : v₂.bridge.records.get? h =
      (v.bridge.records.get? h).map (fun s => { s with resource := none }) := by
    rw [hv₂]
    exact (Table.get?_modify ..).trans (if_pos rfl)
  have strike : ((Run.changeBridge (·.unlist h)) : Run Unit).Ends v (.ok ())
      (v.onBridge (v.bridge.unlist h)) := .change _ v
  have take : (Run.onBridge (·.takeResource h)).Ends (v.onBridge (v.bridge.unlist h))
      (.ok ((v.bridge.records.get? h).bind Record.resource)) v₂ := by
    rw [hv₂]
    exact .exchange _ _
  have look : (Run.askBridge (·.records.get? h)).Ends v₂ (.ok (v₂.bridge.records.get? h)) v₂ :=
    .ask _ v₂
  have last : ∀ u : World, ((Run.changeBridge (·.setLifecycle h .destroyed)) : Run Unit).Ends u
      (.ok ()) (u.onBridge (u.bridge.setLifecycle h .destroyed)) := fun u => .change _ u
  have hm := ((hm.next strike).next take).next look
  rw [hget] at look hm
  cases hr : v.bridge.records.get? h with
  | none =>
    rw [hr] at take look
    exact ⟨_, strike.bind (take.bind (look.bind (last _))), nofun⟩
  | some s =>
    rw [hr] at take look hm hget
    cases hu : s.resource with
    | none =>
      rw [Option.bind_some, hu] at take
      refine ⟨_, strike.bind (take.bind (look.bind (last _))), fun s' u hs' hu' => ?_⟩
      cases hs'
      rw [hu] at hu'
      cases hu'
    | some u =>
      rw [Option.bind_some, hu] at take hm
      obtain ⟨r, v₃, hend, hh⟩ := hw.hook_ends hget (hs.onward (hv₂ ▸ Bridge.onward_updateRecord
        _ h (fun _ => ⟨rfl, rfl, id⟩)) (hv₂ ▸ rfl)) hm.first
      have hhook : ∃ v', (Run.finishDestroy run me h).Ends v (.ok ()) v' ∧
          v₃.history <:+ v'.history := by
        cases r with
        | ok a => exact ⟨_, strike.bind (take.bind (look.bind (hend.bind (last v₃)))),
            List.suffix_rfl⟩
        | error fault => exact ⟨_, strike.bind (take.bind (look.bind (hend.bind
            ((Process.Ends.change _ _).bind (last _))))), List.suffix_cons _ _⟩
      obtain ⟨v', hv', hh'⟩ := hhook
      refine ⟨v', hv', fun s' u' hs' hu' => ?_⟩
      cases hs'
      obtain rfl := Option.some.inj (hu.symm.trans hu')
      rw [hv₂] at hh
      exact hh.trans hh'

/-- **A request for the destruction of what a collection has taken does not wait.** -/
theorem destroyRecord_ends (hs : v.Sound .sole) (hset : v.bridge.isSettled h = true)
    (hm : (Run.collect run me).course.Meets (fun _ => True) w (Run.destroyRecord run me h) v) :
    ∃ b v', (Run.destroyRecord run me h).Ends v (.ok b) v' ∧
      ∀ s, v.bridge.records.get? h = some s → s.lifecycle = .live → s.inFlight = [] →
        b = true ∧ ∃ u, s.resource = some u ∧
          .destruction h u :: .condemned h :: v.history <:+ v'.history := by
  have hv := hw.inOrder_of_meets hm
  have accepted : ∀ s, v.bridge.records.get? h = some s → s.lifecycle = .live → s.inFlight = [] →
      v.bridge.condemn me h = (.accepted, v.bridge.setLifecycle h .destructing) :=
    fun s hr hl hi => Bridge.condemn_of_isOpen hr (hv.isOpen hr hl hi).1 (by simp [hi])
  obtain hc | ⟨s, -, -, -, hc⟩ | ⟨s, hr, ho, hme, hc⟩ := v.bridge.condemn_cases me h
  · refine ⟨false, _, (Process.Ends.onBridgeWhen hset hc).bind (.pure _ _), fun s hr hl hi => ?_⟩
    simp [accepted s hr hl hi] at hc
  · refine ⟨false, _, (Process.Ends.onBridgeWhen hset hc).bind (.pure _ _), fun s hr hl hi => ?_⟩
    simp [accepted s hr hl hi] at hc
  · -- the thread is in no call on the instance, so nobody is
    have hi := hv.inFlight_eq_nil hr hme
    have verdict : (Run.onBridgeWhen (·.isSettled h) (·.condemn me h) (Run.verdictEvents h)).Ends v
        (.ok .accepted) (v.onBridge (v.bridge.setLifecycle h .destructing) [.condemned h]) :=
      .onBridgeWhen hset hc
    have hr' : (v.bridge.setLifecycle h .destructing).records.get? h =
        some { s with lifecycle := .destructing } :=
      (Table.get?_modify ..).trans ((if_pos rfl).trans (by rw [hr]; rfl))
    have wait : (Process.await (fun w : World => w.bridge.isIdle h)).Ends
        (v.onBridge (v.bridge.setLifecycle h .destructing) [.condemned h]) (.ok ())
        (v.onBridge (v.bridge.setLifecycle h .destructing) [.condemned h]) := by
      refine .await ?_
      show (v.bridge.setLifecycle h .destructing).isIdle h = true
      unfold Bridge.isIdle
      rw [hr']
      simp [hi]
    have hs' : (v.onBridge (v.bridge.setLifecycle h .destructing) [.condemned h]).Sound .sole :=
      hs.onward (v.bridge.onward_setLifecycle h (by simp)) rfl
    obtain ⟨v', hend, hh⟩ := hw.finishDestroy_ends hs' ((hm.next verdict).next wait).first
    refine ⟨true, v', verdict.bind (wait.bind (hend.bind (.pure _ _))), fun s' hs' hl _ => ?_⟩
    obtain rfl := Option.some.inj (hr.symm.trans hs')
    obtain ⟨-, u, hu⟩ := hv.isOpen hr hl hi
    exact ⟨rfl, u, hu, hh _ u hr' hu⟩

theorem destroy_ends (hs : v.Sound .sole)
    (hf : (v.domain.heap.get? o).map HeapObject.finalizing = some true)
    (hm : (Run.collect run me).course.Meets (fun _ => True) w (Run.destroy run me o) v) :
    ∃ b v', (Run.destroy run me o).Ends v (.ok b) v' ∧
      ∀ h s, v.bridge.find? o = some h → v.bridge.records.get? h = some s →
        s.lifecycle = .live → s.inFlight = [] → b = true ∧ ∃ u, s.resource = some u ∧
          .destruction h u :: .condemned h :: v.history <:+ v'.history := by
  have look : (Run.askBridge (·.find? o)).Ends v (.ok (v.bridge.find? o)) v := .ask _ v
  have hrec := hm.next look
  cases ho : v.bridge.find? o with
  | none =>
    rw [ho] at look
    exact ⟨false, v, look.bind (.pure _ _), nofun⟩
  | some h =>
    rw [ho] at look hrec
    obtain ⟨b, v', hend, hlive⟩ := hw.destroyRecord_ends hs
      ((hw.inOrder_of_meets hm).isSettled hs hf ho) hrec
    refine ⟨b, v', look.bind hend, fun g s hg => ?_⟩
    cases hg
    exact hlive s

/-! ### One object after the other

The finalizer, then the instance, then the place on the heap. -/

/-- **A finalizer comes to its end**, and its object is still there. -/
theorem exists_finalizes (hs : v.Sound .sole) (he : (o, c) ∈ w.domain.takeGarbage.1)
    (hf : (v.domain.heap.get? o).map HeapObject.finalizing = some true)
    (hm : (Run.collect run me).course.Meets (fun _ => True) w (Run.runFinalizer run me o c) v) :
    ∃ v', Run.Finalizes run me o c v v' ∧ v'.Sound .sole ∧
      (v'.domain.heap.get? o).map HeapObject.finalizing = some true := by
  have visit : (Run.record (.visited o)).Ends v (.ok ()) (v.record (.visited o)) := .change _ v
  have hm := hm.next visit
  have hs₁ : (v.record (.visited o)).Sound .sole := hs
  cases hc : c.finalizer with
  | none => exact ⟨v.record (.visited o), .absent hc, hs, hf⟩
  | some body =>
    rw [hc] at hm
    obtain ⟨result, v₁, hb⟩ := hw.finalizers (o, c) he body _ _ hc hm.first rfl
    obtain ⟨x, y, hx, rfl, -, hpost⟩ := hw.kept hm.first hb (fun x hx _ =>
      Ledger.follows_runBody hw.keeps c c.finalizerFrame body (some o) [] 0 (hx ▸ hs₁))
    obtain ⟨hrel, hstart⟩ := hpost.resolve_left (by simp)
    have hs' : y.world.Sound .sole := hrel.2.1.sound hrel.1
    have hf' : (y.world.domain.heap.get? o).map HeapObject.finalizing = some true :=
      (hrel.2.1.world.pending o (by simp) (hx ▸ hf)).2
    have hh : .body c.finalizerFrame (some o) [] :: .visited o :: v.history <:+
        y.world.history := by
      obtain ⟨births, hbal⟩ := (hw.inOrder_of_meets hm.first).books
      -- a finalizer runs at depth zero, which is never too deep
      rw [hx] at hstart
      exact hstart (hbal.depth rfl)
    cases result with
    | ok value => exact ⟨y.world, .returned hc hb hh, hs', hf'⟩
    | error e => exact ⟨_, .threw hc hb hh, hs', hf'⟩

/-- **What is left of an object goes**, after its finalizer: its destruction comes to an end,
and the object is still there until then. -/
theorem exists_reclaims_of_finalizes (hs : v.Sound .sole)
    (hf : (v.domain.heap.get? o).map HeapObject.finalizing = some true)
    (hm : (Run.collect run me).course.Meets (fun _ => True) w (Run.free run me o) v)
    (hfin : Run.Finalizes run me o c v' v) : ∃ v'', Run.Reclaims run me o c v' v'' := by
  have mark : (Run.record (.finalization o)).Ends v (.ok ()) (v.record (.finalization o)) :=
    .change _ v
  have hm := (hm.next mark).first
  have hs₁ : (v.record (.finalization o)).Sound .sole := hs
  obtain ⟨b, v₂, hend, hlive⟩ := hw.destroy_ends hs₁ hf hm
  have hret := (hw.returns hm hend hs₁ (by simp)
    (Ledger.settles_destroy hw.keeps o).keeps).1
  refine ⟨_, .intro hfin hend hret.history hlive ?_⟩
  have hf₂ := (hret.pending o (by simp) hf).2
  intro hn
  rw [hn] at hf₂
  cases hf₂

/-- **An object that a collection comes to is reclaimed.** -/
theorem exists_reclaims (hs : v.Sound .sole) (he : (o, c) ∈ w.domain.takeGarbage.1)
    (hf : (v.domain.heap.get? o).map HeapObject.finalizing = some true)
    (hm : (Run.collect run me).course.Meets (fun _ => True) w (Run.reclaim run me o c) v) :
    ∃ v', Run.Reclaims run me o c v v' := by
  obtain ⟨v₁, hfin, hs₁, hf₁⟩ := hw.exists_finalizes hs he hf hm.first
  exact hw.exists_reclaims_of_finalizes hs₁ hf₁ (hm.next hfin.ends) hfin

/-- **A collection comes to all that it has taken**: what is still to come stays where it is
while others go. -/
theorem exists_reclaimsAll (l : List (ObjectId × Class)) (hl : (l.map Prod.fst).Nodup)
    (hsub : l ⊆ w.domain.takeGarbage.1) (hs : v.Sound .sole)
    (ht : ∀ o ∈ l.map Prod.fst, ∀ births, Ledger.Taken .sole o ⟨v, births⟩)
    (hm : (Run.collect run me).course.Meets (fun _ => True) w (Run.reclaimAll run me l) v) :
    ∃ v', Run.ReclaimsAll run me l v v' := by
  -- all that is still to come has been taken, and was not come to yet
  induction l generalizing v with
  | nil => exact ⟨v, .nil v⟩
  | cons e rest ih =>
    obtain ⟨hne, hrest⟩ := List.nodup_cons.1 hl
    obtain ⟨he, hsub⟩ := List.cons_subset.1 hsub
    have hfirst := ht e.1 (List.mem_cons_self ..)
    obtain ⟨v₁, hrec⟩ := hw.exists_reclaims hs he (hfirst (fun _ => 0)).finalizing hm.first
    obtain ⟨x, y, rfl, rfl, hpost⟩ := hw.kept hm.first hrec.ends (fun x hx _ =>
      Ledger.follows_reclaim hw.keeps e.2 (hx ▸ hs) (by subst hx; exact hfirst x.births))
    have hsw := hpost.resolve_left (by simp)
    have hlater : ∀ o ∈ rest.map Prod.fst, ∀ births, Ledger.Taken .sole o ⟨y.world, births⟩ := by
      intro o ho births
      have htaken := (ht o (List.mem_cons_of_mem _ ho) x.births).sweeps hsw
        (fun hmem => hne (List.mem_singleton.1 hmem ▸ ho))
      exact ⟨htaken.finalizing, htaken.built, htaken.visits, htaken.known, nofun⟩
    obtain ⟨v', hall⟩ := ih hrest hsub (hsw.sound hs) hlater (hm.next hrec.ends)
    exact ⟨v', .cons hrec hall⟩

/-- **A collection comes to its end**, and to each object that it takes for the first
time. -/
theorem collect_ends {births : ObjectId → FrameId} (hb : (Ledger.mk w births).Balanced .sole me)
    (hs : w.Sound .sole) :
    ∃ w', (Run.collect run me).Ends w (.ok w.domain.takeGarbage.1.length) w' ∧
      Run.ReclaimsAll run me w.domain.takeGarbage.1 (w.onDomain w.domain.takeGarbage.2) w' ∧
      ∀ o ∈ w.domain.takeGarbage.1.map Prod.fst, w.visits o = 0 ∧ w'.visits o = 1 := by
  have take : (Run.onDomain Domain.takeGarbage).Ends w (.ok w.domain.takeGarbage.1)
      (w.onDomain w.domain.takeGarbage.2) := .exchange _ w
  have htaken : ∀ o ∈ w.domain.takeGarbage.1.map Prod.fst, ∀ births,
      Ledger.Taken .sole o ⟨w.onDomain w.domain.takeGarbage.2, births⟩ := by
    intro o ho births
    obtain ⟨e, he, rfl⟩ := List.mem_map.1 ho
    have := (hb.taken he).2
    exact ⟨this.finalizing, this.built, this.visits, this.known, nofun⟩
  have hs₁ : (w.onDomain w.domain.takeGarbage.2).Sound .sole :=
    (Ledger.returns_takeGarbage ⟨w, births⟩).sound hs
  have hstart : (Run.collect run me).course.Meets (fun _ => True) w (Run.collect run me) w :=
    .start _ trivial
  obtain ⟨w', hall⟩ := hw.exists_reclaimsAll w.domain.takeGarbage.1
    (Domain.nodup_takeGarbage hb.census.order) (List.Subset.refl _) hs₁ htaken
    (hstart.next take).first
  have hcollect : (Run.collect run me).Ends w (.ok w.domain.takeGarbage.1.length) w' :=
    take.bind (hall.ends.bind (.pure _ _))
  refine ⟨w', hcollect, hall, fun o ho => ⟨(htaken o ho births).visits, ?_⟩⟩
  obtain ⟨births', hb'⟩ := (hw.inOrder _ _ hcollect.reaches).books
  refine Nat.le_antisymm (hb'.census.visits o) (List.countP_pos_iff.2 ⟨_, hall.visited o ho, ?_⟩)
  simp [Event.isVisit]

end Run.Proceeds

/-! ## Every collection

Wherever the code of a host that runs on one thread begins one. -/

/-- **A run on one thread is in order** wherever it comes to, if nobody but the domain
constructs instances in it. -/
theorem World.Fresh.inOrder_of_reaches (hw : w.Fresh) (hd : w.domain.Opened)
    (hdepth : 0 < w.domain.maxCallDepth) (hr : w.registry.Asks NativeOp.NoConstruction) {n : Nat}
    {code : NativeCode α} (hcode : Program.Asks (I := nativeInterface) NativeOp.NoConstruction code)
    {q : Course World α}
    (hq : Course.Reaches World.Countable (code.course n mainThread) w q w') :
    w'.InOrder mainThread where
  countable := hq.within
  accounted := by
    obtain ⟨y, hy, -⟩ := hw.follows_of_reaches (hq.mono (fun _ h => h.2))
    refine ⟨_, hy, fun t ht h => ?_⟩
    rw [Function.update_of_ne ht]
  books := by
    obtain ⟨births, hb, -⟩ := hw.balanced_of_reaches (r := .sole) hd hr (fun _ => hdepth) hcode
      (hq.mono (fun _ h => ⟨h.1, nofun⟩))
    exact ⟨births, hb⟩

/-- **A collection reclaims its garbage**, wherever a run on one thread comes to it in which
nobody but the domain constructs instances:
* what it takes is what has no roots and was not taken before, and it answers how many
  objects that are;
* it reclaims them one after the other, whatever finalizers throw;
* in the end all of them are off the heap;
* no object is come to twice in the whole run, and so each of them once. -/
theorem collect_reclaims_garbage {w : World} (hw : w.Fresh) (hd : w.domain.Opened)
    (hdepth : 0 < w.domain.maxCallDepth) (hr : w.registry.Asks NativeOp.NoConstruction) (n : Nat)
    (code : NativeCode α)
    (hcode : Program.Asks (I := nativeInterface) NativeOp.NoConstruction code) :
    (∀ q w', Course.Reaches World.Countable (code.course n mainThread) w q w' →
      ∀ o, w'.visits o ≤ 1) ∧
    ∀ m w', (code.course n mainThread).Meets World.Countable w
        (Run.collect (.nested m) mainThread) w' →
      Run.Completes (.nested m) mainThread w' →
      ∃ g w₁ w'', w₁ = w'.onDomain w'.domain.takeGarbage.2 ∧
        (∀ o c, (o, c) ∈ g ↔ ∃ x, w'.domain.heap.get? o = some x ∧ x.roots = 0 ∧
          x.finalizing = false ∧ x.cls = c) ∧
        (∀ o, o ∈ g.map Prod.fst ↔
          (w'.domain.heap.get? o).map HeapObject.finalizing = some false ∧
            (w₁.domain.heap.get? o).map HeapObject.finalizing = some true) ∧
        (g.map Prod.fst).Nodup ∧
        (Run.collect (.nested m) mainThread).Ends w' (.ok g.length) w'' ∧
        Run.ReclaimsAll (.nested m) mainThread g w₁ w'' ∧
        (∀ o ∈ g.map Prod.fst, w''.domain.heap.get? o = none) ∧
        ∀ o ∈ g.map Prod.fst, w'.visits o = 0 ∧ w''.visits o = 1 := by
  refine ⟨fun q w' hq o => ?_, fun m w' hm hc => ?_⟩
  · obtain ⟨births, hb⟩ := (hw.inOrder_of_reaches hd hdepth hr hcode hq).books
    exact hb.census.visits o
  obtain ⟨k, hk⟩ := hm
  obtain ⟨births, hb, hf⟩ := hw.balanced_of_reaches (r := .sole) hd hr (fun _ => hdepth) hcode
    (hk.mono (fun _ h => ⟨h.1, nofun⟩))
  have hproceeds : Run.Proceeds (.nested m) mainThread w' := {
    hc with
    keeps := (Ledger.rooted .sole mainThread).keeps_nested m
    inOrder := fun q v hv => hw.inOrder_of_reaches hd hdepth hr hcode
      (hk.trans ((hv.of_forall hc.countable).after k)) }
  -- the section that takes the garbage is where the discipline demands this
  have hs : w'.Sound .sole := by
    have hin : (World.rooting .sole mainThread).within w' := ⟨hk.within.1, nofun⟩
    obtain ⟨hdemand, -⟩ := hf w' (fun _ => ⟨w', births⟩) ⟨rfl, hb⟩ rfl hin rfl hin
    exact hdemand.2 (Nat.succ_ne_self _)
  obtain ⟨w'', hend, hall, hvisits⟩ := hproceeds.collect_ends hb hs
  have hkeep := Domain.KeepsClasses.takeGarbage w'.domain
  obtain ⟨hserial, -⟩ : (w'.onDomain w'.domain.takeGarbage.2).Serial ∧
      w'.domain.Later w'.domain.takeGarbage.2 :=
    hb.census.serial.keep rfl hkeep.classOf? List.suffix_rfl
  have hknown : ∀ o ∈ w'.domain.takeGarbage.1.map Prod.fst,
      o.number.toNat ≤ w'.domain.takeGarbage.2.lastObject.toNat := by
    intro o ho
    obtain ⟨e, he, rfl⟩ := List.mem_map.1 ho
    exact (hb.taken he).2.known.trans hb.census.numbered.ge
  have hgone := hall.gone hserial (hc.countable _ _ hend.reaches).1 hknown
  exact ⟨w'.domain.takeGarbage.1, _, w'', rfl, fun o c => Domain.mem_takeGarbage hb.census.order,
    fun o => Domain.mem_fst_takeGarbage hb.census.order,
    Domain.nodup_takeGarbage hb.census.order, hend, hall, hgone, hvisits⟩

/-! ## An object that would rather stay

Its finalizer throws, and it is freed all the same. -/

/-- A class with a native side, whose finalizer throws. -/
def grudging : Class where
  scope := ""
  name := "T"
  finalizer := some fun _ => .done (.error ⟨"System.Exception", "not yet", []⟩)

/-- Makes an object, lets go of it and collects. -/
def discarding : NativeCode Unit :=
  .perform (.newInstance grudging) fun _ => .perform (.dropInstance ⟨1⟩) fun _ =>
    .perform .collect fun _ => .done ()

/-- Where the object has been made. -/
def grudgingMade : World :=
  ((Run.nativeReply (.nested 1) mainThread (.newInstance grudging)).advance plainHost).2

/-- Where nobody holds it. -/
def grudgingDropped : World :=
  ((Run.nativeReply (.nested 1) mainThread (.dropInstance ⟨1⟩)).advance grudgingMade).2

/-- Whether the code that a collection enters next comes to an end. -/
def World.isPassable (w : World) : Bool :=
  decide w.Countable && match w.history with
    | .visited _ :: _ =>
      ((Run.runBody (.nested 1) mainThread grudging grudging.finalizerFrame
        (fun _ => .done (.error ⟨"System.Exception", "not yet", []⟩)) (some ⟨1⟩) [] 0).advance
          w).1.isDone
    | .destruction h u :: _ => (w.bridge.records.get? h).all (fun s =>
        (((Runner.nested 1).native mainThread (s.hooks.destroy h u)).advance w).1.isDone)
    | _ => true

theorem plainHost_asks : plainHost.registry.Asks NativeOp.NoConstruction where
  calls := fun m c hc => by cases hc
  types := fun typeName hooks hh => by
    unfold plainHost Registry.hooks? World.start at hh
    rw [Table.get?_insert] at hh
    split at hh
    · cases hh
      exact ⟨fun _ => trivial, fun _ _ => trivial⟩
    · cases hh

theorem discarding_asks :
    Program.Asks (I := nativeInterface) NativeOp.NoConstruction discarding := by
  simp [discarding, Program.Asks, NativeOp.NoConstruction]

theorem discarding_passable :
    (discarding.course 1 mainThread).Always (fun w => w.isPassable = true) plainHost := by
  decide +kernel

theorem discarding_meets : (discarding.course 1 mainThread).Meets (fun _ => True) plainHost
    (Run.collect (.nested 1) mainThread) grudgingDropped := by
  have make : (Run.nativeReply (.nested 1) mainThread (.newInstance grudging)).Ends plainHost
      (.ok (.ok ⟨1⟩)) grudgingMade := rfl
  have drop : (Run.nativeReply (.nested 1) mainThread (.dropInstance ⟨1⟩)).Ends grudgingMade
      (.ok true) grudgingDropped := rfl
  have start : (discarding.course 1 mainThread).Meets (fun _ => True) plainHost
      (Run.runNative (.nested 1) mainThread discarding) plainHost := .start _ trivial
  exact ((start.next make).next drop).first.first

theorem grudgingDropped_completes : Run.Completes (.nested 1) mainThread grudgingDropped := by
  have hpass : ∀ q v, (Run.collect (.nested 1) mainThread).course.Reaches (fun _ => True)
      grudgingDropped q v → v.isPassable = true := by
    intro q v hv
    obtain ⟨r, hr⟩ := discarding_meets.reaches hv
    exact (hr.always discarding_passable).here
  refine ⟨fun q v hv => ?_, ?_, ?_⟩
  · exact of_decide_eq_true (Bool.and_eq_true_iff.1 (hpass q v hv)).1
  · rintro e he body v earlier hbody ⟨k, hk⟩ hh
    obtain rfl : e = (⟨1⟩, grudging) := List.mem_singleton.1 he
    obtain rfl := Option.some.inj hbody
    have hv := (Bool.and_eq_true_iff.1 (hpass _ v hk)).2
    rw [hh] at hv
    exact Process.Ends.of_isDone hv
  · rintro h s u v earlier hs ⟨k, hk⟩ hh
    have hv := (Bool.and_eq_true_iff.1 (hpass _ v hk)).2
    rw [hh] at hv
    dsimp only at hv
    rw [hs] at hv
    obtain ⟨a, v', he⟩ := Process.Ends.of_isDone hv
    exact ⟨.ok a, v', he, by simp⟩

/-- The finalizer throws, and the object is reclaimed all the same. -/
theorem collect_reclaims_garbage_grudging :
    ∃ n w', (Run.collect (.nested 1) mainThread).Ends grudgingDropped (.ok n) w' ∧
      w'.domain.heap.get? ⟨1⟩ = none ∧ w'.visits ⟨1⟩ = 1 := by
  have hmeets : (discarding.course 1 mainThread).Meets World.Countable plainHost
      (Run.collect (.nested 1) mainThread) grudgingDropped := by
    obtain ⟨k, hk⟩ := discarding_meets
    refine ⟨k, hk.of_forall (fun _ v hv => ?_)⟩
    exact of_decide_eq_true (Bool.and_eq_true_iff.1 (hv.always discarding_passable).here).1
  obtain ⟨-, hcollections⟩ := collect_reclaims_garbage plainHost_fresh plainHost_opened (by decide)
    plainHost_asks 1 discarding discarding_asks
  obtain ⟨g, -, w', -, hg, -, -, hend, -, hgone, hvisits⟩ :=
    hcollections 1 grudgingDropped hmeets grudgingDropped_completes
  have hmem : (⟨1⟩, grudging) ∈ g := (hg _ _).2 ⟨_, rfl, rfl, rfl, rfl⟩
  have hfirst : ⟨1⟩ ∈ g.map Prod.fst := List.mem_map.2 ⟨_, hmem, rfl⟩
  exact ⟨_, w', hend, hgone _ hfirst, (hvisits _ hfirst).2⟩

end HostBridge
