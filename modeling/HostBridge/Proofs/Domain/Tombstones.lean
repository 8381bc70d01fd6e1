import HostBridge.Proofs.Bridge.Holding
import HostBridge.Proofs.Domain.Collection

/-!
# What a collection leaves behind

A collection frees an object in three steps: it asks for the destruction of the native
side, forgets the record of the instance, and takes the object off the heap. The record
of an instance is forgotten only where it was destroyed. So nothing is left behind
exactly if the instance was **at rest** (`Bridge.AtRest`): not there, destroyed before,
or live and in no call. Otherwise the destruction is left to the last call to end, or
under way already, and there is nothing to forget yet (`freed_without_trace_iff`). When
it is over, a tombstone stays behind that nobody forgets any more
(`tombstone_outlives_object`).

That only the collection forgets records is what makes the tombstone stay: it comes to each
object once, and an object that is off the heap is not come to again. The record is still found
by the object, and it says that the instance was destroyed.

All this is about one thread. A second one could take part in the destruction that the
collection asks for, and the collection would wait for it. The proofs here use the invariant of
all threads, with the stakes of the one thread handed over to another, to say of a hook what the
invariant says of other threads only: it does not touch the handle that is being destroyed.
-/

namespace HostBridge

variable {α β : Type} {b b' : Bridge} {w w' v v' : World} {me : ThreadId} {o : ObjectId}
  {h : Handle} {own own' : ThreadId → Stakes}

/-! ## The instance behind a handle -/

/-- **The instance behind a handle never changes** after its construction. -/
theorem World.Fresh.object_of_reaches (hw : w.Fresh) {n : Nat} {code : ThreadId → NativeCode α}
    {t u : Threads World α}
    (ht : (w.threads n code).Reaches (fun w => w.constructions < 2 ^ 64) t)
    (hu : t.Reaches (fun w => w.constructions < 2 ^ 64) u)
    (hc : .constructed h ∈ t.state.history) :
    .constructed h ∈ u.state.history ∧ ∀ r', u.state.bridge.records.get? h = some r' →
      ∃ r, t.state.bridge.records.get? h = some r ∧ r'.object = r.object := by
  obtain ⟨hcu, horigin⟩ := hw.origin_of_reaches ht hu hc
  refine ⟨hcu, fun r' hr' => ?_⟩
  obtain ⟨r, hr, ho⟩ := horigin r' hr'
  exact ⟨r, hr, congrArg Prod.fst ho⟩

/-! ## Handing work over

A thread that runs a hook has its own destruction to finish, and the hook does not know. It is
as if another thread had to finish it, of which the hook may do nothing to get in the way. -/

/-- The stakes in which one thread has handed its work over to another. The calls that it
has to end remain with it. -/
def handedOver (own : ThreadId → Stakes) (me you : ThreadId) : ThreadId → Stakes :=
  Function.update
    (Function.update own you fun h => { work := (own me h).work, calls := (own you h).calls })
    me fun h => { work := none, calls := (own me h).calls }

section HandOver

variable {you : ThreadId}

theorem handedOver_self (own : ThreadId → Stakes) (me you : ThreadId) (h : Handle) :
    handedOver own me you me h = { work := none, calls := (own me h).calls } := by
  unfold handedOver
  rw [Function.update_self]

theorem handedOver_other (own : ThreadId → Stakes) (hyou : you ≠ me) (h : Handle) :
    handedOver own me you you h = { work := (own me h).work, calls := (own you h).calls } := by
  unfold handedOver
  rw [Function.update_of_ne hyou, Function.update_self]

theorem handedOver_calls (own : ThreadId → Stakes) (me you t : ThreadId) (h : Handle) :
    (handedOver own me you t h).calls = (own t h).calls := by
  unfold handedOver
  by_cases ht : t = me
  · subst ht
    rw [Function.update_self]
  rw [Function.update_of_ne ht]
  by_cases ht' : t = you
  · subst ht'
    rw [Function.update_self]
  · rw [Function.update_of_ne ht']

/-- **Work may be handed over** to a thread that has none. Whoever has handed its work over
may run code again. -/
theorem World.Accounted.handOver (hw : w.Accounted own) (hyou : you ≠ me)
    (hnone : ∀ h, (own you h).work = none) : w.Accounted (handedOver own me you) := by
  refine { hw with standing := fun h => ?_ }
  obtain ⟨φ, hφ⟩ := hw.standing h
  have htallies : (w.sight h).Tallies h (fun t => handedOver own me you t h) :=
    hφ.tallies.congr rfl (fun t => by rw [handedOver_calls]) rfl rfl
  have hothers : ∀ t, t ≠ me → t ≠ you → handedOver own me you t h = own t h := by
    intro t ht ht'
    unfold handedOver
    rw [Function.update_of_ne ht, Function.update_of_ne ht']
  cases hk : (own me h).work with
  | none =>
    refine ⟨φ, { hφ with tallies := htallies, work := fun t => ?_ }⟩
    rw [← hφ.work t]
    by_cases ht : t = me
    · rw [ht, handedOver_self, hk]
    by_cases ht' : t = you
    · rw [ht', handedOver_other own hyou, hk, hnone]
    · rw [hothers t ht ht']
  | some k =>
    obtain rfl := hφ.held hk
    refine ⟨.held you k, ⟨hφ.shows, hφ.tells, htallies, fun t => ?_, fun t o ho => ?_⟩⟩
    · show _ = if you = t then some k else none
      by_cases ht : t = me
      · rw [ht, handedOver_self, if_neg hyou]
      by_cases ht' : t = you
      · rw [ht', handedOver_other own hyou, if_pos rfl]
        exact hk
      · rw [hothers t ht ht', if_neg (fun h => ht' h.symm)]
        exact (hφ.work t).trans (if_neg (fun h => ht h.symm))
    · obtain ⟨-, rfl⟩ := Phase.held.inj ho
      exact hφ.object me o rfl

end HandOver

/-- What is being destroyed was constructed, and is the latest of its instance. -/
theorem World.Accounted.destroying (hw : w.Accounted own)
    (hk : (own me h).work = some .destroying) : .constructed h ∈ w.history ∧
      ∃ r, w.bridge.records.get? h = some r ∧ w.bridge.find? r.object = some h := by
  obtain ⟨φ, hφ⟩ := hw.standing h
  obtain rfl := hφ.held hk
  obtain ⟨r, hr, -⟩ := hφ.shows.exists_record rfl
  have hcurrent : w.isCurrent h = true := hφ.shows.current rfl
  have hr' : w.bridge.records.get? h = some r := hr
  unfold World.isCurrent at hcurrent
  rw [hr'] at hcurrent
  have hconstructed : .constructed h ∈ w.past h := hφ.tells.built.2 rfl
  exact ⟨(List.mem_filter.1 hconstructed).1, r, hr', of_decide_eq_true hcurrent⟩

/-- The only thread with work is destroying what it has started to destroy. -/
theorem World.Accounted.work_of_destruction {u : Resource} {r : Record}
    (hw : (w.record (.destruction h u)).Accounted own)
    (hnone : ∀ you, you ≠ me → ∀ h, (own you h).work = none)
    (hr : w.bridge.records.get? h = some r) (hl : r.lifecycle = .destructing) :
    (own me h).work = some .destroying := by
  obtain ⟨φ, hφ, hphase⟩ := hw.standing_of_destruction (List.mem_cons_self ..)
  have hlifecycle : some .destructing = φ.outline.lifecycle := by
    rw [← hφ.shows.lifecycle, show ((w.record (.destruction h u)).sight h).record = some r from hr,
      Option.map_some, hl]
  obtain ⟨t, rfl⟩ | rfl := hphase
  · have ht : (own t h).work = some .destroying := (hφ.work t).trans (if_pos rfl)
    by_cases htme : t = me
    · exact htme ▸ ht
    · rw [hnone t htme] at ht
      cases ht
  · cases hlifecycle

/-- **Native code leaves alone what its thread is destroying**, because somebody else might be
destroying it as well. -/
theorem World.Accounted.of_native {run : Runner} (hw : v.Accounted own)
    (hrun : run.Keeps World.bridgeManners me) {code : NativeCode β} {e : Except Crash β}
    (he : (run.native me code).Ends v e v')
    (hcount : ∀ q u, (run.native me code).course.Reaches (fun _ => True) v q u →
      u.constructions < 2 ^ 64) {you : ThreadId} (hyou : you ≠ me)
    (hnone : ∀ h, (own you h).work = none) :
    ∃ own', v'.Accounted own' ∧ ∀ h, (own' you h).work = (own me h).work := by
  have hpresentable : (handedOver own me you me).Presentable := by
    intro h
    rw [handedOver_self]
    simp
  obtain ⟨y, hy, -⟩ := he.keeps (D := World.bridging) hcount (hw.handOver hyou hnone)
    (hrun.native code (Program.asks_true _) _ ⟨hpresentable, rfl⟩)
  refine ⟨_, hy, fun h => ?_⟩
  rw [Function.update_of_ne hyou, handedOver_other own hyou]

/-! ## What is left of an instance -/

/-- **An instance is at rest**: if it has a record, it was destroyed, or is live and in no
call. -/
def Bridge.AtRest (b : Bridge) (o : ObjectId) : Prop :=
  ∀ h r, b.find? o = some h → b.records.get? h = some r →
    r.lifecycle = .destroyed ∨ r.isOpen = true ∧ r.inFlight = []

theorem Bridge.find?_forget (b : Bridge) (o : ObjectId) :
    (b.forget o).find? o = none ↔ b.find? o = none ∨ b.state o = .destroyed := by
  unfold forget
  split
  · next hs => simp [hs, withdraw, find?, Table.get?_erase]
  · next hs => simp [hs]

/-! ## Requests for destruction

The three ends of a request, and what each of them says about the record. -/

/-- **A request for destruction that is over** was refused, or left to the last call to end,
or has come to the destruction itself because nobody was calling. -/
theorem Process.Ends.of_destroyRecord {run : Runner} {r : Record} {done : Bool}
    (he : (Run.destroyRecord run me h).Ends v (.ok done) v')
    (hr : v.bridge.records.get? h = some r) :
    (r.isOpen = false ∧ v' = v) ∨
    (r.isOpen = true ∧ r.inFlight ≠ [] ∧
      v'.bridge = v.bridge.updateRecord h (fun r => { r with destroyPending := true })) ∨
    (r.isOpen = true ∧ r.inFlight = [] ∧
      (Run.finishDestroy run me h).Ends
        (v.onBridge (v.bridge.setLifecycle h .destructing) [.condemned h]) (.ok ()) v' ∧
      ∀ {p : Course World α}, p.Meets (fun _ => True) w (Run.destroyRecord run me h) v →
        p.Meets (fun _ => True) w (Run.finishDestroy run me h)
          (v.onBridge (v.bridge.setLifecycle h .destructing) [.condemned h])) := by
  have hsettled : v.bridge.isSettled h = true := by
    obtain ⟨verdict, v₁, hcondemned, -⟩ := he.of_bind_ok
    exact hcondemned.ready
  cases hopen : r.isOpen with
  | false =>
    have hc : v.bridge.condemn me h = (.refused, v.bridge) := by
      unfold Bridge.condemn
      rw [hr]
      simp [hopen]
    cases he.rest (.onBridgeWhen hsettled hc)
    exact .inl ⟨rfl, rfl⟩
  | true =>
    by_cases hcaller : me ∈ r.inFlight
    · have hc : v.bridge.condemn me h =
          (.deferred, v.bridge.updateRecord h (fun r => { r with destroyPending := true })) := by
        unfold Bridge.condemn
        rw [hr]
        simp [hopen, hcaller]
      cases he.rest (.onBridgeWhen hsettled hc)
      exact .inr (.inl ⟨rfl, List.ne_nil_of_mem hcaller, rfl⟩)
    · have verdict : (Run.onBridgeWhen (·.isSettled h) (·.condemn me h)
          (Run.verdictEvents h)).Ends v (.ok .accepted)
          (v.onBridge (v.bridge.setLifecycle h .destructing) [.condemned h]) :=
        .onBridgeWhen hsettled (Bridge.condemn_of_isOpen hr hopen hcaller)
      replace he := he.rest verdict
      obtain ⟨_, v₁, hwait, -⟩ := he.of_bind_ok
      have hidle : (v.bridge.setLifecycle h .destructing).isIdle h = true := hwait.of_await
      have wait : (Process.await (fun w : World => w.bridge.isIdle h)).Ends
          (v.onBridge (v.bridge.setLifecycle h .destructing) [.condemned h]) (.ok ())
          (v.onBridge (v.bridge.setLifecycle h .destructing) [.condemned h]) := .await hidle
      obtain ⟨_, v₂, hdestroyed, hend⟩ := (he.rest wait).of_bind_ok
      cases hend
      refine .inr (.inr ⟨rfl, ?_, hdestroyed, fun hm => ((hm.next verdict).next wait).first⟩)
      unfold Bridge.isIdle at hidle
      rw [show (v.bridge.setLifecycle h .destructing).records.get? h = _ from
        Bridge.get?_updateRecord hr _] at hidle
      simpa using hidle

/-! ## Destructions on one thread

From the request of a collection to what can be forgotten after it. -/

section Alone

variable {n m : Nat} {code : NativeCode α} (hw : w.Fresh)
  (hcount : ∀ q u, (code.course n mainThread).Reaches (fun _ => True) w q u →
    u.constructions < 2 ^ 64)

include hw hcount

/-- On one thread, no other has work. -/
theorem World.Fresh.accounted_of_meets {p : Run β}
    (hm : (code.course n mainThread).Meets (fun _ => True) w p v) :
    ∃ own, v.Accounted own ∧ ∀ you, you ≠ mainThread → ∀ h, (own you h).work = none := by
  obtain ⟨k, hk⟩ := hm
  obtain ⟨y, hy, -⟩ := hw.follows_of_reaches (hk.of_forall hcount)
  refine ⟨_, hy, fun you hyou h => ?_⟩
  rw [Function.update_of_ne hyou]

theorem World.Fresh.object_of_ends {p : Run β} {e : Except Crash β}
    (hm : (code.course n mainThread).Meets (fun _ => True) w p v) (he : p.Ends v e v')
    (hc : .constructed h ∈ v.history) {r' : Record} (hr' : v'.bridge.records.get? h = some r') :
    ∃ r, v.bridge.records.get? h = some r ∧ r'.object = r.object := by
  obtain ⟨k, hk⟩ := hm
  have hall := he.reaches.after k
  obtain ⟨t, ht, rfl, htodo, -⟩ := Threads.reaches_alone (hk.of_forall hcount)
    (show (w.threads n fun _ => code).todo mainThread = _ from rfl)
  have hwithin : (p.course.after k).Reaches (fun w => w.constructions < 2 ^ 64) t.state
      ((Course.finish e).after k) v' :=
    hall.of_forall (fun q u hu => hcount q u (hk.trans hu))
  obtain ⟨u, hu, rfl, -, -⟩ := Threads.reaches_alone hwithin htodo
  exact (hw.object_of_reaches ht hu hc).2 r' hr'

/-! ### What a destruction leaves

A tombstone, behind the handle that the instance had. A hook that runs in between might construct
another instance for the object, and does not, because the one that is being destroyed is in the
way. -/

/-- **A destruction hook leaves its instance alone**: whatever it does, the latest record of the
instance is the one that is being destroyed. -/
theorem World.Fresh.hook_leaves {code' : NativeCode β} {u : Resource} {r : Record}
    {e : Except Crash β}
    (hm : (code.course n mainThread).Meets (fun _ => True) w
      ((Runner.nested m).native mainThread code') (v.record (.destruction h u)))
    (he : ((Runner.nested m).native mainThread code').Ends (v.record (.destruction h u)) e v')
    (hr : v.bridge.records.get? h = some r) (hl : r.lifecycle = .destructing) :
    v'.bridge.find? r.object = some h ∧ ∃ r', v'.bridge.records.get? h = some r' := by
  obtain ⟨own, hown, hnone⟩ := hw.accounted_of_meets hcount hm
  have hwork := hown.work_of_destruction hnone hr hl
  -- no other thread is there, so it can hold the work meanwhile
  obtain ⟨own', hown', hwork'⟩ := hown.of_native ((bridged mainThread).keeps_nested m) he
    (fun q s hs => have ⟨q', hq'⟩ := hm.reaches hs; hcount q' s hq')
    (show 1 ≠ mainThread by decide) (hnone 1 (by decide))
  obtain ⟨hconstructed, -⟩ := hown.destroying hwork
  obtain ⟨-, r', hr', ho'⟩ := hown'.destroying ((hwork' h).trans hwork)
  obtain ⟨s, hs, hobject⟩ := hw.object_of_ends hcount hm he hconstructed hr'
  obtain rfl := Option.some.inj (hs.symm.trans hr)
  exact ⟨hobject ▸ ho', r', hr'⟩

/-- **A destruction that has ended** has left a tombstone. -/
theorem World.Fresh.finishDestroy_leaves {r : Record}
    (hm : (code.course n mainThread).Meets (fun _ => True) w
      (Run.finishDestroy (.nested m) mainThread h) v)
    (he : (Run.finishDestroy (.nested m) mainThread h).Ends v (.ok ()) v')
    (ho : v.bridge.find? o = some h) (hr : v.bridge.records.get? h = some r)
    (hl : r.lifecycle = .destructing) : v'.bridge.state o = .destroyed := by
  -- the last section destroys the instance, if its handle is still that of the record
  have last : ∀ (u u' : World) (s : Record), u.bridge.find? o = some h →
      u.bridge.records.get? h = some s →
      (Run.changeBridge (·.setLifecycle h .destroyed)).Ends u (.ok ()) u' →
      u'.bridge.state o = .destroyed := by
    intro u u' s hu hs hend
    cases hend
    exact Bridge.state_setLifecycle hu hs _
  obtain rfl : r.object = o := by
    obtain ⟨own, hown, -⟩ := hw.accounted_of_meets hcount hm
    have := hown.owner o h ho
    rw [hr] at this
    exact Option.some.inj this
  obtain ⟨v₂, hv₂⟩ : ∃ v₂, v₂ = v.onBridge ((v.bridge.unlist h).takeResource h).2 := ⟨_, rfl⟩
  have hr' : (v.bridge.unlist h).records.get? h = some r := hr
  have ho₂ : v₂.bridge.find? r.object = some h := by
    rw [hv₂]
    exact ho
  have hr₂ : v₂.bridge.records.get? h = some { r with resource := none } := by
    rw [hv₂]
    exact Bridge.get?_updateRecord hr' _
  have strike : ((Run.changeBridge (·.unlist h)) : Run Unit).Ends v (.ok ())
      (v.onBridge (v.bridge.unlist h)) := .change _ v
  have take : (Run.onBridge (·.takeResource h)).Ends (v.onBridge (v.bridge.unlist h))
      (.ok r.resource) v₂ := by
    have : (Run.onBridge (·.takeResource h)).Ends (v.onBridge (v.bridge.unlist h))
        (.ok (((v.bridge.unlist h).records.get? h).bind Record.resource)) v₂ := by
      rw [hv₂]
      exact .exchange _ _
    rwa [hr'] at this
  have look : (Run.askBridge (·.records.get? h)).Ends v₂ (.ok (some { r with resource := none }))
      v₂ := by
    rw [← hr₂]
    exact .ask _ v₂
  have hm := ((hm.next strike).next take).next look
  replace he := ((he.rest strike).rest take).rest look
  cases hu : r.resource with
  | none =>
    rw [hu] at he
    exact last _ _ _ ho₂ hr₂ he
  | some u =>
    rw [hu] at he hm
    obtain ⟨ended, v₃, hhook, he⟩ := he.of_bind_ok
    obtain ⟨e, v₄, hcode, -, hbridge⟩ := hhook.of_catchNative
    have tell : (Run.record (.destruction h u)).Ends v₂ (.ok ())
        (v₂.record (.destruction h u)) := .change _ v₂
    obtain ⟨e', hend⟩ : ∃ e', ((Runner.nested m).native mainThread (r.hooks.destroy h u)).Ends
        (v₂.record (.destruction h u)) e' v₄ := by
      obtain ⟨a, s, hs, hs'⟩ | ⟨c, -, hs⟩ := (hcode.rest tell).of_bind
      · obtain rfl := (Prod.mk.inj hs').2
        exact ⟨_, hs⟩
      · exact ⟨_, hs⟩
    have hleaves := hw.hook_leaves hcount (hm.first.catchNative.next tell).first hend hr₂ hl
    rw [← hbridge] at hleaves
    obtain ⟨ho₃, r₃, hr₃⟩ := hleaves
    cases ended with
    | ok a => exact last _ _ _ ho₃ hr₃ he
    | error fault =>
      have complain : (Run.log .error ("Destruction hook of " ++ h.render ++ " faulted: " ++
        fault.message)).Ends v₃ (.ok ()) (v₃.record (.log .error
          ("Destruction hook of " ++ h.render ++ " faulted: " ++ fault.message))) := .change _ v₃
      exact last (v₃.record _) _ _ ho₃ hr₃ (he.rest complain)

/-- **A request for destruction that is over** has left a tombstone exactly if the instance was
at rest. -/
theorem World.Fresh.destroyRecord_leaves {r : Record} {done : Bool}
    (hm : (code.course n mainThread).Meets (fun _ => True) w
      (Run.destroyRecord (.nested m) mainThread h) v)
    (he : (Run.destroyRecord (.nested m) mainThread h).Ends v (.ok done) v')
    (ho : v.bridge.find? o = some h) (hr : v.bridge.records.get? h = some r) :
    v'.bridge.find? o = none ∨ v'.bridge.state o = .destroyed ↔
      r.lifecycle = .destroyed ∨ r.isOpen = true ∧ r.inFlight = [] := by
  obtain ⟨hclosed, rfl⟩ | ⟨hopen, hcalls, hbridge⟩ | ⟨hopen, hidle, hend, hcomes⟩ :=
    he.of_destroyRecord hr
  · rw [Bridge.state_of_get? ho hr]
    simp [ho, hclosed]
  · -- the instance is live until its last call ends
    have ho' : v'.bridge.find? o = some h := hbridge ▸ ho
    have hlive := Record.lifecycle_of_isOpen hopen
    rw [hbridge, Bridge.state_of_get? (hbridge ▸ ho') (Bridge.get?_updateRecord hr _)]
    simp [← hbridge, ho', hlive, hcalls]
  · have hr' := Bridge.get?_updateRecord hr (fun r => { r with lifecycle := .destructing })
    exact iff_of_true (.inr (hw.finishDestroy_leaves hcount (hcomes hm) hend ho hr' rfl))
      (.inr ⟨hopen, hidle⟩)

/-- **A request for the destruction of an instance that is over** has left no record to keep
exactly if the instance was at rest. -/
theorem World.Fresh.destroy_leaves {done : Bool}
    (hm : (code.course n mainThread).Meets (fun _ => True) w
      (Run.destroy (.nested m) mainThread o) v)
    (he : (Run.destroy (.nested m) mainThread o).Ends v (.ok done) v') :
    v'.bridge.find? o = none ∨ v'.bridge.state o = .destroyed ↔ v.bridge.AtRest o := by
  have look : (Run.askBridge (·.find? o)).Ends v (.ok (v.bridge.find? o)) v := .ask _ v
  replace hm := hm.next look
  replace he := he.rest look
  cases ho : v.bridge.find? o with
  | none =>
    rw [ho] at he
    obtain rfl : v' = v := (Prod.mk.inj he).2.symm
    exact iff_of_true (.inl ho) (fun h r hh => by rw [ho] at hh; cases hh)
  | some h =>
    rw [ho] at hm he
    obtain ⟨r, hr⟩ : ∃ r, v.bridge.records.get? h = some r := by
      obtain ⟨own, hown, -⟩ := hw.accounted_of_meets hcount hm
      obtain ⟨r, hr, -⟩ := Option.map_eq_some_iff.1 (hown.owner o h ho)
      exact ⟨r, hr⟩
    refine (hw.destroyRecord_leaves hcount hm he ho hr).trans
      ⟨fun hat h' r' ho' hr' => ?_, fun hat => hat h r ho hr⟩
    obtain rfl := Option.some.inj (ho.symm.trans ho')
    obtain rfl := Option.some.inj (hr.symm.trans hr')
    exact hat

/-! ### What a collection leaves -/

/-- **An object is freed without a trace exactly if its instance is at rest**: then the
destruction that is asked for is over when the record is to be forgotten. -/
theorem freed_without_trace_iff
    (hm : (code.course n mainThread).Meets (fun _ => True) w
      (Run.free (.nested m) mainThread o) v)
    (he : (Run.free (.nested m) mainThread o).Ends v (.ok ()) v') :
    v'.domain.heap.get? o = none ∧ (v'.bridge.find? o = none ↔ v.bridge.AtRest o) := by
  have mark : (Run.record (.finalization o)).Ends v (.ok ()) (v.record (.finalization o)) :=
    .change _ v
  replace hm := hm.next mark
  replace he := he.rest mark
  obtain ⟨done, v₂, hdestroyed, he⟩ := he.of_bind_ok
  have drop : (Run.forget o).Ends v₂ (.ok ()) (v₂.onBridge (v₂.bridge.forget o)) := .change _ v₂
  replace he := he.rest drop
  cases he
  refine ⟨(Table.get?_erase ..).trans (if_pos rfl), ?_⟩
  have hleaves : v₂.bridge.find? o = none ∨ v₂.bridge.state o = .destroyed ↔ v.bridge.AtRest o :=
    hw.destroy_leaves (v := v.record _) hcount hm.first hdestroyed
  exact (Bridge.find?_forget ..).trans hleaves

end Alone

/-- Where the finalizer of the object that is discarded has thrown. -/
def grudgingFinalized : World :=
  ((Run.runFinalizer (.nested 1) mainThread ⟨1⟩ grudging).advance
    (grudgingDropped.onDomain grudgingDropped.domain.takeGarbage.2)).2

/-- An object whose finalizer throws is freed without a trace. -/
theorem freed_without_trace_grudging : ∃ v v', (discarding.course 1 mainThread).Meets
      (fun _ => True) plainHost (Run.free (.nested 1) mainThread ⟨1⟩) v ∧
    (Run.free (.nested 1) mainThread ⟨1⟩).Ends v (.ok ()) v' ∧ v'.bridge.find? ⟨1⟩ = none := by
  have take : (Run.onDomain Domain.takeGarbage).Ends grudgingDropped (.ok [(⟨1⟩, grudging)])
      (grudgingDropped.onDomain grudgingDropped.domain.takeGarbage.2) := rfl
  have finalize : (Run.runFinalizer (.nested 1) mainThread ⟨1⟩ grudging).Ends
      (grudgingDropped.onDomain grudgingDropped.domain.takeGarbage.2) (.ok ()) grudgingFinalized :=
    rfl
  have hend : (Run.free (.nested 1) mainThread ⟨1⟩).Ends grudgingFinalized (.ok ())
      ((Run.free (.nested 1) mainThread ⟨1⟩).advance grudgingFinalized).2 := rfl
  have hm := ((discarding_meets.next take).first.first).next finalize
  have hcount : ∀ q u, (discarding.course 1 mainThread).Reaches (fun _ => True) plainHost q u →
      u.constructions < 2 ^ 64 := fun q u hu =>
    (of_decide_eq_true (Bool.and_eq_true_iff.1 (hu.always discarding_passable).here).1).2
  have hrest : grudgingFinalized.bridge.AtRest ⟨1⟩ := by
    intro h r hh hr
    have hfind : grudgingFinalized.bridge.find? ⟨1⟩ = some ⟨1⟩ := rfl
    have hlive : (grudgingFinalized.bridge.records.get? ⟨1⟩).map
        (fun r => (r.isOpen, r.inFlight)) = some (true, []) := rfl
    obtain rfl := Option.some.inj (hfind.symm.trans hh)
    rw [hr] at hlive
    exact .inr (Prod.mk.inj (Option.some.inj hlive))
  exact ⟨_, _, hm, hend, (freed_without_trace_iff plainHost_fresh hcount hm hend).2.2 hrest⟩

/-- Makes an object, and collects it while a call is running on it. -/
def outliving : NativeCode Unit :=
  .perform (.newInstance { scope := "", name := "T" }) fun _ =>
    .perform (.beginCall ⟨1⟩ ⟨"T", "M", ⟨[], .void⟩, .perInstance⟩) fun _ =>
      .perform (.dropInstance ⟨1⟩) fun _ => .perform .collect fun _ =>
        .perform (.endCall ⟨1⟩) fun _ => .done ()

/-- **A tombstone may outlive its object**: a run on one thread in which nobody but the domain
constructs instances may end, with no call running, and leave a record of what is on the heap
no more. -/
theorem tombstone_outlives_object : ¬∀ (w w' : World) (n : Nat) (code : NativeCode Unit),
    w.Fresh → w.domain.Opened → w.registry.Asks NativeOp.NoConstruction →
    Program.Asks (I := nativeInterface) NativeOp.NoConstruction code →
    (Run.runNative (.nested n) mainThread code).Ends w (.ok ()) w' → w'.kept = [] →
      ∀ o, w'.bridge.state o ≠ .unconstructed → w'.domain.heap.get? o ≠ none := by
  intro hall
  have hasks : Program.Asks (I := nativeInterface) NativeOp.NoConstruction outliving := by
    simp [outliving, Program.Asks, NativeOp.NoConstruction]
  have hend : (Run.runNative (.nested 1) mainThread outliving).Ends plainHost (.ok ())
      ((Run.runNative (.nested 1) mainThread outliving).advance plainHost).2 := rfl
  exact hall plainHost _ 1 outliving plainHost_fresh plainHost_opened plainHost_asks hasks hend
    (by decide +kernel) ⟨1⟩ (by decide +kernel) (by decide +kernel)

end HostBridge
