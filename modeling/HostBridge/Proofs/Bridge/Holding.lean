import HostBridge.Proofs.Bridge.Handles
import HostBridge.Proofs.Bridge.Waiting

/-!
# Who destroys what is behind a handle

An instance whose destruction was accepted is in one of three phases: it is live and its
destruction is deferred to the last call, or a thread is destroying it, or it is destroyed
(`World.Accounted.of_condemned`). The threads change places as follows, whatever else they
do:

* a deferred destruction stays deferred until the last call on the instance ends, and then
  the thread that ended it is destroying the instance (`Threads.Accounted.deferred_step`);
* a thread that is destroying an instance does so until the instance is destroyed, and no
  other thread has a part in it (`Threads.Destroys.of_reaches`).

The stakes of the threads say who is destroying. A section changes the stake of its own
thread only, so whoever is found to hold a handle after a section of one thread, and did not
hold it before, is that thread (`Threads.Performs.destroys`).

## What a record alone does not say

The record of an instance that is being destroyed has no name of a thread in it. That its hook
runs once, and runs in the thread that was told to run it, is therefore not a property of the
bridge but of the bridge together with what every thread still has to do. `Threads.Destroys`
is that property: the thread owes the rest of the destruction, and the handle is with nobody
else.

A thread that owes the rest can fail to do it in one way only, which is not to get a turn. The
statements here are about what sections do. That a thread which can go on does go on is not
claimed.
-/

namespace HostBridge

variable {α β : Type} {w : World} {n : Nat} {code : ThreadId → NativeCode α}
  {t u : Threads World α} {l : List (Threads World α)} {own : ThreadId → Stakes}
  {me you : ThreadId} {h : Handle} {r : Record} {φ : Phase}

/-! ## Before the handles run out

Handles are numbers of 64 bits, and two constructions share one after that many. A run is
within the bound at all its points if it is within it at its end, since constructions are not
taken back. -/

namespace Threads

/-- Constructions are not taken back. -/
theorem Reaches.constructions_le (ht : (w.threads n code).Reaches (fun _ => True) t)
    (hu : t.Reaches (fun _ => True) u) : t.state.constructions ≤ u.state.constructions :=
  (ht.suffix hu).sublist.countP_le

/-- **If the handles have not run out, they never had before.** -/
theorem Reaches.bounded (ht : (w.threads n code).Reaches (fun _ => True) t)
    (hu : t.Reaches (fun _ => True) u) (hb : u.state.constructions < 2 ^ 64) :
    t.Reaches (fun w => w.constructions < 2 ^ 64) u :=
  (hu.along fun _ htv hvu => Nat.lt_of_le_of_lt ((ht.trans htv).constructions_le hvu) hb).mono
    fun _ => And.right

/-! ## One thread, and the others

What one thread does between two points of a run, and what the others did meanwhile, are
accounted for one after the other. -/

/-- **A section changes what its own thread owns**, and nothing else. -/
theorem Accounted.enter {ready : World → Bool} {effect : World → World}
    {next : World → Course World α} (ht : t.Accounted own)
    (hreach : (w.threads n code).Reaches (fun _ => True) t)
    (hstep : t.todo me = .step ready effect next) (hr : ready t.state = true)
    (hb : (effect t.state).constructions < 2 ^ 64) :
    ∃ y, (t.entered me effect (next t.state)).Accounted (Function.update own me y) := by
  have hle := hreach.constructions_le (.enter (.here trivial) hstep hr trivial)
  have hfollows := ht.follows me
  rw [hstep] at hfollows
  obtain ⟨-, y, hy, hnext⟩ :=
    hfollows t.state own ht.state rfl (Nat.lt_of_le_of_lt hle hb) hr hb
  refine ⟨y, hy, fun you => ?_⟩
  by_cases hyou : you = me
  · subst hyou
    rw [entered_todo_self, Function.update_self]
    exact hnext
  · rw [entered_todo_of_ne (Ne.symm hyou), Function.update_of_ne hyou]
    exact ht.follows you

/-- **The others leave a thread what it owns.** -/
theorem Others.accounted (ho : Others me t l u)
    (hreach : (w.threads n code).Reaches (fun _ => True) t) (ht : t.Accounted own)
    (hb : u.state.constructions < 2 ^ 64) : ∃ own', u.Accounted own' ∧ own' me = own me := by
  induction ho generalizing own with
  | here => exact ⟨own, ht, rfl⟩
  | enter hyou hstep hr ho ih =>
    have hnext := hreach.enter hstep hr trivial
    have hle := hnext.constructions_le (ho.reaches (.here trivial)).2
    obtain ⟨y, hy⟩ := ht.enter hreach hstep hr (Nat.lt_of_le_of_lt hle hb)
    obtain ⟨own', hown', hme⟩ := ih hnext hy hb
    exact ⟨own', hown', hme.trans (Function.update_of_ne hyou.symm ..)⟩

/-- What a thread owns after a section of its own, it owns when the others have gone ahead. -/
theorem Performs.accounted {ready : World → Bool} {f : World → β × World} {e : Except Crash β}
    (hp : t.Performs me (Process.exchangeWhen ready f) l e u)
    (hreach : (w.threads n code).Reaches (fun _ => True) t) (ht : t.Accounted own)
    (hb : u.state.constructions < 2 ^ 64) :
    ∃ y own', (f t.state).2.Accounted (Function.update own me y) ∧
      u.Accounted own' ∧ own' me = y := by
  obtain ⟨k, htodo, hp⟩ := hp
  rw [Process.course_exchangeWhen] at hp htodo
  generalize hq : (Course.finish e : Course World β) = q at hp
  cases hp with
  | here => cases e <;> cases hq
  | enter hr ho hp =>
    cases hp with
    | here =>
      have hnext := hreach.enter htodo hr trivial
      have hle := hnext.constructions_le (ho.reaches (.here trivial)).2
      obtain ⟨y, hy⟩ := ht.enter hreach htodo hr (Nat.lt_of_le_of_lt hle hb)
      obtain ⟨own', hown', hme⟩ := ho.accounted hnext hy hb
      exact ⟨y, own', hy.state, hown', hme.trans (Function.update_self ..)⟩

end Threads

/-! ## The phases of a destruction

Read off the record: which phases a condemned handle can be in, and what is known of the
stakes of the threads in each. -/

/-- What is destructing is held by somebody. -/
theorem Phase.of_destructing (hl : φ.outline.lifecycle = some .destructing) :
    ∃ t k, φ = .held t k ∧ k.outline.lifecycle = some .destructing := by
  cases φ with
  | held t k => exact ⟨t, k, rfl, hl⟩
  | _ => cases hl

/-- What was condemned is pending, being destroyed or destroyed. -/
theorem Phase.of_condemned (hc : φ.outline.condemned = true) :
    φ = .pending ∨ φ.outline.lifecycle = some .destructing ∨ φ = .destroyed := by
  cases φ with
  | held t k => cases k <;> first | exact .inr (.inl rfl) | cases hc
  | pending => exact .inl rfl
  | destroyed => exact .inr (.inr rfl)
  | _ => cases hc

/-- What a thread holds, no other thread is at work on. -/
theorem Standing.none_of_held {s : Sight} {stake : ThreadId → Stake} {k : Work}
    (hs : Standing h s stake (.held me k)) (hyou : you ≠ me) : (stake you).work = none :=
  (hs.work you).trans (if_neg hyou.symm)

namespace World.Accounted

variable (hw : w.Accounted own)

include hw

/-- **Where a destruction was accepted**, it is deferred, or under way, or over. -/
theorem of_condemned (hc : .condemned h ∈ w.history) :
    ∃ φ, Standing h (w.sight h) (fun t => own t h) φ ∧
      (φ = .pending ∨ φ.outline.lifecycle = some .destructing ∨ φ = .destroyed) := by
  obtain ⟨φ, hφ⟩ := hw.standing h
  refine ⟨φ, hφ, Phase.of_condemned (hφ.tells.condemned.1 ?_)⟩
  exact List.mem_filter.2 ⟨hc, by simp [Event.handle?]⟩

/-- The phase of a handle has the lifecycle of its record. -/
theorem standing_of_get? (hr : w.bridge.records.get? h = some r) :
    ∃ φ, Standing h (w.sight h) (fun t => own t h) φ ∧
      φ.outline.lifecycle = some r.lifecycle ∧ φ.outline.pending = r.destroyPending ∧
        φ.outline.equipped = r.resource.isSome := by
  obtain ⟨φ, hφ⟩ := hw.standing h
  have hrecord : (w.sight h).record = some r := hr
  have hlifecycle := hφ.shows.lifecycle
  have hpending := hφ.shows.pending
  have hequipped := hφ.shows.equipped
  rw [hrecord] at hlifecycle hpending hequipped
  exact ⟨φ, hφ, hlifecycle.symm, hpending.symm, hequipped.symm⟩

/-- A deferred destruction is that of an instance in the phase for it. -/
theorem standing_of_deferred (hr : w.bridge.records.get? h = some r)
    (hp : r.destroyPending = true) :
    Standing h (w.sight h) (fun t => own t h) .pending := by
  obtain ⟨φ, hφ, -, hpending, -⟩ := hw.standing_of_get? hr
  obtain rfl := Phase.of_pending (hpending.trans hp)
  exact hφ

/-- Nobody holds what is open. -/
theorem none_of_isOpen (hr : w.bridge.records.get? h = some r) (ho : r.isOpen = true)
    (t : ThreadId) : (own t h).work = none := by
  obtain ⟨φ, hφ⟩ := hw.standing h
  obtain rfl := hφ.live hr ho
  exact hφ.work t

/-- What is open was constructed. -/
theorem constructed_of_isOpen (hr : w.bridge.records.get? h = some r) (ho : r.isOpen = true) :
    .constructed h ∈ w.history := by
  obtain ⟨φ, hφ⟩ := hw.standing h
  obtain rfl := hφ.live hr ho
  exact (List.mem_filter.1 (hφ.tells.built.2 rfl)).1

end World.Accounted

/-- A record after a section was opened by it, or comes from an older one by a step. -/
theorem World.Section.recordStep {w' : World} (hs : w.Section me w') {r' : Record}
    (hr' : w'.bridge.records.get? h = some r') :
    r'.IsOpened ∨ ∃ r, w.bridge.records.get? h = some r ∧ r.Step me r' := by
  cases hs with
  | inBridge b events hb => exact hb.recordStep h r' hr'
  | _ => exact .inr ⟨r', hr', .stay⟩

/-! ## The origin of a record

A record says which class its object is of and which object it is, and no section changes
that. It could be lost only if another record took the place of the first, which needs a handle
that is given out twice. -/

/-- The record of a handle is opened before its construction is over. -/
theorem World.Accounted.not_isOpened (hw : w.Accounted own) (hc : .constructed h ∈ w.history)
    (hr : w.bridge.records.get? h = some r) : ¬r.IsOpened := by
  intro ho
  obtain ⟨φ, hφ, hlifecycle, -, hequipped⟩ := hw.standing_of_get? hr
  rw [ho.lifecycle] at hlifecycle
  rw [ho.resource] at hequipped
  have hbuilt : φ.outline.built = true := by
    refine hφ.tells.built.1 ?_
    exact List.mem_filter.2 ⟨hc, by simp [Event.handle?]⟩
  cases φ with
  | held t k => cases k <;> simp_all
  | _ => simp_all

/-- The record of a constructed handle keeps its origin over a section. -/
theorem World.Section.origin {w' : World} (hs : w.Section me w') (hw' : w'.Accounted own)
    (hc : .constructed h ∈ w.history) {r' : Record} (hr' : w'.bridge.records.get? h = some r') :
    ∃ r, w.bridge.records.get? h = some r ∧ r'.origin = r.origin := by
  obtain ⟨r, hr, hstep⟩ :=
    (hs.recordStep hr').resolve_left (hw'.not_isOpened (hs.suffix.subset hc) hr')
  exact ⟨r, hr, hstep.origin⟩

/-- **The record behind a handle keeps its origin** after its construction. -/
theorem World.Fresh.origin_of_reaches (hw : w.Fresh)
    (ht : (w.threads n code).Reaches (fun w => w.constructions < 2 ^ 64) t)
    (hu : t.Reaches (fun w => w.constructions < 2 ^ 64) u)
    (hc : .constructed h ∈ t.state.history) :
    .constructed h ∈ u.state.history ∧ ∀ r', u.state.bridge.records.get? h = some r' →
      ∃ r, t.state.bridge.records.get? h = some r ∧ r'.origin = r.origin := by
  induction hu with
  | here hs => exact ⟨hc, fun r' hr' => ⟨r', hr', rfl⟩⟩
  | enter hu hstep hr hs ih =>
    obtain ⟨hcu, horigin⟩ := ih
    have hreach := ht.trans hu
    obtain ⟨-, hsec⟩ := World.section_of_reaches (hreach.mono fun _ _ => trivial) hstep hr
    obtain ⟨own, hown⟩ := hw.accounted_of_reaches (hreach.enter hstep hr hs)
    refine ⟨hsec.suffix.subset hcu, fun r' hr' => ?_⟩
    obtain ⟨r, hr, ho⟩ := hsec.origin hown hcu hr'
    obtain ⟨s, hs, ho'⟩ := horigin r hr
    exact ⟨s, hs, ho.trans ho'⟩

theorem World.Fresh.origin_eq (hw : w.Fresh)
    (ht : (w.threads n code).Reaches (fun w => w.constructions < 2 ^ 64) t)
    (hu : t.Reaches (fun w => w.constructions < 2 ^ 64) u)
    (hc : .constructed h ∈ t.state.history) {r' : Record}
    (hr : t.state.bridge.records.get? h = some r)
    (hr' : u.state.bridge.records.get? h = some r') : r'.origin = r.origin := by
  obtain ⟨s, hs, ho⟩ := (hw.origin_of_reaches ht hu hc).2 r' hr'
  rwa [Option.some.inj (hr.symm.trans hs)]

/-! ## Who is destroying -/

namespace Bridge

/-- **A destruction is deferred** to the last call on what is behind a handle. -/
def Deferred (b : Bridge) (h : Handle) : Prop :=
  ∃ r, b.records.get? h = some r ∧ r.destroyPending = true

end Bridge

namespace Threads

/-- **A thread is destroying** what is behind a handle. It may have the resource still
before it. -/
def Destroys (t : Threads World α) (me : ThreadId) (h : Handle) (equipped : Bool) : Prop :=
  ∃ own k, t.Accounted own ∧ (own me h).work = some k ∧
    k.outline.lifecycle = some .destructing ∧ k.outline.equipped = equipped

/-- The record of what a thread destroys, with or without the resource, as the thread has it. -/
theorem Destroys.record {equipped : Bool} (ht : t.Destroys me h equipped) :
    ∃ r, t.state.bridge.records.get? h = some r ∧ r.lifecycle = .destructing ∧
      r.resource.isSome = equipped := by
  obtain ⟨own, k, hown, hk, hl, rfl⟩ := ht
  obtain ⟨φ, hφ⟩ := hown.state.standing h
  obtain rfl := hφ.held hk
  obtain ⟨r, hr, hlifecycle⟩ := hφ.shows.exists_record hl
  have hequipped := hφ.shows.equipped
  rw [hr] at hequipped
  exact ⟨r, hr, hlifecycle, hequipped⟩

theorem Destroys.lifecycleAt {equipped : Bool} (ht : t.Destroys me h equipped) :
    t.state.bridge.lifecycleAt h = .destructing := by
  obtain ⟨r, hr, hl, -⟩ := ht.record
  exact (Bridge.lifecycleAt_of_get? hr).trans hl

/-- **Only one thread is destroying.** -/
theorem Destroys.alone {equipped : Bool} (ht : t.Destroys me h equipped) :
    ∃ own, t.Accounted own ∧ ∀ you, you ≠ me → (own you h).work = none := by
  obtain ⟨own, k, hown, hk, -, -⟩ := ht
  obtain ⟨φ, hφ⟩ := hown.state.standing h
  obtain rfl := hφ.held hk
  exact ⟨own, hown, fun you hyou => hφ.none_of_held hyou⟩

/-- What is being destroyed was constructed. -/
theorem Destroys.constructed {equipped : Bool} (ht : t.Destroys me h equipped) :
    .constructed h ∈ t.state.history := by
  obtain ⟨own, k, hown, hk, hl, -⟩ := ht
  obtain ⟨φ, hφ⟩ := hown.state.standing h
  obtain rfl := hφ.held hk
  refine (List.mem_filter.1 (hφ.tells.built.2 ?_)).1
  cases k <;> first | rfl | cases hl

/-- A thread that is destroying has not come to its end. -/
theorem Destroys.unfinished {equipped : Bool} (ht : t.Destroys me h equipped)
    {e : Except Crash α} (he : t.todo me = .finish e) : e = .error .tooDeep := by
  obtain ⟨own, k, hown, hk, -, -⟩ := ht
  have hfollows := hown.follows me
  rw [he] at hfollows
  have hend : e = .error .tooDeep ∨ Stakes.givenBack.rel (fun _ => {}) (own me) := by
    cases e <;> exact hfollows
  refine hend.resolve_right fun hback => ?_
  rw [← hback.2] at hk
  cases hk

/-- Where nobody else is at work on a handle, its own thread holds what a section leaves
destructing. -/
theorem work_of_destructing {w : World} {y : Stakes}
    (hnone : ∀ you, you ≠ me → (own you h).work = none)
    (hw : w.Accounted (Function.update own me y)) (hr : w.bridge.records.get? h = some r)
    (hl : r.lifecycle = .destructing) :
    ∃ k, (y h).work = some k ∧ k.outline.lifecycle = some .destructing ∧
      k.outline.equipped = r.resource.isSome := by
  obtain ⟨φ, hφ, hlifecycle, -, hequipped⟩ := hw.standing_of_get? hr
  rw [hl] at hlifecycle
  obtain ⟨t, k, rfl, hk⟩ := Phase.of_destructing hlifecycle
  have hwork : (Function.update own me y t h).work = some k := (hφ.work t).trans (if_pos rfl)
  by_cases ht : t = me
  · subst ht
    rw [Function.update_self] at hwork
    exact ⟨k, hwork, hk, hequipped⟩
  · rw [Function.update_of_ne ht, hnone t ht] at hwork
    cases hwork

/-- **A thread is destroying what its own section leaves destructing**, whatever others do
next. -/
theorem Performs.destroys {ready : World → Bool} {f : World → β × World} {e : Except Crash β}
    (hp : t.Performs me (Process.exchangeWhen ready f) l e u)
    (hreach : (w.threads n code).Reaches (fun _ => True) t)
    (ht : ∃ own, t.Accounted own ∧ ∀ you, you ≠ me → (own you h).work = none)
    (hb : u.state.constructions < 2 ^ 64)
    (hr : (f t.state).2.bridge.records.get? h = some r) (hl : r.lifecycle = .destructing) :
    u.Destroys me h r.resource.isSome := by
  obtain ⟨own, hown, hnone⟩ := ht
  obtain ⟨y, own', hy, hown', rfl⟩ := hp.accounted hreach hown hb
  obtain ⟨k, hk, hlifecycle, hequipped⟩ := work_of_destructing hnone hy hr hl
  exact ⟨own', k, hown', hk, hlifecycle, hequipped⟩

/-! ## What the next section makes of it

One section of any thread, from each of the three phases. -/

section Step

variable {ready : World → Bool} {effect : World → World} {next : World → Course World α}
  (hreach : (w.threads n code).Reaches (fun _ => True) t)
  (hstep : t.todo you = .step ready effect next) (hr : ready t.state = true)
  (hb : (effect t.state).constructions < 2 ^ 64)

include hreach hstep hr

theorem section_entered : t.state.Section you (t.entered you effect (next t.state)).state :=
  (World.section_of_reaches hreach hstep hr).2

/-- What was accepted stays accepted, and its record makes a step. -/
theorem step_of_condemned {own' : ThreadId → Stakes} (hc : .condemned h ∈ t.state.history)
    (hown' : (effect t.state).Accounted own') :
    ∃ φ r r', Standing h ((effect t.state).sight h) (fun t => own' t h) φ ∧
      (φ = .pending ∨ φ.outline.lifecycle = some .destructing ∨ φ = .destroyed) ∧
      t.state.bridge.records.get? h = some r ∧ (effect t.state).bridge.records.get? h = some r' ∧
      r.Step you r' ∧ φ.outline.lifecycle = some r'.lifecycle ∧
      φ.outline.pending = r'.destroyPending := by
  have hsec := section_entered hreach hstep hr
  obtain ⟨φ, hφ, hphase⟩ := hown'.of_condemned (hsec.suffix.subset hc)
  obtain ⟨l, hl, hconstructing⟩ :
      ∃ l, φ.outline.lifecycle = some l ∧ l ≠ .constructing := by
    obtain rfl | hl | rfl := hphase
    · exact ⟨.live, rfl, by decide⟩
    · exact ⟨.destructing, hl, by decide⟩
    · exact ⟨.destroyed, rfl, by decide⟩
  obtain ⟨r', hr', rfl⟩ := hφ.shows.exists_record hl
  have hpending := hφ.shows.pending
  rw [hr'] at hpending
  obtain hopened | ⟨r, hrecord, hmakes⟩ := hsec.recordStep hr'
  · exact absurd hopened.lifecycle hconstructing
  · exact ⟨φ, r, r', hφ, hphase, hrecord, hr', hmakes, hl, hpending.symm⟩

include hb

/-- **A deferred destruction stays deferred** until the last call ends. Then the thread that
ended it is destroying the instance. -/
theorem Accounted.deferred_step (ht : t.Accounted own) (hd : t.state.bridge.Deferred h) :
    (effect t.state).bridge.Deferred h ∨
      t.state.bridge.callers h = [you] ∧ (effect t.state).bridge.callers h = [] ∧
        ∃ equipped, (t.entered you effect (next t.state)).Destroys you h equipped := by
  obtain ⟨s, hs, hp⟩ := hd
  have hstanding := ht.state.standing_of_deferred hs hp
  have hc : .condemned h ∈ t.state.history :=
    (List.mem_filter.1 (hstanding.tells.condemned.2 rfl)).1
  obtain ⟨y, hy⟩ := ht.enter hreach hstep hr hb
  obtain ⟨φ, r, r', hφ, hphase, hrecord, hr', hmakes, hl, hpending⟩ :=
    step_of_condemned hreach hstep hr hc hy.state
  obtain rfl := Option.some.inj (hs.symm.trans hrecord)
  obtain hp' | ⟨hlast, hidle, hdestructing⟩ := hmakes.fares.awaits hp
  · exact .inl ⟨r', hr', hp'⟩
  · have hinFlight : s.inFlight ≠ [] := by
      have := hstanding.shows.awaited rfl
      rwa [Sight.inFlight, show (t.state.sight h).record = some s from hs] at this
    have hcallers : s.inFlight = [you] := by
      cases hf : s.inFlight with
      | nil => exact absurd hf hinFlight
      | cons x rest =>
        rw [hf, List.erase_cons] at hlast
        split at hlast
        · next hx =>
          rw [hlast, beq_iff_eq.1 hx]
        · cases hlast
    refine .inr ⟨(Bridge.callers_of_get? hs).trans hcallers,
      (Bridge.callers_of_get? hr').trans hidle, r'.resource.isSome, ?_⟩
    have hnone : ∀ z, z ≠ you → (own z h).work = none := fun z _ => hstanding.work z
    obtain ⟨k, hk, hlifecycle, hequipped⟩ :=
      work_of_destructing hnone hy.state hr' hdestructing
    exact ⟨_, k, hy, by rwa [Function.update_self], hlifecycle, hequipped⟩

omit hb in
/-- What was accepted and is neither open nor deferred is being destroyed, or is destroyed. -/
theorem step_of_closed {own' : ThreadId → Stakes} (hc : .condemned h ∈ t.state.history)
    (hs : t.state.bridge.records.get? h = some r) (ho : r.isOpen = false)
    (hp : r.destroyPending = false) (hown' : (effect t.state).Accounted own') :
    (r.lifecycle = .destructing ∧ ∃ r', (effect t.state).bridge.records.get? h = some r' ∧
      r'.lifecycle = .destructing) ∨ (effect t.state).bridge.lifecycleAt h = .destroyed := by
  obtain ⟨φ, s, r', -, hphase, hrecord, hr', hmakes, hl, hpending⟩ :=
    step_of_condemned hreach hstep hr hc hown'
  obtain rfl := Option.some.inj (hs.symm.trans hrecord)
  obtain rfl | hdestructing | rfl := hphase
  · have := hmakes.fares.pending hpending.symm
    simp [ho, hp] at this
  · have hr'l : r'.lifecycle = .destructing := Option.some.inj (hl.symm.trans hdestructing)
    have := hmakes.fares.destructing hr'l
    simp only [ho, hp, Bool.false_eq_true, or_false] at this
    exact .inl ⟨this, r', hr', hr'l⟩
  · exact .inr ((Bridge.lifecycleAt_of_get? hr').trans (Option.some.inj hl).symm)

/-- **A thread that is destroying goes on with it** until the instance is destroyed, whoever
enters the next section. -/
theorem Destroys.step {equipped : Bool} (ht : t.Destroys me h equipped) :
    (∃ equipped', (t.entered you effect (next t.state)).Destroys me h equipped') ∨
      (effect t.state).bridge.lifecycleAt h = .destroyed := by
  obtain ⟨own, k, hown, hk, hlifecycle, hequipped⟩ := ht
  obtain ⟨y, hy⟩ := hown.enter hreach hstep hr hb
  by_cases hyou : you = me
  · subst hyou
    obtain ⟨φ, hφ⟩ := hown.state.standing h
    obtain rfl := hφ.held hk
    obtain ⟨s, hs, hl⟩ := hφ.shows.exists_record hlifecycle
    have hc : .condemned h ∈ t.state.history := by
      refine (List.mem_filter.1 (hφ.tells.condemned.2 ?_)).1
      cases k <;> first | rfl | cases hlifecycle
    have hp : s.destroyPending = false := by
      have := hφ.shows.pending
      rw [hs] at this
      refine this.trans ?_
      cases k <;> rfl
    obtain ⟨-, r', hr', hl'⟩ | hdestroyed :=
      step_of_closed hreach hstep hr hc hs (by simp [Record.isOpen, hl]) hp hy.state
    · have hnone : ∀ z, z ≠ you → (own z h).work = none := fun z hz => hφ.none_of_held hz
      obtain ⟨k', hk', hlifecycle', hequipped'⟩ := work_of_destructing hnone hy.state hr' hl'
      exact .inl ⟨_, _, k', hy, by rwa [Function.update_self], hlifecycle', hequipped'⟩
    · exact .inr hdestroyed
  · exact .inl ⟨equipped, _, k, hy, by rwa [Function.update_of_ne (Ne.symm hyou)], hlifecycle,
      hequipped⟩

/-- **What is destroyed stays destroyed.** -/
theorem Accounted.destroyed_step (ht : t.Accounted own)
    (hd : t.state.bridge.lifecycleAt h = .destroyed) :
    (effect t.state).bridge.lifecycleAt h = .destroyed := by
  obtain ⟨s, hs, hdestroyed⟩ := Bridge.exists_of_lifecycleAt hd (by decide)
  obtain ⟨φ, hφ, hl, hp, -⟩ := ht.state.standing_of_get? hs
  obtain rfl := Phase.of_destroyed (hl.trans (congrArg some hdestroyed))
  have hc : .condemned h ∈ t.state.history :=
    (List.mem_filter.1 (hφ.tells.condemned.2 rfl)).1
  obtain ⟨y, hy⟩ := ht.enter hreach hstep hr hb
  refine (step_of_closed hreach hstep hr hc hs ?_ hp.symm hy.state).resolve_left ?_
  · simp [Record.isOpen, hdestroyed]
  · simp [hdestroyed]

end Step

/-! ## What becomes of it in the long run

By induction on the sections of a run. A destroyed instance stays destroyed, and a thread that
destroys an instance goes on with it until it is destroyed. -/

section Run

variable (hw : w.Fresh) (ht : (w.threads n code).Reaches (fun w => w.constructions < 2 ^ 64) t)
  (hu : t.Reaches (fun w => w.constructions < 2 ^ 64) u)

include hw ht hu

/-- **What is destroyed stays destroyed** for the rest of the interleaving. -/
theorem destroyed_of_reaches (hd : t.state.bridge.lifecycleAt h = .destroyed) :
    u.state.bridge.lifecycleAt h = .destroyed := by
  induction hu with
  | here hs => exact hd
  | enter hu hstep hr hs ih =>
    have hreach := ht.trans hu
    obtain ⟨own, hown⟩ := hw.threads_accounted hreach
    exact hown.destroyed_step (hreach.mono fun _ _ => trivial) hstep hr hs ih

/-- **A thread that is destroying does so until the instance is destroyed.** -/
theorem Destroys.of_reaches {equipped : Bool} (hd : t.Destroys me h equipped) :
    (∃ equipped', u.Destroys me h equipped') ∨ u.state.bridge.lifecycleAt h = .destroyed := by
  induction hu with
  | here hs => exact .inl ⟨equipped, hd⟩
  | enter hu hstep hr hs ih =>
    have hreach := ht.trans hu
    obtain ⟨equipped', hd'⟩ | hdestroyed := ih
    · exact hd'.step (hreach.mono fun _ _ => trivial) hstep hr hs
    · obtain ⟨own, hown⟩ := hw.threads_accounted hreach
      exact .inr (hown.destroyed_step (hreach.mono fun _ _ => trivial) hstep hr hs hdestroyed)

end Run

end Threads

end HostBridge
