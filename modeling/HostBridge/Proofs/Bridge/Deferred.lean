import HostBridge.Proofs.Bridge.Holding
import HostBridge.Proofs.Domain.Unwinding

/-!
# Destructions that are deferred

A request to destroy an instance is decided in one section, when no construction is running
behind the handle that it has found. What it comes to depends on what is found there
(`DestructionRequest.Outcome`): nothing changes unless the instance is open; a request from
inside a call on it is deferred to the last call; and any other runs the destruction hook
before it is answered.

What was deferred is not lost. The instance stays live with a call running on it, and the
thread that ends the last call destroys it (`deferred_destructions_happen`). The end of a
call and a request that is carried out both come to `Run.finishDestroy`, which runs the hook
of a thread that is destroying (`Threads.Performs.finishDestroy`).

That something happens later is more than an invariant says. The proof has two parts. One is
an invariant: while a destruction is outstanding, somebody has a call on the instance, and
that call has to end for the thread to go on at all. The other is about the section in which
the last call ends: it finds the destruction, in every state it may be entered at, and what
the thread does next is to run the hook. No fairness is needed for that, since nothing is said
of when the last call ends.

## Who runs the hook, and when

A deferred destruction belongs to nobody while it is outstanding. The thread that asked for it
was told so and went on, and may have come to its end before the hook runs; the threads that are
inside a call do not know of it. Only the record does. So the statement is not about a thread but
about the next section that ends a call, on whatever thread that is: if calls are left, the
destruction is as outstanding as before, and if none is, that thread is destroying the instance
and does so to the end.

New calls are refused from the request on. This is what makes the calls only fewer, so that the
last of them is the last.
-/

namespace HostBridge

variable {α β : Type} {w : World} {n : Nat} {code : ThreadId → NativeCode α}
  {t u v : Threads World α} {l : List (Threads World α)} {own : ThreadId → Stakes}
  {me you : ThreadId} {h : Handle} {r : Record} {run : Runner}

/-! ## The hook runs

What a thread does from the moment it is alone with the instance, followed section by section.
Others may go ahead in between and change nothing of it. -/

/-- **A destruction hook ran to its end** on behalf of a thread, with the resource of the
instance, while the thread came by the points listed. It may have ended in a panic. -/
def Threads.RunsHook (run : Runner) (me : ThreadId) (h : Handle) (hooks : Hooks)
    (l : List (Threads World α)) : Prop :=
  ∃ (s t u : Threads World α) (v : Resource) (e : Except Crash Unit)
    (l₁ l₂ l₃ : List (Threads World α)), l = l₁ ++ (l₂ ++ l₃) ∧ s ∈ l₁ ∧
      (s.state.bridge.records.get? h).bind Record.resource = some v ∧
      .destruction h v ∈ t.state.history ∧
      t.Performs me (run.native me (hooks.destroy h v)) l₂ e u ∧ e ≠ .error .tooDeep

theorem Threads.RunsHook.append {hooks : Hooks} (hl : RunsHook run me h hooks l)
    (l' l'' : List (Threads World α)) : RunsHook run me h hooks (l' ++ (l ++ l'')) := by
  obtain ⟨s, t, u, v, e, l₁, l₂, l₃, rfl, hs, hv, hd, hp, he⟩ := hl
  exact ⟨s, t, u, v, e, l' ++ l₁, l₂, l₃ ++ l'', by simp, List.mem_append_right _ hs, hv, hd, hp,
    he⟩

namespace Threads.Performs

/-- What was within bounds at the end was so before. -/
theorem bounded {p : Process World β} {e : Except Crash β} (hp : t.Performs me p l e u)
    (ht : (w.threads n code).Reaches (fun _ => True) t)
    (hb : u.state.constructions < 2 ^ 64) :
    t.Reaches (fun w => w.constructions < 2 ^ 64) u :=
  Reaches.bounded ht (hp.reaches (.here trivial)).2 hb

/-- What is within bounds at the end was so at the start. -/
theorem bounded_start {p : Process World β} {e : Except Crash β} (hp : t.Performs me p l e u)
    (ht : (w.threads n code).Reaches (fun _ => True) t)
    (hb : u.state.constructions < 2 ^ 64) :
    (w.threads n code).Reaches (fun w => w.constructions < 2 ^ 64) t :=
  .bounded (.here trivial) ht (hp.bounded ht hb).start

/-- Code that an entry is made for runs after that entry. -/
theorem recorded {ev : Event} {k : Run β} {e : Except Crash β}
    (ht : (w.threads n code).Reaches (fun _ => True) t)
    (hp : t.Performs me (Run.record ev >>= fun _ => k) l e u) :
    ∃ v l₁ l₂, l = l₁ ++ l₂ ∧ t.Reaches (fun _ => True) v ∧ ev ∈ v.state.history ∧
      v.Performs me k l₂ e u := by
  obtain ⟨v, l₁, l₂, hl, hrecord, hk⟩ := hp.change_bind
  obtain ⟨-, l', t', -, hstate, hreach, ho⟩ := hrecord.change
  have hsuffix := (ht.trans hreach).suffix (ho.reaches (.here trivial)).2
  refine ⟨v, l₁, l₂, hl, (hrecord.reaches (.here trivial)).2, hsuffix.subset ?_, hk⟩
  rw [hstate]
  exact List.mem_cons_self ..

/-- A hook that has ended behind the boundary ran to its end. -/
theorem hook {hooks : Hooks} {x : Resource} {member : String} {ended : Except NativeFault Unit}
    (ht : (w.threads n code).Reaches (fun _ => True) t)
    (hp : t.Performs me (catchNative member id (do
      Run.record (.destruction h x)
      run.native me (hooks.destroy h x)
      return Except.ok ())) l (.ok ended) u) :
    .destruction h x ∈ u.state.history ∧
    ∃ (s v : Threads World α) (e : Except Crash Unit) (l₁ l₂ l₃ : List (Threads World α)),
      l = l₁ ++ (l₂ ++ l₃) ∧ .destruction h x ∈ s.state.history ∧
        s.Performs me (run.native me (hooks.destroy h x)) l₂ e v ∧ e ≠ .error .tooDeep := by
  obtain ⟨r, v, l₁, l₂, rfl, hcode, hlog⟩ := hp.attempt
  have hend : r ≠ .error .tooDeep := by
    rintro rfl
    cases hlog.crash.1
  obtain ⟨s, l₃, l₄, rfl, hs, hmem, hcode⟩ := hcode.recorded ht
  have hlater := (hcode.reaches (.here trivial)).2.trans (hlog.reaches (.here trivial)).2
  refine ⟨(Reaches.suffix (ht.trans hs) hlater).subset hmem, ?_⟩
  cases r with
  | ok result =>
    obtain ⟨_, v', l₅, l₆, rfl, hhook, -⟩ := hcode.bind
    exact ⟨s, v', _, l₃, l₅, l₆ ++ l₂, by simp, hmem, hhook, by simp⟩
  | error c =>
    obtain hhook | ⟨-, v', l₅, l₆, rfl, -, hdone⟩ := hcode.bind_crash
    · exact ⟨s, v, _, l₃, l₄, l₂, by simp, hmem, hhook, fun hc => hend (by cases hc; rfl)⟩
    · cases hdone.pure.1

/-- What is destroyed in the last section of a destruction stays destroyed. -/
theorem setDestroyed (hw : w.Fresh) {x : Resource}
    (ht : (w.threads n code).Reaches (fun _ => True) t)
    (hp : t.Performs me (Run.changeBridge (·.setLifecycle h .destroyed)) l (.ok ()) u)
    (hb : u.state.constructions < 2 ^ 64) (hd : .destruction h x ∈ t.state.history) :
    u.state.bridge.lifecycleAt h = .destroyed := by
  obtain ⟨-, l', t', -, hstate, hreach, ho⟩ := hp.change
  have hlater := (ho.reaches (.here trivial)).2
  have ht' : (w.threads n code).Reaches (fun w => w.constructions < 2 ^ 64) t' :=
    .bounded (.here trivial) (ht.trans hreach)
      (Nat.lt_of_le_of_lt ((ht.trans hreach).constructions_le hlater) hb)
  refine destroyed_of_reaches hw ht' (.bounded (ht.trans hreach) hlater hb) ?_
  obtain ⟨own, hown⟩ := hw.accounted_of_reaches (hp.bounded_start ht hb)
  obtain ⟨φ, hφ, hphase⟩ := hown.standing_of_destruction hd
  obtain ⟨r, hr⟩ : ∃ r, t.state.bridge.records.get? h = some r := by
    obtain ⟨z, rfl⟩ | rfl := hphase
    · obtain ⟨r, hr, -⟩ := hφ.shows.exists_record rfl
      exact ⟨r, hr⟩
    · obtain ⟨r, hr, -⟩ := hφ.shows.exists_record rfl
      exact ⟨r, hr⟩
  rw [hstate]
  exact Bridge.lifecycleAt_of_get? (Bridge.get?_updateRecord hr _)

/-- **A thread that is destroying strikes the handle**, and takes out the resource, which is there.
The instance has still the hooks that it was constructed with. -/
theorem takeResource {k : Option Resource → Run β} {e : Except Crash β} (hw : w.Fresh)
    (ht : (w.threads n code).Reaches (fun _ => True) t) (hd : t.Destroys me h true)
    (hr : t.state.bridge.records.get? h = some r)
    (hp : t.Performs me (do
      Run.changeBridge (·.unlist h)
      k (← Run.onBridge (·.takeResource h))) l e u)
    (hb : u.state.constructions < 2 ^ 64) :
    ∃ x s v l₁ l₂, l = l₁ ++ l₂ ∧
      (∃ s ∈ l₁, (s.state.bridge.records.get? h).bind Record.resource = some x) ∧
      t.Reaches (fun _ => True) v ∧ v.state.bridge.records.get? h = some s ∧ s.hooks = r.hooks ∧
      v.Performs me (k (some x)) l₂ e u := by
  -- the handle is struck, and the thread goes on destroying
  obtain ⟨v₁, l₁, l₁', rfl, hunlist, hp⟩ := hp.change_bind
  have ht₁ := (hunlist.reaches ht).2
  have hb₁ := (hp.bounded ht₁ hb).start
  obtain ⟨r₁, hr₁, hl₁, hequipped₁⟩ := hd.record
  have hd₁ : v₁.Destroys me h r₁.resource.isSome :=
    destroys (f := fun w => ((), w.onBridge (w.bridge.unlist h))) hunlist ht hd.alone hb₁ hr₁ hl₁
  rw [hequipped₁] at hd₁
  -- the resource is there, and is taken out
  obtain ⟨s₁, hs₁, hdestructing₁, hsome⟩ := hd₁.record
  obtain ⟨x, hx⟩ := Option.isSome_iff_exists.1 hsome
  have hresource : (v₁.state.bridge.records.get? h).bind Record.resource = some x := by
    rw [hs₁]
    exact hx
  obtain ⟨v₂, l₂, l₂', rfl, htake, hp⟩ := hp.exchangeWhen_bind
  have hb₂ := (hp.bounded (htake.reaches ht₁).2 hb).start
  have hd₂ : v₂.Destroys me h false :=
    destroys htake ht₁ hd₁.alone hb₂ (Bridge.get?_updateRecord hs₁ _) hdestructing₁
  obtain ⟨s₂, hs₂, -, -⟩ := hd₂.record
  have hlater := (hunlist.reaches (.here trivial)).2.trans (htake.reaches (.here trivial)).2
  have hhooks : s₂.hooks = r.hooks :=
    congrArg (·.2.2) (hw.origin_eq (hunlist.bounded_start ht hb₁) (.bounded ht hlater hb₂)
      hd.constructed hr hs₂)
  have htaken : (v₁.state.bridge.takeResource h).1 = some x := hresource
  dsimp only at hp
  rw [htaken] at hp
  refine ⟨x, s₂, v₂, l₁ ++ l₂, l₂', by simp, ⟨v₁, ?_, hresource⟩, hlater, hs₂, hhooks, hp⟩
  obtain ⟨-, -, l', t', rfl, -⟩ := htake.exchangeWhen
  simp

/-- **A thread that is destroying runs the hook**, and then the instance is destroyed. -/
theorem finishDestroy (hw : w.Fresh) (ht : (w.threads n code).Reaches (fun _ => True) t)
    (hd : t.Destroys me h true) (hr : t.state.bridge.records.get? h = some r)
    (hp : t.Performs me (Run.finishDestroy run me h) l (.ok ()) u)
    (hb : u.state.constructions < 2 ^ 64) :
    RunsHook run me h r.hooks l ∧ u.state.bridge.lifecycleAt h = .destroyed := by
  obtain ⟨x, s, v, l₁, l₂, rfl, ⟨p, hpl, hresource⟩, hv, hs, hhooks, hp⟩ :=
    hp.takeResource hw ht hd hr hb
  have ht₁ := ht.trans hv
  obtain ⟨v₁, l₃, l₄, rfl, hask, hp⟩ := hp.ask_bind
  have ht₂ := (hask.reaches ht₁).2
  dsimp only at hp
  rw [hs] at hp
  obtain ⟨ended, v₂, l₅, l₆, rfl, hcatch, hp⟩ := hp.bind
  have ht₃ := (hcatch.reaches ht₂).2
  obtain ⟨hmem, p', p'', e, m₁, m₂, m₃, rfl, hstarted, hhook, he⟩ := hcatch.hook ht₂
  rw [hhooks] at hhook
  refine ⟨⟨p, p', p'', x, e, l₁ ++ (l₃ ++ m₁), m₂, m₃ ++ l₆, by simp, by simp [hpl], hresource,
    hstarted, hhook, he⟩, ?_⟩
  -- whatever the hook has done, the destruction is over
  cases ended with
  | ok _ => exact hp.setDestroyed hw ht₃ hb hmem
  | error fault =>
    obtain ⟨v₃, l₇, l₈, rfl, hlog, hp⟩ := hp.change_bind
    have hsuffix := Reaches.suffix ht₃ (hlog.reaches (.here trivial)).2
    exact hp.setDestroyed hw (hlog.reaches ht₃).2 hb (hsuffix.subset hmem)

end Threads.Performs

/-! ## What comes of a request

A request may be made by the instance or by the handle, and by either way it is the same
record that decides. The outcomes are spelled out, each with what the history tells of it. -/

/-- What is asked may be put differently, if the same follows. -/
theorem Process.ask_bind_congr {σ γ δ : Type} {f : σ → γ} {g : σ → δ} {k : γ → Process σ β}
    {k' : δ → Process σ β} (h : ∀ s, k (f s) = k' (g s)) :
    (Process.ask f >>= k) = Process.ask g >>= k' := by
  refine ext_course ?_
  rw [course_bind, course_bind]
  refine congrArg (Course.step _ _) (funext fun s => ?_)
  exact congrArg course (h s)

/-- **A request to destroy an instance**, by the instance or by its live handle. -/
inductive DestructionRequest where
  /-- The instance is named. -/
  | destroy (o : ObjectId)
  /-- The handle is. -/
  | release (h : Handle)

namespace DestructionRequest

/-- The process of a request. It answers whether it ran the hook. -/
def process (run : Runner) (me : ThreadId) : DestructionRequest → Run Bool
  | .destroy o => Run.destroy run me o
  | .release h => Run.release run me h

/-- The handle whose record is found for a request. -/
def slot? (b : Bridge) : DestructionRequest → Option Handle
  | .destroy o => b.find? o
  | .release h => (b.listed? h).map fun _ => h

/-- A request looks the record up, and then destroys what is behind the handle. -/
theorem process_eq (q : DestructionRequest) (run : Runner) (me : ThreadId) :
    q.process run me = Run.askBridge q.slot? >>= fun slot =>
      match slot with
      | some h => Run.destroyRecord run me h
      | none => pure false := by
  cases q with
  | destroy o => rfl
  | release h =>
    refine Process.ask_bind_congr fun w => ?_
    dsimp only [slot?]
    cases w.bridge.listed? h <;> rfl

end DestructionRequest

/-- **What comes of a request** that is decided at `t`, behind a handle, and answered at
`u`. -/
inductive Threads.Decision (run : Runner) (me : ThreadId) (h : Handle) (t : Threads World α)
    (l : List (Threads World α)) (u : Threads World α) : Bool → Prop
  /-- The instance is not live, or its destruction was asked for before. Nothing changes. -/
  | refused (hclosed : ∀ r, t.state.bridge.records.get? h = some r → r.isOpen = false)
    (hsame : (Run.destroyRecord run me h).Answers t.state false) : Decision run me h t l u false
  /-- The thread is itself inside a call on the instance. The destruction is left to the last
  call. -/
  | deferred {v : Threads World α} {l' : List (Threads World α)} (r : Record)
    (hr : t.state.bridge.records.get? h = some r) (hopen : r.isOpen = true)
    (hme : me ∈ r.inFlight) (hv : v.state = t.state.onBridge
      (t.state.bridge.updateRecord h fun r => { r with destroyPending := true }) [.condemned h])
    (ho : Others me v l' u) : Decision run me h t l u false
  /-- The thread runs the hook, and the instance is destroyed. -/
  | carriedOut (r : Record) (hr : t.state.bridge.records.get? h = some r)
    (hopen : r.isOpen = true) (hme : me ∉ r.inFlight) (hhook : RunsHook run me h r.hooks l)
    (hdestroyed : u.state.bridge.lifecycleAt h = .destroyed) : Decision run me h t l u true

/-- A request is refused only on what is not open. -/
theorem Bridge.isOpen_of_refused {b : Bridge} (hc : (b.condemn me h).1 = .refused)
    (hr : b.records.get? h = some r) : r.isOpen = false := by
  by_contra hopen
  rw [Bool.not_eq_false] at hopen
  unfold condemn at hc
  rw [hr] at hc
  dsimp only at hc
  rw [hopen] at hc
  by_cases hme : me ∈ r.inFlight <;> simp [hme] at hc

namespace Threads.Performs

/-- **The thread whose request was accepted is destroying** the instance, which has its resource
still. -/
theorem accepted (hw : w.Fresh) (ht : (w.threads n code).Reaches (fun _ => True) t)
    (hr : t.state.bridge.records.get? h = some r) (hopen : r.isOpen = true)
    (hc : t.state.bridge.condemn me h =
      (.accepted, t.state.bridge.updateRecord h fun r => { r with lifecycle := .destructing }))
    {b : Bridge.Verdict}
    (hp : t.Performs me (Run.onBridgeWhen (·.isSettled h) (·.condemn me h) (Run.verdictEvents h))
      l (.ok b) u) (hb : u.state.constructions < 2 ^ 64) : u.Destroys me h true := by
  obtain ⟨own, hown⟩ := hw.threads_accounted (hp.bounded_start ht hb)
  obtain ⟨φ, hφ, -, -, hequipped⟩ := hown.state.standing_of_get? hr
  obtain rfl := hφ.live hr hopen
  have hd : u.Destroys me h r.resource.isSome := by
    refine hp.destroys ht ⟨own, hown, fun you _ => hown.state.none_of_isOpen hr hopen you⟩ hb
      (r := { r with lifecycle := .destructing }) ?_ rfl
    dsimp only
    rw [hc]
    exact Bridge.get?_updateRecord hr _
  rwa [← hequipped] at hd

/-- **What an accepted request comes to**: the thread waits until no call is running, and runs
the hook. -/
theorem awaitedDestruction {b : Bool} (hw : w.Fresh)
    (ht : (w.threads n code).Reaches (fun _ => True) t) (hd : t.Destroys me h true)
    (hr : t.state.bridge.records.get? h = some r)
    (hp : t.Performs me (do
      Process.await (fun w => w.bridge.isIdle h)
      Run.finishDestroy run me h
      return true) l (.ok b) u)
    (hb : u.state.constructions < 2 ^ 64) :
    b = true ∧ RunsHook run me h r.hooks l ∧ u.state.bridge.lifecycleAt h = .destroyed := by
  obtain ⟨v, l₁, l₂, rfl, hawait, hp⟩ := hp.await_bind
  have hv := (hawait.reaches (.here trivial)).2
  have htv := hp.bounded (ht.trans hv) hb
  obtain ⟨s, hs, hdestructing, hsome⟩ := hd.record
  have hdv := hawait.destroys (f := fun w => ((), w)) ht hd.alone htv.start hs hdestructing
  rw [hsome] at hdv
  obtain ⟨s', hs', -, -⟩ := hdv.record
  obtain ⟨_, v', l₃, l₄, rfl, hfinish, hp⟩ := hp.bind
  obtain ⟨htrue, rfl, rfl⟩ := hp.pure
  obtain ⟨hhook, hdestroyed⟩ := hfinish.finishDestroy hw (ht.trans hv) hdv hs' hb
  -- the hooks are still those that the instance was constructed with
  have hhooks : s'.hooks = r.hooks :=
    congrArg (·.2.2) (hw.origin_eq (hawait.bounded_start ht htv.start) (.bounded ht hv htv.start)
      hd.constructed hr hs')
  exact ⟨Except.ok.inj htrue, hhooks ▸ hhook.append _ _, hdestroyed⟩

/-- **A destruction is decided** where no construction is running, and is answered as the
decision has it. -/
theorem destroyRecord {b : Bool} (hw : w.Fresh)
    (ht : (w.threads n code).Reaches (fun _ => True) t)
    (hp : t.Performs me (Run.destroyRecord run me h) l (.ok b) u)
    (hb : u.state.constructions < 2 ^ 64) :
    t.state.bridge.isSettled h = true ∧ Decision run me h t l u b := by
  obtain ⟨v, l₁, l₂, rfl, hcondemn, hp⟩ := hp.exchangeWhen_bind
  have hv := (hcondemn.reaches (.here trivial)).2
  obtain ⟨hsettled, -, l', t', -, hstate, -, hothers⟩ := hcondemn.exchangeWhen
  refine ⟨hsettled, ?_⟩
  dsimp only at hp hstate
  obtain hc | ⟨r, hr, hopen, hme, hc⟩ | ⟨r, hr, hopen, hme, hc⟩ :=
    t.state.bridge.condemn_cases me h
  · rw [hc] at hp
    obtain rfl := Except.ok.inj hp.pure.1
    refine .refused (fun r hr => Bridge.isOpen_of_refused (congrArg Prod.fst hc) hr)
      (Process.Answers.bind_pure (a := .refused) (.exchangeWhen hsettled ?_) rfl)
    dsimp only
    rw [hc]
    rfl
  · rw [hc] at hp hstate
    obtain ⟨hfalse, rfl, rfl⟩ := hp.pure
    obtain rfl := Except.ok.inj hfalse
    exact .deferred r hr hopen hme hstate hothers
  · have hbv := (hp.bounded (ht.trans hv) hb).start
    have hd := hcondemn.accepted hw ht hr hopen hc hbv
    rw [hc] at hp
    obtain ⟨s, hs, -, -⟩ := hd.record
    obtain ⟨rfl, hhook, hdestroyed⟩ := hp.awaitedDestruction hw (ht.trans hv) hd hs hb
    -- the record keeps the hooks that it had where the request was made
    have hbt := hcondemn.bounded_start ht hbv
    obtain ⟨own, hown⟩ := hw.accounted_of_reaches hbt
    have hbuilt := hown.constructed_of_isOpen hr hopen
    have hhooks : s.hooks = r.hooks :=
      congrArg (·.2.2) (hw.origin_eq hbt (.bounded ht hv hbv) hbuilt hr hs)
    exact .carriedOut r hr hopen hme (by simpa [hhooks] using hhook.append l₁ []) hdestroyed

end Threads.Performs

/-- **What comes of a request**, from the point where it is made to the one where it is
answered. -/
inductive DestructionRequest.Outcome (q : DestructionRequest) (run : Runner) (me : ThreadId)
    (t : Threads World α) (l : List (Threads World α)) (u : Threads World α) : Bool → Prop
  /-- There is no record. Nothing changes. -/
  | absent (hslot : q.slot? t.state.bridge = none)
    (hsame : (q.process run me).Answers t.state false) : Outcome q run me t l u false
  /-- A record is found, and the request is decided there, once no construction is running. -/
  | found {h : Handle} {v : Threads World α} {l₁ l₂ : List (Threads World α)} {b : Bool}
    (hslot : q.slot? t.state.bridge = some h) (hl : l = l₁ ++ l₂)
    (hfind : t.Performs me (Run.askBridge q.slot?) l₁ (.ok (some h)) v)
    (hsettled : v.state.bridge.isSettled h = true) (hd : v.Decision run me h l₂ u b) :
    Outcome q run me t l u b

/-! ## Requests, and the end of the last call

Both ways to the hook, performed among other threads. -/

namespace Threads.Performs

/-- **What a request has come to** is one of its outcomes. -/
theorem request {q : DestructionRequest} {b : Bool} (hw : w.Fresh)
    (ht : (w.threads n code).Reaches (fun _ => True) t)
    (hp : t.Performs me (q.process run me) l (.ok b) u)
    (hb : u.state.constructions < 2 ^ 64) : q.Outcome run me t l u b := by
  rw [q.process_eq] at hp
  obtain ⟨v, l₁, l₂, hl, hfind, hp⟩ := hp.ask_bind
  dsimp only at hp hfind
  cases hslot : q.slot? t.state.bridge with
  | none =>
    rw [hslot] at hp
    obtain rfl := Except.ok.inj hp.pure.1
    refine .absent hslot ?_
    rw [q.process_eq]
    refine Process.Answers.bind_pure (a := none) ?_ rfl
    rw [← hslot]
    exact .ask _ _
  | some h =>
    rw [hslot] at hp hfind
    obtain ⟨hsettled, hd⟩ := hp.destroyRecord hw (hfind.reaches ht).2 hb
    exact .found hslot hl hfind hsettled hd

/-- A request does not panic. -/
theorem request_crash {q : DestructionRequest} {c : Crash}
    (hp : t.Performs me (q.process run me) l (.error c) u) : c = .tooDeep := by
  cases c with
  | tooDeep => rfl
  | panicked p =>
    refine absurd ?_ hp.contained
    cases q with
    | destroy o => exact (Discipline.lax_heedless.destroy (run.keeps_lax me) o).contained
    | release h => exact contained_nativeReply run me (.release h) (by simp) (by simp)

/-- **The end of the last call** on an instance whose destruction is deferred runs the hook. -/
theorem leave_last (hw : w.Fresh) (ht : (w.threads n code).Reaches (fun _ => True) t)
    (hr : t.state.bridge.records.get? h = some r) (hpending : r.destroyPending = true)
    (hlast : r.inFlight = [me]) (hp : t.Performs me (Run.leave run me h) l (.ok ()) u)
    (hb : u.state.constructions < 2 ^ 64) :
    RunsHook run me h r.hooks l ∧ u.state.bridge.lifecycleAt h = .destroyed := by
  have hbt := hp.bounded_start ht hb
  obtain ⟨own, hown⟩ := hw.threads_accounted hbt
  have hstanding := hown.state.standing_of_deferred hr hpending
  have hequipped : r.resource.isSome = true := by
    have := hstanding.shows.equipped
    rwa [show (t.state.sight h).record = some r from hr] at this
  have hlast' : (r.destroyPending && (r.inFlight.erase me).isEmpty) = true := by
    simp [hpending, hlast]
  obtain ⟨-, hdismiss⟩ | ⟨hother, -⟩ := t.state.bridge.dismiss_cases me hr
  · obtain ⟨v, l₁, l₂, rfl, hend, hp⟩ := hp.exchangeWhen_bind
    have ht₁ := (hend.reaches ht).2
    have hb₁ := (hp.bounded ht₁ hb).start
    have hd : v.Destroys me h r.resource.isSome := by
      refine hend.destroys ht ⟨own, hown, fun you _ => hstanding.work you⟩ hb₁
        (r := { r with inFlight := r.inFlight.erase me, destroyPending := false,
                       lifecycle := .destructing }) ?_ rfl
      dsimp only
      rw [hdismiss]
      exact Bridge.get?_updateRecord hr _
    rw [hequipped] at hd
    dsimp only at hp
    rw [if_pos (congrArg Prod.fst hdismiss)] at hp
    obtain ⟨r₁, hr₁, -, -⟩ := hd.record
    have hbuilt := (List.mem_filter.1 (hstanding.tells.built.2 rfl)).1
    have hhooks : r₁.hooks = r.hooks := congrArg (·.2.2)
      (hw.origin_eq hbt (.bounded ht (hend.reaches (.here trivial)).2 hb₁) hbuilt hr hr₁)
    obtain ⟨hhook, hdestroyed⟩ := finishDestroy hw ht₁ hd hr₁ hp hb
    rw [hhooks] at hhook
    exact ⟨by simpa using hhook.append l₁ [], hdestroyed⟩
  · rw [hlast'] at hother
    cases hother

/-- The end of a call does not panic. -/
theorem leave_crash {c : Crash} (hp : t.Performs me (Run.leave run me h) l (.error c) u) :
    c = .tooDeep := by
  cases c with
  | tooDeep => rfl
  | panicked p =>
    exact absurd (Discipline.lax_heedless.leave (run.keeps_lax me) h).contained hp.contained

end Threads.Performs

/-! ## No accepted destruction is lost

An instance that was to be destroyed is destroyed, or it is being destroyed, or it is live
with a call running on it. There is no fourth way, at any point of any interleaving. -/

/-- What is destroyed had its hook run. -/
theorem World.Accounted.destroyed_hook (hw : w.Accounted own)
    (hd : w.bridge.lifecycleAt h = .destroyed) : ∃ x, .destruction h x ∈ w.history := by
  obtain ⟨r, hr, hl⟩ := Bridge.exists_of_lifecycleAt hd (by decide)
  obtain ⟨φ, hφ, hlifecycle, -, -⟩ := hw.standing_of_get? hr
  obtain rfl := Phase.of_destroyed (hlifecycle.trans (congrArg some hl))
  have hstarted : 0 < hookStarts h (w.past h) := by
    rw [show hookStarts h (w.past h) = 1 from hφ.tells.destructions]
    exact Nat.one_pos
  obtain ⟨e, he, hdestruction⟩ := List.countP_pos_iff.1 hstarted
  cases e with
  | destruction g x =>
    obtain rfl : g = h := of_decide_eq_true hdestruction
    exact ⟨x, (List.mem_filter.1 he).1⟩
  | _ => cases hdestruction

/-- While a destruction is deferred, some call has not ended. -/
theorem World.Accounted.deferred_outstanding (hw : w.Accounted own)
    (hr : w.bridge.records.get? h = some r) (hp : r.destroyPending = true) :
    r.lifecycle = .live ∧ ∃ you,
      (dismissals h w.history).count you < (admissions h w.history).count you := by
  obtain ⟨φ, hφ, hlifecycle, hpending, -⟩ := hw.standing_of_get? hr
  obtain rfl := Phase.of_pending (hpending.trans hp)
  refine ⟨(Option.some.inj hlifecycle).symm, ?_⟩
  obtain ⟨you, hyou⟩ := List.exists_mem_of_ne_nil _ (hφ.shows.awaited rfl)
  refine ⟨you, ?_⟩
  have hcount : 0 < (w.sight h).inFlight.count you := List.count_pos_iff.2 hyou
  have htally : (admissions h (w.past h)).count you =
      (dismissals h (w.past h)).count you + (w.sight h).inFlight.count you :=
    hφ.tallies.tally you
  unfold World.past at htally
  rw [admissions_filter, dismissals_filter] at htally
  omega

/-- **A thread sees to a destruction**: however the interleaving goes on, the instance is
destructing and the thread has not come to its end, until the hook has run and the instance is
destroyed. -/
def Threads.SeesTo (t : Threads World α) (me : ThreadId) (h : Handle) : Prop :=
  ∀ u, t.Reaches (fun w => w.constructions < 2 ^ 64) u →
    u.state.bridge.lifecycleAt h = .destroyed ∧ (∃ x, .destruction h x ∈ u.state.history) ∨
    u.state.bridge.lifecycleAt h = .destructing ∧
      ∀ e, u.todo me = .finish e → e = .error .tooDeep

/-- A thread that has come to destroy an instance sees to it. -/
theorem Threads.Destroys.seesTo {equipped : Bool} (hw : w.Fresh)
    (ht : (w.threads n code).Reaches (fun w => w.constructions < 2 ^ 64) t)
    (hd : t.Destroys me h equipped) : t.SeesTo me h := by
  intro u hu
  obtain ⟨equipped', hd'⟩ | hdestroyed := hd.of_reaches hw ht hu
  · exact .inr ⟨hd'.lifecycleAt, fun e he => hd'.unfinished he⟩
  · obtain ⟨own, hown⟩ := hw.accounted_of_reaches (ht.trans hu)
    exact .inl ⟨hdestroyed, hown.destroyed_hook hdestroyed⟩

/-- **Deferred destructions happen**, in any interleaving of any number of threads from the
start of a host on, until its handles run out:
* while a destruction is deferred, the instance is live and some call on it has not ended;
* a request that is answered has come to one of the outcomes of `DestructionRequest.Outcome`:
  it found nothing to destroy and changed nothing, or it came from inside a call on the
  instance and was deferred, or it ran the hook before it was answered;
* whatever section is entered next, a deferred destruction stays deferred unless the section
  ends the last call, and then the thread of that call sees to the destruction;
* the end of the last call runs the hook, and leaves the instance destroyed;
* so whatever was accepted is deferred, or some thread sees to it, or it is done. -/
theorem deferred_destructions_happen (hw : w.Fresh)
    (ht : (w.threads n code).Reaches (fun w => w.constructions < 2 ^ 64) t) :
    (∀ h r, t.state.bridge.records.get? h = some r → r.destroyPending = true →
      r.lifecycle = .live ∧ ∃ you,
        (dismissals h t.state.history).count you < (admissions h t.state.history).count you) ∧
    (∀ (q : DestructionRequest) run me l e u, t.Performs me (q.process run me) l e u →
      u.state.constructions < 2 ^ 64 →
        e = .error .tooDeep ∨ ∃ b, e = .ok b ∧ q.Outcome run me t l u b) ∧
    (∀ h, t.state.bridge.Deferred h → ∀ you ready effect next,
      t.todo you = .step ready effect next → ready t.state = true →
        (effect t.state).constructions < 2 ^ 64 →
          (effect t.state).bridge.Deferred h ∨
          t.state.bridge.callers h = [you] ∧ (effect t.state).bridge.callers h = [] ∧
            (t.entered you effect (next t.state)).SeesTo you h) ∧
    (∀ h r run me l e u, t.state.bridge.records.get? h = some r → r.destroyPending = true →
      r.inFlight = [me] → t.Performs me (Run.leave run me h) l e u →
        u.state.constructions < 2 ^ 64 →
          e = .error .tooDeep ∨ e = .ok () ∧ Threads.RunsHook run me h r.hooks l ∧
            u.state.bridge.lifecycleAt h = .destroyed) ∧
    (∀ h, .condemned h ∈ t.state.history →
      t.state.bridge.Deferred h ∨
      (t.state.bridge.lifecycleAt h = .destructing ∧ ∃ you, t.SeesTo you h) ∨
      t.state.bridge.lifecycleAt h = .destroyed ∧ ∃ x, .destruction h x ∈ t.state.history) := by
  have hreach := ht.mono fun _ _ => trivial
  obtain ⟨own, hown⟩ := hw.threads_accounted ht
  refine ⟨fun h r hr hp => ?_, fun q run me l e u hp hb => ?_,
    fun h hd you ready effect next hstep hready hb => ?_,
    fun h r run me l e u hr hpending hlast hp hb => ?_, fun h hc => ?_⟩
  · exact hown.state.deferred_outstanding hr hp
  · cases e with
    | ok b => exact .inr ⟨b, rfl, hp.request hw hreach hb⟩
    | error c => exact .inl (congrArg Except.error hp.request_crash)
  · obtain hd' | ⟨hcallers, hidle, equipped, hdestroys⟩ :=
      hown.deferred_step hreach hstep hready hb hd
    · exact .inl hd'
    exact .inr ⟨hcallers, hidle, hdestroys.seesTo hw (ht.enter hstep hready hb)⟩
  · cases e with
    | ok b => exact .inr ⟨rfl, hp.leave_last hw hreach hr hpending hlast hb⟩
    | error c => exact .inl (congrArg Except.error hp.leave_crash)
  · obtain ⟨φ, hφ, rfl | hl | rfl⟩ := hown.state.of_condemned hc
    · obtain ⟨r, hr, -⟩ := hφ.shows.exists_record rfl
      have hpending := hφ.shows.pending
      rw [hr] at hpending
      exact .inl ⟨r, hr, hpending⟩
    · obtain ⟨you, k, rfl, hk⟩ := Phase.of_destructing hl
      have hdestroys : t.Destroys you h k.outline.equipped :=
        ⟨own, k, hown, (hφ.work you).trans (if_pos rfl), hk, rfl⟩
      exact .inr (.inl ⟨hdestroys.lifecycleAt, you, hdestroys.seesTo hw ht⟩)
    · obtain ⟨r, hr, hl⟩ := hφ.shows.exists_record rfl
      have hdestroyed : t.state.bridge.lifecycleAt h = .destroyed :=
        (Bridge.lifecycleAt_of_get? hr).trans hl
      exact .inr (.inr ⟨hdestroyed, hown.state.destroyed_hook hdestroyed⟩)

/-! ## A destruction from inside a call

A thread that keeps a call running, asks for the destruction, and ends the call. -/

/-- A thread asks for the destruction of an instance from inside a call on it, and then ends
the call. -/
def hesitating : ThreadId → NativeCode Unit
  | 0 =>
    .perform (.construct "T" ⟨1⟩) fun _ => .perform (.beginCall ⟨1⟩ crossedMember) fun _ =>
      .perform (.destroy ⟨1⟩) fun _ => .perform (.endCall ⟨1⟩) fun _ => .done ()
  | _ => .done ()

/-- Where the call is running. -/
def hesitatingCalled : World := ((Run.beginCall 0 ⟨1⟩ crossedMember).advance crossedFirst).2

/-- Where the destruction is deferred. -/
def hesitatingDeferred : World :=
  ((Run.destroy (.nested 1) 0 ⟨1⟩).advance hesitatingCalled).2

/-- Where the call is about to end. -/
def hesitatingLeaving : World := ((Run.takeCall 0 ⟨1⟩).advance hesitatingDeferred).2

/-- Where the call has ended. -/
def hesitatingDestroyed : World :=
  ((Run.leave (.nested 1) 0 ⟨1⟩).advance hesitatingLeaving).2

theorem hesitating_meets : ((hesitating 0).course 1 0).Meets (fun _ => True) plainHost
    (Run.leave (.nested 1) 0 ⟨1⟩) hesitatingLeaving := by
  have make : (Run.nativeReply (.nested 1) 0 (.construct "T" ⟨1⟩)).Ends plainHost
      (.ok (.ok (some ⟨1⟩))) crossedFirst := rfl
  have call : (Run.nativeReply (.nested 1) 0 (.beginCall ⟨1⟩ crossedMember)).Ends crossedFirst
      (.ok (.ok ⟨1⟩)) hesitatingCalled := rfl
  have destroy : (Run.nativeReply (.nested 1) 0 (.destroy ⟨1⟩)).Ends hesitatingCalled
      (.ok false) hesitatingDeferred := rfl
  have take : (Run.takeCall 0 ⟨1⟩).Ends hesitatingDeferred (.ok true) hesitatingLeaving := rfl
  have start : ((hesitating 0).course 1 0).Meets (fun _ => True) plainHost
      (Run.runNative (.nested 1) 0 (hesitating 0)) plainHost := .start _ trivial
  exact ((((start.next make).next call).next destroy).first.next take).first

/-- The end of the call runs the hook of the instance whose destruction was asked for in it. -/
theorem deferred_destructions_happen_hesitating : ∃ t u l,
    (plainHost.threads 1 hesitating).Reaches (fun w => w.constructions < 2 ^ 64) t ∧
    t.state.bridge.Deferred ⟨1⟩ ∧
    (∃ you, (dismissals ⟨1⟩ t.state.history).count you <
      (admissions ⟨1⟩ t.state.history).count you) ∧
    t.Performs 0 (Run.leave (.nested 1) 0 ⟨1⟩) l (.ok ()) u ∧
    Threads.RunsHook (.nested 1) 0 ⟨1⟩ plainHooks l ∧
    u.state.bridge.lifecycleAt ⟨1⟩ = .destroyed := by
  obtain ⟨k, hk⟩ := hesitating_meets
  have hcount : ((hesitating 0).course 1 0).Always (fun w => w.constructions < 2 ^ 64)
      plainHost := by decide +kernel
  obtain ⟨t, ht, hstate, htodo, -⟩ := Threads.reaches_alone
    (hk.of_forall fun q u hu => (hu.always hcount).here)
    (show (plainHost.threads 1 hesitating).todo 0 = _ from rfl)
  obtain ⟨r, hr, hpending, hlast, hhooks⟩ : ∃ r, t.state.bridge.records.get? ⟨1⟩ = some r ∧
      r.destroyPending = true ∧ r.inFlight = [0] ∧ r.hooks = plainHooks := by
    rw [hstate]
    exact ⟨_, rfl, rfl, rfl, rfl⟩
  obtain ⟨l, u, hp, hu⟩ := Threads.performs_alone (e := .ok ()) (s := hesitatingDestroyed) htodo
    (by rw [hstate]; rfl)
  have hb : u.state.constructions < 2 ^ 64 := by
    rw [hu]
    decide +kernel
  obtain ⟨hlive, -, -, hleave, -⟩ := deferred_destructions_happen plainHost_fresh ht
  obtain hdeep | ⟨-, hhook, hdestroyed⟩ := hleave ⟨1⟩ r _ 0 l _ u hr hpending hlast hp hb
  · cases hdeep
  · rw [hhooks] at hhook
    exact ⟨t, u, l, ht, ⟨r, hr, hpending⟩, (hlive ⟨1⟩ r hr hpending).2, hp, hhook, hdestroyed⟩

end HostBridge
