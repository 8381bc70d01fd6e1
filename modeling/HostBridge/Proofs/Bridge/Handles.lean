import HostBridge.Proofs.Bridge.Calls
import HostBridge.Proofs.Passage
import HostBridge.Proofs.Sections

/-!
# Handles that never return

Handles are numbered in the order of the constructions that they are given out to, so
until the numbers run out no two constructions have the same one. A construction that is
rejected or fails has used up its handle all the same.

A handle whose destruction hook has started is spent (`World.Spent`): it is not listed
any more, and its record has no resource and is not live. Nothing that happens later
changes this, because the start of the hook stays in the history and the history says in
which phases the handle can be (`World.Accounted.gone`). The instance may be constructed
again meanwhile, under another handle.
-/

namespace HostBridge

variable {σ α β : Type}

/-! ## Answers

What a spent handle is used for is answered with an error, and changes nothing. That is a
statement about processes of one or two sections, whose answer is known beforehand. -/

namespace Process

variable {p : Process σ α} {f : α → Process σ β} {s : σ} {a : α} {b : β}

/-- **A process answers at once**: it is one section, for which the state is ready and
which leaves it as it is. -/
def Answers (p : Process σ α) (s : σ) (a : α) : Prop :=
  ∃ ready effect next, p.course = .step ready effect next ∧ ready s = true ∧ effect s = s ∧
    next s = .done a

theorem Answers.exchangeWhen {ready : σ → Bool} {f : σ → α × σ} (hr : ready s = true)
    (hf : f s = (a, s)) : (Process.exchangeWhen ready f).Answers s a :=
  ⟨ready, fun s => (f s).2, fun s => .done (f s).1, rfl, hr, congrArg Prod.snd hf,
    congrArg (fun r => Course.done r.1) hf⟩

theorem Answers.ask (f : σ → α) (s : σ) : (Process.ask f).Answers s (f s) :=
  exchangeWhen (f := fun s => (f s, s)) rfl rfl

/-- What is decided from an answer is answered as well. -/
theorem Answers.bind_pure (h : p.Answers s a) (hf : f a = pure b) : (p >>= f).Answers s b := by
  obtain ⟨ready, effect, next, hp, hr, he, hn⟩ := h
  refine ⟨ready, effect, fun s => (next s).after (orCrash fun a => (f a).course), ?_, hr, he, ?_⟩
  · rw [course_bind, hp]
    rfl
  · show (next s).after _ = _
    rw [hn]
    show (f a).course = _
    rw [hf]
    rfl

end Process

/-! ## Handles that are spent

Whatever takes a handle begins by looking it up or by looking at its record. -/

variable {w : World} {own : ThreadId → Stakes} {me you : ThreadId} {g h : Handle}

/-- **A handle is spent**: who asks for the instance or for the resource behind it is told
that it was released, and who releases it is told that nothing was done. Each answer comes
at once and changes nothing, and those who had still found the handle listed get the same
answer one section later. -/
structure World.Spent (w : World) (h : Handle) : Prop where
  objectOf : (Run.objectOf h).Answers w (.error (.useAfterRelease h))
  useResource : ∀ kind update,
    (Run.useResource h kind update).Answers w (.error (.useAfterRelease h))
  useListed : ∀ kind update,
    (Run.onBridge (·.useResource h kind update) (Run.useEvents h kind update)).Answers w
      (.error (.useAfterRelease h))
  release : ∀ run me, (Run.release run me h).Answers w false
  releaseListed : ∀ run me, (Run.destroyRecord run me h).Answers w false

/-- **What is behind a handle is gone**, or going: the handle is not listed, and its record
has no resource and is not live. -/
structure Bridge.Gone (b : Bridge) (h : Handle) : Prop where
  unlisted : b.listed? h = none
  resource : (b.records.get? h).bind Record.resource = none
  closed : ∀ r, b.records.get? h = some r → r.isOpen = false
  settled : b.isSettled h = true

/-- **A destruction that has started its hook is beyond recall.** -/
theorem World.Accounted.gone (hw : w.Accounted own) {r : Resource}
    (hd : .destruction h r ∈ w.history) : w.bridge.Gone h := by
  obtain ⟨φ, hφ, hphase⟩ := hw.standing_of_destruction hd
  have houtline : φ.outline.listed = false ∧ φ.outline.equipped = false ∧
      ∃ l, φ.outline.lifecycle = some l ∧ l ≠ .live ∧ l ≠ .constructing := by
    obtain ⟨t, rfl⟩ | rfl := hphase
    · exact ⟨rfl, rfl, .destructing, rfl, by decide, by decide⟩
    · exact ⟨rfl, rfl, .destroyed, rfl, by decide, by decide⟩
  obtain ⟨hlisted, hequipped, l, hl, hlive, hconstructing⟩ := houtline
  obtain ⟨s, hs, rfl⟩ := hφ.shows.exists_record hl
  refine ⟨?_, ?_, fun s' hs' => ?_, ?_⟩
  · have hunlisted : w.bridge.handles.contains h = false := hφ.shows.listed.trans hlisted
    unfold Bridge.listed?
    rw [hunlisted]
    rfl
  · have hnone : ((w.bridge.records.get? h).bind Record.resource).isSome = false :=
      hφ.shows.equipped.trans hequipped
    simpa using hnone
  · obtain rfl := Option.some.inj (hs.symm.trans hs')
    simp [Record.isOpen, hlive]
  · have hlifecycle : w.bridge.lifecycleAt h = s.lifecycle := by
      unfold Bridge.lifecycleAt
      rw [show w.bridge.records.get? h = some s from hs]
      rfl
    unfold Bridge.isSettled
    rw [hlifecycle]
    exact decide_eq_true hconstructing

/-- **The handle of what is gone is spent.** -/
theorem Bridge.Gone.spent (hb : w.bridge.Gone h) : w.Spent h := by
  have find : (Run.askBridge (·.listed? h)).Answers w none := by
    rw [← hb.unlisted]
    exact .ask _ w
  have objectOf : w.bridge.objectOf h = .error (.useAfterRelease h) := by
    unfold Bridge.objectOf
    rw [hb.unlisted]
  have useResource : ∀ kind update, w.bridge.useResource h kind update =
      (.error (.useAfterRelease h), w.bridge) := by
    intro kind update
    unfold Bridge.useResource
    rw [hb.resource]
  have condemn : ∀ me, w.bridge.condemn me h = (.refused, w.bridge) := by
    intro me
    unfold Bridge.condemn
    cases hr : w.bridge.records.get? h with
    | none => rfl
    | some r => simp [hb.closed r hr]
  refine ⟨?_, fun kind update => ?_, fun kind update => ?_, fun run me => ?_, fun run me => ?_⟩
  · rw [← objectOf]
    exact .ask _ w
  · exact find.bind_pure rfl
  · refine .exchangeWhen rfl ?_
    dsimp only
    rw [useResource]
    rfl
  · exact find.bind_pure rfl
  · refine Process.Answers.bind_pure (a := .refused) (.exchangeWhen hb.settled ?_) rfl
    dsimp only
    rw [condemn]
    rfl

/-! ## Handles of constructions

A construction that succeeds is recognized by its points: the one where its handle is given
out and the one where it returns it. Between any two such handings-out the counter has gone
up, so the handles differ. -/

/-- A construction that succeeds answers the handle that was next when it began. -/
theorem Threads.Performs.attach {t u : Threads World α} {l : List (Threads World α)}
    {run : Runner} {o : ObjectId} {typeName : String} {hooks : Hooks}
    (hp : t.Performs me (Run.attach run me o typeName hooks) l (.ok (.ok h)) u) :
    h = ⟨t.state.bridge.nextHandle⟩ := by
  obtain ⟨g, v, l₁, l₂, -, hreserve, hp⟩ := hp.bind
  obtain rfl : g = ⟨t.state.bridge.nextHandle⟩ := Except.ok.inj hreserve.exchangeWhen.2.1
  obtain ⟨result, v, l₁, l₂, -, -, hp⟩ := hp.bind
  cases result with
  | error state => cases hp.pure.1
  | ok _ =>
    obtain ⟨built, v, l₁, l₂, -, -, hp⟩ := hp.bind
    cases built with
    | ok resource =>
      obtain ⟨_, v, l₁, l₂, -, -, hp⟩ := hp.bind
      obtain ⟨_, v, l₁, l₂, -, -, hp⟩ := hp.bind
      obtain ⟨_, v, l₁, l₂, -, -, hp⟩ := hp.bind
      exact Except.ok.inj (Except.ok.inj hp.pure.1)
    | error fault =>
      obtain ⟨_, v, l₁, l₂, -, -, hp⟩ := hp.bind
      obtain ⟨_, v, l₁, l₂, -, -, hp⟩ := hp.bind
      obtain ⟨_, v, l₁, l₂, -, -, hp⟩ := hp.bind
      cases hp.pure.1

namespace Threads

variable {t t' u v v' : Threads World α}

/-- **A construction that succeeds**, begun on a thread by entering its first section, from
one point of an interleaving to the next. It answers its handle. -/
def Succeeds (t : Threads World α) (me : ThreadId) (h : Handle) (t' : Threads World α) : Prop :=
  (∃ ready effect next, t.todo me = .step ready effect next ∧ ready t.state = true ∧
    t' = t.entered me effect (next t.state)) ∧
  ∃ run o typeName hooks l u,
    t.Performs me (Run.attach run me o typeName hooks) l (.ok (.ok h)) u

theorem Succeeds.handle (hs : t.Succeeds me h t') : h = ⟨t.state.bridge.nextHandle⟩ := by
  obtain ⟨-, run, o, typeName, hooks, l, u, hp⟩ := hs
  exact hp.attach

/-- Where a construction has begun is the next point. -/
theorem Succeeds.reaches {P : World → Prop} (hs : t.Succeeds me h t') (ht : P t.state)
    (ht' : P t'.state) : t.Reaches P t' := by
  obtain ⟨⟨ready, effect, next, htodo, hr, rfl⟩, -⟩ := hs
  exact .enter (.here ht) htodo hr ht'

/-- A thread that has come to a construction begins it, and it succeeds if it does so when
the thread goes on alone. -/
theorem exists_succeeds {run : Runner} {o : ObjectId} {typeName : String} {hooks : Hooks}
    {k : Except Crash (Except BridgeError Handle) → Course World α} {s : World}
    (ht : t.todo me = (Run.attach run me o typeName hooks).course.after k)
    (he : (Run.attach run me o typeName hooks).Ends t.state (.ok (.ok h)) s) :
    ∃ t', t.Succeeds me h t' ∧
      t'.state = t.state.onBridge t.state.bridge.reserve.2 [.issued t.state.bridge.reserve.1] ∧
      ∀ you, you ≠ me → t'.todo you = t.todo you := by
  obtain ⟨l, u, hp, -⟩ := performs_alone ht he
  exact ⟨_, ⟨⟨_, _, _, ht, rfl, rfl⟩, run, o, typeName, hooks, l, u, hp⟩, rfl,
    fun you hyou => entered_todo_of_ne hyou.symm _ _⟩

/-- The first section of a construction counts it. -/
theorem Succeeds.constructions (hs : t.Succeeds me h t') :
    t'.state.constructions = t.state.constructions + 1 := by
  obtain ⟨⟨ready, effect, next, htodo, -, rfl⟩, run, o, typeName, hooks, l, u, k, hk, -⟩ := hs
  have heffect : effect = fun w => w.onBridge w.bridge.reserve.2 [.issued w.bridge.reserve.1] :=
    (Course.step.inj (htodo.symm.trans hk)).2.1
  show (effect t.state).constructions = _
  rw [heffect]
  exact List.countP_cons_of_pos rfl

theorem Reaches.start {P : World → Prop} (h : t.Reaches P u) : P t.state := by
  induction h with
  | here hs => exact hs
  | enter h hu hr hs ih => exact ih

/-- **What happened has happened**: later on in an interleaving, the history has only been
added to. -/
theorem Reaches.suffix {n : Nat} {code : ThreadId → NativeCode α}
    (ht : (w.threads n code).Reaches (fun _ => True) t) (hu : t.Reaches (fun _ => True) u) :
    t.state.history <:+ u.state.history := by
  induction hu with
  | here hs => exact List.suffix_rfl
  | enter hu hstep hr hs ih =>
    obtain ⟨-, hsec⟩ := World.section_of_reaches (ht.trans hu) hstep hr
    exact ih.trans hsec.suffix

end Threads

/-- Before the numbers run out, a later construction is given another one. -/
theorem Handle.ofNat_succ_ne {a b : Nat} (hab : a < b) (hb : b < 2 ^ 64) :
    (⟨UInt64.ofNat (a + 1)⟩ : Handle) ≠ ⟨UInt64.ofNat (b + 1)⟩ := by
  intro h
  have hnumber := congrArg UInt64.toNat (Handle.mk.inj h)
  rw [UInt64.toNat_ofNat', UInt64.toNat_ofNat'] at hnumber
  omega

/-- **Handles never return**, in any interleaving of any number of threads from the start of
a host on, as long as fewer constructions were begun than there are handles:
* constructions that succeed have different handles, whoever begins the later one, for
  whatever instance, be it on another thread or from inside the hook of the earlier one;
* once the destruction hook of a handle has started, the handle is spent, and it is so for
  the rest of the interleaving. -/
theorem handles_never_return {w : World} (hw : w.Fresh) {n : Nat}
    {code : ThreadId → NativeCode α} {t : Threads World α}
    (ht : (w.threads n code).Reaches (fun w => w.constructions < 2 ^ 64) t) :
    (∀ me h t', t.Succeeds me h t' → ∀ v, t'.Reaches (fun w => w.constructions < 2 ^ 64) v →
      ∀ you g v', v.Succeeds you g v' → h ≠ g) ∧
    (∀ h r, .destruction h r ∈ t.state.history → ∀ v,
      t.Reaches (fun w => w.constructions < 2 ^ 64) v → v.state.Spent h) := by
  refine ⟨fun me h t' hs v hv you g v' hs' => ?_, fun h r hd v hv => ?_⟩
  · have ht' : t.Reaches (fun w => w.constructions < 2 ^ 64) t' := hs.reaches ht.within hv.start
    have hreach := ht.trans (ht'.trans hv)
    obtain ⟨own, hown⟩ := hw.accounted_of_reaches ht
    obtain ⟨own', hown'⟩ := hw.accounted_of_reaches hreach
    have hlater : t.state.constructions < v.state.constructions := by
      have hsuffix := Threads.Reaches.suffix ((ht.trans ht').mono fun _ _ => trivial)
        (hv.mono fun _ _ => trivial)
      have := hsuffix.sublist.countP_le (p := Event.isIssue)
      rw [← World.constructions, hs.constructions] at this
      exact this
    rw [hs.handle, hs'.handle, hown.numbered, hown'.numbered]
    exact Handle.ofNat_succ_ne hlater hreach.within
  · obtain ⟨own, hown⟩ := hw.accounted_of_reaches (ht.trans hv)
    have hsuffix := Threads.Reaches.suffix (ht.mono fun _ _ => trivial)
      (hv.mono fun _ _ => trivial)
    exact (hown.gone (hsuffix.subset hd)).spent

/-! ## An object that is constructed twice

It gets another handle the second time, and the first one stays spent. -/

/-- One thread constructs an instance, destroys it and constructs it again. Another thread
constructs another instance. -/
def recurring : ThreadId → NativeCode Unit
  | 0 =>
    .perform (.construct "T" ⟨1⟩) fun _ => .perform (.destroy ⟨1⟩) fun _ =>
      .perform (.construct "T" ⟨1⟩) fun _ => .done ()
  | _ => .perform (.construct "T" ⟨2⟩) fun _ => .done ()

/-- Where the instance is there. -/
def recurringMade : World := ((Run.construct (.nested 1) 0 "T" ⟨1⟩).advance plainHost).2

/-- Where the instance was destroyed. -/
def recurringGone : World := ((Run.destroy (.nested 1) 0 ⟨1⟩).advance recurringMade).2

/-- The hooks of the one type of the plain host. -/
def plainHooks : Hooks :=
  { construct := fun _ => .done (.ok ⟨.nothing, ()⟩), destroy := fun _ _ => .done () }

theorem recurring_meets : ((recurring 0).course 1 0).Meets (fun _ => True) plainHost
    (Run.attach (.nested 1) 0 ⟨1⟩ "T" plainHooks) recurringGone := by
  have make : (Run.nativeReply (.nested 1) 0 (.construct "T" ⟨1⟩)).Ends plainHost
      (.ok (.ok (some ⟨1⟩))) recurringMade := rfl
  have destroy : (Run.nativeReply (.nested 1) 0 (.destroy ⟨1⟩)).Ends recurringMade (.ok true)
      recurringGone := rfl
  have find : (Process.ask World.registry).Ends recurringGone (.ok plainHost.registry)
      recurringGone := rfl
  have start : ((recurring 0).course 1 0).Meets (fun _ => True) plainHost
      (Run.runNative (.nested 1) 0 (recurring 0)) plainHost := .start _ trivial
  exact (((start.next make).next destroy).first.next find).first

theorem recurring_meets_other (w : World) (hw : w.registry = plainHost.registry) :
    ((recurring 1).course 1 1).Meets (fun _ => True) w
      (Run.attach (.nested 1) 1 ⟨2⟩ "T" plainHooks) w := by
  have find : (Process.ask World.registry).Ends w (.ok plainHost.registry) w := .of_ask hw
  have start : ((recurring 1).course 1 1).Meets (fun _ => True) w
      (Run.runNative (.nested 1) 1 (recurring 1)) w := .start _ trivial
  exact (start.first.next find).first

/-- Where the construction of the instance has begun again. -/
def recurringAgain : World :=
  recurringGone.onBridge recurringGone.bridge.reserve.2 [.issued recurringGone.bridge.reserve.1]

/-- While one thread constructs an instance again that was destroyed, another thread begins a
construction. Its handle is another one, and that of the instance as it was is spent. -/
theorem handles_never_return_recurring : ∃ t t' v v' : Threads World Unit,
    (plainHost.threads 1 recurring).Reaches (fun w => w.constructions < 2 ^ 64) t ∧
    .destruction ⟨1⟩ ⟨.nothing, ()⟩ ∈ t.state.history ∧ t.Succeeds 0 ⟨2⟩ t' ∧
    t'.Reaches (fun w => w.constructions < 2 ^ 64) v ∧ v.Succeeds 1 ⟨3⟩ v' ∧
    (⟨2⟩ : Handle) ≠ ⟨3⟩ ∧ v.state.Spent ⟨1⟩ := by
  obtain ⟨k, hk⟩ := recurring_meets
  obtain ⟨k', hk'⟩ := recurring_meets_other recurringAgain rfl
  have hcount : ((recurring 0).course 1 0).Always (fun w => w.constructions < 2 ^ 64)
      plainHost := by decide +kernel
  have hcount' : ((recurring 1).course 1 1).Always (fun w => w.constructions < 2 ^ 64)
      recurringAgain := by decide +kernel
  -- the first thread comes to the second construction of the instance, and begins it
  obtain ⟨t, ht, hstate, htodo, hothers⟩ := Threads.reaches_alone
    (hk.of_forall fun q u hu => (hu.always hcount).here)
    (show (plainHost.threads 1 recurring).todo 0 = _ from rfl)
  obtain ⟨t', hs, hstate', hothers'⟩ := Threads.exists_succeeds (h := ⟨2⟩) htodo
    (by rw [hstate]; rfl)
  replace hstate' : t'.state = recurringAgain := by
    rw [hstate', hstate]
    rfl
  -- the other thread comes to its construction meanwhile
  replace hk' : ((recurring 1).course 1 1).Reaches (fun w => w.constructions < 2 ^ 64) t'.state
      ((Run.attach (.nested 1) 1 ⟨2⟩ "T" plainHooks).course.after k') recurringAgain := by
    rw [hstate']
    exact hk'.of_forall fun q u hu => (hu.always hcount').here
  obtain ⟨v, hv, hvstate, hvtodo, -⟩ := Threads.reaches_alone hk'
    ((hothers' 1 (by decide)).trans (hothers 1 (by decide)))
  obtain ⟨v', hs', -, -⟩ := Threads.exists_succeeds (h := ⟨3⟩) hvtodo (by rw [hvstate]; rfl)
  have hd : .destruction ⟨1⟩ ⟨.nothing, ()⟩ ∈ t.state.history := by
    rw [hstate]
    exact List.mem_of_getElem? (i := 0) rfl
  obtain ⟨hne, hspent⟩ := handles_never_return plainHost_fresh ht
  exact ⟨t, t', v, v', ht, hd, hs, hv, hs', hne 0 ⟨2⟩ t' hs v hv 1 ⟨3⟩ v' hs',
    hspent ⟨1⟩ _ hd v ((hs.reaches ht.within hv.start).trans hv)⟩

end HostBridge
