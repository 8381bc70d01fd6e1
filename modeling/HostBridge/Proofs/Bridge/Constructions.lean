import HostBridge.Proofs.Bridge.Deferred

/-!
# Constructions that fail

A construction is given its handle before anybody knows how it will end. It is rejected if
the instance has a record in use, and otherwise its hook may fail; either way the handle is
discarded, and the history tells of it.

As long as nothing was built for a handle, what is behind it is **dormant**
(`Bridge.Dormant`): nobody finds the instance or a resource by the handle, and no call is
admitted. Nothing is ever built for a handle that is discarded
(`World.Accounted.not_constructed`). So the handle of a construction that fails has been
dormant from the beginning on, and is spent when the construction is over, whatever its hook
and the other threads have constructed, called and destroyed meanwhile.

The instance itself is left as it was by a construction that was rejected, and it is free to
be constructed again where the hook of its construction has failed (`Threads.Failure`).
-/

namespace HostBridge

variable {α β : Type} {w : World} {n : Nat} {code : ThreadId → NativeCode α}
  {t u v : Threads World α} {l : List (Threads World α)} {own : ThreadId → Stakes}
  {me : ThreadId} {o : ObjectId} {h : Handle} {φ : Phase} {b : Bridge} {run : Runner}
  {typeName member : String} {hooks : Hooks}

/-! ## Handles for which nothing was built

Before the hook has returned, and for ever if it does not: a handle exists, and leads
nowhere. -/

/-- **What is behind a handle is dormant**: the handle is not listed, and its record, if there
is one, has no resource and admits no calls. -/
structure Bridge.Dormant (b : Bridge) (h : Handle) : Prop where
  unlisted : b.listed? h = none
  resource : (b.records.get? h).bind Record.resource = none
  closed : ∀ r, b.records.get? h = some r → r.isOpen = false

theorem Phase.of_not_built (hb : φ.outline.built = false) : φ.outline.listed = false ∧
    φ.outline.equipped = false ∧ φ.outline.lifecycle ≠ some .live := by
  cases φ with
  | held t k => cases k <;> first | exact ⟨rfl, rfl, by simp⟩ | cases hb
  | unissued => exact ⟨rfl, rfl, by simp⟩
  | rejected => exact ⟨rfl, rfl, by simp⟩
  | failed => exact ⟨rfl, rfl, by simp⟩
  | _ => cases hb

theorem Phase.of_discarded (hd : φ.outline.discarded = true) : φ = .rejected ∨ φ = .failed := by
  cases φ with
  | held t k => cases k <;> cases hd
  | rejected => exact .inl rfl
  | failed => exact .inr rfl
  | _ => cases hd

namespace World.Accounted

variable (hw : w.Accounted own)

include hw

/-- **Nothing was built, and so nothing is to be found.** -/
theorem dormant (hn : .constructed h ∉ w.history) : w.bridge.Dormant h := by
  obtain ⟨φ, hφ⟩ := hw.standing h
  have hbuilt : φ.outline.built = false := by
    refine Bool.eq_false_iff.2 (fun hb => hn ?_)
    exact (List.mem_filter.1 (hφ.tells.built.2 hb)).1
  obtain ⟨hlisted, hequipped, hlive⟩ := Phase.of_not_built hbuilt
  refine ⟨?_, ?_, fun r hr => ?_⟩
  · have hunlisted : w.bridge.handles.contains h = false := hφ.shows.listed.trans hlisted
    unfold Bridge.listed?
    rw [hunlisted]
    rfl
  · have hnone : ((w.bridge.records.get? h).bind Record.resource).isSome = false :=
      hφ.shows.equipped.trans hequipped
    simpa using hnone
  · refine Bool.eq_false_iff.2 (fun hopen => hlive ?_)
    rw [← hφ.shows.lifecycle, show (w.sight h).record = some r from hr,
      ← Record.lifecycle_of_isOpen hopen]
    rfl

theorem standing_of_discarded (hd : .discarded h ∈ w.history) :
    ∃ φ, Standing h (w.sight h) (fun t => own t h) φ ∧ (φ = .rejected ∨ φ = .failed) := by
  obtain ⟨φ, hφ⟩ := hw.standing h
  refine ⟨φ, hφ, Phase.of_discarded (hφ.tells.discarded.1 ?_)⟩
  exact List.mem_filter.2 ⟨hd, by simp [Event.handle?]⟩

/-- **Nothing is built for a handle that is discarded.** -/
theorem not_constructed (hd : .discarded h ∈ w.history) : .constructed h ∉ w.history := by
  obtain ⟨φ, hφ, hphase⟩ := hw.standing_of_discarded hd
  intro hc
  have hbuilt := hφ.tells.built.1 (List.mem_filter.2 ⟨hc, by simp [Event.handle?]⟩)
  obtain rfl | rfl := hphase <;> cases hbuilt

/-- **What is behind a handle that is discarded is gone**, for good. -/
theorem gone_of_discarded (hd : .discarded h ∈ w.history) : w.bridge.Gone h := by
  have hdormant := hw.dormant (hw.not_constructed hd)
  refine ⟨hdormant.unlisted, hdormant.resource, hdormant.closed, ?_⟩
  obtain ⟨φ, hφ, hphase⟩ := hw.standing_of_discarded hd
  have hlifecycle : (w.bridge.records.get? h).map Record.lifecycle = φ.outline.lifecycle :=
    hφ.shows.lifecycle
  unfold Bridge.isSettled Bridge.lifecycleAt
  rw [hlifecycle]
  obtain rfl | rfl := hphase <;> rfl

end World.Accounted

/-! ## How constructions fail

There are two ways, and they leave different things behind. A construction that is rejected
has not touched the instance. One whose hook failed has announced it, and takes the
announcement back in a section of its own; until that section other threads find the instance
under construction. -/

/-- **An instance is free**: it is unconstructed, and whoever announces a construction of it is
not rejected. -/
structure Bridge.Free (b : Bridge) (o : ObjectId) : Prop where
  unconstructed : b.state o = .unconstructed
  announced : ∀ typeName hooks h, (b.announce o typeName hooks h).1 = .ok ()

/-- An instance is free where its announcement was taken back. -/
theorem Bridge.free_withdraw (b : Bridge) (o : ObjectId) : (b.withdraw o).Free o := by
  have hfind : (b.withdraw o).find? o = none := (Table.get?_erase ..).trans (if_pos rfl)
  refine ⟨?_, fun typeName hooks h => ?_⟩
  · unfold state
    rw [hfind]
    rfl
  · unfold announce
    rw [hfind]

/-- A construction is rejected where the instance has a record that is not destroyed. -/
theorem Bridge.announce_error {s : Lifecycle} (ha : (b.announce o typeName hooks h).1 = .error s) :
    b.announce o typeName hooks h = (.error s, b) ∧
      ∃ g, b.find? o = some g ∧ b.lifecycleAt g = s ∧ s ≠ .destroyed := by
  unfold announce at ha ⊢
  cases hf : b.find? o with
  | none =>
    rw [hf] at ha
    cases ha
  | some g =>
    rw [hf] at ha
    by_cases hd : b.lifecycleAt g = .destroyed
    · simp [hd] at ha
    · obtain rfl : b.lifecycleAt g = s := by simpa [hd] using ha
      exact ⟨if_neg hd, g, rfl, rfl, hd⟩

/-- **The fault of code that has ended**: the one that it answered, or a panic. -/
def Faulted (member : String) (fault : NativeFault) : Except Crash (Except NativeFault β) → Prop
  | .ok (.ok _) => False
  | .ok (.error f) => f = fault
  | .error (.panicked q) => (⟨member ++ " panicked: " ++ q.message⟩ : NativeFault) = fault
  | .error .tooDeep => False

/-- **How a construction fails** that a thread begins at `t`, under a handle, and ends at `u`. -/
inductive Threads.Failure (run : Runner) (me : ThreadId) (o : ObjectId) (member : String)
    (hooks : Hooks) (h : Handle) (t : Threads World α) (l : List (Threads World α))
    (u : Threads World α) : BridgeError → Prop
  /-- The instance is found with a record in use. The construction uses up the number of its
  handle and changes nothing else, neither when it begins nor when it is rejected. -/
  | rejected {t' v v' : Threads World α} {l₁ l₂ : List (Threads World α)} {g : Handle}
      {s : Lifecycle} (hl : l = t :: (l₁ ++ v :: l₂))
      (begun : t'.state = t.state.onBridge
        { t.state.bridge with nextHandle := t.state.bridge.nextHandle + 1 } [.issued h])
      (before : Others me t' l₁ v) (found : v.state.bridge.find? o = some g)
      (inUse : v.state.bridge.lifecycleAt g = s) (hs : s ≠ .destroyed)
      (refused : v'.state = v.state.record (.discarded h)) (after : Others me v' l₂ u) :
      Failure run me o member hooks h t l u (.invalidState member s)
  /-- The construction hook has ended with a fault. The announcement is taken back, which
  leaves the instance free for whoever comes first, and the handle is discarded. -/
  | failed {p p' v v' x x' : Threads World α} {l₁ l₂ l₃ l₄ l₅ : List (Threads World α)}
      {e : Except Crash (Except NativeFault Resource)} {fault : NativeFault}
      (hl : l = l₁ ++ (l₂ ++ (l₃ ++ (v :: (l₄ ++ (x :: l₅))))))
      (hook : p.Performs me (run.native me (hooks.construct h)) l₂ e p')
      (faulted : Faulted member fault e)
      (withdrawn : v'.state = v.state.onBridge (v.state.bridge.withdraw o))
      (free : v'.state.bridge.Free o) (meanwhile : Others me v' l₄ x)
      (discarded : x'.state =
        x.state.onBridge (x.state.bridge.setLifecycle h .unconstructed) [.discarded h]) :
      Failure run me o member hooks h t l u (.nativeFault member fault)

namespace Threads.Performs

/-- Code behind the boundary has ended with the fault that is answered. -/
theorem catchNative_error {p : Run (Except NativeFault β)} {fault : NativeFault}
    (hp : t.Performs me (catchNative member id p) l (.ok (.error fault)) u) :
    ∃ e v l₁ l₂, l = l₁ ++ l₂ ∧ t.Performs me p l₁ e v ∧ Faulted member fault e := by
  obtain ⟨e, v, l₁, l₂, hl, hcode, hp⟩ := hp.attempt
  refine ⟨e, v, l₁, l₂, hl, hcode, ?_⟩
  match e with
  | .ok (.ok r) => cases hp.pure.1
  | .ok (.error f) => exact (Except.error.inj (Except.ok.inj hp.pure.1)).symm
  | .error (.panicked q) =>
    obtain ⟨v', l₃, l₄, -, -, hp⟩ := hp.change_bind
    exact (Except.error.inj (Except.ok.inj hp.pure.1)).symm
  | .error .tooDeep => cases hp.crash.1

/-- What a thread does about a hook that has failed: the announcement is taken back, and the
handle is discarded. -/
theorem takeBack {k : Run β} {e : Except Crash β}
    (ht : (w.threads n code).Reaches (fun _ => True) t)
    (hp : t.Performs me (do
      Run.changeBridge (·.withdraw o)
      Run.changeBridge (·.setLifecycle h .unconstructed) [.discarded h]
      k) l e u) :
    .discarded h ∈ u.state.history ∧ ∃ (t' x x' : Threads World α) (l₁ l₂ : _),
      l = t :: (l₁ ++ (x :: l₂)) ∧
      t'.state = t.state.onBridge (t.state.bridge.withdraw o) ∧ Others me t' l₁ x ∧
      x'.state = x.state.onBridge (x.state.bridge.setLifecycle h .unconstructed)
        [.discarded h] := by
  obtain ⟨x, k₁, k₂, hl, hwithdraw, hdiscards⟩ := hp.change_bind
  have hx := (hwithdraw.reaches ht).2
  obtain ⟨-, l₁, t', rfl, hstate, -, hmeanwhile⟩ := hwithdraw.change
  obtain ⟨y, k₃, l₃, rfl, hdiscard, hrest⟩ := hdiscards.change_bind
  obtain ⟨-, l₂, x', rfl, hstate', hreach, hafter⟩ := hdiscard.change
  have hlater := (hafter.reaches (.here trivial)).2.trans (hrest.reaches (.here trivial)).2
  refine ⟨(Reaches.suffix (hx.trans hreach) hlater).subset ?_,
    t', x, x', l₁, l₂ ++ l₃, by simp [hl], hstate, hmeanwhile, hstate'⟩
  rw [hstate']
  exact List.mem_cons_self ..

/-- **A construction that answers an error** has failed in one of the two ways, and its handle
is discarded. -/
theorem attach_error {e : BridgeError} (ht : (w.threads n code).Reaches (fun _ => True) t)
    (hp : t.Performs me (Run.attach run me o typeName hooks) l (.ok (.error e)) u) :
    .discarded ⟨t.state.bridge.nextHandle⟩ ∈ u.state.history ∧
      Failure run me o (typeName ++ "::.ctor") hooks ⟨t.state.bridge.nextHandle⟩ t l u e := by
  -- the handle is reserved
  obtain ⟨h, v, k₁, k₂, rfl, hreserve, hp₁⟩ := hp.bind
  have hv := (hreserve.reaches ht).2
  obtain ⟨-, hh, l₁, t', rfl, hbegun, -, hbefore⟩ := hreserve.exchangeWhen
  obtain rfl : h = ⟨t.state.bridge.nextHandle⟩ := Except.ok.inj hh
  change t'.state = t.state.onBridge _ [.issued ⟨t.state.bridge.nextHandle⟩] at hbegun
  generalize (⟨t.state.bridge.nextHandle⟩ : Handle) = h at hp₁ hbegun ⊢
  -- the instance is announced
  obtain ⟨result, v₁, k₃, k₄, rfl, hannounce, hp₂⟩ := hp₁.bind
  have hv₁ := (hannounce.reaches hv).2
  obtain ⟨-, hresult, l₂, v', rfl, hstate, hreach, hafter⟩ := hannounce.exchangeWhen
  obtain rfl := Except.ok.inj hresult
  dsimp only at hp₂ hstate
  cases ha : (v.state.bridge.announce o typeName hooks h).1 with
  | error s =>
    -- and turned away
    rw [ha] at hp₂
    obtain ⟨he, rfl, rfl⟩ := hp₂.pure
    obtain rfl := Except.error.inj (Except.ok.inj he)
    obtain ⟨hsame, g, hg, hs, hne⟩ := Bridge.announce_error ha
    rw [hsame] at hstate
    refine ⟨?_, .rejected (by simp) hbegun hbefore hg hs hne hstate hafter⟩
    refine (Reaches.suffix (hv.trans hreach) (hafter.reaches (.here trivial)).2).subset ?_
    rw [hstate]
    exact List.mem_cons_self ..
  | ok _ =>
    -- and the hook runs, which must have failed
    rw [ha] at hp₂
    obtain ⟨built, v₂, k₅, k₆, rfl, hcatch, hp₃⟩ := hp₂.bind
    have hv₂ := (hcatch.reaches hv₁).2
    cases built with
    | ok resource =>
      obtain ⟨_, _, _, _, -, -, hp₄⟩ := hp₃.bind
      obtain ⟨_, _, _, _, -, -, hp₅⟩ := hp₄.bind
      obtain ⟨_, _, _, _, -, -, hp₆⟩ := hp₅.bind
      cases hp₆.pure.1
    | error fault =>
      dsimp only at hp₃
      obtain ⟨hmem, v₂', x, x', l₅, l₆, rfl, hwithdrawn, hmeanwhile, hdiscarded⟩ :=
        hp₃.takeBack hv₂
      obtain ⟨_, _, _, _, -, -, hp₄⟩ := hp₃.bind
      obtain ⟨_, _, _, _, -, -, hp₅⟩ := hp₄.bind
      obtain ⟨_, _, _, _, -, -, hp₆⟩ := hp₅.bind
      obtain rfl := Except.error.inj (Except.ok.inj hp₆.pure.1)
      obtain ⟨e, p', k₇, k₈, rfl, hcode, hfault⟩ := hcatch.catchNative_error
      obtain ⟨p, m₁, m₂, rfl, -, hhook⟩ := hcode.change_bind
      have hpoints : t :: l₁ ++ (v :: l₂ ++ (m₁ ++ m₂ ++ k₈ ++ v₂ :: (l₅ ++ x :: l₆))) =
          (t :: (l₁ ++ v :: (l₂ ++ m₁))) ++ (m₂ ++ (k₈ ++ v₂ :: (l₅ ++ x :: l₆))) := by simp
      refine ⟨hmem, .failed hpoints hhook hfault hwithdrawn ?_ hmeanwhile hdiscarded⟩
      rw [hwithdrawn]
      exact Bridge.free_withdraw ..

end Threads.Performs

/-- **Constructions that fail leave nothing**, in any interleaving of any number of threads from
the start of a host on, as long as fewer constructions were begun than there are handles. Let a
thread construct an instance between `t` and `u`, and let the construction answer an error:
* it has failed in one of two ways (`Threads.Failure`): it was rejected, and changed nothing but
  the number of the next handle, or its hook has failed, and then the instance was free;
* the handle of the construction was never live: what is behind it is dormant at all points that
  the thread comes by, whatever the hook and the other threads do there, and ever after;
* from `u` on, the handle is spent. -/
theorem failed_constructions_leave_nothing (hw : w.Fresh) {e : BridgeError}
    (ht : (w.threads n code).Reaches (fun _ => True) t)
    (hp : t.Performs me (Run.attach run me o typeName hooks) l (.ok (.error e)) u)
    (hb : u.state.constructions < 2 ^ 64) (hh : h = ⟨t.state.bridge.nextHandle⟩) :
    t.Failure run me o (typeName ++ "::.ctor") hooks h l u e ∧
    (∀ v ∈ l, v.state.bridge.Dormant h) ∧
    ∀ v, u.Reaches (fun w => w.constructions < 2 ^ 64) v →
      v.state.bridge.Dormant h ∧ v.state.Spent h := by
  obtain ⟨hdiscarded, hfailure⟩ := hp.attach_error ht
  rw [← hh] at hdiscarded hfailure
  have hbt := hp.bounded_start ht hb
  have hu := hbt.trans (hp.bounded ht hb)
  refine ⟨hfailure, fun v hv => ?_, fun v hv => ?_⟩
  · -- what is not built at the end was never built
    have hvu := hp.reaches_end v hv
    have htv := (hp.reaches ht).1 v hv
    have hbv : (w.threads n code).Reaches (fun w => w.constructions < 2 ^ 64) v :=
      .bounded (.here trivial) htv (Nat.lt_of_le_of_lt (htv.constructions_le hvu) hb)
    obtain ⟨own, hown⟩ := hw.accounted_of_reaches hbv
    obtain ⟨own', hown'⟩ := hw.accounted_of_reaches hu
    exact hown.dormant fun hc => hown'.not_constructed hdiscarded ((htv.suffix hvu).subset hc)
  · obtain ⟨own, hown⟩ := hw.accounted_of_reaches (hu.trans hv)
    have hsuffix := Threads.Reaches.suffix (hu.mono fun _ _ => trivial)
      (hv.mono fun _ _ => trivial)
    have hd := hsuffix.subset hdiscarded
    exact ⟨hown.dormant (hown.not_constructed hd), (hown.gone_of_discarded hd).spent⟩

end HostBridge
