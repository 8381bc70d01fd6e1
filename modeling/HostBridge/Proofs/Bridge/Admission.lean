import HostBridge.Proofs.Bridge.Invocations

/-!
# Calls on an instance, and its handle

Two operations say whether an instance can be used, and each decides for itself. `Run.enter`
admits a call on it, and `Run.handleOf` hands out its handle, without which it cannot be
passed to native code.

They agree on whether, in every state: a call is admitted where the handle is handed out, and
on that very handle. They agree on why not as well, but for one stretch of time. A destruction
that was asked for from inside a call on the instance is left to the end of the last call, and
until then the record is still live. A call is told that the instance is being destroyed; who
asks for the handle does not get it either, but is told that the instance is live
(`calls_and_handles_agree`).

Both answers come of the record of the latest handle, and of nothing else. They are compared
here in one state, since either operation decides in a single section; which of two states two
threads see is their own affair. The stretch in which they differ is described from the inside,
by what the record has (`Bridge.Scheduled`), and from the outside, by what is known then of the
calls that are running.
-/

namespace HostBridge

variable {α : Type} {w : World} {own : ThreadId → Stakes} {o : ObjectId} {h : Handle}

namespace Bridge

variable {b : Bridge}

/-- **A destruction of an instance is scheduled**: it is left to the last call. -/
def Scheduled (b : Bridge) (o : ObjectId) : Prop :=
  ∃ h r, b.find? o = some h ∧ b.records.get? h = some r ∧ r.destroyPending = true

/-- A handle is handed out where calls are admitted. -/
theorem Admits.handleOf (ha : b.Admits h) (hfound : b.find? o = some h) :
    b.handleOf o = .ok h := by
  obtain ⟨r, hr, hopen⟩ := ha
  unfold Bridge.handleOf openHandle
  rw [hfound]
  dsimp only
  rw [hr]
  exact if_pos hopen

/-- Where no handle is handed out, the state of the instance is told. -/
theorem handleOf_of_not_admits (hn : ∀ g, b.find? o = some g → ¬b.Admits g) :
    b.handleOf o = .error (notLive o (b.state o)) := by
  unfold handleOf openHandle state lifecycleAt
  cases hfound : b.find? o with
  | none => rfl
  | some g =>
    cases hr : b.records.get? g with
    | none => simp [hr]
    | some r =>
      have hclosed : r.isOpen = false := Bool.eq_false_iff.2 fun hopen =>
        hn g hfound ⟨r, hr, hopen⟩
      simp [hr, hclosed]

theorem reported_of_scheduled (hs : b.Scheduled o) : b.reported o = .destructing := by
  obtain ⟨h, r, hfound, hr, hpending⟩ := hs
  simp [reported, hfound, hr, hpending]

/-- Where no destruction is scheduled, a call is told the state of the instance. -/
theorem reported_of_not_scheduled (hs : ¬b.Scheduled o) : b.reported o = b.state o := by
  unfold reported state lifecycleAt
  cases hfound : b.find? o with
  | none => rfl
  | some h =>
    cases hr : b.records.get? h with
    | none => simp [hr]
    | some r =>
      have hpending : ¬r.destroyPending = true := fun hp => hs ⟨h, r, hfound, hr, hp⟩
      simp [hr, hpending]

/-- No call is told that the instance is live. -/
theorem reported_ne_live (hn : ∀ g, b.find? o = some g → ¬b.Admits g) :
    b.reported o ≠ .live := by
  by_cases hs : b.Scheduled o
  · rw [reported_of_scheduled hs]
    decide
  rw [reported_of_not_scheduled hs]
  unfold state lifecycleAt
  cases hfound : b.find? o with
  | none => simp
  | some g =>
    cases hr : b.records.get? g with
    | none => simp [hr]
    | some r =>
      -- a live record that no destruction waits for is open
      have hpending : r.destroyPending = false :=
        Bool.eq_false_iff.2 fun hp => hs ⟨g, r, hfound, hr, hp⟩
      have hlive : r.lifecycle ≠ .live := fun hl =>
        hn g hfound ⟨r, hr, by simp [Record.isOpen, hl, hpending]⟩
      simpa [hr] using hlive

end Bridge

/-- An instance whose destruction is scheduled is live. -/
theorem World.Accounted.state_of_scheduled (hw : w.Accounted own) (hs : w.bridge.Scheduled o) :
    w.bridge.state o = .live := by
  obtain ⟨h, r, hfound, hr, hpending⟩ := hs
  obtain ⟨φ, hφ⟩ := hw.standing h
  have hrecord : (w.sight h).record = some r := hr
  have hshown := hφ.shows.pending
  rw [hrecord, Option.map_some, Option.getD_some, hpending] at hshown
  obtain rfl := Phase.of_pending hshown.symm
  have hlive := hφ.shows.lifecycle
  rw [hrecord] at hlive
  simpa [Bridge.state, hfound, Bridge.lifecycleAt, hr] using hlive

/-- **Calls and handles agree**, at every point of every interleaving from the start of a host
on, until its handles run out. Of any instance one of two things is true:
* a call on it is admitted, and its handle is handed out, which is the handle that the call is
  admitted on;
* neither is, and both are told the state of the instance, which then is not live.

Both are told the same state unless a destruction of the instance is scheduled. Then the call is
told that the instance is being destroyed, and who asks for the handle that it is live. -/
theorem calls_and_handles_agree (hw : w.Fresh) (n : Nat) (code : ThreadId → NativeCode α)
    {t : Threads World α}
    (ht : Threads.Reaches (fun w => w.constructions < 2 ^ 64) (w.threads n code) t)
    (me : ThreadId) (o : ObjectId) (m : Member) :
    (∃ h, (∃ w', (Run.enter me o m).Ends t.state (.ok (.ok h)) w') ∧
      (Run.handleOf o).Ends t.state (.ok (.ok h)) t.state) ∨
    ∃ s s', s ≠ .live ∧
      (Run.enter me o m).Ends t.state (.ok (.error (.invalidState m.render s))) t.state ∧
      (Run.handleOf o).Ends t.state (.ok (.error (.invalidState o.render s'))) t.state ∧
      (¬t.state.bridge.Scheduled o → s' = s) ∧
      (t.state.bridge.Scheduled o → s = .destructing ∧ s' = .live) := by
  obtain ⟨own, hown⟩ := hw.accounted_of_reaches ht
  have handle : (Run.handleOf o).Ends t.state (.ok (t.state.bridge.handleOf o)) t.state :=
    advance_handleOf t.state o
  by_cases ha : ∃ h, t.state.bridge.find? o = some h ∧ t.state.bridge.Admits h
  · obtain ⟨h, hfound, ha⟩ := ha
    rw [ha.handleOf hfound] at handle
    exact .inl ⟨h, ⟨_, ha.ends_enter hfound me m⟩, handle⟩
  have hn : ∀ g, t.state.bridge.find? o = some g → ¬t.state.bridge.Admits g :=
    fun g hfound hg => ha ⟨g, hfound, hg⟩
  rw [Bridge.handleOf_of_not_admits hn] at handle
  refine .inr ⟨_, _, Bridge.reported_ne_live hn, Run.ends_enter_of_not_admits hn me m, handle,
    fun hs => (Bridge.reported_of_not_scheduled hs).symm, fun hs => ?_⟩
  exact ⟨Bridge.reported_of_scheduled hs, hown.state_of_scheduled hs⟩

end HostBridge
