import HostBridge.Proofs.Bridge.Calls
import HostBridge.Proofs.Bridge.Records
import HostBridge.Proofs.Passage
import Mathlib.Data.Set.Finite.Lemmas

/-!
# Threads that wait to destroy

A thread that destroys or releases an instance may have to wait twice: until no
construction is running behind its handle, and, once its request is accepted, until
no call is. A request from inside a call on the very instance is not accepted but left
to the end of the last call, so nobody waits for a call of its own.

That is all the bridge does against deadlocks. A thread that is inside a call on one
instance may wait for another instance, and the thread it waits for may wait for it
(`crossed_destructions_deadlock`). But every deadlock is of that kind, or comes from
inside a construction: however instances are ranked, some thread in it waits for an
instance ranked no higher than one that it is calling or constructing
(`destroy_waits_elsewhere`). So threads that destroy in the order of some ranking never
deadlock.

## What a deadlock is

A set of threads, each of which waits for a thread of the set. Whether a thread waits is not a
field of the state. It is read off what the thread is about to do: its next section is not
ready (`Threads.WaitsForConstruction`, `Threads.WaitsForCalls`). Whom it waits for is read off
the record, for calls, and off where the other thread stands, for constructions, since a record
under construction does not name its thread.

The ranking is that of the classical argument for ordered locks. The handles are finitely many
(`Handle.finite`), so among the instances that the threads of a deadlock wait for one has the
highest rank. The thread that is inside a call on it, or constructs it, waits for one that is
ranked no higher.
-/

namespace HostBridge

variable {α : Type} {b b' : Bridge} {w w' : World} {me you : ThreadId} {g h : Handle}

/-! ## Who is inside a call

A record lists the threads that are inside a call on it, and only a thread itself puts its name
there or takes it away. So a thread that waits at a section is in no call later that it was not
in before. -/

namespace Bridge

/-- The threads that are inside a call on what is behind a handle. -/
def callers (b : Bridge) (h : Handle) : List ThreadId :=
  ((b.records.get? h).map Record.inFlight).getD []

/-- No call runs on what is under construction. -/
def CallsAfterConstruction (b : Bridge) : Prop :=
  ∀ h, b.isSettled h = false → b.callers h = []

theorem callers_of_get? {r : Record} (hr : b.records.get? h = some r) :
    b.callers h = r.inFlight := by
  rw [callers, hr]
  rfl

theorem exists_record_of_mem_callers (hme : me ∈ b.callers h) :
    ∃ r, b.records.get? h = some r ∧ me ∈ r.inFlight := by
  cases hr : b.records.get? h with
  | none => simp [callers, hr] at hme
  | some r => exact ⟨r, rfl, callers_of_get? hr ▸ hme⟩

theorem isSettled_eq_false : b.isSettled h = false ↔
    ∃ r, b.records.get? h = some r ∧ r.lifecycle = .constructing := by
  unfold isSettled lifecycleAt
  cases b.records.get? h <;> simp

theorem CallsAfterConstruction.isSettled (hb : b.CallsAfterConstruction)
    (hme : me ∈ b.callers h) : b.isSettled h = true := by
  by_contra hs
  rw [hb h (by simpa using hs)] at hme
  cases hme

/-- A change of a record that spares its calls spares the calls on every handle. -/
theorem callers_updateRecord (b : Bridge) (g h : Handle) {f : Record → Record}
    (hf : ∀ r, (f r).inFlight = r.inFlight) : (b.updateRecord g f).callers h = b.callers h := by
  unfold callers updateRecord
  rw [Table.get?_modify]
  split
  · cases b.records.get? h with
    | none => rfl
    | some r => exact hf r
  · rfl

/-- A request for destruction leaves the calls. -/
theorem callers_condemn (b : Bridge) (me : ThreadId) (g h : Handle) :
    (b.condemn me g).2.callers h = b.callers h := by
  unfold condemn
  split
  · rfl
  split
  · rfl
  split
  · exact callers_updateRecord b g h (fun _ => rfl)
  · exact callers_updateRecord b g h (fun _ => rfl)

/-- **A request from inside a call on the instance is not accepted.** -/
theorem not_mem_callers_of_condemn (hv : (b.condemn me h).1 = .accepted) :
    me ∉ b.callers h := by
  intro hme
  obtain ⟨r, hr, hmem⟩ := exists_record_of_mem_callers hme
  unfold condemn at hv
  rw [hr] at hv
  dsimp only at hv
  split at hv
  · cases hv
  · rw [if_pos (List.contains_iff_mem.2 hmem)] at hv
    cases hv

/-- Nobody else begins a call for a thread. -/
theorem Section.mem_callers (hs : b.Section you b') (hyou : you ≠ me)
    (hme : me ∈ b'.callers h) : me ∈ b.callers h := by
  obtain ⟨r', hr', hmem⟩ := exists_record_of_mem_callers hme
  obtain hopened | ⟨r, hr, hmoves⟩ := hs.recordsMove hr'
  · rw [hopened.inFlight] at hmem
    cases hmem
  · rw [callers_of_get? hr]
    exact hmoves.callers me hyou.symm hmem

theorem Section.callsAfterConstruction (hs : b.Section me b') (hb : b.CallsAfterConstruction) :
    b'.CallsAfterConstruction := by
  intro h hc
  obtain ⟨r', hr', hc'⟩ := isSettled_eq_false.1 hc
  rw [callers_of_get? hr']
  obtain hopened | ⟨r, hr, hmoves⟩ := hs.recordsMove hr'
  · exact hopened.inFlight
  · refine hmoves.admits hc' ?_
    rw [← callers_of_get? hr]
    exact hb h (isSettled_eq_false.2 ⟨r, hr, hmoves.constructing hc'⟩)

end Bridge

namespace World

theorem Section.mem_callers (hs : w.Section you w') (hyou : you ≠ me)
    (hme : me ∈ w'.bridge.callers h) : me ∈ w.bridge.callers h := by
  cases hs with
  | inBridge b events hb => exact hb.mem_callers hyou hme
  | _ => exact hme

/-- **No call runs on what is under construction**, at any point of any interleaving. -/
theorem Fresh.callsAfterConstruction (hw : w.Fresh) {n : Nat} {code : ThreadId → NativeCode α}
    {u : Threads World α} (hu : (w.threads n code).Reaches (fun _ => True) u) :
    u.state.bridge.CallsAfterConstruction := by
  refine (keeps_of_sections (I := fun v => v.bridge.CallsAfterConstruction) ?_ ?_ hu).2
  · intro h hs
    rw [hw.bridge] at hs
    cases hs
  · intro me v v' _ hs hv
    cases hs with
    | inBridge b events hb => exact hb.callsAfterConstruction hv
    | _ => exact hv

end World

/-! ## Waiting

Two sections of a destruction can block: the request, and after it the one that waits for the
end of the calls. -/

/-- The request for the destruction of what is behind a handle, once its construction
is over. -/
def Run.requestDestruction (me : ThreadId) (h : Handle) : Run Bridge.Verdict :=
  onBridgeWhen (·.isSettled h) (·.condemn me h) (verdictEvents h)

/-- What a verdict leaves the thread to do. -/
def Run.carryOut (run : Runner) (me : ThreadId) (h : Handle) : Bridge.Verdict → Run Bool
  | .accepted => do
    Process.await (fun w => w.bridge.isIdle h)
    finishDestroy run me h
    return true
  | _ => return false

/-- A destruction is the request, and then what the answer calls for. -/
theorem Run.destroyRecord_eq (run : Runner) (me : ThreadId) (h : Handle) :
    destroyRecord run me h = requestDestruction me h >>= carryOut run me h := by
  unfold destroyRecord
  refine congrArg _ (funext fun v => ?_)
  cases v <;> rfl

theorem Run.course_destroyRecord (run : Runner) (me : ThreadId) (h : Handle) :
    (destroyRecord run me h).course =
      .step (fun w => w.bridge.isSettled h)
        (fun w => w.onBridge (w.bridge.condemn me h).2
          (verdictEvents h (w.bridge.condemn me h).1))
        (fun w => (carryOut run me h (w.bridge.condemn me h).1).course) := by
  rw [destroyRecord_eq, Process.course_bind]
  rfl

namespace Threads

variable {start t u : Threads World α} {l : List (Threads World α)}

/-- **A thread waits for a construction**: it has come to destroy what is behind a
handle, and that is still under construction. -/
def WaitsForConstruction (u : Threads World α) (me : ThreadId) (h : Handle) : Prop :=
  u.state.bridge.isSettled h = false ∧
    ∃ run k, u.todo me = (Run.destroyRecord run me h).course.after k

/-- **A thread waits for calls**: its request to destroy what is behind a handle was
accepted, and calls are still running there. -/
def WaitsForCalls (start u : Threads World α) (me : ThreadId) (h : Handle) : Prop :=
  u.state.bridge.isIdle h = false ∧
    ∃ run k t l, start.Reaches (fun _ => True) t ∧
      t.todo me = (Run.destroyRecord run me h).course.after k ∧
      t.Performs me (Run.requestDestruction me h) l (.ok .accepted) u

/-- A thread is in the middle of a construction, which was given a handle. -/
def Constructs (start u : Threads World α) (me : ThreadId) (h : Handle) : Prop :=
  ∃ run o typeName hooks t l q, start.Reaches (fun _ => True) t ∧
    ⟨t.state.bridge.nextHandle⟩ = h ∧ l ≠ [] ∧ (∀ e, q ≠ .finish e) ∧
    t.Passes me (Run.attach run me o typeName hooks).course l q u

/-- **A thread waits for another one**, or for itself, to end a call or a construction
behind a handle that it destroys. -/
def WaitsFor (start u : Threads World α) (me you : ThreadId) (h : Handle) : Prop :=
  (start.WaitsForCalls u me h ∧ you ∈ u.state.bridge.callers h) ∨
    (u.WaitsForConstruction me h ∧ start.Constructs u you h)

section Interleaving

variable {w : World} {n : Nat} {code : ThreadId → NativeCode α}

/-- **Others do not enter a call for a thread.** -/
theorem Others.mem_callers (ho : Others me t l u)
    (ht : (w.threads n code).Reaches (fun _ => True) t)
    (hme : me ∈ u.state.bridge.callers h) : me ∈ t.state.bridge.callers h := by
  induction ho with
  | here => exact hme
  | enter hyou hstep hr ho ih =>
    have hsec := (World.section_of_reaches ht hstep hr).2
    exact hsec.mem_callers hyou (ih (ht.enter hstep hr trivial) hme)

/-- **Nobody waits for calls on an instance from inside a call on it.** -/
theorem WaitsForCalls.not_mem_callers (hwait : (w.threads n code).WaitsForCalls u me h) :
    me ∉ u.state.bridge.callers h := by
  obtain ⟨-, run, k, t, l, ht, -, hp⟩ := hwait
  obtain ⟨-, hverdict, l', t', -, hstate, hreach, ho⟩ := hp.exchangeWhen
  intro hme
  have hme' := ho.mem_callers (ht.trans hreach) hme
  rw [hstate] at hme'
  change me ∈ (t.state.bridge.condemn me h).2.callers h at hme'
  rw [Bridge.callers_condemn] at hme'
  exact Bridge.not_mem_callers_of_condemn (Except.ok.inj hverdict).symm hme'

/-- **Whoever is inside a call and waits, waits for another instance.** -/
theorem WaitsFor.ne_of_mem_callers (hw : w.Fresh)
    (hu : (w.threads n code).Reaches (fun _ => True) u)
    (hwait : (w.threads n code).WaitsFor u me you h) (hme : me ∈ u.state.bridge.callers g) :
    g ≠ h := by
  rintro rfl
  obtain ⟨hcalls, -⟩ | ⟨⟨hsettled, -⟩, -⟩ := hwait
  · exact hcalls.not_mem_callers hme
  · have := (hw.callsAfterConstruction hu).isSettled hme
    rw [hsettled] at this
    cases this

end Interleaving

/-- **A request from inside a call on the instance** never waits: it is answered in one
section, and no hook runs. -/
theorem Passes.destroyRecord_of_mem_callers {run : Runner} {q : Course World Bool}
    (hp : t.Passes me (Run.destroyRecord run me h).course l q u) (hl : l ≠ [])
    (hme : me ∈ t.state.bridge.callers h) : q = .done false := by
  obtain ⟨k, -, hp⟩ := hp
  rw [Run.course_destroyRecord] at hp
  cases hp with
  | here => exact absurd rfl hl
  | enter hr ho hp =>
    have hverdict : (t.state.bridge.condemn me h).1 ≠ .accepted :=
      fun hv => Bridge.not_mem_callers_of_condemn hv hme
    dsimp only at hp
    generalize (t.state.bridge.condemn me h).1 = v at hp hverdict
    cases v with
    | accepted => exact absurd rfl hverdict
    | _ =>
      cases hp
      rfl

/-- **A request is accepted** where no construction is running and the thread is not inside
a call. -/
theorem performs_requestDestruction {run : Runner} {k : Except Crash Bool → Course World α}
    (ht : t.todo me = (Run.destroyRecord run me h).course.after k)
    (hs : t.state.bridge.isSettled h = true) : ∃ u,
    t.Performs me (Run.requestDestruction me h) [t] (.ok (t.state.bridge.condemn me h).1) u ∧
      u.state.bridge = (t.state.bridge.condemn me h).2 ∧
      ∀ you, you ≠ me → u.todo you = t.todo you ∧ Others you t [t] u := by
  rw [Run.destroyRecord_eq, Process.course_bind, Course.after_after] at ht
  obtain ⟨u, hp, hu, hothers⟩ := performs_exchangeWhen ht hs
  exact ⟨u, hp, by rw [hu]; rfl, hothers⟩

end Threads

/-! ## Deadlocks -/

/-- Handles are numbers of 64 bits. -/
theorem Handle.finite : Finite Handle := by
  refine Finite.of_injective (fun h : Handle => h.number.toBitVec.toFin) ?_
  rintro ⟨⟨⟨x⟩⟩⟩ ⟨⟨⟨y⟩⟩⟩ hxy
  cases hxy
  rfl

/-- **Every deadlock of destructions goes across instances**, in any interleaving of any
number of threads, whose calls and hooks may destroy and release what they like. Let each of
some threads wait in a destruction for a call or a construction of one of them, be it itself.
Then, however instances are ranked, one of these threads waits for an instance that is ranked
no higher than another one, inside a call on which it is, or than one that it is in the middle
of constructing.

So a destruction from inside a call on the very instance never waits: it finds no
construction going on, and is answered in one section. -/
theorem destroy_waits_elsewhere {w : World} (hw : w.Fresh) {n : Nat}
    {code : ThreadId → NativeCode α} {u : Threads World α}
    (hu : (w.threads n code).Reaches (fun _ => True) u) :
    (∀ (rank : Handle → Nat) (S : Set ThreadId), S.Nonempty →
      (∀ me ∈ S, ∃ you ∈ S, ∃ h, (w.threads n code).WaitsFor u me you h) →
        ∃ me ∈ S, ∃ you ∈ S, ∃ h, (w.threads n code).WaitsFor u me you h ∧
          ∃ g, rank h ≤ rank g ∧ ((g ≠ h ∧ me ∈ u.state.bridge.callers g) ∨
            (w.threads n code).Constructs u me g)) ∧
    ∀ run me h, me ∈ u.state.bridge.callers h → u.state.bridge.isSettled h = true ∧
      ∀ l q v, u.Passes me (Run.destroyRecord run me h).course l q v → l ≠ [] →
        q = .done false := by
  refine ⟨fun rank S hS hwait => ?_, fun run me h hme =>
    ⟨(hw.callsAfterConstruction hu).isSettled hme,
      fun l q v hp hl => hp.destroyRecord_of_mem_callers hl hme⟩⟩
  choose! other hother waited hwaited using hwait
  -- of the instances that are waited for, one is ranked highest
  have := Handle.finite
  obtain ⟨h, ⟨me, hme, rfl⟩, hmax⟩ :=
    Set.exists_max_image (waited '' S) rank (Set.toFinite _) (hS.image waited)
  -- and who is waited for there waits for an instance that is not ranked higher
  have hyou := hother me hme
  refine ⟨other me, hyou, other (other me), hother _ hyou, waited (other me),
    hwaited _ hyou, waited me, hmax _ ⟨_, hyou, rfl⟩, ?_⟩
  obtain ⟨-, hcall⟩ | ⟨-, hconstructs⟩ := hwaited me hme
  · exact .inl ⟨(hwaited _ hyou).ne_of_mem_callers hw hu hcall, hcall⟩
  · exact .inr hconstructs

/-! ## Two threads that wait for each other

Each is inside a call on an instance of its own and destroys the other one's. -/

/-- A native member on instances of the plain host. -/
def crossedMember : Member := ⟨"T", "M", ⟨[], .void⟩, .perInstance⟩

/-- One thread constructs two instances. Each of two threads then keeps a call running on
one of them, and destroys the other. -/
def crossing : ThreadId → NativeCode Unit
  | 0 =>
    .perform (.construct "T" ⟨1⟩) fun _ => .perform (.construct "T" ⟨2⟩) fun _ =>
      .perform (.beginCall ⟨1⟩ crossedMember) fun _ => .perform (.destroy ⟨2⟩) fun _ => .done ()
  | _ => .perform (.beginCall ⟨2⟩ crossedMember) fun _ => .perform (.destroy ⟨1⟩) fun _ => .done ()

/-- Where the first instance is there. -/
def crossedFirst : World := ((Run.construct (.nested 1) 0 "T" ⟨1⟩).advance plainHost).2

/-- Where both instances are there. -/
def crossedSecond : World := ((Run.construct (.nested 1) 0 "T" ⟨2⟩).advance crossedFirst).2

/-- Where a call is running on the first instance. -/
def crossedOnce : World := ((Run.beginCall 0 ⟨1⟩ crossedMember).advance crossedSecond).2

/-- Where calls are running on both instances. -/
def crossedTwice : World := ((Run.beginCall 1 ⟨2⟩ crossedMember).advance crossedOnce).2

theorem crossing_meets : ((crossing 0).course 1 0).Meets (fun _ => True) plainHost
    (Run.destroyRecord (.nested 1) 0 ⟨2⟩) crossedOnce := by
  have first : (Run.nativeReply (.nested 1) 0 (.construct "T" ⟨1⟩)).Ends plainHost
      (.ok (.ok (some ⟨1⟩))) crossedFirst := rfl
  have second : (Run.nativeReply (.nested 1) 0 (.construct "T" ⟨2⟩)).Ends crossedFirst
      (.ok (.ok (some ⟨2⟩))) crossedSecond := rfl
  have call : (Run.nativeReply (.nested 1) 0 (.beginCall ⟨1⟩ crossedMember)).Ends crossedSecond
      (.ok (.ok ⟨1⟩)) crossedOnce := rfl
  have find : (Run.askBridge (·.find? ⟨2⟩)).Ends crossedOnce (.ok (some ⟨2⟩)) crossedOnce := rfl
  have start : ((crossing 0).course 1 0).Meets (fun _ => True) plainHost
      (Run.runNative (.nested 1) 0 (crossing 0)) plainHost := .start _ trivial
  exact (((start.next first).next second).next call).first.next find

theorem crossing_meets_back : ((crossing 1).course 1 1).Meets (fun _ => True) crossedOnce
    (Run.destroyRecord (.nested 1) 1 ⟨1⟩) crossedTwice := by
  have call : (Run.nativeReply (.nested 1) 1 (.beginCall ⟨2⟩ crossedMember)).Ends crossedOnce
      (.ok (.ok ⟨2⟩)) crossedTwice := rfl
  have find : (Run.askBridge (·.find? ⟨1⟩)).Ends crossedTwice (.ok (some ⟨1⟩)) crossedTwice := rfl
  have start : ((crossing 1).course 1 1).Meets (fun _ => True) crossedOnce
      (Run.runNative (.nested 1) 1 (crossing 1)) crossedOnce := .start _ trivial
  exact (start.next call).first.next find

/-- **Two threads that destroy each other's instance** from inside a call wait for each
other. -/
theorem crossing_waits : ∃ u, (plainHost.threads 1 crossing).Reaches (fun _ => True) u ∧
    ∀ me ∈ ({0, 1} : Set ThreadId), ∃ you ∈ ({0, 1} : Set ThreadId), ∃ h,
      (plainHost.threads 1 crossing).WaitsFor u me you h := by
  obtain ⟨k, hk⟩ := crossing_meets
  obtain ⟨k', hk'⟩ := crossing_meets_back
  -- one thread after the other comes to its destruction
  obtain ⟨s, hs, hstate, hzero, hothers⟩ :=
    Threads.reaches_alone hk (show (plainHost.threads 1 crossing).todo 0 = _ from rfl)
  rw [← hstate] at hk'
  obtain ⟨t, ht, hstate, hone, hothers'⟩ := Threads.reaches_alone hk' (hothers 1 (by decide))
  replace ht := hs.trans ht
  replace hzero := (hothers' 0 (by decide)).trans hzero
  -- and then one after the other has its request accepted
  obtain ⟨u, hu, hub, hothers⟩ := Threads.performs_requestDestruction hzero (by rw [hstate]; rfl)
  obtain ⟨htodo, -⟩ := hothers 1 (by decide)
  rw [hstate] at hu hub
  rw [← htodo] at hone
  obtain ⟨v, hv, hvb, hothers⟩ := Threads.performs_requestDestruction hone (by rw [hub]; rfl)
  rw [hub] at hv hvb
  obtain ⟨l, -, huv⟩ := hu.others (List.cons_ne_nil _ _) (hothers 0 (by decide)).2
  have hreach := (hu.reaches ht).2
  have hzeroone : (plainHost.threads 1 crossing).WaitsFor v 0 1 ⟨2⟩ := by
    refine .inl ⟨⟨?_, _, _, t, l, ht, hzero, huv⟩, ?_⟩ <;> rw [hvb] <;> decide
  have honezero : (plainHost.threads 1 crossing).WaitsFor v 1 0 ⟨1⟩ := by
    refine .inl ⟨⟨?_, _, _, u, [u], hreach, hone, hv⟩, ?_⟩ <;> rw [hvb] <;> decide
  refine ⟨v, (hv.reaches hreach).2, ?_⟩
  rintro me (rfl | rfl)
  · exact ⟨1, .inr rfl, _, hzeroone⟩
  · exact ⟨0, .inl rfl, _, honezero⟩

/-- **Destructions may deadlock**: not every point of an interleaving is free of threads that
all wait in a destruction for each other. -/
theorem crossed_destructions_deadlock : ¬∀ (w : World) (n : Nat)
    (code : ThreadId → NativeCode Unit) (u : Threads World Unit), w.Fresh →
      (w.threads n code).Reaches (fun _ => True) u →
        ¬∃ S : Set ThreadId, S.Nonempty ∧
          ∀ me ∈ S, ∃ you ∈ S, ∃ h, (w.threads n code).WaitsFor u me you h := by
  intro hfree
  obtain ⟨u, hu, hwait⟩ := crossing_waits
  exact hfree plainHost 1 crossing u plainHost_fresh hu ⟨{0, 1}, ⟨0, .inl rfl⟩, hwait⟩

/-- Of the two threads that wait for each other, one goes against the order of the
handles. -/
theorem destroy_waits_elsewhere_crossing : ∃ u,
    (plainHost.threads 1 crossing).Reaches (fun _ => True) u ∧
      ∃ me ∈ ({0, 1} : Set ThreadId), ∃ you ∈ ({0, 1} : Set ThreadId), ∃ h,
        (plainHost.threads 1 crossing).WaitsFor u me you h ∧
          ∃ g, h.number.toNat ≤ g.number.toNat ∧ ((g ≠ h ∧ me ∈ u.state.bridge.callers g) ∨
            (plainHost.threads 1 crossing).Constructs u me g) := by
  obtain ⟨u, hu, hwait⟩ := crossing_waits
  exact ⟨u, hu, (destroy_waits_elsewhere plainHost_fresh hu).1 (fun h => h.number.toNat) {0, 1}
    ⟨0, .inl rfl⟩ hwait⟩

end HostBridge
