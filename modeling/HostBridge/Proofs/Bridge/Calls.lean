import HostBridge.Proofs.Bridge.Protocol

/-!
# Calls and destructions

What the protocol of the bridge is good for: however the threads of a host
interleave, a call runs only on an instance whose construction is over and whose
destruction has not begun, and a destruction hook runs once, alone, and for good
(`calls_before_destruction`).

The order of what happened to a handle is read off its past, which everything
that is accounted for keeps in order (`Orderly`); the number of the calls on it
that have not ended is that of the threads in its record.

The theorem is about the history, and so about every moment of a run and not only
about its end: for each hook that was started it says what was before it and what
came after. The threads may be any number and run any native code, which may call,
construct and destroy whatever it knows, from inside hooks and implementations as
well. The one condition is that fewer handles are given out than there are numbers.
-/

namespace HostBridge

variable {w : World} {own : ThreadId → Stakes} {h : Handle} {earlier later : List Event}
  {e : Event}

/-- A host at its start: nothing was constructed yet, and nothing happened. The
managed domain may hold anything. -/
structure World.Fresh (w : World) : Prop where
  bridge : w.bridge = .empty
  kept : w.kept = []
  history : w.history = []

theorem World.Fresh.accounted (hw : w.Fresh) : w.Accounted (fun _ _ => {}) := by
  have hc : w.constructions = 0 := by
    rw [World.constructions, hw.history]
    rfl
  refine ⟨?_, ?_, ?_, fun h => ⟨.unissued, ?_⟩⟩
  · rw [hw.bridge, hc]
    rfl
  · rw [hw.bridge]
    exact List.nodup_nil
  · rw [hw.bridge]
    intro o h hh
    cases hh
  · have hs : w.sight h = ⟨false, none, false, false, fun _ => 0, []⟩ := by
      unfold World.sight
      rw [World.isCurrent_eq, World.past, hw.history, hw.kept, hw.bridge]
      congr 1
      unfold World.isIssued
      rw [hc]
      refine decide_eq_false (fun hi => ?_)
      omega
    rw [hs]
    exact {
      shows := ⟨rfl, rfl, rfl, rfl, rfl, by simp, by simp [Sight.inFlight], by simp⟩
      tells := ⟨by simp, by simp, rfl, by simp, trivial⟩
      tallies := ⟨by simp [Sight.inFlight], by simp [Sight.inFlight, admissions, dismissals]⟩
      work := fun _ => rfl
      object := by simp }

/-- **Threads that follow the protocol of the bridge**, with what they own: everything is
accounted for, and the code of every thread will have given back what the thread owns. -/
structure Threads.Accounted {α : Type} (t : Threads World α) (own : ThreadId → Stakes) :
    Prop where
  state : t.state.Accounted own
  follows : ∀ me, (t.todo me).Follows World.bridging me
    (fun r y => r = .error .tooDeep ∨ Stakes.givenBack.rel (fun _ => {}) y) (own me)

/-- **Threads that run native code follow the protocol of the bridge.** -/
theorem World.Fresh.threads_accounted {α : Type} (hw : w.Fresh) {n : Nat}
    {code : ThreadId → NativeCode α} {u : Threads World α}
    (hu : Threads.Reaches (fun w => w.constructions < 2 ^ 64) (w.threads n code) u) :
    ∃ own, u.Accounted own := by
  have follow : ∀ me, ((w.threads n code).todo me).Follows World.bridging me
      (fun r y => r = .error .tooDeep ∨ Stakes.givenBack.rel (fun _ => {}) y) (fun _ => {}) :=
    fun me => (bridged me).runNative ((bridged me).keeps_nested n) (code me) (Program.asks_true _) _
      ⟨fun _ => ⟨by simp, by simp, by simp⟩, rfl⟩
  obtain ⟨own, hown, hf⟩ := Threads.Reaches.keeps (D := World.bridging) hu hw.accounted follow
  exact ⟨own, hown, hf⟩

/-- **Threads that run native code keep everything accounted for.** -/
theorem World.Fresh.accounted_of_reaches {α : Type} (hw : w.Fresh) {n : Nat}
    {code : ThreadId → NativeCode α} {u : Threads World α}
    (hu : Threads.Reaches (fun w => w.constructions < 2 ^ 64) (w.threads n code) u) :
    ∃ own, u.state.Accounted own := by
  obtain ⟨own, hown⟩ := hw.threads_accounted hu
  exact ⟨own, hown.state⟩

/-- **A thread that runs native code alone** keeps everything accounted for, and follows
the protocol of the bridge from wherever it has come to. -/
theorem World.Fresh.follows_of_reaches {α : Type} {w' : World} (hw : w.Fresh) {n : Nat}
    {me : ThreadId} {code : NativeCode α} {q : Course World α}
    (hq : Course.Reaches (fun w => w.constructions < 2 ^ 64) (code.course n me) w q w') :
    ∃ y, w'.Accounted (Function.update (fun _ _ => {}) me y) ∧ q.Follows World.bridging me
      (fun r z => r = .error .tooDeep ∨ Stakes.givenBack.rel (fun _ => {}) z) y :=
  Course.Reaches.keeps (D := World.bridging) hq hw.accounted
    ((bridged me).runNative ((bridged me).keeps_nested n) code (Program.asks_true _) _
      ⟨fun _ => ⟨by simp, by simp, by simp⟩, rfl⟩)

/-! ## The past of a handle

The history has the events of all handles mixed up. Those of one handle are a
sublist, and what is counted of a handle is the same in both. -/

/-- **What was in order was in order before.** -/
theorem Orderly.of_append (ho : Orderly h (later ++ earlier)) : Orderly h earlier := by
  induction later with
  | nil => exact ho
  | cons e later ih => exact ih ho.1

/-- What happened to a handle happened in the order of the history. -/
theorem World.past_eq_append (hh : w.history = later ++ e :: earlier) (he : e.handle? = some h) :
    w.past h = later.filter (fun e => e.handle? = some h) ++
      e :: earlier.filter (fun e => e.handle? = some h) := by
  rw [World.past, hh, List.filter_append, List.filter_cons_of_pos (by simp [he])]

theorem mem_filter_handle (he : e.handle? = some h) {events : List Event} :
    e ∈ events.filter (fun e => e.handle? = some h) ↔ e ∈ events := by
  simp [he]

theorem admissions_filter (h : Handle) (events : List Event) :
    admissions h (events.filter (fun e => e.handle? = some h)) = admissions h events := by
  unfold admissions
  rw [List.filterMap_filter]
  congr 1
  funext e
  cases e <;> simp [Event.handle?, Event.admission?]

theorem dismissals_filter (h : Handle) (events : List Event) :
    dismissals h (events.filter (fun e => e.handle? = some h)) = dismissals h events := by
  unfold dismissals
  rw [List.filterMap_filter]
  congr 1
  funext e
  cases e <;> simp [Event.handle?, Event.dismissal?]

theorem hookStarts_filter (h : Handle) (events : List Event) :
    hookStarts h (events.filter (fun e => e.handle? = some h)) = hookStarts h events := by
  unfold hookStarts
  rw [List.countP_filter]
  congr 1
  funext e
  cases e <;> simp [Event.handle?, Event.isDestruction]

namespace World.Accounted

/-- The past of every handle is in order. -/
theorem orderly (hw : w.Accounted own) (h : Handle) : Orderly h (w.past h) := by
  obtain ⟨φ, hφ⟩ := hw.standing h
  exact hφ.tells.orderly

/-- A call is admitted after the construction and before the request for
destruction. -/
theorem of_admitted (hw : w.Accounted own) {t : ThreadId}
    (hh : w.history = later ++ .admitted h t :: earlier) :
    .constructed h ∈ earlier ∧ .condemned h ∉ earlier := by
  have ho := hw.orderly h
  rw [past_eq_append hh rfl] at ho
  have := ho.of_append.2.1 t rfl
  rwa [mem_filter_handle rfl, mem_filter_handle rfl] at this

/-- A destruction hook starts after the request for destruction, and when every
call has ended. -/
theorem of_destruction (hw : w.Accounted own) {r : Resource}
    (hh : w.history = later ++ .destruction h r :: earlier) :
    .condemned h ∈ earlier ∧
      ∀ t, (admissions h earlier).count t = (dismissals h earlier).count t := by
  have ho := hw.orderly h
  rw [past_eq_append hh rfl] at ho
  have := ho.of_append.2.2 r rfl
  rwa [mem_filter_handle rfl, admissions_filter, dismissals_filter] at this

/-- No call is admitted once a destruction hook has started. -/
theorem admissions_after_destruction (hw : w.Accounted own) {r : Resource}
    (hh : w.history = later ++ .destruction h r :: earlier) : admissions h later = [] := by
  refine List.filterMap_eq_nil_iff.2 (fun e he => ?_)
  cases e with
  | admitted g t =>
    by_cases hg : g = h
    · subst hg
      obtain ⟨l₁, l₂, rfl⟩ := List.append_of_mem he
      rw [List.append_assoc, List.cons_append] at hh
      have hd : w.history = (l₁ ++ .admitted g t :: l₂) ++ .destruction g r :: earlier := by
        rw [hh, List.append_assoc, List.cons_append]
      refine absurd ?_ (hw.of_admitted hh).2
      exact List.mem_append_right l₂ (List.mem_cons_of_mem _ (hw.of_destruction hd).1)
    · exact if_neg hg
  | _ => rfl

/-- **No destruction hook starts twice.** -/
theorem hookStarts_le_one (hw : w.Accounted own) (h : Handle) : hookStarts h w.history ≤ 1 := by
  obtain ⟨φ, hφ⟩ := hw.standing h
  rw [← hookStarts_filter]
  refine Nat.le_trans (Nat.le_of_eq hφ.tells.destructions) ?_
  cases φ with
  | held t k => cases k <;> simp
  | _ => simp

/-- **While a call is running on a handle**, it is listed and its record has its
resource. -/
theorem of_running (hw : w.Accounted own) {t : ThreadId}
    (ht : (dismissals h w.history).count t < (admissions h w.history).count t) :
    h ∈ w.bridge.handles ∧ ∃ r, w.bridge.records.get? h = some r ∧ r.resource.isSome = true := by
  obtain ⟨φ, hφ⟩ := hw.standing h
  have hne : (w.sight h).inFlight ≠ [] := by
    intro hnil
    have := hφ.tallies.tally t
    rw [hnil] at this
    rw [← dismissals_filter, ← admissions_filter] at ht
    simp only [List.count_nil, Nat.add_zero] at this
    exact absurd this.symm (Nat.ne_of_lt ht)
  -- where calls may be running, nobody has begun to take the instance apart
  have hlisted : φ.outline.listed = true ∧ φ.outline.equipped = true := by
    have hb := hφ.shows.busy hne
    cases φ with
    | held t k => cases k <;> first | exact ⟨rfl, rfl⟩ | cases hb
    | live => exact ⟨rfl, rfl⟩
    | pending => exact ⟨rfl, rfl⟩
    | _ => cases hb
  have hres := hφ.shows.equipped.trans hlisted.2
  obtain ⟨v, hv⟩ := Option.isSome_iff_exists.1 hres
  obtain ⟨r, hr, hrv⟩ := Option.bind_eq_some_iff.1 hv
  refine ⟨List.contains_iff_mem.1 (hφ.shows.listed.trans hlisted.1), r, hr, ?_⟩
  rw [hrv]
  rfl

end World.Accounted

/-! ## The order of calls and destructions

The theorem has four parts, in the order in which an instance lives: no call before it
is live, none after its hook was started, no hook while a call is running, and no hook
a second time. -/

/-- **Calls come before destructions**, in any interleaving of any number of
threads from the start of a host on, until its handles run out: the number after the
last of sixty-four bits is that of an old handle, which two instances would share. For
every handle:
* a call is admitted on it after its construction hook has returned a resource and
  before any destruction of it is accepted, be it run at once or left to the last
  call;
* its destruction hook starts when every call that was admitted has ended, and no
  call is admitted on it afterwards;
* its destruction hook starts at most once;
* while a call on it is running, it is listed as live, and who uses its resource is
  never told that it was released: neither when it is looked up nor, one section
  later, when the resource is. -/
theorem calls_before_destruction {α : Type} {w : World} (hw : w.Fresh) (n : Nat)
    (code : ThreadId → NativeCode α) {u : Threads World α}
    (hu : Threads.Reaches (fun w => w.constructions < 2 ^ 64) (w.threads n code) u)
    (h : Handle) :
    (∀ later earlier t, u.state.history = later ++ .admitted h t :: earlier →
      .constructed h ∈ earlier ∧ .condemned h ∉ earlier) ∧
    (∀ later earlier r, u.state.history = later ++ .destruction h r :: earlier →
      (∀ t, (admissions h earlier).count t = (dismissals h earlier).count t) ∧
        admissions h later = []) ∧
    hookStarts h u.state.history ≤ 1 ∧
    (∀ t, (dismissals h u.state.history).count t < (admissions h u.state.history).count t →
      h ∈ u.state.bridge.handles ∧ (u.state.bridge.listed? h).isSome = true ∧
        ∀ kind update, (u.state.bridge.useResource h kind update).1 ≠
          .error (.useAfterRelease h)) := by
  obtain ⟨own, hown⟩ := hw.accounted_of_reaches hu
  refine ⟨fun later earlier t hh => hown.of_admitted hh, fun later earlier r hh =>
    ⟨(hown.of_destruction hh).2, hown.admissions_after_destruction hh⟩,
    hown.hookStarts_le_one h, fun t ht => ?_⟩
  obtain ⟨hm, r, hr, hv⟩ := hown.of_running ht
  refine ⟨hm, ?_, fun kind update hu => ?_⟩
  · unfold Bridge.listed?
    rw [if_pos (List.contains_iff_mem.2 hm), hr]
    rfl
  · obtain ⟨v, hv⟩ := Option.isSome_iff_exists.1 hv
    unfold Bridge.useResource at hu
    rw [hr, Option.bind_some, hv] at hu
    by_cases same : v.kind = kind <;> simp [same] at hu

/-- A host with one type, whose hooks do nothing. -/
def plainHost : World :=
  .start ⟨.empty, Table.empty.insert "T"
    { construct := fun _ => .done (.ok ⟨.nothing, ()⟩), destroy := fun _ _ => .done () }⟩
    .empty "host" 8

theorem plainHost_fresh : plainHost.Fresh := ⟨rfl, rfl, rfl⟩

/-- One thread constructs an instance and keeps a call on it running, and every
other asks for its destruction. -/
def contention : ThreadId → NativeCode Unit
  | 0 => do
    let _ ← NativeCode.op (.construct "T" ⟨1⟩)
    let _ ← NativeCode.op (.beginCall ⟨1⟩ ⟨"T", "M", ⟨[], .void⟩, .perInstance⟩)
    return
  | _ => do
    let _ ← NativeCode.op (.destroy ⟨1⟩)
    return

/-- A call is running, and a thread waits for it to end. -/
def contended : Threads World Unit :=
  ((plainHost.threads 1 contention).play (fun w => w.constructions < 2 ^ 64)
    [0, 0, 0, 0, 0, 0, 0, 0, 0, 0, 1, 1]).get (by decide +kernel)

theorem calls_before_destruction_contended :
    ⟨1⟩ ∈ contended.state.bridge.handles ∧
    (contended.state.bridge.listed? ⟨1⟩).isSome = true ∧
    ∀ kind update, (contended.state.bridge.useResource ⟨1⟩ kind update).1 ≠
      .error (.useAfterRelease ⟨1⟩) := by
  have hreach : Threads.Reaches _ _ contended :=
    (Threads.Reaches.here (by decide)).play (Option.some_get _).symm
  have hcall : (dismissals ⟨1⟩ contended.state.history).count 0 <
      (admissions ⟨1⟩ contended.state.history).count 0 := by decide +kernel
  exact (calls_before_destruction plainHost_fresh 1 contention hreach ⟨1⟩).2.2.2 0 hcall

end HostBridge
