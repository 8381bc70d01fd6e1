import HostBridge.Proofs.Bridge.Sections

/-!
# The protocol of the bridge

The operations of the bridge follow the discipline in which everything stays
accounted for (`World.bridging`): each of them goes from section to section, owns
the handle that it constructs or destroys in between, and gives back to its thread
the stakes that it found. The hooks and implementations that it enters may start
the same operations again, because a thread that owns something of one handle
leaves the others as they are.

So all code keeps everything accounted for (`bridged`), as long as handles are not
numbered twice.

The proof of an operation reads like the operation. It has one step for each
section, and at each the stake says what the thread is about: waiting for the last
call to end, with the handle struck from the list, with the resource taken out.
The lemmas on sections (`Bridge.Sections`) say that the books are right after the
step if they were right before it, and what is left to do here is to go from one
to the next, and to see that where a hook is entered nothing is half done that the
hook could come upon.
-/

namespace HostBridge

/-- **Where code may run**: no handle is listed whose instance is not live. -/
def Stakes.Presentable (x : Stakes) : Prop :=
  ∀ h, (x h).work ≠ some .listed ∧ (x h).work ≠ some .waiting ∧ (x h).work ≠ some .ending

/-- **The discipline of the bridge**, while fewer handles are given out than there
are numbers for. Lines in the journal are written where code may run. -/
def World.bridging : Discipline World Stakes where
  inv := World.Accounted
  within := fun w => w.constructions < 2 ^ 64
  demand := fun w w' x => w.Notes w' → x.Presentable

/-- Code gives back the stakes it found. -/
def Stakes.givenBack : Conduct Stakes where
  rel := fun x y => x.Presentable ∧ x = y
  trans := fun h h' => ⟨h.1, h.2.trans h'.2⟩
  right := fun h => ⟨h.2 ▸ h.1, rfl⟩

variable {w w' : World} {own : ThreadId → Stakes} {me : ThreadId} {h : Handle} {x : Stakes}
  {run : Runner} {α β : Type}

/-- Where the bridge has no part, no handle has a past that it did not have. -/
theorem World.past_quiet (hq : w.Quiet w') (h : Handle) : w'.past h = w.past h := by
  obtain ⟨events, he, hn⟩ := hq.history
  unfold World.past
  rw [he, List.filter_append, List.filter_eq_nil_iff.2, List.nil_append]
  intro e hm
  simp [hn e hm]

/-- Where the bridge has no part, no handle is given out. -/
theorem World.constructions_quiet (hq : w.Quiet w') : w'.constructions = w.constructions := by
  obtain ⟨events, he, hn⟩ := hq.history
  refine constructions_append he (fun e hm => ?_)
  have := hn e hm
  cases e <;> first | rfl | cases this

theorem World.sight_quiet (hq : w.Quiet w') (h : Handle) : w'.sight h = w.sight h := by
  have hc : w'.isCurrent h = w.isCurrent h := by
    rw [isCurrent_eq, isCurrent_eq, hq.bridge]
  unfold sight isIssued
  simp only [past_quiet hq, constructions_quiet hq, hc, hq.bridge, hq.kept]

/-- What the bridge has no part in changes nothing of what is accounted for. -/
theorem World.Accounted.quiet (hw : w.Accounted own) (hq : w.Quiet w') : w'.Accounted own where
  numbered := by rw [hq.bridge, constructions_quiet hq, hw.numbered]
  handles := by
    rw [hq.bridge]
    exact hw.handles
  owner := by
    rw [hq.bridge]
    exact hw.owner
  standing := fun h => by
    rw [sight_quiet hq]
    exact hw.standing h

/-- **What leaves the bridge alone keeps this discipline**, so the domain's operations do. -/
theorem bridging_lenient : World.bridging.Lenient Stakes.givenBack where
  quiet := fun hw hq => hw.quiet hq
  demand := fun hx _ _ => hx.1
  silent := fun hn _ hl => absurd hl hn

/-- **The manners of code towards the bridge.** -/
def World.bridgeManners : Manners Stakes := World.bridging.manners Stakes.givenBack

/-! ## Sections of the bridge in a run

A thread that holds a handle is alone with it: others may come upon the record,
but no section of theirs makes it go on. -/

/-- A thread may run code while it works on a handle, unless the handle would be listed
meanwhile. -/
theorem Stakes.Presentable.working {k : Option Work} (hx : x.Presentable)
    (hk : k ≠ some .listed ∧ k ≠ some .waiting ∧ k ≠ some .ending) :
    (x.working h k).Presentable := by
  intro g
  by_cases hg : g = h
  · subst hg
    rwa [Stakes.working_self]
  · rw [Stakes.working_of_ne hg]
    exact hx g

/-- A thread may run code inside any number of calls. -/
theorem Stakes.Presentable.calling (hx : x.Presentable) (n : Nat) :
    (x.calling h n).Presentable := by
  intro g
  by_cases hg : g = h
  · subst hg
    rw [Stakes.calling_self]
    exact hx g
  · rw [Stakes.calling_of_ne hg]
    exact hx g

/-- A change of the bridge that the history does not take for a line. -/
theorem not_notes_onBridge (w : World) (b : Bridge) {events : List Event}
    (he : ∀ e ∈ events, e.handle? ≠ none) : ¬w.Notes (w.onBridge b events) := by
  rintro ⟨line, hl⟩
  have hh : events ++ w.history = .note line :: w.history := hl
  have hn : events = [.note line] := List.append_cancel_right (hh.trans rfl)
  exact he (.note line) (by simp [hn]) rfl

/-- **A thread goes on with a handle that it holds.** -/
theorem follows_onward {f : Bridge → Bridge} {events : List Event} {j : Work}
    {j' : Option Work} {k : Unit → Run β} {post : Except Crash β → Stakes → Prop}
    (he : ∀ e ∈ events, e.handle? ≠ none)
    (hs : ∀ (w : World) (own : ThreadId → Stakes), w.Accounted own →
      (own me h).work = some j → (w.onBridge (f w.bridge) events).Accounted
        (Function.update own me ((own me).working h j')))
    (hk : (k ()).Follows World.bridging me post (x.working h j')) :
    (Run.changeBridge f events >>= k).Follows World.bridging me post
      (x.working h (some j)) := by
  refine Process.Follows.change (fun w own hinv hx _ _ =>
    ⟨fun hn => absurd hn (not_notes_onBridge w _ he), x.working h j', ?_, hk⟩)
  have := hs w own hinv (by rw [hx, Stakes.working_self])
  rwa [hx, Stakes.working_working] at this

/-- A section on the bridge is followed by the books being right after it. -/
theorem follows_onBridge {ready : Bridge → Bool} {f : Bridge → α × Bridge}
    {events : α → List Event} {k : α → Run β} {post : Except Crash β → Stakes → Prop}
    (he : ∀ a, ∀ e ∈ events a, e.handle? ≠ none)
    (hs : ∀ (w : World) (own : ThreadId → Stakes), w.Accounted own → own me = x →
      ready w.bridge = true →
      (w.onBridge (f w.bridge).2 (events (f w.bridge).1)).constructions < 2 ^ 64 →
      ∃ y, (w.onBridge (f w.bridge).2 (events (f w.bridge).1)).Accounted
          (Function.update own me y) ∧
        (k (f w.bridge).1).Follows World.bridging me post y) :
    (Run.onBridgeWhen ready f events >>= k).Follows World.bridging me post x :=
  Process.Follows.exchangeWhen (fun w own hinv hx _ hr hs' =>
    ⟨fun hn => absurd hn (not_notes_onBridge w _ (he _)), hs w own hinv hx hr hs'⟩)

theorem follows_askBridge {f : Bridge → α} {k : α → Run β}
    {post : Except Crash β → Stakes → Prop}
    (hk : ∀ (w : World) (own : ThreadId → Stakes), w.Accounted own → own me = x →
      (k (f w.bridge)).Follows World.bridging me post x) :
    (Run.askBridge f >>= k).Follows World.bridging me post x :=
  Process.Follows.ask (fun w hn => absurd hn (w.touches_self (default : Handle)).not_notes)
    (fun w own hinv hx _ => hk w own hinv hx)

/-! ## Destruction

The thread holds the handle from the section in which its request was accepted, or in which it
ended the last call, to the one in which the instance is declared destroyed. The hook runs while
it does. -/

/-- **Whoever takes the resource finds one**: it was put there, and nobody else takes it. -/
theorem World.Accounted.exists_resource (hw : w.Accounted own)
    (hk : (own me h).work = some .unlisted) :
    ∃ v, (w.bridge.records.get? h).bind Record.resource = some v := by
  obtain ⟨φ, hφ⟩ := hw.standing h
  obtain rfl := hφ.held hk
  exact Option.isSome_iff_exists.1 hφ.shows.equipped

/-- Whoever buries a handle finds its record. -/
theorem World.Accounted.exists_record (hw : w.Accounted own)
    (hk : (own me h).work = some .emptied) : ∃ r, w.bridge.records.get? h = some r := by
  obtain ⟨φ, hφ⟩ := hw.standing h
  obtain rfl := hφ.held hk
  obtain ⟨r, hr, -⟩ := hφ.shows.exists_record rfl
  exact ⟨r, hr⟩

/-- **A destruction that is under way comes to its end**, whatever its hook does. -/
theorem follows_finishDestroy (hrun : run.Keeps World.bridgeManners me)
    (hx : x.Presentable) (h : Handle) :
    (Run.finishDestroy run me h).Follows World.bridging me
      (fun r y => r = .error .tooDeep ∨ (∃ a, r = .ok a) ∧ y = x.working h none)
      (x.working h (some .ending)) := by
  have last : ((Run.changeBridge (·.setLifecycle h .destroyed)) : Run Unit).Follows
      World.bridging me
      (fun r y => r = .error .tooDeep ∨ (∃ a, r = .ok a) ∧ y = x.working h none)
      (x.working h (some .destroying)) := by
    rw [← bind_pure (Run.changeBridge _)]
    exact follows_onward (by simp) (fun w own hw hk => hw.setDestroyed hk)
      (Or.inr ⟨⟨(), rfl⟩, rfl⟩)
  refine follows_onward (by simp) (fun w own hw hk => hw.unlist hk) ?_
  refine follows_onBridge (by simp) (fun w own hw hme _ _ => ⟨x.working h (some .emptied), ?_, ?_⟩)
  · have := hw.takeResource (Stakes.work_of_eq hme)
    rwa [hme, Stakes.working_working] at this
  -- only the thread that holds the handle takes the resource out
  obtain ⟨v, hv⟩ := hw.exists_resource (Stakes.work_of_eq hme)
  have hv' : (w.bridge.takeResource h).1 = some v := hv
  rw [hv']
  refine follows_askBridge (fun w own hw hme => ?_)
  obtain ⟨r, hr⟩ := hw.exists_record (Stakes.work_of_eq hme)
  rw [hr]
  have hx' : (x.working h (some .destroying)).Presentable := hx.working (by simp)
  have hook : ((do
      Run.record (.destruction h v)
      run.native me (r.hooks.destroy h v)
      return Except.ok ()) : Run (Except NativeFault Unit)).Follows World.bridging me
      (fun r y => r = .error .tooDeep ∨
        Stakes.givenBack.rel (x.working h (some .destroying)) y)
      (x.working h (some .emptied)) := by
    refine Process.Follows.change (fun w own hw hme _ _ => ⟨fun hn => absurd hn ?_,
      x.working h (some .destroying), ?_, ?_⟩)
    · exact (w.touches_record (h := h) ⟨rfl, rfl⟩).not_notes
    · have := hw.destruction (Stakes.work_of_eq hme) v
      rwa [hme, Stakes.working_working] at this
    · exact Process.Keeps.bind (hrun.native _ (Program.asks_true _)) (fun _ => .pure _) _ ⟨hx', rfl⟩
  refine Process.Follows.bind
    ((Process.Settles.catchNative_from bridging_lenient.log_settles (r.typeName ++ "::.dtor") id
      hook).mono fun e y he => ?_)
  obtain rfl | ⟨⟨ended, rfl⟩, -, rfl⟩ := he
  · exact Or.inl rfl
  cases ended with
  | ok a => exact last
  | error fault =>
    refine (bridging_lenient.log_settles _ _).follows ⟨hx', rfl⟩ (fun _ y hy => ?_)
      (fun _ => Or.inl rfl)
    rw [← hy.2]
    exact last

/-! ### What a request for destruction comes to

Three answers, of which only one leaves the thread with something to do. -/

/-- **A request is refused, left to the last call, or accepted**, by what is found in the
record. -/
theorem Bridge.condemn_cases (b : Bridge) (me : ThreadId) (h : Handle) :
    b.condemn me h = (.refused, b) ∨
    (∃ r, b.records.get? h = some r ∧ r.isOpen = true ∧ me ∈ r.inFlight ∧
      b.condemn me h =
        (.deferred, b.updateRecord h (fun r => { r with destroyPending := true }))) ∨
    (∃ r, b.records.get? h = some r ∧ r.isOpen = true ∧ me ∉ r.inFlight ∧
      b.condemn me h = (.accepted, b.setLifecycle h .destructing)) := by
  unfold Bridge.condemn
  cases hr : b.records.get? h with
  | none => exact Or.inl rfl
  | some r =>
    by_cases ho : r.isOpen = true
    · by_cases hm : me ∈ r.inFlight
      · refine Or.inr (Or.inl ⟨r, rfl, ho, hm, ?_⟩)
        simp [ho, hm]
      · refine Or.inr (Or.inr ⟨r, rfl, ho, hm, ?_⟩)
        simp [ho, hm]
    · refine Or.inl ?_
      simp [ho]

/-- What is open is destroyed by a thread that is in no call on it. -/
theorem Bridge.condemn_of_isOpen {b : Bridge} {r : Record} (hr : b.records.get? h = some r)
    (ho : r.isOpen = true) (hm : me ∉ r.inFlight) :
    b.condemn me h = (.accepted, b.setLifecycle h .destructing) := by
  unfold condemn
  rw [hr]
  simp [ho, hm]

/-- **A request for destruction keeps the books**, whichever way it comes out. -/
theorem keeps_destroyRecord (hrun : run.Keeps World.bridgeManners me) (h : Handle) :
    (Run.destroyRecord run me h).Keeps World.bridging Stakes.givenBack me := by
  intro x hx
  refine follows_onBridge (fun a e he => ?_) (fun w own hw hme _ _ => ?_)
  · cases a <;> simp [Run.verdictEvents, Event.handle?] at he ⊢
    all_goals simp [he]
  obtain hc | ⟨r, hr, ho, hm, hc⟩ | ⟨r, hr, ho, -, hc⟩ := w.bridge.condemn_cases me h
  · rw [hc]
    refine ⟨x, ?_, Or.inr hx⟩
    rw [← hme, Function.update_eq_self]
    exact hw
  · rw [hc]
    refine ⟨x, ?_, Or.inr hx⟩
    rw [← hme, Function.update_eq_self]
    exact hw.condemn_later hr ho hm
  · rw [hc]
    -- from here on the thread holds the handle, until the destruction is over
    obtain ⟨hnone, hacc⟩ : (own me h).work = none ∧ _ := hw.condemn_now hr ho
    rw [hme] at hnone hacc
    refine ⟨x.working h (some .waiting), hacc, ?_⟩
    refine Process.Follows.await (fun w own hw hme _ hi => ⟨fun hn => absurd hn ?_,
      x.working h (some .ending), ?_, ?_⟩)
    · exact (w.touches_self h).not_notes
    · have := hw.await (Stakes.work_of_eq hme) hi
      rwa [hme, Stakes.working_working] at this
    · refine Process.Follows.bind ((follows_finishDestroy hrun hx.1 h).mono fun e y he => ?_)
      obtain rfl | ⟨⟨a, rfl⟩, rfl⟩ := he
      · exact Or.inl rfl
      · refine Or.inr ⟨hx.1, ?_⟩
        rw [Stakes.working_eq_self hnone]

/-! ## Calls

A call is counted for the thread that was admitted, from the admission to its end. It may end on
a thread that then has a destruction to carry out, which is why the end of a call is an operation
that enters code. -/

/-- **A call is refused or admitted**, and only an open record admits it. -/
theorem Bridge.admitCall_cases (b : Bridge) (me : ThreadId) (h : Handle) :
    (∃ s, b.admitCall me h = (.error s, b)) ∨
    (∃ r, b.records.get? h = some r ∧ r.isOpen = true ∧ b.admitCall me h =
      (.ok (), b.updateRecord h (fun r => { r with inFlight := r.inFlight ++ [me] }))) := by
  unfold Bridge.admitCall
  cases hr : b.records.get? h with
  | none => exact Or.inl ⟨_, rfl⟩
  | some r =>
    by_cases ho : r.isOpen = true
    · refine Or.inr ⟨r, rfl, ho, ?_⟩
      simp [ho]
    · refine Or.inl ⟨if r.destroyPending then .destructing else r.lifecycle, ?_⟩
      simp [ho]

/-- **The end of a call** either is that of the last one a destruction has waited for, or
changes the calls only. -/
theorem Bridge.dismiss_cases (b : Bridge) (me : ThreadId) {h : Handle} {r : Record}
    (hr : b.records.get? h = some r) :
    ((r.destroyPending && (r.inFlight.erase me).isEmpty) = true ∧ b.dismiss me h =
      (true, b.updateRecord h (fun r =>
        { r with inFlight := r.inFlight.erase me, destroyPending := false,
                 lifecycle := .destructing }))) ∨
    ((r.destroyPending && (r.inFlight.erase me).isEmpty) = false ∧ b.dismiss me h =
      (false, b.updateRecord h (fun r => { r with inFlight := r.inFlight.erase me }))) := by
  unfold Bridge.dismiss
  rw [hr]
  by_cases hl : (r.destroyPending && (r.inFlight.erase me).isEmpty) = true
  · exact Or.inl ⟨hl, if_pos hl⟩
  · exact Or.inr ⟨by simpa using hl, if_neg hl⟩

/-- **An admitted call is the thread's to end.** -/
theorem follows_enter (o : ObjectId) (m : Member) :
    (Run.enter me o m).Follows World.bridging me
      (fun r y => (∃ e, r = .ok (.error e) ∧ y = x) ∨
        ∃ h, r = .ok (.ok h) ∧ y = x.calling h ((x h).calls + 1)) x := by
  refine follows_askBridge (fun w own hw hme => ?_)
  cases w.bridge.find? o with
  | none => exact Or.inl ⟨_, rfl, rfl⟩
  | some h =>
    refine follows_onBridge (fun a e he => ?_) (fun w own hw hme _ _ => ?_)
    · cases a <;> simp [Run.admissionEvents] at he
      simp [he, Event.handle?]
    obtain ⟨s, hc⟩ | ⟨r, hr, ho, hc⟩ := w.bridge.admitCall_cases me h
    · rw [hc]
      refine ⟨x, ?_, Or.inl ⟨_, rfl, rfl⟩⟩
      rw [← hme, Function.update_eq_self]
      exact hw
    · rw [hc]
      refine ⟨x.calling h ((x h).calls + 1), ?_, Or.inr ⟨h, rfl, rfl⟩⟩
      rw [← hme]
      exact hw.admitCall hr ho

/-- **The end of a call** is the end of a destruction that waited for it. -/
theorem follows_leave (hrun : run.Keeps World.bridgeManners me)
    (hx : x.Presentable) {n : Nat} (hc : (x h).calls = n + 1) :
    (Run.leave run me h).Follows World.bridging me
      (fun r y => r = .error .tooDeep ∨ (∃ a, r = .ok a) ∧ y = x.calling h n) x := by
  refine follows_onBridge (fun a e he => ?_) (fun w own hw hme _ _ => ?_)
  · simp at he
    simp [he, Event.handle?]
  have hcalls : (own me h).calls = n + 1 := by rw [hme, hc]
  have hpos : 0 < (own me h).calls := by omega
  obtain ⟨r, hr, -⟩ := hw.mem_inFlight hpos
  obtain ⟨hl, hd⟩ | ⟨hl, hd⟩ := w.bridge.dismiss_cases me hr
  · rw [hd]
    -- the destruction was left to this call by whoever asked for it
    obtain ⟨hnone, hacc⟩ := hw.dismiss_last hcalls hr hl
    rw [hme] at hnone hacc
    refine ⟨(x.calling h n).working h (some .ending), hacc, ?_⟩
    refine (follows_finishDestroy hrun (hx.calling n) h).mono fun e y he => he.imp id ?_
    rintro ⟨ha, rfl⟩
    refine ⟨ha, Stakes.working_eq_self ?_⟩
    rw [Stakes.calling_self]
    exact hnone
  · rw [hd]
    refine ⟨x.calling h n, ?_, Or.inr ⟨⟨(), rfl⟩, rfl⟩⟩
    rw [← hme]
    exact hw.dismiss hcalls hr hl

theorem keeps_settle (m : Member) (result : Except CallFailure BoundaryValue) :
    (Run.settle m result).Keeps World.bridging Stakes.givenBack me := by
  cases result with
  | error e => exact .pure _
  | ok v =>
    unfold Run.settle
    dsimp only
    split
    · exact .pure _
    · exact .bind (bridging_lenient.log _ _) (fun _ => .pure _)

theorem settles_runCall (hrun : run.Keeps World.bridgeManners me) (m : Member)
    (c : NativeCall) (args : List BoundaryValue) :
    (Run.runCall run me m c args).Settles World.bridging Stakes.givenBack me :=
  bridging_lenient.catchNative _ _ (.bind (bridging_lenient.record rfl)
    (fun _ => hrun.native _ (Program.asks_true _)))

/-- **A call of a bound member keeps the books**: what is admitted is ended, also behind a
panic. -/
theorem keeps_invoke (hrun : run.Keeps World.bridgeManners me) (m : Member)
    (receiver : Option ObjectId) (args : List BoundaryValue) :
    (Run.invoke run me m receiver args).Keeps World.bridging Stakes.givenBack me := by
  refine .bind (bridging_lenient.ask _) (fun registry => ?_)
  split
  · exact .pure _
  split
  · cases receiver with
    | none => exact .pure _
    | some o =>
      intro x hx
      refine Process.Follows.bind ((follows_enter o m).mono fun r y hy => ?_)
      obtain ⟨e, rfl, rfl⟩ | ⟨h, rfl, rfl⟩ := hy
      · exact Or.inr hx
      have hp : (x.calling h ((x h).calls + 1)).Presentable := hx.1.calling _
      refine (settles_runCall hrun m _ _).follows ⟨hp, rfl⟩ (fun result y hy => ?_)
        (fun _ => Or.inl rfl)
      obtain rfl := hy.2
      refine Process.Follows.bind ((follows_leave hrun hp (n := (x h).calls) ?_).mono
        fun r y hy => ?_)
      · rw [Stakes.calling_self]
      obtain rfl | ⟨⟨a, rfl⟩, rfl⟩ := hy
      · exact Or.inl rfl
      rw [Stakes.calling_calling, Stakes.calling_eq_self rfl]
      exact keeps_settle m result x hx
  · exact (settles_runCall hrun m _ _).keeps.bind (fun result => keeps_settle m result)

theorem keeps_beginCall (o : ObjectId) (m : Member) :
    (Run.beginCall me o m).Keeps World.bridging Stakes.givenBack me := by
  intro x hx
  refine Process.Follows.bind ((follows_enter o m).mono fun r y hy => ?_)
  obtain ⟨e, rfl, rfl⟩ | ⟨h, rfl, rfl⟩ := hy
  · exact Or.inr hx
  refine Process.Follows.change (fun w own hw hme _ _ =>
    ⟨fun hn => absurd hn (w.touches_keep me h).not_notes, x, ?_, Or.inr hx⟩)
  have hc : (own me h).calls = (x h).calls + 1 := by rw [hme, Stakes.calling_self]
  have := hw.keep hc
  rwa [hme, Stakes.calling_calling, Stakes.calling_eq_self rfl] at this

theorem keeps_endCall (hrun : run.Keeps World.bridgeManners me) (h : Handle) :
    (Run.endCall run me h).Keeps World.bridging Stakes.givenBack me := by
  intro x hx
  refine Process.Follows.exchange (fun w own hw hme _ _ =>
    ⟨fun hn => absurd hn (w.touches_take me h).not_notes, ?_⟩)
  by_cases hk : (me, h) ∈ w.kept
  · refine ⟨x.calling h ((x h).calls + 1), ?_, ?_⟩
    · rw [← hme]
      exact hw.take hk
    · dsimp only
      rw [List.contains_iff_mem.2 hk, if_pos rfl]
      refine Process.Follows.bind ((follows_leave hrun (hx.1.calling _) (h := h)
        (n := (x h).calls) (by rw [Stakes.calling_self])).mono fun r y hy => ?_)
      obtain rfl | ⟨⟨a, rfl⟩, rfl⟩ := hy
      · exact Or.inl rfl
      rw [Stakes.calling_calling, Stakes.calling_eq_self rfl]
      exact Or.inr hx
  · refine ⟨x, ?_, ?_⟩
    · rw [← hme, Function.update_eq_self]
      dsimp only
      rw [List.erase_of_not_mem hk]
      exact hw
    · dsimp only
      rw [Bool.eq_false_iff.2 (fun hc => hk (List.contains_iff_mem.1 hc))]
      exact Or.inr hx

/-! ## Construction

The handle is held from the start, before there is anything behind it. Both ends of a
construction give it up: it is listed and live then, or it is over with. -/

/-- **A construction is rejected or announced**, and only over no record or a destroyed one. -/
theorem Bridge.announce_cases (b : Bridge) (o : ObjectId) (typeName : String) (hooks : Hooks)
    (h : Handle) :
    (∃ s, b.announce o typeName hooks h = (.error s, b)) ∨
    ((∀ g, b.find? o = some g → b.lifecycleAt g = .destroyed) ∧
      b.announce o typeName hooks h = (.ok (), { b with
        records := b.records.insert h { object := o, typeName := typeName, hooks := hooks }
        instances := b.instances.insert o h })) := by
  unfold Bridge.announce
  cases hf : b.find? o with
  | none => exact Or.inr ⟨fun g hg => (by cases hg), rfl⟩
  | some g =>
    by_cases hd : b.lifecycleAt g = .destroyed
    · refine Or.inr ⟨fun g' hg' => ?_, if_pos hd⟩
      obtain rfl := Option.some.inj hg'
      exact hd
    · exact Or.inl ⟨_, if_neg hd⟩

theorem keeps_construction (h : Handle) :
    (Run.record (.construction h)).Keeps World.bridging Stakes.givenBack me := by
  intro x hx
  rw [← bind_pure (Run.record _)]
  refine Process.Follows.change (fun w own hw hme _ _ => ⟨fun _ => hx.1, x, ?_, Or.inr hx⟩)
  rw [← hme, Function.update_eq_self]
  exact hw.construction h

/-- **A construction gives its handle back** to nobody: what becomes of it is up
to those who find it live. -/
theorem keeps_attach (hrun : run.Keeps World.bridgeManners me) (o : ObjectId)
    (typeName : String) (hooks : Hooks) :
    (Run.attach run me o typeName hooks).Keeps World.bridging Stakes.givenBack me := by
  intro x hx
  refine follows_onBridge (by simp [Event.handle?]) (fun w own hw hme _ hb => ?_)
  have hcons : (w.onBridge w.bridge.reserve.2 [.issued w.bridge.reserve.1]).constructions =
      w.constructions + 1 :=
    List.countP_cons_of_pos rfl
  obtain ⟨hnone, hacc⟩ : (own me w.bridge.reserve.1).work = none ∧ _ :=
    hw.reserve (hcons ▸ hb) rfl
  rw [hme] at hnone hacc
  generalize w.bridge.reserve.1 = h at hnone hacc ⊢
  refine ⟨x.working h (some .reserved), hacc, ?_⟩
  refine follows_onBridge
    (fun a e he => Run.eq_of_mem_announcementEvents he ▸ by simp [Event.handle?])
    (fun w own hw hme _ _ => ?_)
  obtain ⟨s, ha⟩ | ⟨hd, ha⟩ := w.bridge.announce_cases o typeName hooks h
  · rw [ha]
    refine ⟨x, ?_, Or.inr hx⟩
    have := hw.reject (Stakes.work_of_eq hme)
    rwa [hme, Stakes.working_working, Stakes.working_eq_self hnone] at this
  rw [ha]
  refine ⟨x.working h (some (.building o)), ?_, ?_⟩
  · have := hw.announce typeName hooks (Stakes.work_of_eq hme) hd rfl
    rwa [hme, Stakes.working_working] at this
  have hx' : (x.working h (some (.building o))).Presentable := hx.1.working (by simp)
  refine (bridging_lenient.catchNative _ id (.bind (keeps_construction h)
    (fun _ => hrun.native _ (Program.asks_true _)))).follows ⟨hx', rfl⟩
    (fun built y hy => ?_) (fun _ => Or.inl rfl)
  obtain rfl := hy.2
  cases built with
  | ok resource =>
    refine follows_onward (by simp [Event.handle?]) (fun w own hw hk => hw.equip hk resource) ?_
    refine follows_onward (by simp) (fun w own hw hk => hw.list hk) ?_
    refine follows_onward (by simp) (fun w own hw hk => hw.setLive hk) ?_
    rw [Stakes.working_eq_self hnone]
    exact Or.inr hx
  | error fault =>
    refine follows_onward (by simp) (fun w own hw hk => hw.withdraw hk) ?_
    refine follows_onward (by simp [Event.handle?]) (fun w own hw hk => hw.setUnconstructed hk) ?_
    rw [Stakes.working_eq_self hnone]
    exact Process.Keeps.bind (bridging_lenient.log _ _) (fun _ => .pure _) x hx

/-! ## Resources, and records that are dropped

Sections on records that no thread holds. -/

theorem keeps_forget (o : ObjectId) :
    (Run.forget o).Keeps World.bridging Stakes.givenBack me := by
  intro x hx
  unfold Run.forget
  rw [← bind_pure (Run.changeBridge _)]
  refine Process.Follows.change (fun w own hw hme _ _ => ⟨fun _ => hx.1, x, ?_, Or.inr hx⟩)
  rw [← hme, Function.update_eq_self]
  exact hw.forget o

theorem Bridge.useResource_cases (b : Bridge) (h : Handle) (kind : ResourceKind)
    (update : kind.Carrier → kind.Carrier) :
    (∃ e, b.useResource h kind update = (.error e, b)) ∨
    (∃ r v a, b.records.get? h = some r ∧ r.resource.isSome = true ∧
      b.useResource h kind update =
        (.ok a, b.updateRecord h (fun s => { s with resource := some v }))) := by
  unfold Bridge.useResource
  cases hv : (b.records.get? h).bind Record.resource with
  | none => exact Or.inl ⟨_, rfl⟩
  | some v =>
    obtain ⟨r, hr, hrv⟩ := Option.bind_eq_some_iff.1 hv
    by_cases same : v.kind = kind
    · exact Or.inr ⟨r, _, _, hr, by rw [hrv]; rfl, dif_pos same⟩
    · exact Or.inl ⟨_, dif_neg same⟩

/-- A resource is changed where there is one, and stays there. -/
theorem keeps_useResource (h : Handle) (kind : ResourceKind)
    (update : kind.Carrier → kind.Carrier) :
    (Run.useResource h kind update).Keeps World.bridging Stakes.givenBack me := by
  refine .bind (bridging_lenient.askBridge _) (fun r? => ?_)
  cases r? with
  | none => exact .pure _
  | some r =>
    intro x hx
    dsimp only
    rw [← bind_pure (Run.onBridge _ (Run.useEvents h kind update))]
    refine follows_onBridge (fun a e he => ?_) (fun w own hw hme _ _ => ⟨x, ?_, Or.inr hx⟩)
    · simp [Run.eq_of_mem_useEvents he, Event.handle?]
    rw [← hme, Function.update_eq_self]
    obtain ⟨e, hu⟩ | ⟨r, v, a, hr, he, hu⟩ := w.bridge.useResource_cases h kind update
    · rw [hu]
      exact hw
    · rw [hu]
      exact hw.useResource hr he v kind update

theorem keeps_construct (hrun : run.Keeps World.bridgeManners me) (typeName : String)
    (o : ObjectId) :
    (Run.construct run me typeName o).Keeps World.bridging Stakes.givenBack me := by
  refine .bind (bridging_lenient.ask _) (fun r => ?_)
  split
  · refine .bind (keeps_attach hrun _ _ _) (fun r => ?_)
    cases r <;> exact .pure _
  · exact .pure _

/-- **All code keeps everything accounted for.** -/
theorem bridged (me : ThreadId) : World.bridgeManners.Upheld me :=
  bridging_lenient.upheld {
    ask := bridging_lenient.ask
    note := fun _ => bridging_lenient.record rfl
    log := bridging_lenient.log
    useResource := keeps_useResource
    forget := keeps_forget
    construct := fun hrun typeName o _ => keeps_construct hrun typeName o
    destroyRecord := keeps_destroyRecord
    invoke := keeps_invoke
    beginCall := keeps_beginCall
    endCall := keeps_endCall }

end HostBridge
