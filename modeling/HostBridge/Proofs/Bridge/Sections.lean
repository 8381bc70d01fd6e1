import HostBridge.Proofs.Bridge.Standing
import HostBridge.Proofs.Bridge.Quiet

/-!
# The sections of the bridge

Every section of the bridge keeps everything accounted for
(`World.Accounted`), if the stake of its thread in one handle changes with it.
Most sections touch one handle only (`World.Touches`): nothing else is seen to
change, so it is enough to follow that handle from one phase to the next
(`World.Accounted.touch`). The others are a construction that is given a handle,
announces its instance, or takes that back, and the record of a destroyed
instance that is forgotten.

## The shape of a proof

That everything is accounted for has a part for each handle, and a section is
about one of them. So there are always two things to show.

* **The other handles** are seen as they were, and the threads own in them what
  they owned. For a section that touches one handle this is the definition. For
  a section on the table of instances it is the whole difficulty, because a
  handle may cease to be the latest of its instance without being touched; that
  may only happen to one that is over (`Standing.recurrent`).
* **The handle itself** goes from one phase to another. Its thread holds it and
  knows which phase it is in, or it is found live, or nobody has it; in each
  case the outline of the old phase and that of the new differ by what the
  section wrote, and the proof compares them.

The calls on a handle go along with any phase in which they are allowed. They
are counted three times, in the record, in the stakes and in the history, and a
section has to change the three together (`Sight.Tallies`).

The lemmas at the end are named after the section that they are about, and say
what its thread had to own before and owns after it.
-/

namespace HostBridge

variable {w w' : World} {own : ThreadId → Stakes} {me : ThreadId} {h : Handle}
  {events : List Event}

/-! ## Stakes

What a thread owns is a function of the handle, changed at one handle at a time.
The first lemmas say how two such changes meet; most are for `simp`. -/

namespace Stakes

variable {x : Stakes}

/-- The stakes with other work on a handle. -/
def working (x : Stakes) (h : Handle) (k : Option Work) : Stakes :=
  Function.update x h { x h with work := k }

/-- The stakes with another number of calls on a handle. -/
def calling (x : Stakes) (h : Handle) (n : Nat) : Stakes :=
  Function.update x h { x h with calls := n }

@[simp] theorem working_self (k : Option Work) : x.working h k h = { x h with work := k } :=
  Function.update_self h _ x

@[simp] theorem calling_self (n : Nat) : x.calling h n h = { x h with calls := n } :=
  Function.update_self h _ x

/-- Work on one handle is no work on another. -/
theorem working_of_ne {g : Handle} (hg : g ≠ h) (k : Option Work) : x.working h k g = x g :=
  Function.update_of_ne hg _ x

/-- Calls on one handle are none on another. -/
theorem calling_of_ne {g : Handle} (hg : g ≠ h) (n : Nat) : x.calling h n g = x g :=
  Function.update_of_ne hg _ x

@[simp] theorem working_working (k l : Option Work) :
    (x.working h k).working h l = x.working h l := by
  unfold working
  rw [Function.update_idem, Function.update_self]

@[simp] theorem calling_calling (m n : Nat) :
    (x.calling h m).calling h n = x.calling h n := by
  unfold calling
  rw [Function.update_idem, Function.update_self]

/-- A thread that has taken up work on a handle is at it. -/
theorem work_of_eq {y : Stakes} {k : Option Work} (hy : y = x.working h k) :
    (y h).work = k := by
  rw [hy, working_self]

/-- To go on with the same work changes nothing. -/
theorem working_eq_self {k : Option Work} (hk : (x h).work = k) : x.working h k = x := by
  subst hk
  exact Function.update_eq_self h x

theorem calling_eq_self {n : Nat} (hn : (x h).calls = n) : x.calling h n = x := by
  subst hn
  exact Function.update_eq_self h x

end Stakes

/-! ## Sections that touch one handle

A section may change the record of its handle, its place in the list, the calls
kept running on it, and its past. All of that together is what is to be seen of
the handle, and nothing of it is to be seen of another. -/

/-- **A change of one handle only**, with what it tells the history. -/
structure World.Touches (w w' : World) (h : Handle) (events : List Event) : Prop where
  nextHandle : w'.bridge.nextHandle = w.bridge.nextHandle
  instances : w'.bridge.instances = w.bridge.instances
  records : ∀ g, g ≠ h → w'.bridge.records.get? g = w.bridge.records.get? g
  object : (w'.bridge.records.get? h).map Record.object =
    (w.bridge.records.get? h).map Record.object
  handles : ∀ g, g ≠ h → w'.bridge.handles.contains g = w.bridge.handles.contains g
  kept : ∀ g, g ≠ h → ∀ t, w'.kept.count (t, g) = w.kept.count (t, g)
  history : w'.history = events ++ w.history
  told : ∀ e ∈ events, e.handle? = some h ∧ e.isIssue = false

namespace World

/-- Events of one handle go to the past of that handle. -/
theorem past_append {g : Handle} (hw : w'.history = events ++ w.history)
    (he : ∀ e ∈ events, e.handle? = some h) :
    w'.past g = if g = h then events ++ w.past g else w.past g := by
  unfold past
  rw [hw, List.filter_append]
  by_cases hg : g = h
  · rw [if_pos hg, List.filter_eq_self.2 (fun e hm => by simpa [hg] using he e hm)]
  · rw [if_neg hg, List.filter_eq_nil_iff.2, List.nil_append]
    intro e hm hh
    exact hg (Option.some.inj ((of_decide_eq_true hh).symm.trans (he e hm)))

/-- Where no handle is given out, the constructions are as many as they were. -/
theorem constructions_append (hw : w'.history = events ++ w.history)
    (he : ∀ e ∈ events, e.isIssue = false) : w'.constructions = w.constructions := by
  unfold constructions
  rw [hw, List.countP_append, List.countP_eq_zero.2 (fun e hm => by simp [he e hm]), Nat.zero_add]

/-- Whether a handle is current is a matter of the instance of its record. -/
theorem isCurrent_eq (w : World) (h : Handle) :
    w.isCurrent h = (((w.bridge.records.get? h).map Record.object).any
      (fun o => w.bridge.instances.get? o = some h)) := by
  unfold isCurrent
  cases w.bridge.records.get? h <;> rfl

namespace Touches

variable (ht : w.Touches w' h events)

include ht

/-- A section that touches one handle gives none out. -/
theorem constructions : w'.constructions = w.constructions :=
  constructions_append ht.history (fun e he => (ht.told e he).2)

/-- **Nothing else is seen to change.** -/
theorem sight_of_ne {g : Handle} (hg : g ≠ h) : w'.sight g = w.sight g := by
  have hp : w'.past g = w.past g := by
    rw [past_append ht.history (fun e he => (ht.told e he).1), if_neg hg]
  have hc : w'.isCurrent g = w.isCurrent g := by
    rw [isCurrent_eq, isCurrent_eq, ht.records g hg, ht.instances]
  unfold sight isIssued
  simp only [ht.records g hg, ht.handles g hg, ht.kept g hg, ht.constructions, hp, hc]

/-- What is to be seen of the handle after the change. -/
theorem sight_self : w'.sight h =
    { w.sight h with
      record := w'.bridge.records.get? h
      listed := w'.bridge.handles.contains h
      kept := fun t => w'.kept.count (t, h)
      past := events ++ (w.sight h).past } := by
  have hp : w'.past h = events ++ w.past h := by
    rw [past_append ht.history (fun e he => (ht.told e he).1), if_pos rfl]
  have hc : w'.isCurrent h = w.isCurrent h := by
    rw [isCurrent_eq, isCurrent_eq, ht.object, ht.instances]
  unfold sight isIssued
  simp only [ht.constructions, hp, hc]

/-- A section that touches a handle writes no line to the journal. -/
theorem not_notes : ¬w.Notes w' := by
  rintro ⟨line, hl⟩
  rw [ht.history] at hl
  have he : events = [.note line] := List.append_cancel_right (hl.trans rfl)
  have := (ht.told (.note line) (by simp [he])).1
  cases this

end Touches

end World

/-- A handle that is seen as it was, with the stakes in it unchanged, stands as it stood. -/
theorem World.Accounted.others (hw : w.Accounted own) {y : Stakes} {g : Handle}
    (hy : y g = own me g) (hs : w'.sight g = w.sight g) :
    ∃ φ, Standing g (w'.sight g) (fun t => Function.update own me y t g) φ := by
  have he : (fun t => Function.update own me y t g) = fun t => own t g := by
    funext t
    by_cases ht : t = me
    · subst ht
      rw [Function.update_self, hy]
    · rw [Function.update_of_ne ht]
  rw [he, hs]
  exact hw.standing g

/-- Seen from one handle, a change of the stakes of a thread is a change of its stake in that
handle. -/
theorem update_apply_handle (own : ThreadId → Stakes) (me : ThreadId) (y : Stakes) (h : Handle) :
    (fun t => Function.update own me y t h) = Function.update (fun t => own t h) me (y h) := by
  funext t
  by_cases ht : t = me
  · subst ht
    rw [Function.update_self, Function.update_self]
  · rw [Function.update_of_ne ht, Function.update_of_ne ht]

/-- **A change of one handle is a step of that handle** from a phase to a
phase. -/
theorem World.Accounted.touch (hw : w.Accounted own) (ht : w.Touches w' h events)
    (hn : w'.bridge.handles.Nodup) {y : Stakes} (hy : ∀ g, g ≠ h → y g = own me g)
    (hs : ∀ φ, Standing h (w.sight h) (fun t => own t h) φ →
      ∃ φ', Standing h (w'.sight h) (Function.update (fun t => own t h) me (y h)) φ') :
    w'.Accounted (Function.update own me y) where
  numbered := by rw [ht.nextHandle, ht.constructions, hw.numbered]
  handles := hn
  owner := by
    intro o g hg
    rw [ht.instances] at hg
    by_cases hgh : g = h
    · subst hgh
      rw [ht.object]
      exact hw.owner o g hg
    · rw [ht.records g hgh]
      exact hw.owner o g hg
  standing := by
    intro g
    by_cases hg : g = h
    · subst hg
      obtain ⟨φ, hφ⟩ := hw.standing g
      -- the thread changes its stake in this handle, and the others keep theirs
      rw [update_apply_handle]
      exact hs φ hφ
    · exact hw.others (hy g hg) (ht.sight_of_ne hg)

/-! ### How stakes are tallied

One lemma for each way in which a section changes a stake: by the work of its thread alone, by a
call more, by a call less, and by a call that is kept running. -/

/-- The work of a thread is not among the calls, so they tally whatever it goes on to. -/
theorem Sight.Tallies.working {s s' : Sight} (ht : s.Tallies h (fun t => own t h))
    {k : Option Work} (hf : s'.inFlight = s.inFlight) (hk : s'.kept = s.kept)
    (ha : admissions h s'.past = admissions h s.past)
    (hd : dismissals h s'.past = dismissals h s.past) :
    s'.Tallies h (Function.update (fun t => own t h) me ((own me).working h k h)) := by
  refine ht.congr hf (fun t => ?_) ha hd
  rw [hk]
  by_cases htm : t = me
  · subst htm
    rw [Function.update_self, Stakes.working_self]
  · rw [Function.update_of_ne htm]

/-- **The thread that holds a handle goes on with it**: from its work on it to other
work, or to a phase in which nobody holds it. -/
theorem Standing.onward {s s' : Sight} {k : Work} {k' : Option Work} {φ' : Phase}
    (hs : Standing h s (fun t => own t h) (.held me k)) (hshow : φ'.outline.Shows s')
    (htell : φ'.outline.Tells h s'.past) (hf : s'.inFlight = s.inFlight) (hk : s'.kept = s.kept)
    (ha : admissions h s'.past = admissions h s.past)
    (hd : dismissals h s'.past = dismissals h s.past)
    (hw : ∀ t, φ'.work? t = if me = t then k' else none)
    (hb : ∀ t o, φ' ≠ .held t (.building o)) :
    Standing h s' (Function.update (fun t => own t h) me ((own me).working h k' h)) φ' where
  shows := hshow
  tells := htell
  tallies := hs.tallies.working hf hk ha hd
  work := work_update hs.work (by simp [hw]) (fun t ht => by
    rw [hw, if_neg ht.symm, Phase.work?, if_neg ht.symm])
  object := fun t o he => absurd he (hb t o)

/-- A call that is admitted is one more of its thread. -/
theorem Sight.Tallies.admitted {s s' : Sight} {stake : ThreadId → Stake} {z : Stake}
    (ht : s.Tallies h stake) (hf : s'.inFlight = s.inFlight ++ [me]) (hk : s'.kept = s.kept)
    (hp : s'.past = .admitted h me :: s.past) (hz : z.calls = (stake me).calls + 1) :
    s'.Tallies h (Function.update stake me z) where
  calls := fun t => by
    have := ht.calls t
    by_cases htm : t = me
    · subst htm
      rw [hf, hk, Function.update_self, hz, List.count_append, List.count_singleton_self]
      omega
    · have hn : [me].count t = 0 := List.count_eq_zero_of_not_mem (by simpa using htm)
      rw [hf, hk, Function.update_of_ne htm, List.count_append, hn]
      omega
  tally := fun t => by
    have := ht.tally t
    have ha : admissions h s'.past = me :: admissions h s.past := by
      simp [admissions, hp, Event.admission?]
    have hd : dismissals h s'.past = dismissals h s.past := by
      rw [hp]
      rfl
    rw [ha, hd, hf, List.count_append, List.count_cons, List.count_singleton]
    omega

/-- A call that ends is one less of its thread. -/
theorem Sight.Tallies.dismissed {s s' : Sight} {stake : ThreadId → Stake} {z : Stake}
    (ht : s.Tallies h stake) (hf : s'.inFlight = s.inFlight.erase me) (hk : s'.kept = s.kept)
    (hp : s'.past = .dismissed h me :: s.past) (hz : z.calls + 1 = (stake me).calls) :
    s'.Tallies h (Function.update stake me z) where
  calls := fun t => by
    have := ht.calls t
    by_cases htm : t = me
    · subst htm
      rw [hf, hk, Function.update_self, List.count_erase_self]
      omega
    · rw [hf, hk, Function.update_of_ne htm, List.count_erase_of_ne htm]
      omega
  tally := fun t => by
    have hc := ht.calls t
    have := ht.tally t
    have ha : admissions h s'.past = admissions h s.past := by
      rw [hp]
      rfl
    have hd : dismissals h s'.past = me :: dismissals h s.past := by
      simp [dismissals, hp, Event.dismissal?]
    rw [ha, hd, hf]
    by_cases htm : t = me
    · subst htm
      rw [List.count_erase_self, List.count_cons_self]
      omega
    · rw [List.count_erase_of_ne htm, List.count_cons_of_ne (Ne.symm htm)]
      omega

/-- A call that a thread starts or ceases to keep running is a call all the
same. -/
theorem Sight.Tallies.moved {s s' : Sight} {stake : ThreadId → Stake} {z : Stake}
    (ht : s.Tallies h stake) (hf : s'.inFlight = s.inFlight) (hp : s'.past = s.past)
    (hz : z.calls + s'.kept me = (stake me).calls + s.kept me)
    (ho : ∀ t, t ≠ me → s'.kept t = s.kept t) : s'.Tallies h (Function.update stake me z) := by
  refine ht.congr hf (fun t => ?_) (by rw [hp]) (by rw [hp])
  by_cases htm : t = me
  · subst htm
    rw [Function.update_self, hz]
  · rw [Function.update_of_ne htm, ho t htm]

/-! ### What touches one handle

The changes of the state that sections consist of, each with the events it makes. -/

namespace World

theorem touches_self (w : World) (h : Handle) : w.Touches w h [] where
  nextHandle := rfl
  instances := rfl
  records := fun _ _ => rfl
  object := rfl
  handles := fun _ _ => rfl
  kept := fun _ _ _ => rfl
  history := rfl
  told := by simp

/-- **A change of a record** touches its handle, if the record stays that of its instance. -/
theorem touches_updateRecord (w : World) {h : Handle} {events : List Event}
    {f : Record → Record} (hf : ∀ r, (f r).object = r.object)
    (ht : ∀ e ∈ events, e.handle? = some h ∧ e.isIssue = false) :
    w.Touches (w.onBridge (w.bridge.updateRecord h f) events) h events where
  nextHandle := rfl
  instances := rfl
  records := fun g hg => by
    show (w.bridge.records.modify h f).get? g = _
    rw [Table.get?_modify, if_neg hg]
  object := by
    show ((w.bridge.records.modify h f).get? h).map Record.object = _
    rw [Table.get?_modify, if_pos rfl, Option.map_map]
    exact congrFun (congrArg _ (funext hf)) _
  handles := fun _ _ => rfl
  kept := fun _ _ _ => rfl
  history := rfl
  told := ht

/-- Listing a handle touches that handle. -/
theorem touches_list (w : World) (h : Handle) : w.Touches (w.onBridge (w.bridge.list h)) h [] where
  nextHandle := rfl
  instances := rfl
  records := fun _ _ => rfl
  object := rfl
  handles := fun g hg => by
    show (h :: w.bridge.handles).contains g = _
    rw [List.contains_cons, beq_false_of_ne hg, Bool.false_or]
  kept := fun _ _ _ => rfl
  history := rfl
  told := by simp

/-- Striking a handle touches that handle. -/
theorem touches_unlist (w : World) (h : Handle) :
    w.Touches (w.onBridge (w.bridge.unlist h)) h [] where
  nextHandle := rfl
  instances := rfl
  records := fun _ _ => rfl
  object := rfl
  handles := fun g hg => by
    show (w.bridge.handles.erase h).contains g = _
    rw [Bool.eq_iff_iff, List.contains_iff_mem, List.contains_iff_mem, List.mem_erase_of_ne hg]
  kept := fun _ _ _ => rfl
  history := rfl
  told := by simp

theorem touches_record (w : World) {h : Handle} {e : Event}
    (he : e.handle? = some h ∧ e.isIssue = false) : w.Touches (w.record e) h [e] where
  nextHandle := rfl
  instances := rfl
  records := fun _ _ => rfl
  object := rfl
  handles := fun _ _ => rfl
  kept := fun _ _ _ => rfl
  history := rfl
  told := by simpa using he

/-- Keeping a call running touches the handle it is on. -/
theorem touches_keep (w : World) (me : ThreadId) (h : Handle) :
    w.Touches { w with kept := (me, h) :: w.kept } h [] where
  nextHandle := rfl
  instances := rfl
  records := fun _ _ => rfl
  object := rfl
  handles := fun _ _ => rfl
  kept := fun g hg t => List.count_cons_of_ne (fun hc => hg (Prod.ext_iff.1 hc).2.symm)
  history := rfl
  told := by simp

theorem touches_take (w : World) (me : ThreadId) (h : Handle) :
    w.Touches { w with kept := w.kept.erase (me, h) } h [] where
  nextHandle := rfl
  instances := rfl
  records := fun _ _ => rfl
  object := rfl
  handles := fun _ _ => rfl
  kept := fun g hg t => List.count_erase_of_ne (fun hc => hg (Prod.ext_iff.1 hc).2)
  history := rfl
  told := by simp

/-! ### What touches the table of instances

To give a handle out changes what is issued, and to announce an instance changes
which handle is the latest. Both can be seen from other handles, and have lemmas
of their own that say how little. -/

section Reserve

variable (hn : h.number.toNat = w.constructions + 1)

include hn

/-- **One handle more is given out**, the next one. -/
theorem isIssued_reserve (g : Handle) : (w.onBridge w.bridge.reserve.2 [.issued h]).isIssued g =
    (w.isIssued g || decide (g = h)) := by
  have hcons : (w.onBridge w.bridge.reserve.2 [.issued h]).constructions = w.constructions + 1 :=
    List.countP_cons_of_pos rfl
  have hg : g = h ↔ g.number.toNat = w.constructions + 1 :=
    ⟨fun he => he ▸ hn, fun he => congrArg Handle.mk (UInt64.toNat_inj.1 (he.trans hn.symm))⟩
  unfold isIssued
  rw [hcons, decide_eq_decide.2 hg, ← Bool.decide_or]
  congr 1
  refine propext ⟨?_, ?_⟩ <;> omega

theorem sight_reserve_self : (w.onBridge w.bridge.reserve.2 [.issued h]).sight h =
    { w.sight h with issued := true, past := .issued h :: w.past h } := by
  have hp : (w.onBridge w.bridge.reserve.2 [.issued h]).past h = .issued h :: w.past h :=
    List.filter_cons_of_pos (by simp [Event.handle?])
  have hi : (w.onBridge w.bridge.reserve.2 [.issued h]).isIssued h = true := by
    rw [isIssued_reserve hn]
    simp
  unfold sight
  rw [hp, hi]
  rfl

/-- The other handles are seen as they were when one is given out. -/
theorem sight_reserve_of_ne {g : Handle} (hg : g ≠ h) :
    (w.onBridge w.bridge.reserve.2 [.issued h]).sight g = w.sight g := by
  have hp : (w.onBridge w.bridge.reserve.2 [.issued h]).past g = w.past g :=
    List.filter_cons_of_neg (by simpa [Event.handle?] using Ne.symm hg)
  have hi : (w.onBridge w.bridge.reserve.2 [.issued h]).isIssued g = w.isIssued g := by
    rw [isIssued_reserve hn]
    simp [hg]
  unfold sight
  rw [hp, hi]
  rfl

end Reserve

/-- **An instance is announced** under a handle: the record is new, and the latest of
its instance. -/
structure Announces (w w' : World) (h : Handle) (r : Record) : Prop where
  issued : ∀ g, w'.isIssued g = w.isIssued g
  listed : ∀ g, w'.bridge.handles.contains g = w.bridge.handles.contains g
  kept : w'.kept = w.kept
  past : ∀ g, w'.past g = w.past g
  self : w'.bridge.records.get? h = some r
  others : ∀ g, g ≠ h → w'.bridge.records.get? g = w.bridge.records.get? g
  instances : ∀ o, w'.bridge.instances.get? o =
    if o = r.object then some h else w.bridge.instances.get? o

/-- A new record under a handle announces its instance. -/
theorem announces (w : World) (h : Handle) (r : Record) :
    w.Announces (w.onBridge { w.bridge with
      records := w.bridge.records.insert h r
      instances := w.bridge.instances.insert r.object h }) h r where
  issued := fun _ => rfl
  listed := fun _ => rfl
  kept := rfl
  past := fun _ => rfl
  self := (Table.get?_insert ..).trans (if_pos rfl)
  others := fun _ hg => (Table.get?_insert ..).trans (if_neg hg)
  instances := fun _ => Table.get?_insert ..

/-- An announcement is seen from another handle by its being no longer the latest, if at all. -/
theorem Announces.sight_of_ne {r : Record} (ha : w.Announces w' h r) {g : Handle} (hg : g ≠ h) :
    w'.sight g = { w.sight g with current := w'.isCurrent g } := by
  unfold sight
  rw [ha.issued, ha.others g hg, ha.listed, ha.kept, ha.past]

end World

namespace World.Accounted

/-- A record that is updated, at a step of its handle. -/
theorem updateRecord (hw : w.Accounted own) {f : Record → Record}
    (hf : ∀ r, (f r).object = r.object)
    (ht : ∀ e ∈ events, e.handle? = some h ∧ e.isIssue = false) {y : Stakes}
    (hy : ∀ g, g ≠ h → y g = own me g)
    (hs : ∀ φ, Standing h (w.sight h) (fun t => own t h) φ →
      ∃ φ', Standing h { w.sight h with
          record := (w.sight h).record.map f
          past := events ++ (w.sight h).past }
        (Function.update (fun t => own t h) me (y h)) φ') :
    (w.onBridge (w.bridge.updateRecord h f) events).Accounted (Function.update own me y) := by
  refine hw.touch (w.touches_updateRecord hf ht) hw.handles hy (fun φ hφ => ?_)
  obtain ⟨φ', hφ'⟩ := hs φ hφ
  refine ⟨φ', ?_⟩
  rw [(w.touches_updateRecord hf ht).sight_self]
  have hr : (w.bridge.updateRecord h f).records.get? h = (w.bridge.records.get? h).map f := by
    show (w.bridge.records.modify h f).get? h = _
    rw [Table.get?_modify, if_pos rfl]
  show Standing h { w.sight h with
    record := (w.bridge.updateRecord h f).records.get? h
    past := events ++ (w.sight h).past } _ φ'
  rw [hr]
  exact hφ'

/-! ### Construction

The thread has the handle from the moment it is given out. It builds, stores the
resource, lists the handle and lets the instance live; or its hook fails, and it
takes back the announcement and gives up. -/

/-- The thread that builds the resource stores it. -/
theorem equip (hw : w.Accounted own) {o : ObjectId} (hk : (own me h).work = some (.building o))
    (r : Resource) :
    (w.onBridge (w.bridge.equip h r) [.constructed h, .equipped h r]).Accounted
      (Function.update own me ((own me).working h (some .equipped))) := by
  refine hw.updateRecord ?_ ?_ ?_ (fun φ hφ => ⟨.held me .equipped, ?_⟩)
  · exact fun _ => rfl
  · simp [Event.handle?, Event.isIssue]
  · exact fun g hg => Stakes.working_of_ne hg _
  obtain rfl := hφ.held hk
  obtain ⟨s, hs, hl⟩ := hφ.shows.exists_record rfl
  refine hφ.onward ?_ ((hφ.tells.equipped r).constructed.congr rfl rfl rfl rfl)
    (by simp [hs, Sight.inFlight]) rfl rfl rfl (by simp [Phase.work?]) (by simp)
  exact {
    issued := hφ.shows.issued
    lifecycle := by simpa [hs] using hφ.shows.lifecycle
    pending := by simpa [hs] using hφ.shows.pending
    equipped := by simp [hs]
    listed := hφ.shows.listed
    current := hφ.shows.current
    busy := by simpa [hs, Sight.inFlight] using hφ.shows.busy
    awaited := by simp }

/-- The thread that has built the resource lists the handle. -/
theorem list (hw : w.Accounted own) (hk : (own me h).work = some .equipped) :
    (w.onBridge (w.bridge.list h)).Accounted
      (Function.update own me ((own me).working h (some .listed))) := by
  obtain ⟨φ, hφ⟩ := hw.standing h
  obtain rfl := hφ.held hk
  have hn : h ∉ w.bridge.handles := by
    have := hφ.shows.listed
    simpa [World.sight] using this
  refine hw.touch (w.touches_list h) (List.nodup_cons.2 ⟨hn, hw.handles⟩)
    (fun g hg => Stakes.working_of_ne hg _) (fun φ hφ => ⟨.held me .listed, ?_⟩)
  obtain rfl := hφ.held hk
  rw [(w.touches_list h).sight_self]
  refine hφ.onward ?_ (hφ.tells.congr rfl rfl rfl rfl) rfl rfl rfl rfl
    (by simp [Phase.work?]) (by simp)
  exact { hφ.shows with listed := by simp [World.onBridge, Bridge.list] }

/-- The thread that has listed the handle lets the instance live. -/
theorem setLive (hw : w.Accounted own) (hk : (own me h).work = some .listed) :
    (w.onBridge (w.bridge.setLifecycle h .live)).Accounted
      (Function.update own me ((own me).working h none)) := by
  refine hw.updateRecord ?_ ?_ ?_ (fun φ hφ => ⟨.live, ?_⟩)
  · exact fun _ => rfl
  · simp
  · exact fun g hg => Stakes.working_of_ne hg _
  obtain rfl := hφ.held hk
  obtain ⟨s, hs, hl⟩ := hφ.shows.exists_record rfl
  refine hφ.onward ?_ (hφ.tells.congr rfl rfl rfl rfl) (by simp [hs, Sight.inFlight]) rfl rfl rfl
    (by simp [Phase.work?]) (by simp)
  exact { hφ.shows with
    lifecycle := by simp [hs]
    pending := by simpa [hs] using hφ.shows.pending
    equipped := by simpa [hs] using hφ.shows.equipped
    busy := by simp
    awaited := by simp }

/-- The thread that has taken back what it announced gives up. -/
theorem setUnconstructed (hw : w.Accounted own) (hk : (own me h).work = some .withdrawn) :
    (w.onBridge (w.bridge.setLifecycle h .unconstructed) [.discarded h]).Accounted
      (Function.update own me ((own me).working h none)) := by
  refine hw.updateRecord ?_ ?_ ?_ (fun φ hφ => ⟨.failed, ?_⟩)
  · exact fun _ => rfl
  · simp [Event.handle?, Event.isIssue]
  · exact fun g hg => Stakes.working_of_ne hg _
  obtain rfl := hφ.held hk
  obtain ⟨s, hs, hl⟩ := hφ.shows.exists_record rfl
  refine hφ.onward ?_ (hφ.tells.discarding.congr rfl rfl rfl rfl) (by simp [hs, Sight.inFlight])
    rfl rfl rfl (by simp [Phase.work?]) (by simp)
  exact { hφ.shows with
    lifecycle := by simp [hs]
    pending := by simpa [hs] using hφ.shows.pending
    equipped := by simpa [hs] using hφ.shows.equipped
    busy := by simpa [hs, Sight.inFlight] using hφ.shows.busy
    awaited := by simp }

/-! ### The end of a destruction

From the moment the calls are over the thread is alone with the instance. The
order of its sections is what makes a handle useless before its hook starts. -/

/-- No call runs any more on what a thread waits to destroy. -/
theorem await (hw : w.Accounted own) (hk : (own me h).work = some .waiting)
    (hi : w.bridge.isIdle h = true) :
    w.Accounted (Function.update own me ((own me).working h (some .ending))) := by
  refine hw.touch (w.touches_self h) hw.handles (fun g hg => Stakes.working_of_ne hg _)
    (fun φ hφ => ⟨.held me .ending, ?_⟩)
  obtain rfl := hφ.held hk
  obtain ⟨s, hs, hl⟩ := hφ.shows.exists_record rfl
  have hidle : (w.sight h).inFlight = [] := by
    have hg : w.bridge.records.get? h = some s := hs
    simpa [Sight.inFlight, hs, Bridge.isIdle, hg] using hi
  refine hφ.onward ?_ (hφ.tells.congr rfl rfl rfl rfl) rfl rfl rfl rfl
    (by simp [Phase.work?]) (by simp)
  exact { hφ.shows with
    busy := fun hne => absurd hidle hne
    awaited := by simp }

/-- The thread that is about to destroy an instance strikes its handle. -/
theorem unlist (hw : w.Accounted own) (hk : (own me h).work = some .ending) :
    (w.onBridge (w.bridge.unlist h)).Accounted
      (Function.update own me ((own me).working h (some .unlisted))) := by
  refine hw.touch (w.touches_unlist h) (hw.handles.erase h)
    (fun g hg => Stakes.working_of_ne hg _) (fun φ hφ => ⟨.held me .unlisted, ?_⟩)
  obtain rfl := hφ.held hk
  rw [(w.touches_unlist h).sight_self]
  refine hφ.onward ?_ (hφ.tells.congr rfl rfl rfl rfl) rfl rfl rfl rfl
    (by simp [Phase.work?]) (by simp)
  exact { hφ.shows with
    listed := by simpa [World.onBridge, Bridge.unlist] using hw.handles.not_mem_erase }

/-- The thread that has struck a handle takes the resource out. -/
theorem takeResource (hw : w.Accounted own) (hk : (own me h).work = some .unlisted) :
    (w.onBridge (w.bridge.takeResource h).2).Accounted
      (Function.update own me ((own me).working h (some .emptied))) := by
  refine hw.updateRecord ?_ ?_ ?_ (fun φ hφ => ⟨.held me .emptied, ?_⟩)
  · exact fun _ => rfl
  · simp
  · exact fun g hg => Stakes.working_of_ne hg _
  obtain rfl := hφ.held hk
  obtain ⟨s, hs, hl⟩ := hφ.shows.exists_record rfl
  refine hφ.onward ?_ (hφ.tells.congr rfl rfl rfl rfl) (by simp [hs, Sight.inFlight]) rfl rfl rfl
    (by simp [Phase.work?]) (by simp)
  exact { hφ.shows with
    lifecycle := by simpa [hs] using hφ.shows.lifecycle
    pending := by simpa [hs] using hφ.shows.pending
    equipped := by simp [hs]
    busy := by simpa [hs, Sight.inFlight] using hφ.shows.busy
    awaited := by simp }

/-- The thread that has taken the resource out starts the destruction hook. -/
theorem destruction (hw : w.Accounted own) (hk : (own me h).work = some .emptied)
    (r : Resource) :
    (w.record (.destruction h r)).Accounted
      (Function.update own me ((own me).working h (some .destroying))) := by
  have ht : w.Touches (w.record (.destruction h r)) h [.destruction h r] :=
    w.touches_record ⟨rfl, rfl⟩
  refine hw.touch ht hw.handles (fun g hg => Stakes.working_of_ne hg _)
    (fun φ hφ => ⟨.held me .destroying, ?_⟩)
  obtain rfl := hφ.held hk
  have hidle : (w.sight h).inFlight = [] := by
    by_contra hne
    exact Bool.noConfusion (hφ.shows.busy hne)
  rw [ht.sight_self]
  have htells := hφ.tells.destroying rfl (fun t => by simp [hφ.tallies.tally, hidle]) r
  refine hφ.onward ?_ (htells.congr rfl rfl rfl rfl) rfl rfl rfl rfl
    (by simp [Phase.work?]) (by simp)
  exact { hφ.shows with awaited := by simp }

/-- The thread that has destroyed an instance says so. -/
theorem setDestroyed (hw : w.Accounted own) (hk : (own me h).work = some .destroying) :
    (w.onBridge (w.bridge.setLifecycle h .destroyed)).Accounted
      (Function.update own me ((own me).working h none)) := by
  refine hw.updateRecord ?_ ?_ ?_ (fun φ hφ => ⟨.destroyed, ?_⟩)
  · exact fun _ => rfl
  · simp
  · exact fun g hg => Stakes.working_of_ne hg _
  obtain rfl := hφ.held hk
  obtain ⟨s, hs, hl⟩ := hφ.shows.exists_record rfl
  refine hφ.onward ?_ (hφ.tells.congr rfl rfl rfl rfl) (by simp [hs, Sight.inFlight]) rfl rfl rfl
    (by simp [Phase.work?]) (by simp)
  exact { hφ.shows with
    lifecycle := by simp [hs]
    pending := by simpa [hs] using hφ.shows.pending
    equipped := by simpa [hs] using hφ.shows.equipped
    current := by simp
    busy := by simpa [hs, Sight.inFlight] using hφ.shows.busy
    awaited := by simp }

/-! ### Calls

A call is admitted where the record is open, and whoever ends it may find that a
destruction was waiting for that. Then the end of the call takes the destruction
over, and the thread holds the handle. -/

/-- A call is admitted on a live instance, and the thread has one more to end. -/
theorem admitCall (hw : w.Accounted own) {r : Record} (hr : w.bridge.records.get? h = some r)
    (ho : r.isOpen = true) :
    (w.onBridge (w.bridge.updateRecord h (fun r => { r with inFlight := r.inFlight ++ [me] }))
      [.admitted h me]).Accounted
      (Function.update own me ((own me).calling h ((own me h).calls + 1))) := by
  refine hw.updateRecord ?_ ?_ ?_ (fun φ hφ => ⟨.live, ?_⟩)
  · exact fun _ => rfl
  · simp [Event.handle?, Event.isIssue]
  · exact fun g hg => Stakes.calling_of_ne hg _
  have hs : (w.sight h).record = some r := hr
  obtain rfl := hφ.live hs ho
  exact {
    shows := { hφ.shows with
      lifecycle := by simpa [hs] using hφ.shows.lifecycle
      pending := by simpa [hs] using hφ.shows.pending
      equipped := by simpa [hs] using hφ.shows.equipped
      busy := by simp
      awaited := by simp }
    tells := hφ.tells.admitted rfl rfl me
    tallies := hφ.tallies.admitted (by simp [hs, Sight.inFlight]) rfl rfl (by simp)
    work := work_update hφ.work (by simpa using hφ.work me) (fun _ _ => rfl)
    object := by simp }

/-- Where a thread has calls to end, there is a record that shows them. -/
theorem mem_inFlight (hw : w.Accounted own) (hc : 0 < (own me h).calls) :
    ∃ r, w.bridge.records.get? h = some r ∧ me ∈ r.inFlight := by
  obtain ⟨φ, hφ⟩ := hw.standing h
  have hm : me ∈ (w.sight h).inFlight := by
    rw [← List.count_pos_iff, hφ.tallies.calls]
    omega
  unfold Sight.inFlight at hm
  cases hr : w.bridge.records.get? h with
  | none => simp [World.sight, hr] at hm
  | some r => exact ⟨r, rfl, by simpa [World.sight, hr] using hm⟩

/-- A call that is not the last one a destruction waits for just ends. -/
theorem dismiss (hw : w.Accounted own) {n : Nat} (hc : (own me h).calls = n + 1)
    {r : Record} (hr : w.bridge.records.get? h = some r)
    (hl : (r.destroyPending && (r.inFlight.erase me).isEmpty) = false) :
    (w.onBridge (w.bridge.updateRecord h (fun r => { r with inFlight := r.inFlight.erase me }))
      [.dismissed h me]).Accounted (Function.update own me ((own me).calling h n)) := by
  have hs : (w.sight h).record = some r := hr
  have hpos : 0 < (own me h).calls := by omega
  obtain ⟨r', hr', hm⟩ := hw.mem_inFlight hpos
  obtain rfl := Option.some.inj (hr'.symm.trans hr)
  refine hw.updateRecord ?_ ?_ ?_ (fun φ hφ => ⟨φ, ?_⟩)
  · exact fun _ => rfl
  · simp [Event.handle?, Event.isIssue]
  · exact fun g hg => Stakes.calling_of_ne hg _
  have hne : (w.sight h).inFlight ≠ [] := by
    simpa [Sight.inFlight, hs] using List.ne_nil_of_mem hm
  -- the phase stays: if a destruction is waiting, it waits for another call
  exact {
    shows := { hφ.shows with
      lifecycle := by simpa [hs] using hφ.shows.lifecycle
      pending := by simpa [hs] using hφ.shows.pending
      equipped := by simpa [hs] using hφ.shows.equipped
      busy := fun _ => hφ.shows.busy hne
      awaited := fun hp => by
        have hd : r'.destroyPending = true := by
          have := hφ.shows.pending
          rw [hp] at this
          simpa [hs] using this
        simpa [hs, Sight.inFlight, hd] using hl }
    tells := hφ.tells.dismissed me
    tallies := hφ.tallies.dismissed (by simp [hs, Sight.inFlight]) rfl rfl (by simp [hc])
    work := work_update hφ.work (by simpa using hφ.work me) (fun _ _ => rfl)
    object := by simpa [hs] using hφ.object }

/-- The last call that a destruction waits for leaves the destruction to its
thread. -/
theorem dismiss_last (hw : w.Accounted own) {n : Nat} (hc : (own me h).calls = n + 1)
    {r : Record} (hr : w.bridge.records.get? h = some r)
    (hl : (r.destroyPending && (r.inFlight.erase me).isEmpty) = true) :
    (own me h).work = none ∧
    (w.onBridge (w.bridge.updateRecord h (fun r =>
        { r with inFlight := r.inFlight.erase me, destroyPending := false,
                 lifecycle := .destructing })) [.dismissed h me]).Accounted
      (Function.update own me (((own me).calling h n).working h (some .ending))) := by
  have hs : (w.sight h).record = some r := hr
  obtain ⟨hd, he⟩ : r.destroyPending = true ∧ r.inFlight.erase me = [] := by simpa using hl
  have hpending : ∀ φ, Standing h (w.sight h) (fun t => own t h) φ → φ = .pending := by
    intro φ hφ
    refine Phase.of_pending ?_
    rw [← hφ.shows.pending, hs]
    exact hd
  refine ⟨?_, hw.updateRecord ?_ ?_ ?_ (fun φ hφ => ⟨.held me .ending, ?_⟩)⟩
  · obtain ⟨φ, hφ⟩ := hw.standing h
    rw [hφ.work me, hpending φ hφ, Phase.work?]
    simp
  · exact fun _ => rfl
  · simp [Event.handle?, Event.isIssue]
  · exact fun g hg => by rw [Stakes.working_of_ne hg, Stakes.calling_of_ne hg]
  obtain rfl := hpending φ hφ
  exact {
    shows := { hφ.shows with
      lifecycle := by simp [hs]
      pending := by simp [hs]
      equipped := by simpa [hs] using hφ.shows.equipped
      busy := by simp [hs, Sight.inFlight, he]
      awaited := by simp }
    tells := (hφ.tells.dismissed me).congr rfl rfl rfl rfl
    tallies := hφ.tallies.dismissed (by simp [hs, Sight.inFlight]) rfl rfl (by simp [hc])
    work := work_update hφ.work (by simp [Phase.work?]) (fun t ht => by
      simp [Phase.work?, ht.symm])
    object := by simp }

/-- The thread keeps a call running that it was admitted. -/
theorem keep (hw : w.Accounted own) {n : Nat} (hc : (own me h).calls = n + 1) :
    World.Accounted { w with kept := (me, h) :: w.kept }
      (Function.update own me ((own me).calling h n)) := by
  refine hw.touch (w.touches_keep me h) hw.handles (fun g hg => Stakes.calling_of_ne hg _)
    (fun φ hφ => ⟨φ, ?_⟩)
  rw [(w.touches_keep me h).sight_self]
  refine { hφ with
    shows := { hφ.shows with }
    tallies := hφ.tallies.moved rfl rfl ?_ (fun t ht => ?_)
    work := work_update hφ.work (by simpa using hφ.work me) (fun _ _ => rfl) }
  · show ((own me).calling h n h).calls + ((me, h) :: w.kept).count (me, h) =
      (own me h).calls + w.kept.count (me, h)
    rw [Stakes.calling_self, List.count_cons_self, hc]
    show n + (w.kept.count (me, h) + 1) = _
    omega
  · exact List.count_cons_of_ne (fun hc => ht (Prod.ext_iff.1 hc).1.symm)

/-- The thread takes back a call that it keeps running. -/
theorem take (hw : w.Accounted own) (hk : (me, h) ∈ w.kept) :
    World.Accounted { w with kept := w.kept.erase (me, h) }
      (Function.update own me ((own me).calling h ((own me h).calls + 1))) := by
  refine hw.touch (w.touches_take me h) hw.handles (fun g hg => Stakes.calling_of_ne hg _)
    (fun φ hφ => ⟨φ, ?_⟩)
  rw [(w.touches_take me h).sight_self]
  refine { hφ with
    shows := { hφ.shows with }
    tallies := hφ.tallies.moved rfl rfl ?_ (fun t ht => ?_)
    work := work_update hφ.work (by simpa using hφ.work me) (fun _ _ => rfl) }
  · show ((own me).calling h _ h).calls + (w.kept.erase (me, h)).count (me, h) =
      (own me h).calls + w.kept.count (me, h)
    have := List.count_pos_iff.2 hk
    rw [Stakes.calling_self, List.count_erase_self]
    show (own me h).calls + 1 + (w.kept.count (me, h) - 1) = _
    omega
  · exact List.count_erase_of_ne (fun hc => ht (Prod.ext_iff.1 hc).1)

/-! ### Requests for destruction, and resources

A request finds the handle live, and is either left to the calls or accepted. -/

/-- A thread that is inside a call leaves word that the instance is to be
destroyed. -/
theorem condemn_later (hw : w.Accounted own) {r : Record}
    (hr : w.bridge.records.get? h = some r) (ho : r.isOpen = true) (hm : me ∈ r.inFlight) :
    (w.onBridge (w.bridge.updateRecord h (fun r => { r with destroyPending := true }))
      [.condemned h]).Accounted own := by
  rw [← Function.update_eq_self me own]
  have hs : (w.sight h).record = some r := hr
  refine hw.updateRecord ?_ ?_ ?_ (fun φ hφ => ⟨.pending, ?_⟩)
  · exact fun _ => rfl
  · simp [Event.handle?, Event.isIssue]
  · exact fun _ _ => rfl
  obtain rfl := hφ.live hs ho
  rw [Function.update_eq_self me (fun t => own t h)]
  exact {
    shows := { hφ.shows with
      lifecycle := by simpa [hs] using hφ.shows.lifecycle
      pending := by simp [hs]
      equipped := by simpa [hs] using hφ.shows.equipped
      busy := by simp
      awaited := fun _ => by simpa [hs, Sight.inFlight] using List.ne_nil_of_mem hm }
    tells := hφ.tells.condemning.congr rfl rfl rfl rfl
    tallies := hφ.tallies.congr (by simp [hs, Sight.inFlight]) (fun _ => rfl) rfl rfl
    work := hφ.work
    object := by simp }

/-- A thread whose request for destruction was accepted has to see it through. -/
theorem condemn_now (hw : w.Accounted own) {r : Record}
    (hr : w.bridge.records.get? h = some r) (ho : r.isOpen = true) :
    (own me h).work = none ∧
    (w.onBridge (w.bridge.setLifecycle h .destructing) [.condemned h]).Accounted
      (Function.update own me ((own me).working h (some .waiting))) := by
  have hs : (w.sight h).record = some r := hr
  refine ⟨?_, hw.updateRecord ?_ ?_ ?_ (fun φ hφ => ⟨.held me .waiting, ?_⟩)⟩
  · obtain ⟨φ, hφ⟩ := hw.standing h
    rw [hφ.work me, hφ.live hs ho]
    rfl
  · exact fun _ => rfl
  · simp [Event.handle?, Event.isIssue]
  · exact fun g hg => Stakes.working_of_ne hg _
  obtain rfl := hφ.live hs ho
  exact {
    shows := { hφ.shows with
      lifecycle := by simp [hs]
      pending := by simpa [hs] using hφ.shows.pending
      equipped := by simpa [hs] using hφ.shows.equipped
      busy := by simp
      awaited := by simp }
    tells := hφ.tells.condemning.congr rfl rfl rfl rfl
    tallies := hφ.tallies.working (by simp [hs, Sight.inFlight]) rfl rfl rfl
    work := work_update hφ.work (by simp [Phase.work?]) (fun t ht => by
      simp [Phase.work?, ht.symm])
    object := by simp }

/-- A resource may be changed, but not put where there is none. -/
theorem useResource (hw : w.Accounted own) {r : Record}
    (hr : w.bridge.records.get? h = some r) (he : r.resource.isSome = true) (v : Resource)
    (kind : ResourceKind) (update : kind.Carrier → kind.Carrier) :
    (w.onBridge (w.bridge.updateRecord h (fun s => { s with resource := some v }))
      [.used h kind update]).Accounted own := by
  rw [← Function.update_eq_self mainThread own]
  have hs : (w.sight h).record = some r := hr
  refine hw.updateRecord ?_ ?_ ?_ (fun φ hφ => ⟨φ, ?_⟩)
  · exact fun _ => rfl
  · simp [Event.handle?, Event.isIssue]
  · exact fun _ _ => rfl
  rw [Function.update_eq_self mainThread (fun t => own t h)]
  exact {
    shows := { hφ.shows with
      lifecycle := by simpa [hs] using hφ.shows.lifecycle
      pending := by simpa [hs] using hφ.shows.pending
      equipped := by simpa [hs, he] using hφ.shows.equipped
      busy := by simpa [hs, Sight.inFlight] using hφ.shows.busy
      awaited := by simpa [hs, Sight.inFlight] using hφ.shows.awaited }
    tells := hφ.tells.used kind update
    tallies := hφ.tallies.congr (by simp [hs, Sight.inFlight]) (fun _ => rfl) rfl rfl
    work := hφ.work
    object := by simpa [hs] using hφ.object }

/-- A construction hook starts. -/
theorem construction (hw : w.Accounted own) (h : Handle) :
    (w.record (.construction h)).Accounted own := by
  have ht : w.Touches (w.record (.construction h)) h [.construction h] :=
    w.touches_record ⟨rfl, rfl⟩
  rw [← Function.update_eq_self mainThread own]
  refine hw.touch ht hw.handles (fun _ _ => rfl) (fun φ hφ => ⟨φ, ?_⟩)
  rw [ht.sight_self, Function.update_eq_self mainThread (fun t => own t h)]
  exact { hφ with
    shows := { hφ.shows with }
    tells := hφ.tells.construction
    tallies := hφ.tallies.congr rfl (fun _ => rfl) rfl rfl }

/-! ### Handles and instances

The one place where the bound on the number of constructions is used: the counter
of handles is a machine word, and the next handle is new as long as it has not
come round. -/

/-- The number of the next handle, before the numbers come round again. -/
theorem toNat_nextHandle (hw : w.Accounted own) (hb : w.constructions + 1 < 2 ^ 64) :
    w.bridge.nextHandle.toNat = w.constructions + 1 := by
  rw [hw.numbered, UInt64.toNat_ofNat']
  exact Nat.mod_eq_of_lt hb

/-- **Handles are given out one after the other**, each of them once. -/
theorem reserve (hw : w.Accounted own) (hb : w.constructions + 1 < 2 ^ 64)
    (hh : h = w.bridge.reserve.1) :
    (own me h).work = none ∧
    (w.onBridge w.bridge.reserve.2 [.issued h]).Accounted
      (Function.update own me ((own me).working h (some .reserved))) := by
  have hnum : h.number.toNat = w.constructions + 1 := by
    rw [hh]
    exact hw.toNat_nextHandle hb
  obtain ⟨φ, hφ⟩ := hw.standing h
  -- handles are numbered from one on, and this one comes after all that were issued
  obtain rfl : φ = .unissued := by
    refine Phase.of_unissued ?_
    rw [← hφ.shows.issued]
    show decide (_ ∧ _) = false
    simp [hnum]
  refine ⟨(hφ.work me).trans rfl, ?_, hw.handles, hw.owner, fun g => ?_⟩
  · rw [show (w.onBridge w.bridge.reserve.2 [.issued h]).constructions = w.constructions + 1 from
      List.countP_cons_of_pos rfl]
    show w.bridge.nextHandle + 1 = _
    rw [hw.numbered, ← UInt64.ofNat_one, ← UInt64.ofNat_add]
  · by_cases hg : g = h
    · subst hg
      refine ⟨.held me .reserved, ?_⟩
      rw [update_apply_handle, sight_reserve_self hnum]
      exact {
        shows := { hφ.shows with issued := rfl }
        tells := hφ.tells.issued.congr rfl rfl rfl rfl
        tallies := hφ.tallies.working rfl rfl rfl rfl
        work := work_update hφ.work (by simp [Phase.work?]) (fun t ht => by
          simp [Phase.work?, ht.symm])
        object := by simp }
    · exact hw.others (Stakes.working_of_ne hg _) (sight_reserve_of_ne hnum hg)

/-- A handle that a section does not touch, apart from its being the latest of its
instance. -/
theorem others_recurrent (hw : w.Accounted own) {y : Stakes} {g : Handle} (hy : y g = own me g)
    (hs : w'.sight g = { w.sight g with current := w'.isCurrent g })
    (hc : w.isCurrent g = true → w.bridge.lifecycleAt g ≠ .destroyed → w'.isCurrent g = true) :
    ∃ φ, Standing g (w'.sight g) (fun t => Function.update own me y t g) φ := by
  obtain ⟨φ, hφ⟩ := hw.standing g
  have he : (fun t => Function.update own me y t g) = fun t => own t g := by
    rw [update_apply_handle, hy]
    exact Function.update_eq_self me (fun t => own t g)
  refine ⟨φ, ?_⟩
  rw [he, hs]
  refine hφ.recurrent (fun ho => hc (hφ.shows.current ho) (fun hd => ?_))
  have hl := hφ.shows.lifecycle
  cases hr : w.bridge.records.get? g with
  | none =>
    rw [Bridge.lifecycleAt, hr] at hd
    cases hd
  | some r =>
    have hld : r.lifecycle = .destroyed := by simpa [Bridge.lifecycleAt, hr] using hd
    have hod : φ.outline.lifecycle = some .destroyed := by
      rw [← hl, ← hld]
      show (w.bridge.records.get? g).map _ = _
      rw [hr]
      rfl
    rw [Phase.of_destroyed hod] at ho
    cases ho

/-- An instance whose record is in use is left alone. -/
theorem reject (hw : w.Accounted own) (hk : (own me h).work = some .reserved) :
    (w.onBridge w.bridge [.discarded h]).Accounted
      (Function.update own me ((own me).working h none)) := by
  have ht : w.Touches (w.record (.discarded h)) h [.discarded h] := w.touches_record ⟨rfl, rfl⟩
  refine hw.touch ht hw.handles (fun g hg => Stakes.working_of_ne hg _)
    (fun φ hφ => ⟨.rejected, ?_⟩)
  obtain rfl := hφ.held hk
  rw [ht.sight_self]
  refine hφ.onward ?_ (hφ.tells.discarding.congr rfl rfl rfl rfl) rfl rfl rfl rfl
    (by simp [Phase.work?]) (by simp)
  exact { hφ.shows with }

section Announce

variable {r : Record} (hw : w.Accounted own) (hk : (own me h).work = some .reserved)
  (ha : w.Announces w' h r)

include hw hk ha

/-! #### An announcement

Three parts: which handle an instance has afterwards, what that makes of the handle that is
announced, and that no other handle is any the worse for it. -/

/-- The table of instances leads to records still. -/
theorem announce_owner {o : ObjectId} {g : Handle} (hg : w'.bridge.instances.get? o = some g) :
    (w'.bridge.records.get? g).map Record.object = some o := by
  obtain ⟨φ, hφ⟩ := hw.standing h
  obtain rfl := hφ.held hk
  rw [ha.instances] at hg
  by_cases ho : o = r.object
  · rw [if_pos ho] at hg
    obtain rfl := Option.some.inj hg
    rw [ha.self, ho]
    rfl
  · rw [if_neg ho] at hg
    have hown := hw.owner o g hg
    have hnone : w.bridge.records.get? h = none := Option.map_eq_none_iff.1 hφ.shows.lifecycle
    have hne : g ≠ h := by
      rintro rfl
      rw [hnone] at hown
      cases hown
    rw [ha.others g hne, hown]

/-- The handle that was reserved is the latest of its instance now. -/
theorem announce_self (hl : r.lifecycle = .constructing) (hp : r.destroyPending = false)
    (hu : r.resource = none) (hf : r.inFlight = []) :
    ∃ φ, Standing h (w'.sight h)
      (fun t => Function.update own me ((own me).working h (some (.building r.object))) t h) φ := by
  obtain ⟨φ, hφ⟩ := hw.standing h
  obtain rfl := hφ.held hk
  have hs : (w'.sight h).record = some r := ha.self
  have hkept : (w'.sight h).kept = (w.sight h).kept := by
    funext t
    show w'.kept.count (t, h) = w.kept.count (t, h)
    rw [ha.kept]
  have hpast : (w'.sight h).past = (w.sight h).past := ha.past h
  have hidle : (w.sight h).inFlight = [] := by
    have hnone : (w.sight h).record = none := Option.map_eq_none_iff.1 hφ.shows.lifecycle
    simp [Sight.inFlight, hnone]
  refine ⟨.held me (.building r.object), ?_⟩
  rw [update_apply_handle]
  exact {
    shows := {
      issued := (ha.issued h).trans hφ.shows.issued
      lifecycle := by simp [hs, hl]
      pending := by simp [hs, hp]
      equipped := by simp [hs, hu]
      listed := (ha.listed h).trans hφ.shows.listed
      current := fun _ => by
        show w'.isCurrent h = true
        simp [isCurrent_eq, ha.self, ha.instances]
      busy := by simp [hs, Sight.inFlight, hf]
      awaited := by simp }
    tells := by
      rw [hpast]
      exact hφ.tells.congr rfl rfl rfl rfl
    tallies := hφ.tallies.working (by rw [hidle]; simp [hs, Sight.inFlight, hf]) hkept
      (by rw [hpast]) (by rw [hpast])
    work := work_update hφ.work (by simp [Phase.work?]) (fun t ht => by
      simp [Phase.work?, ht.symm])
    object := by
      rintro t o' he
      cases he
      simp [hs] }

omit hk in
/-- Every other handle in use stays the latest of its instance. -/
theorem announce_others {g : Handle} (hg : g ≠ h) {y : Stakes} (hy : y g = own me g)
    (ho : ∀ g, w.bridge.find? r.object = some g → w.bridge.lifecycleAt g = .destroyed) :
    ∃ φ, Standing g (w'.sight g) (fun t => Function.update own me y t g) φ := by
  refine hw.others_recurrent hy (ha.sight_of_ne hg) (fun hc hd => ?_)
  rw [isCurrent_eq, ha.others g hg]
  rw [isCurrent_eq] at hc
  cases hr : w.bridge.records.get? g with
  | none =>
    rw [hr] at hc
    cases hc
  | some s =>
    have hcur : w.bridge.instances.get? s.object = some g := by simpa [hr] using hc
    have hne : s.object ≠ r.object := fun he => hd (ho g (he ▸ hcur))
    simp [ha.instances, hne, hcur]

end Announce

/-- **An instance is announced** under a new handle, once the latest handle it had,
if any, is destroyed. -/
theorem announce (hw : w.Accounted own) {o : ObjectId} (typeName : String) (hooks : Hooks)
    (hk : (own me h).work = some .reserved)
    (ho : ∀ g, w.bridge.find? o = some g → w.bridge.lifecycleAt g = .destroyed)
    (hb : w' = w.onBridge { w.bridge with
        records := w.bridge.records.insert h { object := o, typeName := typeName, hooks := hooks }
        instances := w.bridge.instances.insert o h }) :
    w'.Accounted (Function.update own me ((own me).working h (some (.building o)))) := by
  have ha : w.Announces w' h { object := o, typeName := typeName, hooks := hooks } := by
    rw [hb]
    exact w.announces h _
  refine ⟨by rw [hb]; exact hw.numbered, by rw [hb]; exact hw.handles,
    fun o' g hg => hw.announce_owner hk ha hg, fun g => ?_⟩
  by_cases hg : g = h
  · subst hg
    exact hw.announce_self hk ha rfl rfl rfl rfl
  · exact hw.announce_others ha hg (Stakes.working_of_ne hg _) ho

/-! #### The end of an announcement -/

/-- What is said of an instance is taken back, unless that is the latest of some
other handle that is in use. -/
theorem withdraw_others (hw : w.Accounted own) {o : ObjectId} {y : Stakes} {g : Handle}
    (hy : y g = own me g)
    (hg : w.bridge.find? o = some g → w.bridge.lifecycleAt g = .destroyed) :
    ∃ φ, Standing g ((w.onBridge (w.bridge.withdraw o)).sight g)
      (fun t => Function.update own me y t g) φ := by
  refine hw.others_recurrent hy rfl (fun hc hd => ?_)
  rw [isCurrent_eq] at hc ⊢
  cases hr : w.bridge.records.get? g with
  | none =>
    rw [hr] at hc
    cases hc
  | some r =>
    have hcur : w.bridge.instances.get? r.object = some g := by simpa [hr] using hc
    have hne : r.object ≠ o := by
      rintro rfl
      exact hd (hg hcur)
    have he : (w.bridge.instances.erase o).get? r.object = some g := by
      rw [Table.get?_erase, if_neg hne, hcur]
    show ((w.bridge.records.get? g).map Record.object).any
      (fun o' => (w.bridge.instances.erase o).get? o' = some g) = true
    rw [hr]
    simpa using he

/-- After an announcement is taken back the table of instances leads to records still. -/
theorem withdraw_owner (hw : w.Accounted own) {o o' : ObjectId} {g : Handle}
    (hg : (w.bridge.withdraw o).instances.get? o' = some g) :
    (w.bridge.records.get? g).map Record.object = some o' := by
  have hg' : (w.bridge.instances.erase o).get? o' = some g := hg
  rw [Table.get?_erase] at hg'
  by_cases hoo : o' = o
  · rw [if_pos hoo] at hg'
    cases hg'
  · rw [if_neg hoo] at hg'
    exact hw.owner o' g hg'

/-- The thread whose construction hook failed takes back what it announced. -/
theorem withdraw (hw : w.Accounted own) {o : ObjectId}
    (hk : (own me h).work = some (.building o)) :
    (w.onBridge (w.bridge.withdraw o)).Accounted
      (Function.update own me ((own me).working h (some .withdrawn))) := by
  refine ⟨hw.numbered, hw.handles, fun o' g hg => hw.withdraw_owner hg, fun g => ?_⟩
  obtain ⟨φ, hφ⟩ := hw.standing h
  obtain rfl := hφ.held hk
  by_cases hg : g = h
  · subst hg
    refine ⟨.held me .withdrawn, ?_⟩
    rw [update_apply_handle]
    refine hφ.onward ?_ (hφ.tells.congr rfl rfl rfl rfl) rfl rfl rfl rfl
      (by simp [Phase.work?]) (by simp)
    exact { hφ.shows with current := by simp }
  · -- the instance leads to the handle that is withdrawn, and to no other
    refine hw.withdraw_others (Stakes.working_of_ne hg _) (fun hf => ?_)
    have hob : (w.bridge.records.get? h).map Record.object = some o := hφ.object me o rfl
    have hcur : w.isCurrent h = true := hφ.shows.current rfl
    rw [isCurrent_eq, hob] at hcur
    have hfh : w.bridge.instances.get? o = some h := by simpa using hcur
    exact absurd (Option.some.inj (hf.symm.trans hfh)) hg

/-- The record of a destroyed instance is dropped. -/
theorem forget (hw : w.Accounted own) (o : ObjectId) :
    (w.onBridge (w.bridge.forget o)).Accounted own := by
  unfold Bridge.forget
  by_cases ho : w.bridge.state o = .destroyed
  · rw [if_pos ho]
    refine ⟨hw.numbered, hw.handles, fun o' g hg => hw.withdraw_owner hg, fun g => ?_⟩
    have hg : w.bridge.find? o = some g → w.bridge.lifecycleAt g = .destroyed := fun hf => by
      simpa [Bridge.state, hf] using ho
    have : ∃ φ, Standing g _ (fun t => Function.update own mainThread (own mainThread) t g) φ :=
      hw.withdraw_others rfl hg
    rwa [Function.update_eq_self] at this
  · rw [if_neg ho]
    exact hw

end World.Accounted

end HostBridge
