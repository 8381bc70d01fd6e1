import HostBridge.Proofs.Bridge.Protocol
import HostBridge.Proofs.Sections

/-!
# What a section does to a record

Seen from one record, a section of the bridge does little: it opens the record for a
construction (`Record.IsOpened`), or it makes one of eight steps with it
(`Record.Step`, `Bridge.Section.recordStep`). What a statement has to know of all
sections is then read off the eight steps. A record keeps its origin, begins no
construction, and gains no call but one of the thread that enters the section
(`Record.Moves`). It is closed for good once its destruction is under way, and a
destruction that is left to the last call stays so until that call ends (`Record.Fares`).

The steps forget which handle a section was about and what else it did to the
bridge. What they keep is the **guard** under which a section changes anything:
that a call is admitted while the record is open, that the last call is known to
be the last, that who defers a destruction is inside a call. With these a later
module can follow one record through an interleaving without going back to the
sections.
-/

namespace HostBridge

variable {b b' : Bridge} {me : ThreadId} {h : Handle}

/-- **A record as it is opened**: under construction, without calls and without a
resource. -/
structure Record.IsOpened (r : Record) : Prop where
  lifecycle : r.lifecycle = .constructing
  inFlight : r.inFlight = []
  resource : r.resource = none

/-- **What a section of a thread makes of a record** that stays. -/
inductive Record.Step (me : ThreadId) (r : Record) : Record → Prop
  /-- The section has nothing to do with the record. -/
  | stay : Step me r r
  /-- The resource is another one. -/
  | supply (v : Option Resource) : Step me r { r with resource := v }
  /-- A construction or a destruction is over. -/
  | settle (l : Lifecycle) (hl : l ≠ .constructing ∧ l ≠ .destructing) :
    Step me r { r with lifecycle := l }
  /-- A call is admitted. -/
  | enter (ho : r.isOpen = true) : Step me r { r with inFlight := r.inFlight ++ [me] }
  /-- A call ends, and leaves the record as it is otherwise. -/
  | dismiss (hl : (r.destroyPending && (r.inFlight.erase me).isEmpty) = false) :
    Step me r { r with inFlight := r.inFlight.erase me }
  /-- The last call ends, and a destruction was waiting for it. -/
  | finish (hl : (r.destroyPending && (r.inFlight.erase me).isEmpty) = true) :
    Step me r { r with inFlight := r.inFlight.erase me, destroyPending := false,
                       lifecycle := .destructing }
  /-- A destruction is left to the last call to end. -/
  | defer (ho : r.isOpen = true) (hme : me ∈ r.inFlight) :
    Step me r { r with destroyPending := true }
  /-- A destruction begins. -/
  | destruct (ho : r.isOpen = true) (hme : me ∉ r.inFlight) :
    Step me r { r with lifecycle := .destructing }

/-- **Records make steps, or are opened.** -/
def Bridge.RecordsStep (me : ThreadId) (b b' : Bridge) : Prop :=
  ∀ h r', b'.records.get? h = some r' →
    r'.IsOpened ∨ ∃ r, b.records.get? h = some r ∧ r.Step me r'

namespace Bridge

/-! ## Every section is a step

A section changes one record at most, and finds it by its handle. -/

/-- The record that is changed, after the change. -/
theorem get?_updateRecord {r : Record} (hr : b.records.get? h = some r) (f : Record → Record) :
    (b.updateRecord h f).records.get? h = some (f r) := by
  unfold updateRecord
  rw [Table.get?_modify, if_pos rfl, hr]
  rfl

/-- The other records are as they were. -/
theorem get?_updateRecord_of_ne {k : Handle} (hk : k ≠ h) (f : Record → Record) :
    (b.updateRecord h f).records.get? k = b.records.get? k := by
  unfold updateRecord
  rw [Table.get?_modify, if_neg hk]

theorem lifecycleAt_of_get? {r : Record} (hr : b.records.get? h = some r) :
    b.lifecycleAt h = r.lifecycle := by
  rw [lifecycleAt, hr]
  rfl

/-- The state of an instance is where the record of its latest handle is. -/
theorem state_of_get? {o : ObjectId} {r : Record} (ho : b.find? o = some h)
    (hr : b.records.get? h = some r) : b.state o = r.lifecycle := by
  unfold state
  rw [ho, Option.map_some, lifecycleAt_of_get? hr]
  rfl

theorem state_setLifecycle {o : ObjectId} {r : Record} (ho : b.find? o = some h)
    (hr : b.records.get? h = some r) (l : Lifecycle) : (b.setLifecycle h l).state o = l :=
  state_of_get? (r := { r with lifecycle := l }) ho (get?_updateRecord hr _)

/-- A handle that is anywhere on its way has a record. -/
theorem exists_of_lifecycleAt {l : Lifecycle} (hl : b.lifecycleAt h = l)
    (hne : l ≠ .unconstructed) : ∃ r, b.records.get? h = some r ∧ r.lifecycle = l := by
  unfold lifecycleAt at hl
  cases hr : b.records.get? h with
  | none =>
    rw [hr] at hl
    exact absurd hl.symm hne
  | some r =>
    rw [hr] at hl
    exact ⟨r, rfl, hl⟩

theorem recordsStep_of_eq (hb : b'.records = b.records) : b.RecordsStep me b' :=
  fun _ r' hr' => .inr ⟨r', hb ▸ hr', .stay⟩

/-- A change of one record is a step of all of them if it is one of that record. -/
theorem recordsStep_updateRecord {f : Record → Record}
    (hf : ∀ r, b.records.get? h = some r → r.Step me (f r)) :
    b.RecordsStep me (b.updateRecord h f) := by
  intro g r' hr'
  unfold updateRecord at hr'
  rw [Table.get?_modify] at hr'
  split at hr'
  · next hg =>
    subst hg
    obtain ⟨r, hr, rfl⟩ := Option.map_eq_some_iff.1 hr'
    exact .inr ⟨r, hr, hf r hr⟩
  · exact .inr ⟨r', hr', .stay⟩

/-- **An instance that is announced** gets a record that is opened; no other record is touched.
-/
theorem recordsStep_announce (o : ObjectId) (typeName : String) (hooks : Hooks) (h : Handle) :
    b.RecordsStep me (b.announce o typeName hooks h).2 := by
  obtain ⟨s, hs⟩ | ⟨-, ha⟩ := b.announce_cases o typeName hooks h
  · rw [hs]
    exact recordsStep_of_eq rfl
  · rw [ha]
    intro g r' hr'
    dsimp only at hr'
    rw [Table.get?_insert] at hr'
    split at hr'
    · cases hr'
      exact .inl ⟨rfl, rfl, rfl⟩
    · exact .inr ⟨r', hr', .stay⟩

theorem recordsStep_admitCall (h : Handle) : b.RecordsStep me (b.admitCall me h).2 := by
  obtain ⟨s, hs⟩ | ⟨r, hr, ho, ha⟩ := b.admitCall_cases me h
  · rw [hs]
    exact recordsStep_of_eq rfl
  · rw [ha]
    exact recordsStep_updateRecord fun s hs => Option.some.inj (hr.symm.trans hs) ▸ .enter ho

/-- The end of a call is one of two steps, by whether a destruction was left to it. -/
theorem recordsStep_dismiss (h : Handle) : b.RecordsStep me (b.dismiss me h).2 := by
  cases hr : b.records.get? h with
  | none =>
    unfold dismiss
    rw [hr]
    exact recordsStep_of_eq rfl
  | some r =>
    obtain ⟨hl, hd⟩ | ⟨hl, hd⟩ := b.dismiss_cases me hr
    · rw [hd]
      exact recordsStep_updateRecord fun s hs => Option.some.inj (hr.symm.trans hs) ▸ .finish hl
    · rw [hd]
      exact recordsStep_updateRecord fun s hs => Option.some.inj (hr.symm.trans hs) ▸ .dismiss hl

/-- A request for destruction is a step of its record, whichever way it comes out. -/
theorem recordsStep_condemn (h : Handle) : b.RecordsStep me (b.condemn me h).2 := by
  obtain hc | ⟨r, hr, ho, hme, hc⟩ | ⟨r, hr, ho, hme, hc⟩ := b.condemn_cases me h
  · rw [hc]
    exact recordsStep_of_eq rfl
  · rw [hc]
    exact recordsStep_updateRecord fun s hs => Option.some.inj (hr.symm.trans hs) ▸ .defer ho hme
  · rw [hc]
    exact recordsStep_updateRecord fun s hs =>
      Option.some.inj (hr.symm.trans hs) ▸ .destruct ho hme

theorem recordsStep_useResource (h : Handle) (kind : ResourceKind)
    (update : kind.Carrier → kind.Carrier) :
    b.RecordsStep me (b.useResource h kind update).2 := by
  obtain ⟨e, hu⟩ | ⟨r, v, a, -, -, hu⟩ := b.useResource_cases h kind update
  · rw [hu]
    exact recordsStep_of_eq rfl
  · rw [hu]
    exact recordsStep_updateRecord fun _ _ => .supply (some v)

/-- **A section makes a step with every record**, or opens it. -/
theorem Section.recordStep (hs : b.Section me b') : b.RecordsStep me b' := by
  have settle : ∀ h l, l ≠ .constructing ∧ l ≠ .destructing →
      b.RecordsStep me (b.setLifecycle h l) :=
    fun h l hl => recordsStep_updateRecord fun _ _ => .settle l hl
  cases hs with
  | reserve => exact recordsStep_of_eq rfl
  | announce o typeName hooks h => exact recordsStep_announce o typeName hooks h
  | equip h r => exact recordsStep_updateRecord fun _ _ => .supply (some r)
  | list h => exact recordsStep_of_eq rfl
  | goLive h => exact settle h _ (by decide)
  | withdraw o => exact recordsStep_of_eq rfl
  | giveUp h => exact settle h _ (by decide)
  | admitCall h => exact recordsStep_admitCall h
  | dismiss h => exact recordsStep_dismiss h
  | condemn h hb => exact recordsStep_condemn h
  | unlist h => exact recordsStep_of_eq rfl
  | takeResource h => exact recordsStep_updateRecord fun _ _ => .supply none
  | bury h => exact settle h _ (by decide)
  | forget o =>
    refine recordsStep_of_eq ?_
    unfold Bridge.forget
    split <;> rfl
  | useResource h kind update => exact recordsStep_useResource h kind update

end Bridge

/-! ## What every step keeps

Each summary is a small structure that holds of all eight steps, and is what an
induction over a run carries on. -/

namespace Record

variable {r r' : Record}

/-- What admits calls is live. -/
theorem lifecycle_of_isOpen (hr : r.isOpen = true) : r.lifecycle = .live := by
  unfold isOpen at hr
  exact of_decide_eq_true (Bool.and_eq_true_iff.1 hr).1

/-- **What a record was opened with**: the instance, the type and its hooks. -/
def origin (r : Record) : ObjectId × String × Hooks := (r.object, r.typeName, r.hooks)

/-- **A record is of one instance, one type and one pair of hooks** for as long as it stays. -/
theorem Step.origin (hs : r.Step me r') : r'.origin = r.origin := by
  cases hs <;> rfl

/-- **What a section of a thread can do to a record** that stays. -/
structure Moves (me : ThreadId) (r r' : Record) : Prop where
  object : r'.object = r.object
  constructing : r'.lifecycle = .constructing → r.lifecycle = .constructing
  admits : r'.lifecycle = .constructing → r.inFlight = [] → r'.inFlight = []
  callers : ∀ you, you ≠ me → you ∈ r'.inFlight → you ∈ r.inFlight

/-- A step moves the record. -/
theorem Step.moves (hs : r.Step me r') : r.Moves me r' := by
  cases hs with
  | stay => exact ⟨rfl, id, fun _ => id, fun _ _ => id⟩
  | supply v => exact ⟨rfl, id, fun _ => id, fun _ _ => id⟩
  | settle l hl => exact ⟨rfl, fun hc => absurd hc hl.1, fun _ => id, fun _ _ => id⟩
  | enter ho =>
    refine ⟨rfl, id, fun hc => ?_, fun you hyou hm => ?_⟩
    · exact absurd ((lifecycle_of_isOpen ho).symm.trans hc) (by decide)
    · exact (List.mem_append.1 hm).resolve_right (by simpa using hyou)
  | dismiss hl =>
    exact ⟨rfl, id, fun _ hr => by simp [hr], fun _ _ hm => List.mem_of_mem_erase hm⟩
  | finish hl =>
    exact ⟨rfl, by simp, by simp, fun _ _ hm => List.mem_of_mem_erase hm⟩
  | defer ho hme => exact ⟨rfl, id, fun _ => id, fun _ _ => id⟩
  | destruct ho hme => exact ⟨rfl, by simp, fun _ => id, fun _ _ => id⟩

/-- **How a record fares whose destruction was accepted**: it is not opened again, and what
was left to the last call is begun where that call ends. -/
structure Fares (me : ThreadId) (r r' : Record) : Prop where
  destructing : r'.lifecycle = .destructing →
    r.lifecycle = .destructing ∨ r.isOpen = true ∨ r.destroyPending = true
  pending : r'.destroyPending = true → r.destroyPending = true ∨ r.isOpen = true
  awaits : r.destroyPending = true → r'.destroyPending = true ∨
    r.inFlight.erase me = [] ∧ r'.inFlight = [] ∧ r'.lifecycle = .destructing

/-- After a step a record fares as it should. -/
theorem Step.fares (hs : r.Step me r') : r.Fares me r' := by
  cases hs with
  | settle l hl => exact ⟨fun hd => absurd hd hl.2, .inl, .inl⟩
  | finish hl =>
    obtain ⟨hp, he⟩ := Bool.and_eq_true_iff.1 hl
    exact ⟨fun _ => .inr (.inr hp), by simp,
      fun _ => .inr ⟨List.isEmpty_iff.1 he, List.isEmpty_iff.1 he, rfl⟩⟩
  | defer ho hme => exact ⟨.inl, fun _ => .inr ho, fun _ => .inl rfl⟩
  | destruct ho hme => exact ⟨fun _ => .inr (.inl ho), .inl, .inl⟩
  | _ => exact ⟨.inl, .inl, .inl⟩

end Record

/-- **Records move, or are opened.** -/
theorem Bridge.Section.recordsMove (hs : b.Section me b') {r' : Record}
    (hr' : b'.records.get? h = some r') :
    r'.IsOpened ∨ ∃ r, b.records.get? h = some r ∧ r.Moves me r' :=
  (hs.recordStep h r' hr').imp id fun ⟨r, hr, hstep⟩ => ⟨r, hr, hstep.moves⟩

end HostBridge
