import HostBridge.World
import Mathlib.Algebra.Group.Nat.Defs
import Mathlib.Data.List.Count
import Mathlib.Logic.Function.Basic

/-!
# How things stand with a handle

A handle is given out to one construction, and from then on it goes its way
through **phases**: while somebody constructs or destroys what is behind it, that
thread **holds** the handle (`Phase.held`), and it says what it has come to
(`Work`); otherwise the handle belongs to nobody and is live, waits for its last
call to end, or is over.

`World.sight` is all that the state says of one handle: its record, whether it is
listed and current, the calls that are kept running on it, and what happened to
it. `Standing` relates the sight of a handle to its phase and to the stakes that
the threads have in it, and `World.Accounted` says that there is such a phase for
every handle.

## Why phases

The record of an instance has five lifecycles, and they are not enough to say
what is going on. A record that is being destroyed may still wait for calls, may
be listed or not, and may have its resource or not; which of these combinations
can be found, and in which order they follow each other, is the content of the
protocol. A phase names one combination. What is to be seen in it is written
down once (`Phase.outline`), as a table, and the theorems about handles are read
off that table: that no hook starts twice is a row in which one start is
recorded and from which no section leads to another start.

The phase is not part of the state, and the program keeps no such thing. It is
determined by what the threads are about, which is why it is said to exist.
-/

namespace HostBridge

/-! ## What happened to a handle

The counts are over the history, so a statement about a whole run is one about
the state at its end. -/

/-- Whether a handle was given out. -/
def Event.isIssue : Event → Bool
  | .issued _ => true
  | _ => false

/-- The thread of a call that was admitted on a handle. -/
def Event.admission? (h : Handle) : Event → Option ThreadId
  | .admitted g t => if g = h then some t else none
  | _ => none

/-- The thread of a call that ended on a handle. -/
def Event.dismissal? (h : Handle) : Event → Option ThreadId
  | .dismissed g t => if g = h then some t else none
  | _ => none

/-- Whether the destruction hook of a handle started to run. -/
def Event.isDestruction (h : Handle) : Event → Bool
  | .destruction g _ => g = h
  | _ => false

/-- The threads of the calls that were admitted on a handle, one entry a call. -/
def admissions (h : Handle) (events : List Event) : List ThreadId :=
  events.filterMap (Event.admission? h)

/-- The threads of the calls that ended on a handle, one entry a call. -/
def dismissals (h : Handle) (events : List Event) : List ThreadId :=
  events.filterMap (Event.dismissal? h)

/-- How often the destruction hook of a handle started to run. -/
def hookStarts (h : Handle) (events : List Event) : Nat :=
  events.countP (Event.isDestruction h)

/-- **Calls and destructions in order**: a call is admitted between the end of the
construction and the request for destruction, and the destruction hook starts
after that request and when no call is running. -/
def Orderly (h : Handle) : List Event → Prop
  | [] => True
  | e :: earlier => Orderly h earlier ∧
      (∀ t, e = .admitted h t → .constructed h ∈ earlier ∧ .condemned h ∉ earlier) ∧
      (∀ r, e = .destruction h r → .condemned h ∈ earlier ∧
        ∀ t, (admissions h earlier).count t = (dismissals h earlier).count t)

/-! ## What the state says of a handle

A handle may be given out, listed, current, all independently of each other. -/

namespace World

/-- The number of constructions that were given a handle. -/
def constructions (w : World) : Nat := w.history.countP Event.isIssue

/-- What happened to a handle, the latest first. -/
def past (w : World) (h : Handle) : List Event := w.history.filter (fun e => e.handle? = some h)

/-- Whether a handle is the latest of its instance. -/
def isCurrent (w : World) (h : Handle) : Bool :=
  match w.bridge.records.get? h with
  | some r => w.bridge.instances.get? r.object = some h
  | none => false

/-- Whether a handle was given out. Handles are numbered from one on. -/
def isIssued (w : World) (h : Handle) : Bool :=
  0 < h.number.toNat ∧ h.number.toNat ≤ w.constructions

end World

/-! ## Phases

There are ten kinds of work for a thread that holds a handle, in the order of the
sections of a construction and of a destruction, and seven phases. -/

/-- **What a thread is doing with a handle that it holds.** -/
inductive Work where
  /-- It was given the handle. -/
  | reserved
  /-- It has announced the instance, and runs the construction hook. -/
  | building (o : ObjectId)
  /-- It has stored the resource. -/
  | equipped
  /-- It has listed the handle. -/
  | listed
  /-- It has taken back what it announced. -/
  | withdrawn
  /-- Its request for destruction was accepted, and calls are still running. -/
  | waiting
  /-- It is about to destroy the instance, and no call is running. -/
  | ending
  /-- It has struck the handle. -/
  | unlisted
  /-- It has taken the resource out. -/
  | emptied
  /-- It runs the destruction hook. -/
  | destroying
deriving DecidableEq

/-- **Where a handle is on its way.** -/
inductive Phase where
  /-- Nobody was given it. -/
  | unissued
  /-- A thread holds it. -/
  | held (t : ThreadId) (k : Work)
  /-- The instance is live. -/
  | live
  /-- The instance is live until its last call ends. -/
  | pending
  /-- The instance was destroyed. -/
  | destroyed
  /-- The instance had a record in use. -/
  | rejected
  /-- The construction failed. -/
  | failed
deriving DecidableEq

/-- **What is to be seen of a handle in a phase.** -/
structure Outline where
  /-- Whether it was given out. -/
  issued : Bool := true
  /-- Where the record is on its way, if there is a record. -/
  lifecycle : Option Lifecycle := none
  /-- Whether the last call to end has to destroy the instance. -/
  pending : Bool := false
  /-- Whether the record has a resource. -/
  equipped : Bool := false
  /-- Whether the handle is listed as live. -/
  listed : Bool := false
  /-- Whether it is the latest handle of its instance. -/
  current : Bool := false
  /-- Whether the construction hook returned a resource. -/
  built : Bool := false
  /-- Whether a destruction was accepted. -/
  condemned : Bool := false
  /-- How often the destruction hook was started. -/
  destructions : Nat := 0
  /-- Whether the construction was rejected, or its hook failed. -/
  discarded : Bool := false
  /-- Whether calls may be running. -/
  busy : Bool := false

/-- What is to be seen of a handle that a thread is at work on. -/
@[simp]
def Work.outline : Work → Outline
  | .reserved => {}
  | .building _ => { lifecycle := some .constructing, current := true }
  | .equipped =>
    { lifecycle := some .constructing, current := true, equipped := true, built := true }
  | .listed =>
    { lifecycle := some .constructing, current := true, equipped := true, built := true,
      listed := true }
  | .withdrawn => { lifecycle := some .constructing }
  | .waiting =>
    { lifecycle := some .destructing, current := true, equipped := true, built := true,
      condemned := true, listed := true, busy := true }
  | .ending =>
    { lifecycle := some .destructing, current := true, equipped := true, built := true,
      condemned := true, listed := true }
  | .unlisted =>
    { lifecycle := some .destructing, current := true, equipped := true, built := true,
      condemned := true }
  | .emptied =>
    { lifecycle := some .destructing, current := true, built := true, condemned := true }
  | .destroying =>
    { lifecycle := some .destructing, current := true, built := true, condemned := true,
      destructions := 1 }

/-- What is to be seen of a handle in a phase. -/
@[simp]
def Phase.outline : Phase → Outline
  | .unissued => { issued := false }
  | .held _ k => k.outline
  | .live =>
    { lifecycle := some .live, current := true, equipped := true, built := true, listed := true,
      busy := true }
  | .pending =>
    { lifecycle := some .live, current := true, equipped := true, built := true, listed := true,
      busy := true, pending := true, condemned := true }
  | .destroyed =>
    { lifecycle := some .destroyed, built := true, condemned := true, destructions := 1 }
  | .rejected => { discarded := true }
  | .failed => { lifecycle := some .unconstructed, discarded := true }

/-- What a thread is doing with a handle in a phase. -/
def Phase.work? : Phase → ThreadId → Option Work
  | .held t k, me => if t = me then some k else none
  | _, _ => none

/-! ## Standing

Stakes and state are tied together at three places: who holds the handle, how
many calls each thread has to end, and what the instance is that a thread
announces. -/

/-- **What a thread owns of a handle**: its work on it, and the number of the
calls on it that it runs and does not keep. -/
structure Stake where
  /-- What it is doing with the handle. -/
  work : Option Work := none
  /-- Calls that it has to end before it is done. -/
  calls : Nat := 0

/-- What a thread owns, handle by handle. -/
abbrev Stakes := Handle → Stake

/-- **All that the state says of a handle.** -/
structure Sight where
  /-- Whether it was given out. -/
  issued : Bool
  /-- Its record. -/
  record : Option Record
  /-- Whether it is listed as live. -/
  listed : Bool
  /-- Whether it is the latest handle of its instance. -/
  current : Bool
  /-- The number of the calls on it that a thread keeps running. -/
  kept : ThreadId → Nat
  /-- What happened to it, the latest first. -/
  past : List Event

/-- The threads with a call on the handle. -/
def Sight.inFlight (s : Sight) : List ThreadId := (s.record.map Record.inFlight).getD []

/-- **What the state says of a handle.** -/
def World.sight (w : World) (h : Handle) : Sight where
  issued := w.isIssued h
  record := w.bridge.records.get? h
  listed := w.bridge.handles.contains h
  current := w.isCurrent h
  kept := fun t => w.kept.count (t, h)
  past := w.past h

/-- **A handle is seen as an outline has it.** -/
structure Outline.Shows (o : Outline) (s : Sight) : Prop where
  issued : s.issued = o.issued
  lifecycle : s.record.map Record.lifecycle = o.lifecycle
  pending : (s.record.map Record.destroyPending).getD false = o.pending
  equipped : (s.record.bind Record.resource).isSome = o.equipped
  listed : s.listed = o.listed
  current : o.current = true → s.current = true
  busy : s.inFlight ≠ [] → o.busy = true
  awaited : o.pending = true → s.inFlight ≠ []

/-- **What happened to a handle is as an outline has it.** -/
structure Outline.Tells (o : Outline) (h : Handle) (past : List Event) : Prop where
  built : .constructed h ∈ past ↔ o.built = true
  condemned : .condemned h ∈ past ↔ o.condemned = true
  destructions : hookStarts h past = o.destructions
  discarded : .discarded h ∈ past ↔ o.discarded = true
  orderly : Orderly h past

/-- **The calls on a handle are those of its threads**, and those that were
admitted and have not ended. -/
structure Sight.Tallies (s : Sight) (h : Handle) (stake : ThreadId → Stake) : Prop where
  calls : ∀ t, s.inFlight.count t = (stake t).calls + s.kept t
  tally : ∀ t, (admissions h s.past).count t = (dismissals h s.past).count t + s.inFlight.count t

/-- **A handle is in a phase**, given the stakes that the threads have in it. -/
structure Standing (h : Handle) (s : Sight) (stake : ThreadId → Stake) (φ : Phase) : Prop where
  shows : φ.outline.Shows s
  tells : φ.outline.Tells h s.past
  tallies : s.Tallies h stake
  work : ∀ t, (stake t).work = φ.work? t
  object : ∀ t o, φ = .held t (.building o) → s.record.map Record.object = some o

/-- **Everything is accounted for**: every handle is in some phase, in which it is
seen as it should be and the threads own in it what they own. -/
structure World.Accounted (w : World) (own : ThreadId → Stakes) : Prop where
  numbered : w.bridge.nextHandle = UInt64.ofNat (w.constructions + 1)
  handles : w.bridge.handles.Nodup
  owner : ∀ o h, w.bridge.instances.get? o = some h →
    (w.bridge.records.get? h).map Record.object = some o
  standing : ∀ h, ∃ φ, Standing h (w.sight h) (fun t => own t h) φ

/-! ## From one phase to the next

What a section tells the history has to fit the outline of the phase it leads to.
The lemmas are one for each kind of event: those that the outline speaks of change
it by one entry, and the others leave it alone. -/

variable {h : Handle} {o : Outline} {past : List Event} {s s' : Sight}
  {stake : ThreadId → Stake} {me : ThreadId} {φ φ' : Phase}

namespace Outline.Tells

/-- What did not happen to the handle changes nothing. -/
theorem congr {o' : Outline} (ho : o.Tells h past) (hb : o'.built = o.built)
    (hc : o'.condemned = o.condemned) (hd : o'.destructions = o.destructions)
    (hx : o'.discarded = o.discarded) : o'.Tells h past :=
  ⟨hb ▸ ho.built, hc ▸ ho.condemned, hd ▸ ho.destructions, hx ▸ ho.discarded, ho.orderly⟩

/-- What an outline does not speak of changes nothing. -/
theorem aside (ho : o.Tells h past) {e : Event} (hb : .constructed h ≠ e) (hc : .condemned h ≠ e)
    (hx : .discarded h ≠ e) (hd : e.isDestruction h = false) (ha : ∀ t, e ≠ .admitted h t) :
    o.Tells h (e :: past) where
  built := by simpa [hb] using ho.built
  condemned := by simpa [hc] using ho.condemned
  destructions := by simpa [hookStarts, hd] using ho.destructions
  discarded := by simpa [hx] using ho.discarded
  orderly := by
    refine ⟨ho.orderly, fun t he => absurd he (ha t), fun r he => ?_⟩
    simp [he, Event.isDestruction] at hd

theorem construction (ho : o.Tells h past) : o.Tells h (.construction h :: past) :=
  ho.aside (by simp) (by simp) (by simp) rfl (by simp)

/-- The end of a call is not what the outline speaks of. -/
theorem dismissed (ho : o.Tells h past) (t : ThreadId) : o.Tells h (.dismissed h t :: past) :=
  ho.aside (by simp) (by simp) (by simp) rfl (by simp)

theorem issued (ho : o.Tells h past) : o.Tells h (.issued h :: past) :=
  ho.aside (by simp) (by simp) (by simp) rfl (by simp)

theorem equipped (ho : o.Tells h past) (r : Resource) : o.Tells h (.equipped h r :: past) :=
  ho.aside (by simp) (by simp) (by simp) rfl (by simp)

theorem used (ho : o.Tells h past) (kind : ResourceKind)
    (update : kind.Carrier → kind.Carrier) : o.Tells h (.used h kind update :: past) :=
  ho.aside (by simp) (by simp) (by simp) rfl (by simp)

/-- A hook that returned its resource has built the instance. -/
theorem constructed (ho : o.Tells h past) :
    { o with built := true }.Tells h (.constructed h :: past) where
  built := by simp
  condemned := by simpa using ho.condemned
  destructions := by simpa [hookStarts, Event.isDestruction] using ho.destructions
  discarded := by simpa using ho.discarded
  orderly := ⟨ho.orderly, by simp, by simp⟩

/-- A request that is accepted condemns the instance. -/
theorem condemning (ho : o.Tells h past) :
    { o with condemned := true }.Tells h (.condemned h :: past) where
  built := by simpa using ho.built
  condemned := by simp
  destructions := by simpa [hookStarts, Event.isDestruction] using ho.destructions
  discarded := by simpa using ho.discarded
  orderly := ⟨ho.orderly, by simp, by simp⟩

/-- A construction that comes to nothing is discarded. -/
theorem discarding (ho : o.Tells h past) :
    { o with discarded := true }.Tells h (.discarded h :: past) where
  built := by simpa using ho.built
  condemned := by simpa using ho.condemned
  destructions := by simpa [hookStarts, Event.isDestruction] using ho.destructions
  discarded := by simp
  orderly := ⟨ho.orderly, by simp, by simp⟩

/-- A call is admitted on what was constructed and is not condemned. -/
theorem admitted (ho : o.Tells h past) (hb : o.built = true) (hc : o.condemned = false)
    (t : ThreadId) : o.Tells h (.admitted h t :: past) where
  built := by simpa using ho.built
  condemned := by simpa using ho.condemned
  destructions := by simpa [hookStarts, Event.isDestruction] using ho.destructions
  discarded := by simpa using ho.discarded
  orderly := by
    refine ⟨ho.orderly, fun _ _ => ⟨ho.built.2 hb, fun hm => ?_⟩, by simp⟩
    rw [ho.condemned.1 hm] at hc
    cases hc

/-- The destruction hook starts on what is condemned and has no calls. -/
theorem destroying (ho : o.Tells h past) (hc : o.condemned = true)
    (hi : ∀ t, (admissions h past).count t = (dismissals h past).count t) (r : Resource) :
    { o with destructions := o.destructions + 1 }.Tells h (.destruction h r :: past) where
  built := by simpa using ho.built
  condemned := by simpa using ho.condemned
  destructions := by simpa [hookStarts, Event.isDestruction] using ho.destructions
  discarded := by simpa using ho.discarded
  orderly := ⟨ho.orderly, by simp, fun _ _ => ⟨ho.condemned.2 hc, hi⟩⟩

end Outline.Tells

/-! ### Phases and stakes

Which phase a handle is in is told by its record, and who holds it by the phase. -/

/-- **Where no call was admitted or ended**, the calls are as they were. -/
theorem Sight.Tallies.congr {stake' : ThreadId → Stake} (ht : s.Tallies h stake)
    (hf : s'.inFlight = s.inFlight) (hc : ∀ t, (stake' t).calls + s'.kept t =
      (stake t).calls + s.kept t) (ha : admissions h s'.past = admissions h s.past)
    (hd : dismissals h s'.past = dismissals h s.past) : s'.Tallies h stake' where
  calls := fun t => by rw [hf, ht.calls, hc]
  tally := fun t => by rw [hf, ha, hd, ht.tally]

/-- The thread that is at work on a handle holds it. -/
theorem Standing.held {k : Work} (hs : Standing h s stake φ) (hk : (stake me).work = some k) :
    φ = .held me k := by
  have hw := (hs.work me).symm.trans hk
  cases φ with
  | held t l =>
    by_cases ht : t = me
    · subst ht
      rw [Phase.work?, if_pos rfl] at hw
      rw [Option.some.inj hw]
    · rw [Phase.work?, if_neg ht] at hw
      cases hw
  | _ => simp [Phase.work?] at hw

/-- What is live belongs to no thread. -/
theorem Phase.of_live (hl : φ.outline.lifecycle = some .live) : φ = .live ∨ φ = .pending := by
  cases φ with
  | live => exact Or.inl rfl
  | pending => exact Or.inr rfl
  | held t k => cases k <;> cases hl
  | _ => cases hl

/-- There is one phase of what is destroyed. -/
theorem Phase.of_destroyed (hl : φ.outline.lifecycle = some .destroyed) : φ = .destroyed := by
  cases φ with
  | destroyed => rfl
  | held t k => cases k <;> cases hl
  | _ => cases hl

/-- A handle whose destruction hook has started is in one of two phases. -/
theorem Phase.of_destructions (hφ : 0 < φ.outline.destructions) :
    (∃ t, φ = .held t .destroying) ∨ φ = .destroyed := by
  cases φ with
  | held t k =>
    cases k with
    | destroying => exact .inl ⟨t, rfl⟩
    | _ => exact absurd hφ (Nat.lt_irrefl 0)
  | destroyed => exact .inr rfl
  | _ => exact absurd hφ (Nat.lt_irrefl 0)

/-- **Where a destruction hook has started**, a thread is destroying the instance, or it is
destroyed. -/
theorem World.Accounted.standing_of_destruction {w : World} {own : ThreadId → Stakes}
    (hw : w.Accounted own) {r : Resource} (hd : .destruction h r ∈ w.history) :
    ∃ φ, Standing h (w.sight h) (fun t => own t h) φ ∧
      ((∃ t, φ = .held t .destroying) ∨ φ = .destroyed) := by
  obtain ⟨φ, hφ⟩ := hw.standing h
  refine ⟨φ, hφ, Phase.of_destructions ?_⟩
  rw [← hφ.tells.destructions]
  refine List.countP_pos_iff.2 ⟨.destruction h r, ?_, by simp [Event.isDestruction]⟩
  exact List.mem_filter.2 ⟨hd, by simp [Event.handle?]⟩

/-- The work of the threads when one of them has gone on to another phase. -/
theorem work_update {z : Stake} (hw : ∀ t, (stake t).work = φ.work? t)
    (hz : z.work = φ'.work? me) (ho : ∀ t, t ≠ me → φ'.work? t = φ.work? t) :
    ∀ t, (Function.update stake me z t).work = φ'.work? t := by
  intro t
  by_cases ht : t = me
  · subst ht
    rw [Function.update_self, hz]
  · rw [Function.update_of_ne ht, hw, ho t ht]

/-- A handle whose lifecycle is to be seen has a record. -/
theorem Outline.Shows.exists_record {l : Lifecycle} (ho : o.Shows s)
    (hl : o.lifecycle = some l) : ∃ r, s.record = some r ∧ r.lifecycle = l := by
  have := ho.lifecycle.trans hl
  exact Option.map_eq_some_iff.1 this

/-- Calls are admitted on what is live. -/
theorem Standing.live {r : Record} (hs : Standing h s stake φ) (hr : s.record = some r)
    (ho : r.isOpen = true) : φ = .live := by
  obtain ⟨hl, hp⟩ : r.lifecycle = .live ∧ r.destroyPending = false := by
    simpa [Record.isOpen] using ho
  have hφ : φ.outline.lifecycle = some .live := by
    rw [← hs.shows.lifecycle, hr, ← hl]
    rfl
  obtain h | h := Phase.of_live hφ
  · exact h
  · have := hs.shows.pending
    rw [hr, h] at this
    exact Bool.noConfusion (hp.symm.trans this)

/-- There is one phase of what was not given out. -/
theorem Phase.of_unissued (hi : φ.outline.issued = false) : φ = .unissued := by
  cases φ with
  | unissued => rfl
  | held t k => cases k <;> cases hi
  | _ => cases hi

/-- There is one phase of what waits for its last call. -/
theorem Phase.of_pending (hp : φ.outline.pending = true) : φ = .pending := by
  cases φ with
  | pending => rfl
  | held t k => cases k <;> cases hp
  | _ => cases hp

/-- What is over may cease to be the latest of its instance. -/
theorem Standing.recurrent (hs : Standing h s stake φ) {c : Bool}
    (hc : φ.outline.current = true → c = true) :
    Standing h { s with current := c } stake φ :=
  { hs with
    shows := { hs.shows with current := hc }
    tallies := hs.tallies.congr rfl (fun _ => rfl) rfl rfl }

end HostBridge
