import HostBridge.Proofs.Bridge.Calls
import HostBridge.Proofs.Bridge.Records
import HostBridge.Proofs.Domain.Protocol
import HostBridge.Proofs.Passage

/-!
# The types of instances

On a host whose domain alone constructs instances, a thread announces what it has put on the
heap before, under the name of its class and with the hooks that the registry has for that
name. So its stake is what it is up to (`Intent`): the object and the name, and the handle that
it was given for it.

An object is under watch, which is known to be of no class but one of a certain name
(`World.typing`). All its records are of the type of that name then, and every record has the
hooks of its type (`World.Typed`). No record is opened twice, so that what is behind a handle
belongs to the same object for good, from the time on at which the record was opened
(`World.KeepsOrigins`).

## One object at a time

The class of an object is in the heap and its type in the bridge, and nothing in the state
connects the two: the record outlives the object, and the object may be gone while another
thread still announces it. So the invariant cannot say that a record is of the class that its
object has. It says instead that the object under watch has records of the type `n` and no
other, under the condition that no state on the way has the object with a class of another
name. That condition is discharged elsewhere, because objects keep their class and are not
numbered twice, and then the object may be any.
-/

namespace HostBridge

variable {r : Registry} {o p : ObjectId} {n : String} {w w' : World} {b b' : Bridge}
  {own : ThreadId → Intent} {me : ThreadId} {h : Handle} {s : Record} {α β ε : Type}

/-! ## Records that stay

Most sections of the bridge open no record. They may change all of it but its origin. -/

/-- **No record is opened**, and all that there are keep their origin. -/
def Bridge.Retains (b b' : Bridge) : Prop :=
  ∀ h, (b'.records.get? h).map Record.origin = (b.records.get? h).map Record.origin

namespace Bridge

theorem Retains.refl (b : Bridge) : b.Retains b := fun _ => rfl

/-- A change of a record opens none. -/
theorem retains_updateRecord (b : Bridge) (h : Handle) {f : Record → Record}
    (hf : ∀ r, (f r).origin = r.origin) : b.Retains (b.updateRecord h f) := by
  intro g
  unfold updateRecord
  rw [Table.get?_modify]
  split
  · rw [Option.map_map]
    exact congrArg (Option.map · _) (funext hf)
  · rfl

/-- Dropping an instance from the table leaves its record. -/
theorem retains_forget (b : Bridge) (o : ObjectId) : b.Retains (b.forget o) := by
  unfold forget
  split <;> exact fun _ => rfl

theorem retains_admitCall (b : Bridge) (me : ThreadId) (h : Handle) :
    b.Retains (b.admitCall me h).2 := by
  obtain ⟨s, hs⟩ | ⟨r, -, -, ha⟩ := b.admitCall_cases me h
  · rw [hs]
    exact .refl b
  · rw [ha]
    exact b.retains_updateRecord h fun _ => rfl

theorem retains_dismiss (b : Bridge) (me : ThreadId) (h : Handle) :
    b.Retains (b.dismiss me h).2 := by
  unfold dismiss
  dsimp only
  split
  · exact .refl b
  · split <;> exact b.retains_updateRecord h fun _ => rfl

/-- **A request for destruction opens no record**, however it comes out. -/
theorem retains_condemn (b : Bridge) (me : ThreadId) (h : Handle) :
    b.Retains (b.condemn me h).2 := by
  obtain hc | ⟨r, -, -, -, hc⟩ | ⟨r, -, -, -, hc⟩ := b.condemn_cases me h
  · rw [hc]
    exact .refl b
  · rw [hc]
    exact b.retains_updateRecord h fun _ => rfl
  · rw [hc]
    exact b.retains_updateRecord h fun _ => rfl

theorem retains_useResource (b : Bridge) (h : Handle) (kind : ResourceKind)
    (update : kind.Carrier → kind.Carrier) : b.Retains (b.useResource h kind update).2 := by
  obtain ⟨e, hu⟩ | ⟨r, v, a, -, -, hu⟩ := b.useResource_cases h kind update
  · rw [hu]
    exact .refl b
  · rw [hu]
    exact b.retains_updateRecord h fun _ => rfl

end Bridge

/-- **A change in which no record is opened.** -/
structure World.Retains (w w' : World) : Prop where
  registry : w'.registry = w.registry
  history : w.history <:+ w'.history
  bridge : w.bridge.Retains w'.bridge

/-- **What is behind a handle keeps its origin.** -/
def World.KeepsOrigins (w w' : World) : Prop :=
  ∀ h s, w.bridge.records.get? h = some s →
    ∃ s', w'.bridge.records.get? h = some s' ∧ s'.origin = s.origin

namespace World

/-- Where the bridge has no part, no record is opened. -/
theorem Quiet.retains (hq : w.Quiet w') : w.Retains w' where
  registry := hq.registry
  history := by
    obtain ⟨events, he, -⟩ := hq.history
    exact he ▸ List.suffix_append _ _
  bridge := hq.bridge ▸ .refl _

theorem retains_onBridge (w : World) {b : Bridge} (events : List Event)
    (hb : w.bridge.Retains b) : w.Retains (w.onBridge b events) :=
  ⟨rfl, List.suffix_append _ _, hb⟩

namespace Retains

variable (hr : w.Retains w')

include hr

theorem constructions : w.constructions ≤ w'.constructions := hr.history.sublist.countP_le

/-- Where no record is opened, all keep their origin. -/
theorem keepsOrigins : w.KeepsOrigins w' := by
  intro h s hs
  have := hr.bridge h
  rw [hs] at this
  exact Option.map_eq_some_iff.1 this

/-- Where no record is opened, a handle without one has none. -/
theorem get?_eq_none (hh : w.bridge.records.get? h = none) :
    w'.bridge.records.get? h = none := by
  have := hr.bridge h
  rwa [hh, Option.map_none, Option.map_eq_none_iff] at this

/-- Where no record is opened, every record was there before. -/
theorem exists_record (hs : w'.bridge.records.get? h = some s) :
    ∃ s', w.bridge.records.get? h = some s' ∧ s'.origin = s.origin := by
  have := (hr.bridge h).symm
  rw [hs] at this
  exact Option.map_eq_some_iff.1 this

end Retains

end World

/-! ## What threads are up to

A construction has a section in which the object is put on the heap, one in which a handle is
given out, and one in which both are announced together. Between them the thread carries what
it has so far, and no other thread can come to have the same handle. -/

/-- **What a thread is up to**: the object that it put on the heap last, with the full name of
its class, and the handle that it was given last. -/
structure Intent where
  /-- The object, with the full name of its class. -/
  object : Option (ObjectId × String) := none
  /-- The handle, as long as nothing was announced under it. -/
  handle : Option Handle := none

/-- **A thread is up to something sound**: if the object is the one under watch, the name is the
one that is expected, and the handle was given out and has no record. -/
structure Intent.Sound (o : ObjectId) (n : String) (w : World) (x : Intent) : Prop where
  object : ∀ m, x.object = some (o, m) → m = n
  handle : ∀ h, x.handle = some h →
    h.number.toNat ≤ w.constructions ∧ w.bridge.records.get? h = none

/-- **Records are of the types of their objects.** Every record has the hooks that the registry
has for its type, and the object under watch has records of its own type alone. What threads are
up to is going to keep it so. -/
structure World.Typed (r : Registry) (o : ObjectId) (n : String) (w : World)
    (own : ThreadId → Intent) : Prop where
  registry : w.registry = r
  hooks : ∀ h s, w.bridge.records.get? h = some s → r.hooks? s.typeName = some s.hooks
  typeName : ∀ h s, w.bridge.records.get? h = some s → s.object = o → s.typeName = n
  sound : ∀ t, (own t).Sound o n w
  apart : ∀ t t' h, (own t).handle = some h → (own t').handle = some h → t = t'

/-- **The discipline of announcements**, while the object under watch is of no class but one of
the name, and handles are not numbered twice. -/
def World.typing (r : Registry) (o : ObjectId) (n : String) : Discipline World Intent where
  inv := World.Typed r o n
  within := fun w => (∃ own, w.Accounted own) ∧ w.constructions < 2 ^ 64 ∧
    ∀ c, w.domain.classOf? o = some c → c.fullName = n
  demand := fun w w' _ => w.KeepsOrigins w'

/-- Code may be up to anything. -/
def Intent.any : Conduct Intent where
  rel := fun _ _ => True
  trans := fun _ _ => trivial
  right := fun _ => trivial

/-- Code that goes by the discipline. -/
abbrev Typing (r : Registry) (o : ObjectId) (n : String) (me : ThreadId) (p : Run α) : Prop :=
  p.Keeps (World.typing r o n) Intent.any me

/-! ## What sections do to the records

Three of them matter: an allocation, a handle that is given out, and an announcement. -/

/-- What a thread is up to stays sound where no record is opened. -/
theorem Intent.Sound.retain {x : Intent} (hx : x.Sound o n w) (hr : w.Retains w') :
    x.Sound o n w' where
  object := hx.object
  handle := fun h hh =>
    have hgiven := hx.handle h hh
    ⟨hgiven.1.trans hr.constructions, hr.get?_eq_none hgiven.2⟩

namespace World.Typed

variable (hw : w.Typed r o n own)

include hw

/-- A section that opens no record. -/
theorem retain (hr : w.Retains w') : w'.Typed r o n own where
  registry := hr.registry.trans hw.registry
  hooks := fun h s hs => by
    obtain ⟨s', hs', ho⟩ := hr.exists_record hs
    obtain ⟨-, ht, hh⟩ := by simpa only [Record.origin, Prod.mk.injEq] using ho
    exact ht ▸ hh ▸ hw.hooks h s' hs'
  typeName := fun h s hs hso => by
    obtain ⟨s', hs', ho⟩ := hr.exists_record hs
    obtain ⟨hobj, ht, -⟩ := by simpa only [Record.origin, Prod.mk.injEq] using ho
    exact ht ▸ hw.typeName h s' hs' (hobj.trans hso)
  sound := fun t => (hw.sound t).retain hr
  apart := hw.apart

/-- A thread is up to something else. -/
theorem turn {x : Intent} (hx : x.Sound o n w)
    (ha : ∀ t h, t ≠ me → (own t).handle = some h → x.handle ≠ some h) :
    w.Typed r o n (Function.update own me x) where
  registry := hw.registry
  hooks := hw.hooks
  typeName := hw.typeName
  sound := (Function.forall_update_iff own fun _ y => y.Sound o n w).2
    ⟨hx, fun t _ => hw.sound t⟩
  apart := fun t t' h hh hh' => by
    by_cases ht : t = me <;> by_cases ht' : t' = me
    · rw [ht, ht']
    · rw [ht, Function.update_self] at hh
      rw [Function.update_of_ne ht'] at hh'
      exact absurd hh (ha t' h ht' hh')
    · rw [ht', Function.update_self] at hh'
      rw [Function.update_of_ne ht] at hh
      exact absurd hh' (ha t h ht hh)
    · rw [Function.update_of_ne ht] at hh
      rw [Function.update_of_ne ht'] at hh'
      exact hw.apart t t' h hh hh'

/-- **A thread puts an object on the heap.** -/
theorem allocate (c : Class)
    (hc : ∀ c', (w.domain.allocate c).2.classOf? o = some c' → c'.fullName = n) :
    (w.onDomain (w.domain.allocate c).2 [.allocated (w.domain.allocate c).1]).Typed r o n
      (Function.update own me
        { own me with object := some ((w.domain.allocate c).1, c.fullName) }) := by
  have hr : w.Retains
      (w.onDomain (w.domain.allocate c).2 [.allocated (w.domain.allocate c).1]) :=
    ⟨rfl, List.suffix_cons _ _, .refl _⟩
  refine (hw.retain hr).turn ⟨fun m hm => ?_, ((hw.sound me).retain hr).handle⟩ ?_
  · obtain ⟨rfl, rfl⟩ := Prod.mk.inj (Option.some.inj hm)
    refine hc c ?_
    unfold Domain.classOf?
    rw [Domain.get?_allocate]
    exact congrArg (Option.map _) (if_pos rfl)
  · exact fun t h ht hh hh' => ht (hw.apart t me h hh hh')

/-- **A thread is given a handle** that nobody else has, and that has no record. -/
theorem reserve {stakes : ThreadId → Stakes} (ha : w.Accounted stakes)
    (hb : w.constructions + 1 < 2 ^ 64) :
    (w.onBridge w.bridge.reserve.2 [.issued w.bridge.reserve.1]).Typed r o n
      (Function.update own me { own me with handle := some w.bridge.reserve.1 }) := by
  have hr : w.Retains (w.onBridge w.bridge.reserve.2 [.issued w.bridge.reserve.1]) :=
    ⟨rfl, List.suffix_cons _ _, fun _ => rfl⟩
  have hcount : (w.onBridge w.bridge.reserve.2 [.issued w.bridge.reserve.1]).constructions =
      w.constructions + 1 :=
    List.countP_cons_of_pos rfl
  have hnumber : w.bridge.reserve.1.number.toNat = w.constructions + 1 := ha.toNat_nextHandle hb
  refine (hw.retain hr).turn ⟨(hw.sound me).object, fun h hh => ?_⟩ fun t h _ hh hh' => ?_
  · obtain rfl := Option.some.inj hh
    obtain ⟨φ, hφ⟩ := ha.standing w.bridge.reserve.1
    obtain rfl : φ = .unissued := by
      refine Phase.of_unissued (hφ.shows.issued.symm.trans (decide_eq_false ?_))
      omega
    exact ⟨hcount ▸ hnumber.le, Option.map_eq_none_iff.1 hφ.shows.lifecycle⟩
  · obtain rfl := Option.some.inj hh'
    have := ((hw.sound t).handle _ hh).1
    omega

/-- **A record is opened** under a handle that has none, and that nobody is up to. -/
theorem opened (hfree : ∀ t, (own t).handle ≠ some h) (hs : r.hooks? s.typeName = some s.hooks)
    (ho : s.object = o → s.typeName = n) {b : Bridge}
    (hb : ∀ g, b.records.get? g = if g = h then some s else w.bridge.records.get? g) :
    (w.onBridge b).Typed r o n own where
  registry := hw.registry
  hooks := fun g s' hs' => by
    rw [World.onBridge, hb] at hs'
    split at hs'
    · exact Option.some.inj hs' ▸ hs
    · exact hw.hooks g s' hs'
  typeName := fun g s' hs' => by
    rw [World.onBridge, hb] at hs'
    split at hs'
    · exact Option.some.inj hs' ▸ ho
    · exact hw.typeName g s' hs'
  sound := fun t => {
    object := (hw.sound t).object
    handle := fun g hg => by
      have hgiven := (hw.sound t).handle g hg
      refine ⟨hgiven.1, (hb g).trans ((if_neg ?_).trans hgiven.2)⟩
      rintro rfl
      exact hfree t hg }
  apart := hw.apart

/-- **A thread announces its object** under its handle, as of the type that it is of. -/
theorem announce {m : String} {hooks : Hooks} (hm : r.hooks? m = some hooks)
    (hobject : (own me).object = some (p, m)) (hhandle : (own me).handle = some h)
    (events : List Event) :
    (w.onBridge (w.bridge.announce p m hooks h).2 events).Typed r o n
        (Function.update own me { own me with handle := none }) ∧
      w.KeepsOrigins (w.onBridge (w.bridge.announce p m hooks h).2 events) := by
  have told : ∀ b, (w.onBridge b).Retains (w.onBridge b events) :=
    fun b => ⟨rfl, List.suffix_append _ _, .refl b⟩
  suffices hsilent : (w.onBridge (w.bridge.announce p m hooks h).2).Typed r o n
        (Function.update own me { own me with handle := none }) ∧
      w.KeepsOrigins (w.onBridge (w.bridge.announce p m hooks h).2) from
    ⟨hsilent.1.retain (told _), hsilent.2⟩
  have hturned : w.Typed r o n (Function.update own me { own me with handle := none }) :=
    hw.turn ⟨(hw.sound me).object, nofun⟩ (fun _ _ _ _ => nofun)
  obtain ⟨s, hs⟩ | ⟨-, ha⟩ := w.bridge.announce_cases p m hooks h
  · have hr := w.retains_onBridge [] (.refl w.bridge)
    rw [hs]
    exact ⟨hturned.retain hr, hr.keepsOrigins⟩
  rw [ha]
  have hget := Table.get?_insert w.bridge.records h
  refine ⟨hturned.opened (s := { object := p, typeName := m, hooks := hooks }) (h := h) ?_ hm ?_
    fun g => hget g _, fun g s hs => ⟨s, ?_, rfl⟩⟩
  · refine (Function.forall_update_iff own fun _ x => x.handle ≠ some h).2
      ⟨nofun, fun t ht hh => ?_⟩
    exact ht (hw.apart t me h hh hhandle)
  · rintro rfl
    exact (hw.sound me).object m hobject
  · refine (hget g _).trans ((if_neg ?_).trans hs)
    rintro rfl
    rw [((hw.sound me).handle g hhandle).2] at hs
    cases hs

end World.Typed

/-! ## Code that goes by the discipline

The conduct is the weakest there is. A thread may be up to anything when code begins and when
it ends, since a construction brings its own object and its own handle with it. -/

namespace Typing

/-- What the bridge has no part in opens no record. -/
theorem lenient (r : Registry) (o : ObjectId) (n : String) :
    (World.typing r o n).Lenient Intent.any where
  quiet := fun hw hq => hw.retain hq.retains
  demand := fun _ hq => hq.retains.keepsOrigins
  silent := fun _ hq => hq.retains.keepsOrigins

/-- **A section that opens no record.** -/
theorem exchangeWhen {ready : World → Bool} {f : World → α × World}
    (h : ∀ w : World, w.Retains (f w).2) : Typing r o n me (Process.exchangeWhen ready f) := by
  intro x hx
  rw [← bind_pure (Process.exchangeWhen ready f)]
  refine Process.Follows.exchangeWhen (fun w own hw hme _ _ _ =>
    ⟨(h w).keepsOrigins, x, ?_, .inr trivial⟩)
  rw [Function.update_eq_self_iff.2 hme.symm]
  exact hw.retain (h w)

/-- A section of the bridge that opens no record goes by the discipline. -/
theorem onBridge {ready : Bridge → Bool} {f : Bridge → α × Bridge} {events : α → List Event}
    (h : ∀ b : Bridge, b.Retains (f b).2) :
    Typing r o n me (Run.onBridgeWhen ready f events) :=
  exchangeWhen (fun w => w.retains_onBridge _ (h w.bridge))

theorem changeBridge {f : Bridge → Bridge} {events : List Event}
    (h : ∀ b : Bridge, b.Retains (f b)) : Typing r o n me (Run.changeBridge f events) :=
  exchangeWhen (f := fun w => ((), w.onBridge (f w.bridge) events))
    (fun w => w.retains_onBridge _ (h w.bridge))

/-- A record that goes on stays what it is. -/
theorem setLifecycle (h : Handle) (l : Lifecycle) :
    Typing r o n me (Run.changeBridge (·.setLifecycle h l)) :=
  changeBridge (fun b => b.retains_updateRecord h fun _ => rfl)

/-- What a thread asks is answered by a state in which records are as they should be. -/
theorem ask_bind {f : World → α} {k : α → Run β}
    (hk : ∀ w own, w.Typed r o n own → Typing r o n me (k (f w))) :
    Typing r o n me (Process.ask f >>= k) := fun x hx =>
  Process.Follows.ask (fun _ => (World.quiet_refl _).retains.keepsOrigins)
    (fun w own hw _ _ => hk w own hw x hx)

theorem record (e : Event) : Typing r o n me (Run.record e) :=
  exchangeWhen (f := fun w => ((), w.record e))
    (fun _ => ⟨rfl, List.suffix_cons _ _, .refl _⟩)

section Running

variable {run : Runner} (hr : r.Asks NativeOp.NoConstruction)
  (hrun : run.Keeps ((World.typing r o n).manners Intent.any NativeOp.NoConstruction) me)

include hr hrun

/-! ### Operations that enter code -/

theorem runCall {m : Member} {c : NativeCall} (hc : r.resolve m = .ok c)
    (args : List BoundaryValue) : Typing r o n me (Run.runCall run me m c args) :=
  ((lenient r o n).catchNative _ _ (.bind (record _) (fun _ =>
    hrun.native _ (hr.calls m c hc args)))).keeps

/-- The end of a destruction opens no record, and neither does its hook, which constructs
nothing. -/
theorem finishDestroy (h : Handle) : Typing r o n me (Run.finishDestroy run me h) := by
  refine .bind (changeBridge (fun _ => .refl _)) (fun _ =>
    .bind (onBridge (fun b => b.retains_updateRecord h fun _ => rfl)) (fun resource =>
      ask_bind (fun w own hw => ?_)))
  dsimp only
  cases resource with
  | none => exact setLifecycle h _
  | some v =>
    cases hs : w.bridge.records.get? h with
    | none => exact setLifecycle h _
    | some s =>
      have hook := (hr.types s.typeName s.hooks (hw.hooks h s hs)).destroy h v
      refine .bind ((lenient r o n).catchNative _ _ (.bind (record _) (fun _ =>
        .bind (hrun.native _ hook) (fun _ => .pure _)))).keeps (fun ended => ?_)
      cases ended with
      | ok a => exact setLifecycle h _
      | error fault => exact .bind ((lenient r o n).log _ _) (fun _ => setLifecycle h _)

/-- **A destruction goes by the discipline.** -/
theorem destroyRecord (h : Handle) : Typing r o n me (Run.destroyRecord run me h) := by
  refine .bind (onBridge (fun b => b.retains_condemn me h)) (fun verdict => ?_)
  cases verdict with
  | accepted =>
    exact .bind (exchangeWhen (f := fun w => ((), w)) (fun w => w.quiet_refl.retains)) (fun _ =>
      .bind (finishDestroy hr hrun h) (fun _ => .pure _))
  | _ => exact .pure _

/-- The end of a call goes by the discipline. -/
theorem leave (h : Handle) : Typing r o n me (Run.leave run me h) := by
  refine .bind (onBridge (fun b => b.retains_dismiss me h)) (fun last => ?_)
  cases last with
  | true => exact finishDestroy hr hrun h
  | false => exact .pure _

omit hr hrun in
theorem enter (p : ObjectId) (m : Member) : Typing r o n me (Run.enter me p m) := by
  refine .bind ((lenient r o n).askBridge _) (fun h? => ?_)
  cases h? with
  | none => exact .pure _
  | some h =>
    refine .bind (onBridge (fun b => b.retains_admitCall me h)) (fun entered => ?_)
    cases entered <;> exact .pure _

omit hr hrun in
theorem settle (m : Member) (result : Except CallFailure BoundaryValue) :
    Typing r o n me (Run.settle m result) := by
  cases result with
  | error failure => exact .pure _
  | ok v =>
    dsimp only [Run.settle]
    split
    · exact .pure _
    · exact .bind ((lenient r o n).log _ _) (fun _ => .pure _)

/-- **A call goes by the discipline**, since no implementation constructs an instance. -/
theorem invoke (m : Member) (receiver : Option ObjectId) (args : List BoundaryValue) :
    Typing r o n me (Run.invoke run me m receiver args) := by
  refine ask_bind (fun w own hw => ?_)
  rw [hw.registry]
  split
  · exact .pure _
  next c hc =>
  have hbound := Ledger.resolve_of_checkCall hc
  split
  · cases receiver with
    | none => exact .pure _
    | some p =>
      refine .bind (enter p m) (fun entered => ?_)
      cases entered with
      | error e => exact .pure _
      | ok h =>
        exact .bind (runCall hr hrun hbound _) (fun result =>
          .bind (leave hr hrun h) (fun _ => settle m result))
  · exact .bind (runCall hr hrun hbound _) (fun result => settle m result)

theorem endCall (h : Handle) : Typing r o n me (Run.endCall run me h) := by
  have take : Typing r o n me (Run.takeCall me h) :=
    exchangeWhen (fun _ => ⟨rfl, List.suffix_rfl, .refl _⟩)
  refine .bind take (fun taken => ?_)
  cases taken with
  | true => exact .bind (leave hr hrun h) (fun _ => .pure _)
  | false => exact .pure _

omit hr hrun in
theorem beginCall (p : ObjectId) (m : Member) : Typing r o n me (Run.beginCall me p m) := by
  refine .bind (enter p m) (fun entered => ?_)
  cases entered with
  | error e => exact .pure _
  | ok h =>
    have keep : Typing r o n me (Run.keepCall me h) :=
      exchangeWhen (f := fun w => ((), { w with kept := (me, h) :: w.kept }))
        (fun _ => ⟨rfl, List.suffix_rfl, .refl _⟩)
    exact .bind keep (fun _ => .pure _)

omit hr hrun in
theorem useResource (h : Handle) (kind : ResourceKind) (update : kind.Carrier → kind.Carrier) :
    Typing r o n me (Run.useResource h kind update) := by
  refine .bind ((lenient r o n).askBridge _) (fun s? => ?_)
  cases s? with
  | none => exact .pure _
  | some s => exact onBridge (fun b => b.retains_useResource h kind update)

omit hrun in
/-- **The operations of the bridge go by the discipline**, where native code constructs no
instances. -/
theorem bridged (me : ThreadId) :
    ((World.typing r o n).manners Intent.any NativeOp.NoConstruction).Bridged me where
  ask := (lenient r o n).ask
  note := fun _ => record _
  log := (lenient r o n).log
  useResource := useResource
  forget := fun p => changeBridge (fun b => b.retains_forget p)
  construct := fun _ typeName p hasks => absurd rfl (hasks typeName p)
  destroyRecord := fun hrun => destroyRecord hr hrun
  invoke := fun hrun => invoke hr hrun
  beginCall := beginCall
  endCall := fun hrun => endCall hr hrun

/-! ### Objects that are made

The one way to a record. The stake is followed from the allocation on. -/

/-- **A thread attaches what it has put on the heap last**, as of the type that it is of. -/
theorem follows_attach {m : String} {hooks : Hooks} (hm : r.hooks? m = some hooks) {x : Intent}
    (hx : x.object = some (p, m)) :
    (Run.attach run me p m hooks).Follows (World.typing r o n) me
      (fun e _ => e = .error .tooDeep ∨ True) x := by
  have reserved : ∀ w : World,
      w.KeepsOrigins (w.onBridge w.bridge.reserve.2 [.issued w.bridge.reserve.1]) :=
    fun w g s hs => ⟨s, hs, rfl⟩
  refine Process.Follows.exchangeWhen (fun w own hw hme hs _ hs' =>
    ⟨reserved w, { x with handle := some w.bridge.reserve.1 }, ?_, ?_⟩)
  · obtain ⟨⟨stakes, ha⟩, -⟩ := hs
    have hcount : (w.onBridge w.bridge.reserve.2 [.issued w.bridge.reserve.1]).constructions =
        w.constructions + 1 :=
      List.countP_cons_of_pos rfl
    exact hme ▸ hw.reserve ha (hcount ▸ hs'.2.1)
  generalize w.bridge.reserve.1 = h
  refine Process.Follows.exchangeWhen (fun w own hw hme _ _ _ => ?_)
  obtain ⟨hannounced, horigins⟩ := hw.announce (h := h) hm (by rw [hme, hx]) (by rw [hme])
    (Run.announcementEvents h (w.bridge.announce p m hooks h).1)
  rw [hme] at hannounced
  refine ⟨horigins, _, hannounced, ?_⟩
  have rest : ∀ {γ : Type} {q : Run γ} (y : Intent), Typing r o n me q →
      q.Follows (World.typing r o n) me (fun e _ => e = .error .tooDeep ∨ True) y :=
    fun y hq => hq y trivial
  refine rest _ ?_
  split
  · exact .pure _
  refine .bind ((lenient r o n).catchNative _ _ (.bind (record _) (fun _ =>
    hrun.native _ ((hr.types m hooks hm).construct h)))).keeps (fun built => ?_)
  cases built with
  | ok resource =>
    exact .bind (changeBridge (fun b => b.retains_updateRecord h fun _ => rfl)) (fun _ =>
      .bind (changeBridge (fun b => .refl b)) (fun _ =>
        .bind (setLifecycle h _) (fun _ => .pure _)))
  | error fault =>
    exact .bind (changeBridge (fun b => .refl b)) (fun _ =>
      .bind (changeBridge (fun b => b.retains_updateRecord h fun _ => rfl))
        (fun _ => .bind ((lenient r o n).log _ _) (fun _ => .pure _)))

/-- **A construction of what was put on the heap last** is one of its type, if the type is
bridged at all. -/
theorem follows_construct {m : String} {x : Intent} (hx : x.object = some (p, m)) :
    (Run.construct run me m p).Follows (World.typing r o n) me
      (fun e _ => e = .error .tooDeep ∨ True) x := by
  refine Process.Follows.ask (fun _ => (World.quiet_refl _).retains.keepsOrigins)
    (fun w own hw _ _ => ?_)
  rw [hw.registry]
  split
  · next hooks hm =>
    refine Process.Follows.bind ((follows_attach hr hrun hm hx).mono fun e y _ => ?_)
    match e with
    | .ok (.ok h) => exact .inr trivial
    | .ok (.error e) => exact .inr trivial
    | .error c => exact .inr trivial
  · exact .inr trivial

/-- **An object that is made** is announced as of the type that it is of. -/
theorem newObject (c : Class) (depth : Nat) : Typing r o n me (Run.newObject run me c depth) := by
  intro x hx
  refine Process.Follows.exchange (fun w own hw hme _ hs' =>
    ⟨fun g s hs => ⟨s, hs, rfl⟩, _, hw.allocate c hs'.2.2, ?_⟩)
  refine Process.Follows.bind ((follows_construct hr hrun rfl).mono fun e y _ => ?_)
  match e with
  | .ok (.ok h) => exact (lenient r o n).runConstructor hrun _ _ _ y trivial
  | .ok (.error e) =>
    exact Process.Keeps.bind ((lenient r o n).changeDomain _ (by simp)) (fun _ => .pure _) y trivial
  | .error c => exact .inr trivial

end Running

/-- **All code goes by the discipline**, where native code constructs no instances. -/
theorem upheld (hr : r.Asks NativeOp.NoConstruction) (me : ThreadId) :
    ((World.typing r o n).manners Intent.any NativeOp.NoConstruction).Upheld me :=
  (lenient r o n).upheld_of_newObject (bridged hr me) fun hrun => newObject hr hrun

end Typing

/-! ## Interleavings

From the start of a host on there are no records, so the invariant holds there for any object
and any name. -/

namespace World.KeepsOrigins

theorem refl (w : World) : w.KeepsOrigins w := fun _ s hs => ⟨s, hs, rfl⟩

theorem trans {w'' : World} (hw : w.KeepsOrigins w') (hw' : w'.KeepsOrigins w'') :
    w.KeepsOrigins w'' := by
  intro h s hs
  obtain ⟨s', hs', ho⟩ := hw h s hs
  obtain ⟨s'', hs'', ho'⟩ := hw' h s' hs'
  exact ⟨s'', hs'', ho'.trans ho⟩

end World.KeepsOrigins

section Interleavings

variable {j : Nat} {code : ThreadId → NativeCode α} {t u : Threads World α} (hw : w.Fresh)
  (hr : w.registry.Asks NativeOp.NoConstruction)
  (hcode : ∀ me, Program.Asks (I := nativeInterface) NativeOp.NoConstruction (code me))
  (ht : (w.threads j code).Reaches (World.typing w.registry o n).within t)

include hw hr hcode ht

/-- **Records are of the types of their objects** in every interleaving of threads that
construct no instances, and every thread goes by the discipline. -/
theorem World.Fresh.typed_of_reaches : ∃ own, t.state.Typed w.registry o n own ∧
    ∀ me, (t.todo me).Follows (World.typing w.registry o n) me
      (fun e x => e = .error .tooDeep ∨ Intent.any.rel {} x) (own me) := by
  have follow : ∀ me, ((w.threads j code).todo me).Follows (World.typing w.registry o n) me
      (fun e x => e = .error .tooDeep ∨ Intent.any.rel {} x) {} := fun me =>
    (Typing.upheld hr me).runNative ((Typing.upheld hr me).keeps_nested j) (code me) (hcode me)
      {} trivial
  have hnone : ∀ h, w.bridge.records.get? h = none := fun h => by
    rw [hw.bridge]
    rfl
  have hstart : w.Typed w.registry o n (fun _ => {}) :=
    { registry := rfl
      hooks := fun h s hs => by cases (hnone h).symm.trans hs
      typeName := fun h s hs => by cases (hnone h).symm.trans hs
      sound := fun _ => ⟨nofun, nofun⟩
      apart := nofun }
  exact Threads.Reaches.keeps (D := World.typing w.registry o n) ht hstart follow

/-- **What is behind a handle keeps its origin** in every interleaving. -/
theorem World.Fresh.keepsOrigins_of_reaches
    (hu : t.Reaches (World.typing w.registry o n).within u) :
    t.state.KeepsOrigins u.state := by
  induction hu with
  | here hs => exact .refl _
  | @enter u me ready effect next hu hstep hready hs ih =>
    obtain ⟨own, htyped, hfollows⟩ := hw.typed_of_reaches hr hcode (ht.trans hu)
    have hme := hfollows me
    rw [hstep] at hme
    exact ih.trans (hme u.state own htyped rfl hu.within hready hs).1

end Interleavings

end HostBridge
