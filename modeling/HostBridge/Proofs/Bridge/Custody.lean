import HostBridge.Proofs.Bridge.Calls

/-!
# Who has a resource

A resource is in one place at a time. The construction hook returns it to the thread that runs
the hook, which stores it in the record of the handle. There code changes it, until a thread
takes it out again and hands it to the destruction hook.

The history tells of all four steps, and so it says what has become of the resource of a
handle (`Tended`): it is the one that was stored, changed by one use after the other. A thread
that has the place of the resource to itself has a **grip** on the handle (`Grip`): before the
resource is stored, and after it was taken out. `World.Custody` says where the resource of a
handle is, and that it is as the history tells.

A change is a function, and the history keeps the functions and not the values between them.
So what the hook gets can be computed from the history alone, by applying them in their order
to what was stored (`Accrued`). That a function was applied to a value of another type than the
resource has is excluded by the type it carries: such a use is refused, and is not in the
history.
-/

namespace HostBridge

variable {w w' : World} {b : Bridge} {g h : Handle} {me t : ThreadId} {r : Resource}
  {events earlier later : List Event}

/-! ## What happened to a resource

Two inductive relations on the history, one for a resource that is kept and one for a resource
that was handed over. They read the history from its end, which is its latest event, and so
each section adds one constructor. -/

/-- The handle of the resource that an event tells of: that it was stored, changed, or handed to
the destruction hook. -/
def Event.resource? : Event → Option Handle
  | .equipped h _ | .used h _ _ | .destruction h _ => some h
  | _ => none

/-- **A resource after a change** of what a resource of its kind holds. -/
def Resource.change (r : Resource) (kind : ResourceKind)
    (update : kind.Carrier → kind.Carrier) : Resource :=
  if same : r.kind = kind then ⟨kind, update (same ▸ r.value)⟩ else r

theorem Resource.kind_change (r : Resource) (kind : ResourceKind)
    (update : kind.Carrier → kind.Carrier) : (r.change kind update).kind = r.kind := by
  unfold change
  split
  · next same => exact same.symm
  · rfl

/-- Nothing has happened to the resource of a handle. -/
def Untouched (h : Handle) (events : List Event) : Prop := ∀ e ∈ events, e.resource? ≠ some h

/-- **A resource was tended to**: it was the first to be stored for the handle, and all that
happened to it since then is that it was changed, each time as a resource of its kind. -/
inductive Tended (h : Handle) : List Event → Resource → Prop
  /-- The resource was stored. -/
  | equipped {r : Resource} {earlier : List Event} (hn : Untouched h earlier) :
    Tended h (.equipped h r :: earlier) r
  /-- The resource was changed. -/
  | used {r : Resource} {earlier : List Event} (hr : Tended h earlier r)
    (update : r.kind.Carrier → r.kind.Carrier) :
    Tended h (.used h r.kind update :: earlier) (r.change r.kind update)
  /-- Something else happened. -/
  | aside {r : Resource} {earlier : List Event} {e : Event} (he : e.resource? ≠ some h)
    (hr : Tended h earlier r) : Tended h (e :: earlier) r

/-- **A resource was handed over** to the destruction hook, as it was tended to. Nothing has
happened to it since then. -/
inductive Relinquished (h : Handle) : List Event → Prop
  /-- The hook started. -/
  | handed {r : Resource} {earlier : List Event} (hr : Tended h earlier r) :
    Relinquished h (.destruction h r :: earlier)
  /-- Something else happened. -/
  | aside {earlier : List Event} {e : Event} (he : e.resource? ≠ some h)
    (hr : Relinquished h earlier) : Relinquished h (e :: earlier)

theorem Untouched.append (he : ∀ e ∈ events, e.resource? ≠ some h) (hn : Untouched h earlier) :
    Untouched h (events ++ earlier) :=
  List.forall_mem_append.2 ⟨he, hn⟩

theorem Tended.append (he : ∀ e ∈ events, e.resource? ≠ some h) (hr : Tended h earlier r) :
    Tended h (events ++ earlier) r := by
  induction events with
  | nil => exact hr
  | cons e events ih =>
    obtain ⟨hhead, htail⟩ := List.forall_mem_cons.1 he
    exact .aside hhead (ih htail)

theorem Relinquished.append (he : ∀ e ∈ events, e.resource? ≠ some h)
    (hr : Relinquished h earlier) : Relinquished h (events ++ earlier) := by
  induction events with
  | nil => exact hr
  | cons e events ih =>
    obtain ⟨hhead, htail⟩ := List.forall_mem_cons.1 he
    exact .aside hhead (ih htail)

/-- What is being tended to was not handed over. -/
theorem Tended.not_destruction (hr : Tended h events r) :
    ∀ s, Event.destruction h s ∉ events := by
  intro s hs
  induction hr with
  | equipped hn =>
    obtain hs | hs := List.mem_cons.1 hs
    · cases hs
    · exact hn _ hs rfl
  | used hr update ih =>
    obtain hs | hs := List.mem_cons.1 hs
    · cases hs
    · exact ih hs
  | aside he hr ih =>
    obtain rfl | hs := List.mem_cons.1 hs
    · exact he rfl
    · exact ih hs

/-- **What was handed over was tended to until then**, and nothing happened to it later. -/
theorem Relinquished.split (hr : Relinquished h events)
    (he : events = later ++ .destruction h r :: earlier) :
    Tended h earlier r ∧ Untouched h later := by
  induction hr generalizing later with
  | handed hr =>
    cases later with
    | nil =>
      cases he
      exact ⟨hr, nofun⟩
    | cons e later =>
      obtain ⟨-, rfl⟩ := List.cons.inj he
      exact absurd (List.mem_append_right _ List.mem_cons_self) (hr.not_destruction r)
  | aside hne hr ih =>
    cases later with
    | nil =>
      cases he
      exact absurd rfl hne
    | cons e later =>
      obtain ⟨rfl, hl⟩ := List.cons.inj he
      obtain ⟨htended, hlater⟩ := ih hl
      exact ⟨htended, List.forall_mem_cons.2 ⟨hne, hlater⟩⟩

/-! ## One change after the other

The same as a list: the functions in the order in which they were applied, so that a statement
can say that the result is what comes of all of them. -/

/-- The change that an event tells of, if it is one of the resource of a handle. -/
def Event.use? (h : Handle) : Event → Option (Resource → Resource)
  | .used g kind update => if g = h then some (·.change kind update) else none
  | _ => none

/-- The changes of the resource of a handle, the latest first. -/
def uses (h : Handle) (events : List Event) : List (Resource → Resource) :=
  events.filterMap (Event.use? h)

/-- A resource after changes, the last of which comes first. -/
def Resource.after (r : Resource) (changes : List (Resource → Resource)) : Resource :=
  changes.foldr (fun change r => change r) r

/-- **A resource has come about** by the one that was stored for a handle, the first and only
one, and by the changes since then: each was made to what the one before had left, and as to a
resource of its kind. -/
def Accrued (h : Handle) (events : List Event) (r : Resource) : Prop :=
  ∃ (built : Resource) (after before : List Event), events = after ++ .equipped h built :: before ∧
    Untouched h before ∧
    (∀ e ∈ after, e.resource? = some h → ∃ update, e = .used h built.kind update) ∧
    r = built.after (uses h after)

theorem Event.use?_eq_none {e : Event} (he : e.resource? ≠ some h) : e.use? h = none := by
  cases e with
  | used g kind update => exact if_neg fun hg => he (congrArg some hg)
  | _ => rfl

/-- What was tended to has come about so. -/
theorem Tended.accrued (hr : Tended h events r) : Accrued h events r := by
  suffices hkind : ∃ (built : Resource) (after before : List Event), r.kind = built.kind ∧
      events = after ++ .equipped h built :: before ∧ Untouched h before ∧
      (∀ e ∈ after, e.resource? = some h → ∃ update, e = .used h built.kind update) ∧
      r = built.after (uses h after) by
    obtain ⟨built, after, before, -, hall⟩ := hkind
    exact ⟨built, after, before, hall⟩
  induction hr with
  | equipped hn => exact ⟨_, [], _, rfl, rfl, hn, nofun, rfl⟩
  | @used r earlier hr update ih =>
    obtain ⟨built, after, before, hkind, rfl, hbefore, hafter, hvalue⟩ := ih
    refine ⟨built, .used h r.kind update :: after, before, (r.kind_change _ _).trans hkind, rfl,
      hbefore, List.forall_mem_cons.2 ⟨fun _ => ?_, hafter⟩, ?_⟩
    · rw [← hkind]
      exact ⟨update, rfl⟩
    · have huse : (Event.used h r.kind update).use? h = some (·.change r.kind update) :=
        if_pos rfl
      rw [uses, List.filterMap_cons_some huse]
      exact congrArg (·.change r.kind update) hvalue
  | @aside r earlier e he hr ih =>
    obtain ⟨built, after, before, hkind, rfl, hbefore, hafter, hvalue⟩ := ih
    refine ⟨built, e :: after, before, hkind, rfl, hbefore,
      List.forall_mem_cons.2 ⟨fun h => absurd h he, hafter⟩, ?_⟩
    rw [uses, List.filterMap_cons_none (Event.use?_eq_none he)]
    exact hvalue

/-! ## Where a resource is

In its record, or with a thread that has a grip on the handle, or nowhere any more. -/

/-- The place of the resource in the record behind a handle, if there is a record. -/
def Bridge.slot? (b : Bridge) (h : Handle) : Option (Option Resource) :=
  (b.records.get? h).map Record.resource

theorem Bridge.slot?_updateRecord (b : Bridge) (h g : Handle) (f : Record → Record) :
    (b.updateRecord h f).slot? g =
      if g = h then (b.records.get? g).map (fun s => (f s).resource) else b.slot? g := by
  unfold updateRecord slot?
  rw [Table.get?_modify]
  split
  · exact Option.map_map ..
  · rfl

/-- **A change of a resource** is one of what is stored, as a resource of its kind. -/
theorem Bridge.useResource_slot? (b : Bridge) (h : Handle) (kind : ResourceKind)
    (update : kind.Carrier → kind.Carrier) :
    (∃ e, b.useResource h kind update = (.error e, b)) ∨
    ∃ r, b.slot? h = some (some r) ∧ ∃ same : r.kind = kind, b.useResource h kind update =
      (.ok (same ▸ r.value), b.updateRecord h
        (fun s => { s with resource := some (r.change kind update) })) := by
  unfold useResource
  cases hr : (b.records.get? h).bind Record.resource with
  | none => exact .inl ⟨_, rfl⟩
  | some r =>
    obtain ⟨s, hs, hsr⟩ := Option.bind_eq_some_iff.1 hr
    by_cases same : r.kind = kind
    · refine .inr ⟨r, ?_, same, ?_⟩
      · unfold slot?
        rw [hs, Option.map_some, hsr]
      · unfold Resource.change
        rw [dif_pos same]
        exact dif_pos same
    · exact .inl ⟨_, dif_neg same⟩

/-- **A thread has a grip on a handle** while nobody else can come by its resource. -/
inductive Grip where
  /-- The thread was given the handle. -/
  | reserved
  /-- The thread has announced the instance, and is about to store a resource. -/
  | building
  /-- The thread has taken the resource out. -/
  | taken (r : Resource)

/-- What a grip says of the resource. -/
def Grip.Fits (w : World) (h : Handle) : Grip → Prop
  | .reserved => Untouched h w.history ∧ (w.bridge.slot? h).join = none
  | .building => Untouched h w.history ∧ w.bridge.slot? h = some none
  | .taken r => Tended h w.history r ∧ w.bridge.slot? h = some none

/-- **A resource is in its place**: no thread has it in hand. -/
inductive World.InPlace (w : World) (h : Handle) : Prop
  /-- There is none yet, and there may never be one. -/
  | unbuilt (hn : Untouched h w.history) (hs : (w.bridge.slot? h).join = none)
  /-- It is stored. -/
  | stored (r : Resource) (hi : w.isIssued h = true) (hr : Tended h w.history r)
    (hs : w.bridge.slot? h = some (some r))
  /-- It is no more. -/
  | relinquished (hi : w.isIssued h = true) (hr : Relinquished h w.history)
    (hs : (w.bridge.slot? h).join = none)

/-- **The resource of a handle is accounted for**, given the grips that the threads have on the
handle: it is in its place, or one thread alone has it in hand. -/
inductive World.Custody (w : World) (h : Handle) (grip : ThreadId → Option Grip) : Prop
  /-- It is in its place. -/
  | free (hg : ∀ t, grip t = none) (hr : w.InPlace h)
  /-- A thread has it in hand. -/
  | held (t : ThreadId) (k : Grip) (hg : grip = Function.update (fun _ => none) t (some k))
    (hi : w.isIssued h = true) (hk : k.Fits w h)

/-! ## Changes that spare a resource

Nearly every section is one of these for every handle, and the others are for all handles but
one. -/

/-- **A change spares the resource of a handle.** -/
structure World.Spares (w w' : World) (h : Handle) : Prop where
  slot : w'.bridge.slot? h = w.bridge.slot? h
  history : ∃ events, w'.history = events ++ w.history ∧ ∀ e ∈ events, e.resource? ≠ some h

namespace World.Spares

variable (hs : w.Spares w' h)

include hs

theorem isIssued (hi : w.isIssued h = true) : w'.isIssued h = true := by
  obtain ⟨events, hh, -⟩ := hs.history
  have hle : w.constructions ≤ w'.constructions := by
    unfold constructions
    rw [hh, List.countP_append]
    exact Nat.le_add_left ..
  obtain ⟨hpos, hmax⟩ := of_decide_eq_true hi
  exact decide_eq_true ⟨hpos, Nat.le_trans hmax hle⟩

theorem untouched (hn : Untouched h w.history) : Untouched h w'.history := by
  obtain ⟨events, hh, he⟩ := hs.history
  exact hh ▸ hn.append he

theorem tended (hr : Tended h w.history r) : Tended h w'.history r := by
  obtain ⟨events, hh, he⟩ := hs.history
  exact hh ▸ hr.append he

theorem fits {k : Grip} (hk : k.Fits w h) : k.Fits w' h := by
  cases k with
  | reserved => exact ⟨hs.untouched hk.1, hs.slot ▸ hk.2⟩
  | building => exact ⟨hs.untouched hk.1, hs.slot ▸ hk.2⟩
  | taken r => exact ⟨hs.tended hk.1, hs.slot ▸ hk.2⟩

theorem inPlace (hr : w.InPlace h) : w'.InPlace h := by
  cases hr with
  | unbuilt hn hslot => exact .unbuilt (hs.untouched hn) (hs.slot ▸ hslot)
  | stored r hi hr hslot => exact .stored r (hs.isIssued hi) (hs.tended hr) (hs.slot ▸ hslot)
  | relinquished hi hr hslot =>
    obtain ⟨events, hh, he⟩ := hs.history
    exact .relinquished (hs.isIssued hi) (hh ▸ hr.append he) (hs.slot ▸ hslot)

/-- **Custody stays with whom it is** where the resource is spared. -/
theorem custody {grip : ThreadId → Option Grip} (hc : w.Custody h grip) : w'.Custody h grip := by
  cases hc with
  | free hg hr => exact .free hg (hs.inPlace hr)
  | held t k hg hi hk => exact .held t k hg (hs.isIssued hi) (hs.fits hk)

end World.Spares

/-! ## Grips

One thread at most has a grip on a handle, and what it may do depends on which. -/

namespace World.Custody

variable {grip : ThreadId → Option Grip} {k : Grip}

/-- A thread that has a grip is the only one. -/
theorem of_grip (hc : w.Custody h grip) (hk : grip me = some k) :
    grip = Function.update (fun _ => none) me (some k) ∧ w.isIssued h = true ∧ k.Fits w h := by
  cases hc with
  | free hg hr => cases (hg me).symm.trans hk
  | held t j hg hi hj =>
    obtain rfl : me = t := by
      by_contra hne
      rw [hg, Function.update_of_ne hne] at hk
      cases hk
    rw [hg, Function.update_self] at hk
    cases hk
    exact ⟨hg, hi, hj⟩

/-- A thread gets another grip. -/
theorem regrip (hc : w.Custody h grip) (hk : grip me = some k) {j : Grip}
    (hi : w'.isIssued h = true) (hj : j.Fits w' h) :
    w'.Custody h (Function.update grip me (some j)) := by
  refine .held me j ?_ hi hj
  rw [(hc.of_grip hk).1, Function.update_idem]

/-- A thread lets go. -/
theorem letGo (hc : w.Custody h grip) (hk : grip me = some k) (hr : w'.InPlace h) :
    w'.Custody h (Function.update grip me none) := by
  refine .free (fun t => ?_) hr
  rw [(hc.of_grip hk).1, Function.update_idem]
  by_cases ht : t = me
  · rw [ht, Function.update_self]
  · rw [Function.update_of_ne ht]

/-- A thread takes what nobody has. -/
theorem seize (hg : ∀ t, grip t = none) (hi : w'.isIssued h = true) (hk : k.Fits w' h) :
    w'.Custody h (Function.update grip me (some k)) :=
  .held me k (congrArg (Function.update · me (some k)) (funext hg)) hi hk

/-- What is stored is in nobody's hands. -/
theorem of_slot? (hc : w.Custody h grip) (hs : w.bridge.slot? h = some (some r)) :
    (∀ t, grip t = none) ∧ w.isIssued h = true ∧ Tended h w.history r := by
  cases hc with
  | free hg hr =>
    cases hr with
    | unbuilt hn hslot => simp [hs] at hslot
    | stored r' hi hr hslot =>
      cases hs.symm.trans hslot
      exact ⟨hg, hi, hr⟩
    | relinquished hi hr hslot => simp [hs] at hslot
  | held t k hg hi hk =>
    cases k with
    | reserved =>
      have hslot := hk.2
      simp [hs] at hslot
    | _ => cases hs.symm.trans hk.2

/-- **A resource that was handed over** had been tended to, and is no more. -/
theorem of_destruction (hc : w.Custody h grip)
    (hh : w.history = later ++ .destruction h r :: earlier) :
    Tended h earlier r ∧ Untouched h later := by
  have hmem : Event.destruction h r ∈ w.history :=
    hh ▸ List.mem_append_right _ List.mem_cons_self
  cases hc with
  | free hg hr =>
    cases hr with
    | unbuilt hn hs => exact absurd rfl (hn _ hmem)
    | stored s hi hr hs => exact absurd hmem (hr.not_destruction r)
    | relinquished hi hr hs => exact hr.split hh
  | held t k hg hi hk =>
    cases k with
    | taken s => exact absurd hmem (hk.1.not_destruction r)
    | _ => exact absurd rfl (hk.1 _ hmem)

/-- Nobody has what was not given out. -/
theorem of_not_isIssued (hc : w.Custody h grip) (hi : w.isIssued h = false) :
    (∀ t, grip t = none) ∧ Untouched h w.history ∧ (w.bridge.slot? h).join = none := by
  cases hc with
  | free hg hr =>
    cases hr with
    | unbuilt hn hs => exact ⟨hg, hn, hs⟩
    | stored r hi' hr hs => cases hi.symm.trans hi'
    | relinquished hi' hr hs => cases hi.symm.trans hi'
  | held t k hg hi' hk => cases hi.symm.trans hi'

end World.Custody

/-! ## All handles

The invariant is that of one handle for each of them. A section about one handle is then a
change of the stake in that handle, and it spares the resources of the others. -/

/-- What a thread has in hand, handle by handle. -/
abbrev Grips := Handle → Option Grip

/-- **Every resource is accounted for.** -/
def World.Guarded (w : World) (own : ThreadId → Grips) : Prop :=
  ∀ h, w.Custody h (fun t => own t h)

namespace World.Guarded

variable {own : ThreadId → Grips} (hw : w.Guarded own)

include hw

theorem spare (hs : ∀ h, w.Spares w' h) : w'.Guarded own := fun h => (hs h).custody (hw h)

/-- **A section that spares all resources but one.** -/
theorem turn {k : Option Grip} (hs : ∀ g, g ≠ h → w.Spares w' g)
    (hc : w'.Custody h (Function.update (fun t => own t h) me k)) :
    w'.Guarded (Function.update own me (Function.update (own me) h k)) := by
  intro g
  have hgrip : (fun t => Function.update own me (Function.update (own me) h k) t g) =
      if g = h then Function.update (fun t => own t h) me k else fun t => own t g := by
    funext t
    by_cases hg : g = h
    · subst hg
      rw [if_pos rfl]
      by_cases ht : t = me
      · subst ht
        rw [Function.update_self, Function.update_self, Function.update_self]
      · rw [Function.update_of_ne ht, Function.update_of_ne ht]
    · rw [if_neg hg]
      by_cases ht : t = me
      · subst ht
        rw [Function.update_self, Function.update_of_ne hg]
      · rw [Function.update_of_ne ht]
  rw [hgrip]
  by_cases hg : g = h
  · subst hg
    rwa [if_pos rfl]
  · rw [if_neg hg]
    exact (hs g hg).custody (hw g)

/-- A section that spares all resources but one, on which the thread's grip stays. -/
theorem touch (hs : ∀ g, g ≠ h → w.Spares w' g) (hc : w'.Custody h (fun t => own t h)) :
    w'.Guarded own := by
  intro g
  by_cases hg : g = h
  · subst hg
    exact hc
  · exact (hs g hg).custody (hw g)

end World.Guarded

/-! ## Sections

The sections that do concern a resource: a handle is given out, a record is opened, a resource
is stored, changed, taken out and handed over, or a construction is given up. -/

/-- A section that works on one record spares the resources of all others. -/
theorem World.spares_updateRecord (w : World) {f : Record → Record} (hg : g ≠ h)
    (he : ∀ e ∈ events, e.resource? ≠ some g) :
    w.Spares (w.onBridge (w.bridge.updateRecord h f) events) g :=
  ⟨(w.bridge.slot?_updateRecord h g f).trans (if_neg hg), events, rfl, he⟩

namespace World.Guarded

variable {own : ThreadId → Grips} (hw : w.Guarded own)

include hw

/-- **A thread is given a handle.** -/
theorem reserve {stakes : ThreadId → Stakes} (ha : w.Accounted stakes)
    (hb : w.constructions + 1 < 2 ^ 64) :
    own me w.bridge.reserve.1 = none ∧
      (w.onBridge w.bridge.reserve.2 [.issued w.bridge.reserve.1]).Guarded
        (Function.update own me
          (Function.update (own me) w.bridge.reserve.1 (some .reserved))) := by
  have hnumber : w.bridge.reserve.1.number.toNat = w.constructions + 1 := ha.toNat_nextHandle hb
  have hcount : (w.onBridge w.bridge.reserve.2 [.issued w.bridge.reserve.1]).constructions =
      w.constructions + 1 :=
    List.countP_cons_of_pos rfl
  have hunissued : w.isIssued w.bridge.reserve.1 = false := by
    unfold isIssued
    simp [hnumber]
  have hissued : (w.onBridge w.bridge.reserve.2 [.issued w.bridge.reserve.1]).isIssued
      w.bridge.reserve.1 = true := by
    unfold isIssued
    simp [hnumber, hcount]
  have hspares : ∀ g, w.Spares (w.onBridge w.bridge.reserve.2 [.issued w.bridge.reserve.1]) g :=
    fun g => ⟨rfl, _, rfl, by simp [Event.resource?]⟩
  obtain ⟨hnone, hn, hs⟩ := (hw w.bridge.reserve.1).of_not_isIssued hunissued
  exact ⟨hnone me, hw.turn (fun g _ => hspares g)
    (.seize hnone hissued ⟨(hspares _).untouched hn, hs⟩)⟩

/-- **A thread opens the record** of its handle. -/
theorem opened (hk : own me h = some .reserved) {s : Record} (hs : s.resource = none)
    (instances : Table ObjectId Handle) :
    (w.onBridge { w.bridge with
      records := w.bridge.records.insert h s, instances := instances }).Guarded
        (Function.update own me (Function.update (own me) h (some .building))) := by
  have hslot : ∀ g, (w.onBridge { w.bridge with
      records := w.bridge.records.insert h s, instances := instances }).bridge.slot? g =
        if g = h then some none else w.bridge.slot? g := by
    intro g
    unfold Bridge.slot?
    rw [World.onBridge, Table.get?_insert]
    split
    · exact congrArg some hs
    · rfl
  obtain ⟨-, hi, hn, -⟩ := (hw h).of_grip hk
  exact hw.turn (fun g hg => ⟨(hslot g).trans (if_neg hg), [], rfl, by simp⟩)
    ((hw h).regrip hk hi ⟨hn, (hslot h).trans (if_pos rfl)⟩)

/-- **A thread gives its handle up.** -/
theorem giveUp {k : Grip} (hk : own me h = some k) (hkind : k = .reserved ∨ k = .building)
    (hs : ∀ g, w.Spares w' g) :
    w'.Guarded (Function.update own me (Function.update (own me) h none)) := by
  obtain ⟨-, -, hfits⟩ := (hw h).of_grip hk
  refine hw.turn (fun g _ => hs g) ((hw h).letGo hk ((hs h).inPlace ?_))
  obtain rfl | rfl := hkind
  · exact .unbuilt hfits.1 hfits.2
  · exact .unbuilt hfits.1 (by rw [hfits.2]; rfl)

/-- **A thread stores the resource** that it has built. -/
theorem equip (hk : own me h = some .building) (r : Resource) :
    (w.onBridge (w.bridge.equip h r) [.constructed h, .equipped h r]).Guarded
      (Function.update own me (Function.update (own me) h none)) := by
  obtain ⟨-, hi, hn, hs⟩ := (hw h).of_grip hk
  obtain ⟨s, hrecord, -⟩ := Option.map_eq_some_iff.1 hs
  refine hw.turn (fun g hg => w.spares_updateRecord hg (by simp [Event.resource?, hg.symm]))
    ((hw h).letGo hk (.stored r hi (.aside (by simp [Event.resource?]) (.equipped hn)) ?_))
  refine (w.bridge.slot?_updateRecord h h _).trans ((if_pos rfl).trans ?_)
  rw [hrecord]
  rfl

/-- **A resource is changed** where it is stored. -/
theorem useResource (hs : w.bridge.slot? h = some (some r))
    (update : r.kind.Carrier → r.kind.Carrier) :
    (w.onBridge (w.bridge.updateRecord h
      (fun s => { s with resource := some (r.change r.kind update) }))
        [.used h r.kind update]).Guarded own := by
  obtain ⟨hg, hi, hr⟩ := (hw h).of_slot? hs
  obtain ⟨s, hrecord, -⟩ := Option.map_eq_some_iff.1 hs
  refine hw.touch (fun g hg => w.spares_updateRecord hg (by simp [Event.resource?, hg.symm]))
    (.free hg (.stored _ hi (.used hr update) ?_))
  refine (w.bridge.slot?_updateRecord h h _).trans ((if_pos rfl).trans ?_)
  rw [hrecord]
  rfl

/-- **A thread takes the resource out.** -/
theorem take (hs : w.bridge.slot? h = some (some r)) :
    own me h = none ∧ (w.onBridge (w.bridge.takeResource h).2).Guarded
      (Function.update own me (Function.update (own me) h (some (.taken r)))) := by
  obtain ⟨hg, hi, hr⟩ := (hw h).of_slot? hs
  obtain ⟨s, hrecord, -⟩ := Option.map_eq_some_iff.1 hs
  refine ⟨hg me, hw.turn (fun g hg => w.spares_updateRecord hg (by simp))
    (.seize hg hi ⟨hr, (w.bridge.slot?_updateRecord h h _).trans ((if_pos rfl).trans ?_)⟩)⟩
  rw [hrecord]
  rfl

/-- **A thread hands the resource over.** -/
theorem hand (hk : own me h = some (.taken r)) :
    (w.record (.destruction h r)).Guarded
      (Function.update own me (Function.update (own me) h none)) := by
  obtain ⟨-, hi, hr, hs⟩ := (hw h).of_grip hk
  refine hw.turn (fun g hg => ⟨rfl, [.destruction h r], rfl, by simp [Event.resource?, hg.symm]⟩)
    ((hw h).letGo hk (.relinquished hi (.handed hr) ?_))
  show (w.bridge.slot? h).join = none
  rw [hs]
  rfl

end World.Guarded

end HostBridge
