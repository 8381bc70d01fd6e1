import HostBridge.Proofs.Bridge.Holding
import HostBridge.Proofs.Domain.CallDepth
import HostBridge.Proofs.Domain.Crossing

/-!
# Values that cross and come back

A managed value that crosses into native code crosses back as the same value, and the other
way round, at every point of any interleaving (`values_come_back`). For objects the two ways
lead through different tables of the bridge, which agree as long as the handle is live and no
destruction of it is scheduled. A handle may be listed without being live, where another
thread is at work on it: one that lists it at the end of a construction, or one that destroys
what is behind it (`listed_handles_lead_nowhere`). Where the only thread of a host runs code,
what is listed is live.

End to end a value crosses four times: into a managed method that a thunk calls
(`EchoCall`), from there into a native member that returns its argument, and back again. Such
a call gives back what it was passed, whatever other threads do meanwhile, if the handles that
it needs stay live.

## One crossing and four

A single crossing is a look at one state, and the two ways are inverse to each other there. The
call looks at four states, and between any two of them other threads have their sections. So
the assumption of the second part is about all states that the call comes by
(`EchoCall.Passable`), and the value is followed from crossing to crossing as a property that
each section passes on (`Process.Flows`). It is not enough that the handle is live at the start
and at the end. An object that got another handle in between would come back as another one.
-/

namespace HostBridge

variable {α : Type} {w : World} {n : Nat} {code : ThreadId → NativeCode α} {me : ThreadId}
  {t u : Threads World α} {own : ThreadId → Stakes} {o : ObjectId} {g h : Handle}

/-! ## An object and its handle

Where the two tables lead to each other. -/

namespace Bridge

theorem of_objectOf {b : Bridge} (hb : b.objectOf h = .ok o) :
    ∃ r, b.records.get? h = some r ∧ r.object = o := by
  unfold objectOf listed? at hb
  split at hb
  · next r hr =>
    split at hr
    · exact ⟨r, hr, Except.ok.inj hb⟩
    · cases hr
  · cases hb

end Bridge

namespace World.Accounted

variable (hw : w.Accounted own)

include hw

theorem handleOf_of_isOpen {r : Record} (hr : w.bridge.records.get? h = some r)
    (ho : r.isOpen = true) : w.bridge.handleOf r.object = .ok h := by
  unfold Bridge.handleOf
  rw [show w.bridge.find? r.object = some h from (hw.of_live hr (Record.lifecycle_of_isOpen ho)).2]
  exact Bridge.openHandle_of_admits ⟨r, hr, ho⟩ _

theorem handleOf_of_objectOf (ho : w.bridge.objectOf h = .ok o) (ha : w.bridge.Admits h) :
    w.bridge.handleOf o = .ok h := by
  obtain ⟨r, hr, hopen⟩ := ha
  obtain ⟨s, hs, rfl⟩ := Bridge.of_objectOf ho
  obtain rfl := Option.some.inj (hr.symm.trans hs)
  exact hw.handleOf_of_isOpen hr hopen

/-- **What a handle admits calls on** has the handle, and the handle leads to it. -/
theorem exists_of_admits (ha : w.bridge.Admits h) :
    ∃ o, w.bridge.handleOf o = .ok h ∧ w.bridge.objectOf h = .ok o := by
  obtain ⟨r, hr, ho⟩ := ha
  have hh := hw.handleOf_of_isOpen hr ho
  exact ⟨r.object, hh, hw.objectOf_of_handleOf hh⟩

end World.Accounted

/-- **A handle keeps its object** as long as calls are admitted on it. -/
theorem World.Fresh.handleOf_of_reaches (hw : w.Fresh)
    (ht : (w.threads n code).Reaches (fun w => w.constructions < 2 ^ 64) t)
    (hu : t.Reaches (fun w => w.constructions < 2 ^ 64) u)
    (hh : t.state.bridge.handleOf o = .ok h) (ha : u.state.bridge.Admits h) :
    u.state.bridge.handleOf o = .ok h ∧ u.state.bridge.objectOf h = .ok o := by
  obtain ⟨own, hown⟩ := hw.accounted_of_reaches ht
  obtain ⟨own', hown'⟩ := hw.accounted_of_reaches (ht.trans hu)
  have hat := (Bridge.of_handleOf hh).2
  obtain ⟨r, hr, rfl⟩ := Bridge.of_objectOf (hown.objectOf_of_handleOf hh)
  obtain ⟨r', hr', ho'⟩ := ha
  obtain ⟨s, hs, hopen⟩ := hat
  have horigin := hw.origin_eq ht hu (hown.constructed_of_isOpen hs hopen) hr hr'
  have hobject : r'.object = r.object := congrArg Prod.fst horigin
  have hh' := hown'.handleOf_of_isOpen hr' ho'
  rw [hobject] at hh'
  exact ⟨hh', hown'.objectOf_of_handleOf hh'⟩

/-! ## A call that hands its argument on

What such a call consists of, and what it needs. -/

/-- **A call of a managed method that hands its argument on** to a native member, which gives
it back. -/
structure EchoCall (r : Registry) (tag : Tag) where
  /-- The thunk that native code calls. -/
  thunk : Thunk [tag] tag
  /-- The class that the thunk finds. -/
  cls : Class
  /-- The method that it calls. -/
  method : Method
  /-- The call that the method makes. -/
  call : ManagedValue → ExternCall
  /-- The class that declares the native member. -/
  owner : Class
  /-- The native member. -/
  member : Member
  /-- Its implementation. -/
  code : NativeCall
  found : (cls.findMethod? thunk.method.method 1).filter (Run.takes · thunk.receiver) = some method
  signature : method.signature = ⟨[tag], tag⟩
  body : ∀ v, method.body ⟨cls.fullName ++ "::" ++ thunk.method.method, thunk.receiver, [v]⟩ =
    (call v).code
  args : ∀ v, (call v).args = [v]
  declared : ∀ v, v.fits tag = true → (call v).member? owner = some member
  memberSignature : member.signature = ⟨[tag], tag⟩
  bound : r.resolve member = .ok code
  identity : ∀ h x, x.tag = tag → code.run (Run.passed member h [x]) = .done (.ok x)

namespace EchoCall

variable {r : Registry} {tag : Tag} (e : EchoCall r tag)

/-- **What the call needs of a state that it comes by**: the class of the native member is
found, its receiver has a live handle, if it is called on an object, and so has the value, if
it is an object. -/
structure Intact (v : ManagedValue) (x : BoundaryValue) (h : Handle) (s : World) : Prop where
  owner : ∀ c : Context, c.cls = e.cls → (e.call v).classIn s.domain c = .ok e.owner
  receiver : ∀ o, (e.call v).receiver? = some o → s.bridge.handleOf o = .ok h
  argument : ∀ g, x = .object g → s.bridge.Admits g

/-- A state that the call goes through. -/
structure Passable (v : ManagedValue) (x : BoundaryValue) (h : Handle) (s : World) : Prop where
  intact : e.Intact v x h s
  crosses : v.Crosses (fun o g => s.bridge.handleOf o = .ok g ∧ s.bridge.objectOf g = .ok o) x
  depth : 0 < s.domain.maxCallDepth
  registry : s.registry = r

variable {e}

/-- **The call goes through**, from the state on at which the class of the method is found. -/
theorem flowsAt {v : ManagedValue} {x : tag.Native} {s : World}
    (hs : e.Passable v (.ofNative tag x) h s)
    (hc : s.domain.findClass? e.thunk.method.typeName = some e.cls) (j : Nat) :
    (e.thunk.call (.nested (j + 2)) me (x, ())).FlowsAt (e.Passable v (.ofNative tag x) h)
      (· = .ok x) s := by
  have hv := hs.crosses.forall_of fun s (hs : e.Passable v (.ofNative tag x) h s) => hs.crosses
  have hout := hv.mono fun o g _ _ hog s hs => (hog s hs).1
  have hin := hv.mono fun o g _ _ hog s hs => (hog s hs).2
  have htag : (BoundaryValue.ofNative tag x).tag = tag := BoundaryValue.tag_ofNative tag x
  have hfits : v.fits tag = true := (hv.fits_iff tag).2 htag.symm
  refine e.thunk.flowsAt_call hs (Run.flowsAt_callManaged hs hc (.cons hin .nil) ?_ hout)
  refine Run.flows_runMethod e.found ?_ ?_ (fun s hs => hs.depth) (fun f => ?_)
  · rw [e.signature]
    simp [Class.accepts, hfits]
  · rw [e.signature]
    exact hfits
  rw [e.body]
  show (Run.runManaged (.nested (j + 1)) me _ (e.call v).code).Flows _ _
  rw [ExternCall.runManaged_code]
  refine Run.flows_process (fun s hs => hs.intact.owner _ rfl) (e.declared v hfits) ?_
  rw [e.args]
  refine Run.flows_callExtern (.cons hout .nil) ?_ hin
  refine Run.flows_invoke (c := e.code) (h := h) (fun s hs => ?_) ?_ (fun hinst => ?_) ?_ ?_
  · rw [hs.registry]
    exact e.bound
  · rw [e.memberSignature]
    exact congrArg (· :: []) htag
  · obtain ⟨o, ho⟩ := ExternCall.exists_receiver (e.declared v hfits) hinst
    exact ⟨o, ho, fun s hs => hs.intact.receiver o ho⟩
  · rw [e.identity h _ htag]
    exact .pure rfl
  · rw [e.memberSignature]
    exact htag

end EchoCall

/-! ## The call among other threads

Section by section, from the thunk to the native member and back. -/

namespace EchoCall

variable {tag : Tag} {e : EchoCall w.registry tag} {v : ManagedValue} {x : tag.Native}
  (hw : w.Fresh) (ht : (w.threads n code).Reaches (fun w => w.constructions < 2 ^ 64) t)
  (hdepth : 1 ≤ w.domain.maxCallDepth)
  (hv : v.Crosses
    (fun o g => t.state.bridge.handleOf o = .ok g ∧ t.state.bridge.objectOf g = .ok o)
    (.ofNative tag x))

include hw ht hdepth hv

/-- Where the call finds what it needs, it goes through: the value still crosses as it did. -/
theorem passable (hu : t.Reaches (fun _ => True) u)
    (hi : u.state.constructions < 2 ^ 64 ∧ e.Intact v (.ofNative tag x) h u.state) :
    e.Passable v (.ofNative tag x) h u.state := by
  have hreach := ht.mono fun _ _ => trivial
  have hbounded := hreach.bounded hu hi.1
  refine ⟨hi.2, hv.mono fun o g _ hx hog => ?_, ?_, ?_⟩
  · exact hw.handleOf_of_reaches ht hbounded hog.1 (hi.2.argument g hx)
  · rw [World.maxCallDepth_of_reaches (hreach.trans hu)]
    exact hdepth
  · exact World.registry_of_reaches (hreach.trans hu)

variable {l : List (Threads World α)} {q : Course World (Except BridgeError tag.Native)} {j : Nat}
  (hc : t.state.domain.findClass? e.thunk.method.typeName = some e.cls)
  (hp : t.Passes me (e.thunk.call (.nested (j + 2)) me (x, ())).course l q u)
  (hi : ∀ p ∈ l ++ [u], p.state.constructions < 2 ^ 64 ∧ e.Intact v (.ofNative tag x) h p.state)

include hc hp hi

theorem flows_of_passes :
    q.Flows (e.Passable v (.ofNative tag x) h) (fun r => ∃ b, r = .ok b ∧ b = .ok x) u.state := by
  have hreach : ∀ p ∈ l ++ [u], t.Reaches (fun _ => True) p := by
    obtain ⟨hl, hu⟩ := hp.reaches (.here trivial)
    intro p hpm
    obtain hpm | hpm := List.mem_append.1 hpm
    · exact hl p hpm
    · exact List.mem_singleton.1 hpm ▸ hu
  have hpassable : ∀ p ∈ l ++ [u], e.Passable v (.ofNative tag x) h p.state :=
    fun p hpm => passable hw ht hdepth hv (hreach p hpm) (hi p hpm)
  obtain ⟨k, -, hp⟩ := hp
  exact hp.flows hpassable (flowsAt (hpassable t hp.mem_head) hc j)

/-- **The call has given back what it was passed, or goes on**: the thread can enter its next
section. -/
theorem returns_or_ready :
    q = .done (.ok x) ∨
      ∃ ready effect next, q = .step ready effect next ∧ ready u.state = true := by
  have hflows := flows_of_passes hw ht hdepth hv hc hp hi
  cases q with
  | done a =>
    obtain ⟨b, hb, rfl⟩ := hflows
    exact .inl (congrArg Course.done (Except.ok.inj hb))
  | crash c =>
    obtain ⟨b, hb, -⟩ := hflows
    cases hb
  | step ready effect next => exact .inr ⟨ready, effect, next, rfl, hflows.1⟩

/-- **The call comes to its end** when the thread goes on alone. -/
theorem returns_alone
    (halone : q.Always
      (fun s => s.constructions < 2 ^ 64 ∧ e.Intact v (.ofNative tag x) h s) u.state) :
    ∃ l' u', u.Passes me q l' (.done (.ok x)) u' := by
  have hflows := flows_of_passes hw ht hdepth hv hc hp hi
  have hu := (hp.reaches (.here trivial)).2
  obtain ⟨k, ht', hp⟩ := hp
  have htodo := hp.todo ht'
  have hgood : q.Always (e.Passable v (.ofNative tag x) h) u.state := by
    refine Course.always_of_reaches fun q' s hq => ?_
    obtain ⟨u', hu', rfl, -, -⟩ := Threads.reaches_alone (hq.after k) htodo
    exact passable hw ht hdepth hv (hu.trans hu') (hq.always halone).here
  obtain ⟨r, s, hend, b, rfl, rfl⟩ := hflows.advance hgood
  obtain ⟨l', u', hp', -⟩ := Threads.passesBefore_alone (k := k) hend
  exact ⟨l', u', k, htodo, hp'⟩

end EchoCall

/-! ## There and back -/

/-- **Values that cross come back.** At every point of any interleaving of any number of threads
from the start of a host on:
* a managed value that crosses into native code does so as a value of the one type that it
  fits, and that value crosses back as the managed one;
* a value that crosses into managed code crosses back as the same one, if it is no handle or
  calls are admitted on what is behind the handle: it is live, and no destruction of it is
  scheduled;
* a thunk that calls a managed method, which hands its argument to a native member that
  returns it, gives back what it was passed. It needs one level of calls, and everything that
  the call comes by has to stay as it is needed; a handle, live and without a scheduled
  destruction. Then the thread never waits in the call, comes to its end if it goes on alone,
  and has nothing else to return.

Where code of a single thread runs, what is behind a handle that crosses is live, so that a
scheduled destruction is all that a handle may be kept from crossing back by. -/
theorem values_come_back (hw : w.Fresh)
    (ht : (w.threads n code).Reaches (fun w => w.constructions < 2 ^ 64) t) :
    (∀ v x, (Run.marshal v).Ends t.state (.ok (.ok x)) t.state →
      (∀ tag, v.fits tag = true ↔ tag = x.tag) ∧
        (Run.unmarshal x).Ends t.state (.ok (.ok v)) t.state) ∧
    (∀ x v, (Run.unmarshal x).Ends t.state (.ok (.ok v)) t.state →
      (∀ h, x = .object h → t.state.bridge.Admits h) →
        (Run.marshal v).Ends t.state (.ok (.ok x)) t.state) ∧
    (∀ (tag : Tag) (e : EchoCall w.registry tag) (x : tag.Native), 1 ≤ w.domain.maxCallDepth →
      t.state.domain.findClass? e.thunk.method.typeName = some e.cls →
      (∀ h, BoundaryValue.ofNative tag x = .object h → t.state.bridge.Admits h) →
      ∃ v, (Run.unmarshal (.ofNative tag x)).Ends t.state (.ok (.ok v)) t.state ∧
        ∀ j me h l q u, t.Passes me (e.thunk.call (.nested (j + 2)) me (x, ())).course l q u →
          (∀ p ∈ l ++ [u], p.state.constructions < 2 ^ 64 ∧
            e.Intact v (.ofNative tag x) h p.state) →
          (q = .done (.ok x) ∨
            ∃ ready effect next, q = .step ready effect next ∧ ready u.state = true) ∧
          (q.Always (fun s => s.constructions < 2 ^ 64 ∧ e.Intact v (.ofNative tag x) h s)
              u.state →
            ∃ l' u', u.Passes me q l' (.done (.ok x)) u')) ∧
    (∀ (m : Nat) (single : NativeCode α) (q : Course World α) (w' : World),
      Course.Reaches (fun w => w.constructions < 2 ^ 64) (single.course m mainThread) w q w' →
      q.AtNote w' → ∀ x v, (Run.unmarshal x).Ends w' (.ok (.ok v)) w' →
        (∀ h, x = .object h → ¬w'.bridge.Deferred h) →
          (Run.marshal v).Ends w' (.ok (.ok x)) w') := by
  obtain ⟨own, hown⟩ := hw.accounted_of_reaches ht
  refine ⟨fun v x h => ?_, fun x v h ha => ?_, fun tag e x hdepth hc ha => ?_,
    fun m single q w' hq hn x v h hd => ?_⟩
  · have hv := Run.marshal_ends_iff.1 h
    refine ⟨hv.fits_iff, Run.unmarshal_ends_iff.2 (hv.mono fun o g _ _ hog => ?_)⟩
    exact hown.objectOf_of_handleOf hog
  · have hv := Run.unmarshal_ends_iff.1 h
    refine Run.marshal_ends_iff.2 (hv.mono fun o g _ hx hog => ?_)
    exact hown.handleOf_of_objectOf hog (ha g hx)
  · obtain ⟨v, hv⟩ := ManagedValue.Crosses.exists_of (.ofNative tag x)
      fun h hx => hown.exists_of_admits (ha h hx)
    refine ⟨v, Run.unmarshal_ends_iff.2 (hv.mono fun o g _ _ hog => hog.2),
      fun j me h l q u hp hi => ⟨?_, fun halone => ?_⟩⟩
    · exact EchoCall.returns_or_ready hw ht hdepth hv hc hp hi
    · exact EchoCall.returns_alone hw ht hdepth hv hc hp hi halone
  · obtain ⟨own', hown', hpresentable⟩ := hw.presentable_of_reaches hq hn
    have hv := Run.unmarshal_ends_iff.1 h
    refine Run.marshal_ends_iff.2 (hv.mono fun o g _ hx hog => hown'.handleOf_of_objectOf hog ?_)
    obtain ⟨r, hr, hl, -⟩ := hown'.objectOf_eq_ok hpresentable (Bridge.mem_of_objectOf hog)
    refine ⟨r, hr, ?_⟩
    have hp : r.destroyPending = false := by
      by_contra hp
      exact hd g hx ⟨r, hr, by simpa using hp⟩
    simp [Record.isOpen, hl, hp]

/-! ## Handles that are listed and not live

Two points of one interleaving at which a handle leads to an object and the object to no
handle. -/

/-- **What crosses into managed code crosses back**, if the handles in question are as said. -/
def CrossBack (eligible : World → Handle → Prop) : Prop :=
  ∀ (w : World) (n : Nat) (code : ThreadId → NativeCode Unit) (t : Threads World Unit), w.Fresh →
    (w.threads n code).Reaches (fun w => w.constructions < 2 ^ 64) t →
      ∀ x v, (Run.unmarshal x).Ends t.state (.ok (.ok v)) t.state →
        (∀ h, x = .object h → eligible t.state h) →
          (Run.marshal v).Ends t.state (.ok (.ok x)) t.state

/-- A thread has listed the handle of its construction, and is about to make the instance
live. -/
def listing : Threads World Unit :=
  ((plainHost.threads 1 contention).play (fun w => w.constructions < 2 ^ 64)
    [0, 0, 0, 0, 0, 0]).get (by decide +kernel)

/-- **A handle may be listed although its object cannot cross**, whatever is said of
destructions that are scheduled:
* no destruction is left to the last call on the instance, but another thread waits with its
  own for the calls to end;
* nobody has asked for a destruction, but a construction is about to make the instance
  live. -/
theorem listed_handles_lead_nowhere :
    ¬CrossBack (fun s h => ¬s.bridge.Deferred h) ∧
      ¬CrossBack (fun s h => .condemned h ∉ s.history) := by
  have hcontended : (plainHost.threads 1 contention).Reaches _ contended :=
    (Threads.Reaches.here (by decide)).play (Option.some_get _).symm
  have hlisting : (plainHost.threads 1 contention).Reaches _ listing :=
    (Threads.Reaches.here (by decide)).play (Option.some_get _).symm
  refine ⟨fun hback => ?_, fun hback => ?_⟩
  · have hin : (Run.unmarshal (.object ⟨1⟩)).Ends contended.state
        (.ok (.ok (.object ⟨1⟩))) contended.state :=
      Run.unmarshal_ends_iff.2 (.object (by decide +kernel))
    have hout := hback plainHost 1 contention contended plainHost_fresh hcontended _ _ hin ?_
    · cases Run.marshal_ends_iff.1 hout with
      | object hh => exact absurd hh (by decide +kernel)
    · rintro h hx ⟨r, hr, hp⟩
      cases hx
      have hpending : (contended.state.bridge.records.get? ⟨1⟩).map Record.destroyPending =
          some false := by decide +kernel
      rw [hr, Option.map_some, hp] at hpending
      cases hpending
  · have hin : (Run.unmarshal (.object ⟨1⟩)).Ends listing.state
        (.ok (.ok (.object ⟨1⟩))) listing.state :=
      Run.unmarshal_ends_iff.2 (.object (by decide +kernel))
    have hout := hback plainHost 1 contention listing plainHost_fresh hlisting _ _ hin ?_
    · cases Run.marshal_ends_iff.1 hout with
      | object hh => exact absurd hh (by decide +kernel)
    · rintro h - hc
      have hnone : listing.state.history.all
          (fun e => match e with | .condemned _ => false | _ => true) = true := by decide +kernel
      cases List.all_eq_true.1 hnone _ hc

/-! ## A handle that is handed on

An echo of a handle, called through a thunk of a class that the host loads. -/

/-- The code that calls a thunk. -/
def Thunk.callCode {params : List Tag} {ret : Tag} (t : Thunk params ret) (args : Tag.Args params) :
    NativeCode (Except BridgeError ret.Native) :=
  .perform (.enter t.method t.receiver (Tag.boundaryArgs params args)) fun r => .done <|
    match r with
    | .ok v => (v.toNative ret).mapError .marshalType
    | .error e => .error e

theorem Thunk.runNative_callCode {params : List Tag} {ret : Tag} (t : Thunk params ret)
    (run : Runner) (args : Tag.Args params) :
    Run.runNative run me (t.callCode args) = t.call run me args := by
  refine congrArg (_ >>= ·) (funext fun r => ?_)
  cases r <;> rfl

/-- A class whose method hands an object to a native member. -/
def mirror : Class where
  scope := ""
  name := "Mirror"
  methods := [⟨"Show", ⟨[.object], .object⟩, .static, fun a =>
    .perform (.callStaticExtern "Mirror" "Reflect" a.args) fun r => .done r⟩]
  externs := [⟨"Reflect", ⟨[.object], .object⟩, .static⟩]

/-- The native member. -/
def mirrorReflect : Member := ⟨"Mirror", "Reflect", ⟨[.object], .object⟩, .static⟩

/-- What it is bound to: typed code that returns its argument. -/
def mirrorCode : NativeCall := .ofTyped [.object] .object fun (h, _) => .done (.ok h)

/-- A host with the member, and with a type of objects that have handles. -/
def mirrorHost : World :=
  .start (Registry.empty.addAll [.member mirrorReflect mirrorCode, .type "T" plainHooks]).2 .empty
    "host" 1

theorem mirrorHost_fresh : mirrorHost.Fresh := ⟨rfl, rfl, rfl⟩

/-- The call of the method, and of the native member by it. -/
def mirroring : EchoCall mirrorHost.registry .object where
  thunk := ⟨⟨"Mirror", "Show", 1⟩, none⟩
  cls := mirror
  method := ⟨"Show", ⟨[.object], .object⟩, .static, fun a =>
    .perform (.callStaticExtern "Mirror" "Reflect" a.args) fun r => .done r⟩
  call := fun v => .onType "Mirror" "Reflect" [v]
  owner := mirror
  member := mirrorReflect
  code := mirrorCode
  found := rfl
  signature := rfl
  body := fun v => rfl
  args := fun v => rfl
  declared := fun v hv => by
    cases v with
    | object o => rfl
    | null => rfl
    | _ => cases hv
  memberSignature := rfl
  bound := rfl
  identity := fun h x hx => by
    cases x with
    | object g => rfl
    | _ => cases hx

/-- The host loads the class, makes an object, and passes its handle through the method. -/
def mirrored : NativeCode (Except BridgeError Handle) :=
  .perform (.provide ⟨"A", [mirror]⟩) fun _ => .perform (.load "A") fun _ =>
    .perform (.construct "T" ⟨1⟩) fun _ => mirroring.thunk.callCode (⟨1⟩, ())

/-- Where the assembly is there to be loaded. -/
def mirrorProvided : World := mirrorHost.onDomain (mirrorHost.domain.provide ⟨"A", [mirror]⟩)

/-- Where it is loaded. -/
def mirrorLoaded : World := ((Run.loadAssembly "A").advance mirrorProvided).2

/-- Where the object is made. -/
def mirrorMade : World := ((Run.construct (.nested 2) mainThread "T" ⟨1⟩).advance mirrorLoaded).2

/-- The call of the thunk. -/
def mirrorCall : Run (Except BridgeError Handle) :=
  mirroring.thunk.call (.nested 2) mainThread (⟨1⟩, ())

theorem mirrored_meets :
    (mirrored.course 2 mainThread).Meets (fun _ => True) mirrorHost mirrorCall mirrorMade := by
  have provide : (Run.nativeReply (.nested 2) mainThread (.provide ⟨"A", [mirror]⟩)).Ends
      mirrorHost (.ok ()) mirrorProvided := rfl
  have load : (Run.nativeReply (.nested 2) mainThread (.load "A")).Ends mirrorProvided
      (.ok (.ok ⟨"A", [mirror]⟩)) mirrorLoaded := rfl
  have make : (Run.nativeReply (.nested 2) mainThread (.construct "T" ⟨1⟩)).Ends mirrorLoaded
      (.ok (.ok (some ⟨1⟩))) mirrorMade := rfl
  have start : (mirrored.course 2 mainThread).Meets (fun _ => True) mirrorHost
      (Run.runNative (.nested 2) mainThread mirrored) mirrorHost := .start _ trivial
  have call : (mirrored.course 2 mainThread).Meets (fun _ => True) mirrorHost
      (Run.runNative (.nested 2) mainThread (mirroring.thunk.callCode (⟨1⟩, ()))) mirrorMade :=
    ((start.next provide).next load).next make
  have hcall : Run.runNative (.nested 2) mainThread (mirroring.thunk.callCode (⟨1⟩, ())) =
      mirrorCall := mirroring.thunk.runNative_callCode ..
  rwa [hcall] at call

theorem mirroring_intact {s : World}
    (hs : (s.bridge.records.get? ⟨1⟩).map Record.isOpen = some true) (v : ManagedValue) :
    mirroring.Intact v (.object ⟨1⟩) h s where
  owner := fun c hc => by
    show s.domain.classNamed c.cls "Mirror" = .ok mirror
    rw [show c.cls = mirror from hc]
    rfl
  receiver := fun o ho => by cases ho
  argument := fun g hg => by
    cases hg
    exact Option.map_eq_some_iff.1 hs

/-- The handle of the object comes back from the call. -/
theorem values_come_back_mirrored : ∃ t l u,
    (mirrorHost.threads 2 fun _ => mirrored).Reaches (fun w => w.constructions < 2 ^ 64) t ∧
    t.state.bridge.Admits ⟨1⟩ ∧ t.Performs mainThread mirrorCall l (.ok (.ok ⟨1⟩)) u := by
  obtain ⟨k, hk⟩ := mirrored_meets
  have hcount : (mirrored.course 2 mainThread).Always (fun w => w.constructions < 2 ^ 64)
      mirrorHost := by decide +kernel
  have hopen : mirrorCall.course.Always (fun s => s.constructions < 2 ^ 64 ∧
      (s.bridge.records.get? ⟨1⟩).map Record.isOpen = some true) mirrorMade := by decide +kernel
  obtain ⟨t, ht, hstate, htodo, -⟩ := Threads.reaches_alone
    (hk.of_forall fun q u hu => (hu.always hcount).here)
    (show (mirrorHost.threads 2 fun _ => mirrored).todo mainThread = _ from rfl)
  rw [← hstate] at hopen
  have hnow := mirroring_intact (h := ⟨0⟩) hopen.here.2
  obtain ⟨-, -, hcall, -⟩ := values_come_back mirrorHost_fresh ht
  obtain ⟨v, -, hreturns⟩ := hcall .object mirroring ⟨1⟩ (by decide) (by rw [hstate]; rfl)
    fun h hh => (hnow .null).argument h hh
  obtain ⟨-, halone⟩ := hreturns 0 mainThread ⟨0⟩ [] mirrorCall.course t ⟨k, htodo, .here⟩
    fun p hp => List.mem_singleton.1 hp ▸ ⟨hopen.here.1, hnow v⟩
  obtain ⟨l, u, hp⟩ := halone (Course.always_of_reaches fun q s hq =>
    have hs := (hq.always hopen).here
    ⟨hs.1, mirroring_intact hs.2 v⟩)
  exact ⟨t, l, u, ht, (hnow v).argument _ rfl, hp⟩

end HostBridge
