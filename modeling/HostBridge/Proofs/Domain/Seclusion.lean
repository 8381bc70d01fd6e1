import HostBridge.Evaluation
import HostBridge.Proofs.Domain.Estates

/-!
# Operations on one object are local

Code that keeps to an estate is local to it (`Estate.runs_nested`), as deep as it nests. Each
operation that it may ask for is put together from sections that look at the estate, change it
or tell the history something, and from code of the estate: the destruction hook, and the
implementations of its members. Nothing that such code does depends on the frame that it runs
in.

The values that come back from a call lead to no other object: a handle of the estate is turned
into its object, and the object into the handle.

The frame needs a word. Frames are numbered through the whole run, so a finalizer that runs
second has another number than one that runs first, and two orders of a collection are never
the same state in between. Code of an estate asks for nothing that a frame would answer, since
it neither calls managed methods nor makes objects. This is what the third part of
`Estate.Runs` says, and it is proved along with the second.
-/

namespace HostBridge

variable {α : Type} {e : Estate} {me : ThreadId} {run : Runner} {h : Handle}

namespace Estate

/-! ## Sections of the bridge

Each finds the record by the handle of the estate, decides by what is in it, and does one deed
or none. -/

/-- **A section that goes by a record** is local to the estate that has the handle of it. -/
theorem does_of_record {f : Bridge → α × Bridge} {ok : α → Prop} (hok : ∀ a, ok a)
    (hf : ∀ b : Bridge, ∃ a T, e.Change T ∧
      ∀ b' : Bridge, b'.records.get? h = b.records.get? h → f b' = (a, T b'))
    (hh : e.handle? = some h) : e.Does f ok := by
  intro b _
  obtain ⟨a, T, hT, hf⟩ := hf b
  exact ⟨hok _, T, hT, fun b' hb' => by rw [hf b' (hb'.record h hh), hf b rfl]⟩

/-- A change of the estate's record is one of the estate. -/
theorem change_updateRecord (hh : e.handle? = some h) {f : Record → Record}
    (hf : ∀ r, (f r).object = r.object ∧ (f r).hooks = r.hooks) :
    e.Change (fun b => b.updateRecord h f) :=
  .deed (.update hh hf)

/-- **A request for destruction** is decided by the record alone. -/
theorem does_condemn (me : ThreadId) (hh : e.handle? = some h) :
    e.Does (·.condemn me h) (fun _ => True) := by
  refine does_of_record (fun _ => trivial) (fun b => ?_) hh
  unfold Bridge.condemn
  cases hr : b.records.get? h with
  | none => exact ⟨_, _, .nothing, fun b' hb' => by rw [hb']⟩
  | some r =>
    by_cases ho : r.isOpen = true
    · by_cases hm : me ∈ r.inFlight
      · refine ⟨.deferred, fun b => b.updateRecord h fun r => { r with destroyPending := true },
          change_updateRecord hh fun _ => ⟨rfl, rfl⟩, fun b' hb' => ?_⟩
        simp [hb', ho, hm]
      · refine ⟨.accepted, fun b => b.setLifecycle h .destructing,
          change_updateRecord hh fun _ => ⟨rfl, rfl⟩, fun b' hb' => ?_⟩
        simp [hb', ho, hm]
    · exact ⟨.refused, _, .nothing, fun b' hb' => by simp [hb', ho]⟩

/-- Whether a call is admitted is decided by the record alone. -/
theorem does_admitCall (me : ThreadId) (hh : e.handle? = some h) :
    e.Does (·.admitCall me h) (fun _ => True) := by
  refine does_of_record (fun _ => trivial) (fun b => ?_) hh
  unfold Bridge.admitCall
  cases hr : b.records.get? h with
  | none => exact ⟨_, _, .nothing, fun b' hb' => by rw [hb']⟩
  | some r =>
    by_cases ho : r.isOpen = true
    · refine ⟨.ok (), fun b => b.updateRecord h fun r => { r with inFlight := r.inFlight ++ [me] },
        change_updateRecord hh fun _ => ⟨rfl, rfl⟩, fun b' hb' => ?_⟩
      simp [hb', ho]
    · exact ⟨.error (if r.destroyPending then .destructing else r.lifecycle), _, .nothing,
        fun b' hb' => by simp [hb', ho]⟩

/-- Whether the end of a call is the last is decided by the record alone. -/
theorem does_dismiss (me : ThreadId) (hh : e.handle? = some h) :
    e.Does (·.dismiss me h) (fun _ => True) := by
  refine does_of_record (fun _ => trivial) (fun b => ?_) hh
  unfold Bridge.dismiss
  cases hr : b.records.get? h with
  | none => exact ⟨_, _, .nothing, fun b' hb' => by rw [hb']⟩
  | some r =>
    by_cases hl : (r.destroyPending && (r.inFlight.erase me).isEmpty) = true
    · refine ⟨true, fun b => b.updateRecord h fun r => { r with
        inFlight := r.inFlight.erase me, destroyPending := false, lifecycle := .destructing },
        change_updateRecord hh fun _ => ⟨rfl, rfl⟩, fun b' hb' => ?_⟩
      rw [hb']
      exact if_pos hl
    · refine ⟨false, fun b => b.updateRecord h fun r => { r with inFlight := r.inFlight.erase me },
        change_updateRecord hh fun _ => ⟨rfl, rfl⟩, fun b' hb' => ?_⟩
      rw [hb']
      exact if_neg hl

/-- Taking the resource out concerns the record alone. -/
theorem does_takeResource (hh : e.handle? = some h) :
    e.Does (·.takeResource h) (fun _ => True) := by
  refine does_of_record (fun _ => trivial) (fun b => ?_) hh
  refine ⟨(b.records.get? h).bind Record.resource,
    fun b => b.updateRecord h fun r => { r with resource := none },
    change_updateRecord hh fun _ => ⟨rfl, rfl⟩, fun b' hb' => ?_⟩
  rw [Bridge.takeResource, hb']

/-- Whether a resource is of the expected type is decided by the record alone. -/
theorem does_useResource (hh : e.handle? = some h) (kind : ResourceKind)
    (update : kind.Carrier → kind.Carrier) :
    e.Does (·.useResource h kind update) (fun _ => True) := by
  refine does_of_record (fun _ => trivial) (fun b => ?_) hh
  unfold Bridge.useResource
  cases hr : (b.records.get? h).bind Record.resource with
  | none => exact ⟨_, _, .nothing, fun b' hb' => by rw [hb', hr]⟩
  | some u =>
    by_cases same : u.kind = kind
    · refine ⟨.ok (same ▸ u.value), fun b => b.updateRecord h fun s => { s with
        resource := some ⟨kind, update (same ▸ u.value)⟩ },
        change_updateRecord hh fun _ => ⟨rfl, rfl⟩, fun b' hb' => ?_⟩
      rw [hb', hr]
      exact dif_pos same
    · refine ⟨.error (.resourceType h kind.typeName), _, .nothing, fun b' hb' => ?_⟩
      rw [hb', hr]
      exact dif_neg same

/-! ## Looking at an object

The answers are limited as code of an estate expects them: the hooks that are found keep to it,
the handle that is found is its own, and so is the object. -/

/-- The record that is looked up is the object's, and its hook keeps to the estate. -/
theorem local_record (hh : e.handle? = some h) :
    e.Local (Run.askBridge (·.records.get? h))
      (fun r? => ∀ r, r? = some r → ∀ u, e.KeepsNative (fun _ => True) (r.hooks.destroy h u)) :=
  .askBridge fun _ hb => ⟨fun r hr => (hb.record h r hh hr).2, fun _ hb' => hb'.record h hh⟩

theorem local_find? : e.Local (Run.askBridge (·.find? e.object))
    (fun h? => ∀ h, h? = some h → e.handle? = some h) :=
  .askBridge fun _ hb => ⟨hb.found, fun _ hb' => hb'.found⟩

/-- Whether the handle leads anywhere is seen of the estate. -/
theorem AgreeOn.listed? {b b' : Bridge} (hb : e.AgreeOn b b') (hh : e.handle? = some h) :
    b'.listed? h = b.listed? h := by
  have hlisted : b'.handles.contains h = b.handles.contains h := by
    rw [Bool.eq_iff_iff, List.contains_iff_mem, List.contains_iff_mem, ← List.count_pos_iff,
      ← List.count_pos_iff, hb.listed h hh]
  rw [Bridge.listed?, Bridge.listed?, hlisted, hb.record h hh]

theorem local_listed? (hh : e.handle? = some h) :
    e.Local (Run.askBridge (·.listed? h)) (fun _ => True) :=
  .askBridge fun _ _ => ⟨trivial, fun _ hb' => hb'.listed? hh⟩

theorem local_lifecycleAt (hh : e.handle? = some h) :
    e.Local (Run.askBridge (·.lifecycleAt h)) (fun _ => True) :=
  .askBridge fun b _ => ⟨trivial, fun b' hb' => by
    rw [Bridge.lifecycleAt, Bridge.lifecycleAt, hb'.record h hh]⟩

theorem local_stateOf : e.Local (Run.stateOf e.object) (fun _ => True) := by
  refine .bind local_find? fun h? hh => ?_
  cases h? with
  | some h => exact local_lifecycleAt (hh h rfl)
  | none => exact .pure trivial

/-- **The handle of the object** is that of the estate, if it is to be had. -/
theorem local_handleOf : e.Local (Run.handleOf e.object)
    (fun r => ∀ h, r = .ok h → e.handle? = some h) := by
  refine .bind local_find? fun h? hh => ?_
  cases h? with
  | some h =>
    refine .askBridge fun b _ => ⟨fun g hg => ?_, fun b' hb' => ?_⟩
    · unfold Bridge.openHandle at hg
      split at hg
      · cases hg
      · split at hg
        · cases hg
          exact hh h rfl
        · cases hg
    · rw [Bridge.openHandle, Bridge.openHandle, hb'.record h (hh h rfl)]
  | none => exact .pure fun h hr => (nomatch hr)

/-- **The object of the handle** is that of the estate. -/
theorem local_objectOf (hh : e.handle? = some h) :
    e.Local (Run.objectOf h) (fun r => ∀ o, r = .ok o → o = e.object) := by
  refine .askBridge fun b hb => ⟨fun o ho => ?_, fun b' hb' => ?_⟩
  · unfold Bridge.objectOf Bridge.listed? at ho
    by_cases hc : b.handles.contains h = true
    · rw [if_pos hc] at ho
      cases hr : b.records.get? h with
      | none =>
        rw [hr] at ho
        cases ho
      | some r =>
        rw [hr] at ho
        cases ho
        exact (hb.record h r hh hr).1
    · rw [if_neg hc] at ho
      cases ho
  · rw [Bridge.objectOf, Bridge.objectOf, hb'.listed? hh]

theorem local_useResource (hh : e.handle? = some h) (kind : ResourceKind)
    (update : kind.Carrier → kind.Carrier) :
    e.Local (Run.useResource h kind update) (fun _ => True) := by
  refine .bind (local_listed? hh) fun r? _ => ?_
  cases r? with
  | some r => exact .onBridge (does_useResource hh kind update)
  | none => exact .pure trivial

/-- Dropping the record of the object concerns the estate alone. -/
theorem local_forget : e.Local (Run.forget e.object) (fun _ => True) := by
  refine .changeBridge fun b hb => ?_
  have hstate : ∀ b', e.AgreeOn b b' → b'.state e.object = b.state e.object := fun b' hb' => by
    rw [Bridge.state, Bridge.state, hb'.found]
    cases hfound : b.find? e.object with
    | none => rfl
    | some h => simp only [Bridge.lifecycleAt, hb'.record h (hb.found h hfound), Option.map_some]
  by_cases hs : b.state e.object = .destroyed
  · exact ⟨_, .deed .withdraw, fun b' hb' => if_pos ((hstate b' hb').trans hs)⟩
  · exact ⟨_, .nothing, fun b' hb' => if_neg (hstate b' hb' ▸ hs)⟩

/-! ## Behind the fault boundary

A panic of local code ends it at a state like any other end, and what is done about the panic is
a line for the history. -/

/-- **Local code stays local behind the boundary**, where a panic is one result more. -/
theorem Local.catchNative {ε : Type} {p : Run (Except ε α)} {ok : Except ε α → Prop}
    (hp : e.Local p ok) (member : String) {ofFault : NativeFault → ε}
    (hfault : ∀ f, ok (.error (ofFault f))) :
    e.Local (HostBridge.catchNative member ofFault p) ok := by
  refine .attempt hp fun r hr => ?_
  match r with
  | .ok a => exact .pure (hr a rfl)
  | .error (.panicked p) => exact .bind (.record _) fun _ _ => .pure (hfault _)
  | .error .tooDeep => exact .crash _

/-- **A runner runs code of an estate locally**, and in all frames alike. -/
structure Runs (e : Estate) (run : Runner) (me : ThreadId) : Prop where
  native : ∀ {α : Type} {ok : α → Prop} {code : NativeCode α}, e.KeepsNative ok code →
    e.Local (run.native me code) ok
  managed : ∀ {α : Type} {ok : α → Prop} {code : ManagedCode α} (x : Context),
    e.KeepsManaged ok code → e.Local (run.managed me x code) ok
  frame : ∀ {α : Type} {ok : α → Prop} {code : ManagedCode α} (x : Context) (f : FrameId),
    e.KeepsManaged ok code → ∀ {w : World} {r : Except Crash α} {w' : World}, e.In w →
      (run.managed me x code).Ends w r w' →
      (run.managed me { x with frame := f } code).Ends w r w'

section Operations

variable (hrun : e.Runs run me)

include hrun

/-! ## Destruction

The longest of the operations: it waits, decides, strikes the handle, takes the resource out,
runs the hook, and buries the record. Every one of these goes by the one handle. -/

/-- The end of a destruction is local, with a hook that keeps to the estate. -/
theorem local_finishDestroy (hh : e.handle? = some h) :
    e.Local (Run.finishDestroy run me h) (fun _ => True) := by
  refine .bind (.deed (.unlist hh)) fun _ _ => ?_
  refine .bind (.onBridge (does_takeResource hh)) fun resource _ => ?_
  refine .bind (local_record hh) fun r? hr => ?_
  have last : e.Local (Run.changeBridge (·.setLifecycle h .destroyed)) (fun _ => True) :=
    .deed (.update hh fun _ => ⟨rfl, rfl⟩)
  match resource, r? with
  | some u, some r =>
    have hook : e.Local (do
        Run.record (.destruction h u)
        run.native me (r.hooks.destroy h u)
        return (.ok () : Except NativeFault Unit)) (fun _ => True) :=
      .bind (.record _) fun _ _ => .bind (hrun.native (hr r rfl u)) fun _ _ => .pure trivial
    refine .bind (hook.catchNative _ fun _ => trivial) fun ended _ => ?_
    cases ended with
    | ok _ => exact last
    | error fault => exact .bind (.record _) fun _ _ => last
  | some _, none => exact last
  | none, _ => exact last

/-- **A request for destruction is local**, whichever way it comes out. -/
theorem local_destroyRecord (hh : e.handle? = some h) :
    e.Local (Run.destroyRecord run me h) (fun _ => True) := by
  refine .bind (.onBridgeWhen (fun b b' hb' => ?_) (does_condemn me hh)) fun verdict _ => ?_
  · rw [Bridge.isSettled, Bridge.isSettled, Bridge.lifecycleAt, Bridge.lifecycleAt,
      hb'.record h hh]
  cases verdict with
  | accepted =>
    refine .bind (.await (·.isIdle h) fun b b' hb' => ?_) fun _ _ => ?_
    · rw [Bridge.isIdle, Bridge.isIdle, hb'.record h hh]
    · exact .bind (local_finishDestroy hrun hh) fun _ _ => .pure trivial
  | _ => exact .pure trivial

theorem local_destroy : e.Local (Run.destroy run me e.object) (fun _ => True) := by
  refine .bind local_find? fun h? hh => ?_
  cases h? with
  | some h => exact local_destroyRecord hrun (hh h rfl)
  | none => exact .pure trivial

/-- Releasing the handle is local, as destroying the object is. -/
theorem local_release (hh : e.handle? = some h) :
    e.Local (Run.release run me h) (fun _ => True) := by
  refine .bind (local_listed? hh) fun r? _ => ?_
  cases r? with
  | some r => exact local_destroyRecord hrun hh
  | none => exact .pure trivial

/-! ## Calls

The receiver is the object or none, and the handle that an implementation is given is the
estate's, because that is the one the record was found by. -/

omit hrun in
theorem local_enter (m : Member) : e.Local (Run.enter me e.object m)
    (fun r => ∀ h, r = .ok h → e.handle? = some h) := by
  refine .bind local_find? fun h? hh => ?_
  cases h? with
  | none => exact .pure fun h hr => (nomatch hr)
  | some h =>
    refine .bind (.onBridge (does_admitCall me (hh h rfl))) fun r _ => ?_
    cases r with
    | ok _ =>
      refine .pure fun g hg => ?_
      cases hg
      exact hh h rfl
    | error s => exact .pure fun h hr => (nomatch hr)

/-- The end of a call is local, also where it carries out a destruction. -/
theorem local_leave (hh : e.handle? = some h) :
    e.Local (Run.leave run me h) (fun _ => True) := by
  refine .bind (.onBridge (does_dismiss me hh)) fun last _ => ?_
  cases last with
  | true => exact local_finishDestroy hrun hh
  | false => exact .pure trivial

/-- An implementation of the estate is local, and its panics are stopped. -/
theorem local_runCall (m : Member) {c : NativeCall} {xs : List BoundaryValue}
    (hc : e.KeepsNative (fun r => ∀ x, r = .ok x → e.HoldsNative x) (c.run xs)) :
    e.Local (Run.runCall run me m c xs) (fun r => ∀ x, r = .ok x → e.HoldsNative x) :=
  (Local.bind (.record _) fun _ _ => hrun.native hc).catchNative _ fun _ _ hx => (nomatch hx)

omit hrun in
theorem local_settle (m : Member) {r : Except CallFailure BoundaryValue}
    (hr : ∀ x, r = .ok x → e.HoldsNative x) :
    e.Local (Run.settle m r) (fun r => ∀ x, r = .ok x → e.HoldsNative x) := by
  cases r with
  | error failure => exact .pure fun x hx => (nomatch hx)
  | ok v =>
    unfold Run.settle
    dsimp only
    cases v.checkTag m.signature.ret with
    | error f => exact .pure fun x hx => (nomatch hx)
    | ok _ =>
      refine .bind (.record _) fun _ _ => .pure fun x hx => ?_
      cases hx
      exact hr v rfl

/-- **A call of a member of the estate on the object.** -/
theorem local_invoke {m : Member} (hm : e.members m) {receiver : Option ObjectId}
    (hreceiver : ∀ o, receiver = some o → o = e.object) {xs : List BoundaryValue}
    (hxs : ∀ x ∈ xs, e.HoldsNative x) :
    e.Local (Run.invoke run me m receiver xs) (fun r => ∀ x, r = .ok x → e.HoldsNative x) := by
  have failed : ∀ {f : BridgeError}, ∀ x : BoundaryValue,
      (.error f : Except BridgeError BoundaryValue) = .ok x → e.HoldsNative x :=
    fun x hx => (nomatch hx)
  have hask : e.Local (Process.ask World.registry) e.KeepsCalls :=
    .ask fun w hw => ⟨hw.calls, fun v hv => hv.registry⟩
  refine .bind hask fun registry hregistry => ?_
  cases hc : Run.checkCall registry m xs with
  | error f => exact .pure failed
  | ok c =>
    obtain ⟨onInstance, onType⟩ := hregistry m c xs hm hc hxs
    dsimp only
    by_cases hi : m.isInstance = true
    · rw [if_pos hi]
      cases receiver with
      | none => exact .pure failed
      | some o =>
        obtain rfl := hreceiver o rfl
        refine .bind (local_enter m) fun r hr => ?_
        cases r with
        | error f => exact .pure failed
        | ok h =>
          have hh := hr h rfl
          refine .bind (local_runCall hrun m (onInstance hi h hh)) fun result hresult => ?_
          exact .bind (local_leave hrun hh) fun _ _ => local_settle m hresult
    · rw [if_neg hi]
      refine .bind (local_runCall hrun m (onType (Bool.eq_false_iff.2 hi))) fun result hresult => ?_
      exact local_settle m hresult

/-! ## Values on their way

Handles go out for objects and objects come in for handles, and both belong to the estate. -/

omit hrun in
theorem local_marshal {v : ManagedValue} (hv : e.HoldsManaged v) :
    e.Local (Run.marshal v) (fun r => ∀ x, r = .ok x → e.HoldsNative x) := by
  cases v with
  | object o =>
    obtain rfl : o = e.object := hv
    refine .bind local_handleOf fun r hr => ?_
    cases r with
    | ok h =>
      refine .pure fun x hx => ?_
      cases hx
      exact hr h rfl
    | error f => exact .pure fun x hx => (nomatch hx)
  | null => exact .pure fun x hx => (nomatch hx)
  | _ =>
    refine .pure fun x hx => ?_
    cases hx
    trivial

omit hrun in
theorem local_marshalAll {vs : List ManagedValue} (hvs : ∀ v ∈ vs, e.HoldsManaged v) :
    e.Local (Run.marshalAll vs) (fun r => ∀ xs, r = .ok xs → ∀ x ∈ xs, e.HoldsNative x) := by
  induction vs with
  | nil =>
    refine .pure fun xs hxs => ?_
    cases hxs
    exact fun x hx => (nomatch hx)
  | cons v vs ih =>
    obtain ⟨hv, hvs⟩ := List.forall_mem_cons.1 hvs
    refine .bind (local_marshal hv) fun r hr => ?_
    cases r with
    | error f => exact .pure fun xs hxs => (nomatch hxs)
    | ok x =>
      refine .bind (ih hvs) fun rs hrs => ?_
      cases rs with
      | error f => exact .pure fun xs hxs => (nomatch hxs)
      | ok xs =>
        refine .pure fun ys hys => ?_
        cases hys
        exact List.forall_mem_cons.2 ⟨hr x rfl, hrs xs rfl⟩

omit hrun in
theorem local_unmarshal {x : BoundaryValue} (hx : e.HoldsNative x) :
    e.Local (Run.unmarshal x) (fun r => ∀ v, r = .ok v → e.HoldsManaged v) := by
  cases x with
  | object h =>
    refine .bind (local_objectOf hx) fun r hr => ?_
    cases r with
    | ok o =>
      refine .pure fun v hv => ?_
      cases hv
      exact hr o rfl
    | error f => exact .pure fun v hv => (nomatch hv)
  | _ =>
    refine .pure fun v hv => ?_
    cases hv
    trivial

/-- **A call from managed code on the object is local**, and what it returns leads to no other.
-/
theorem local_callExtern {m : Member} (hm : e.members m) {vs : List ManagedValue}
    (hvs : ∀ v ∈ vs, e.HoldsManaged v) :
    e.Local (Run.callExtern run me m (some e.object) vs)
      (fun r => ∀ v, r = .ok v → e.HoldsManaged v) := by
  refine .bind (local_marshalAll hvs) fun r hr => ?_
  cases r with
  | error f => exact .pure fun v hv => (nomatch hv)
  | ok xs =>
    refine .bind (local_invoke hrun hm (fun o ho => (Option.some.inj ho).symm) (hr xs rfl))
      fun r hr => ?_
    cases r with
    | ok x => exact local_unmarshal (hr x rfl)
    | error f => exact .pure fun v hv => (nomatch hv)

/-! ## Code

By induction on the program, and then on the depth to which code is nested. -/

/-- **What native code may ask for is local**, and replies what it may. -/
theorem local_nativeReply {op : NativeOp} (hop : e.AsksNative op) :
    e.Local (Run.nativeReply run me op) (e.RepliesNative op) := by
  cases op with
  | note line => exact .record _
  | state o =>
    obtain rfl : o = e.object := hop
    exact local_stateOf
  | handleOf o =>
    obtain rfl : o = e.object := hop
    exact local_handleOf
  | objectOf h => exact local_objectOf hop
  | useResource h kind update => exact local_useResource hop kind update
  | destroy o =>
    obtain rfl : o = e.object := hop
    exact local_destroy hrun
  | release h => exact local_release hrun hop
  | forget o =>
    obtain rfl : o = e.object := hop
    exact local_forget
  | invoke m receiver args => exact local_invoke hrun hop.1 hop.2.1 hop.2.2
  | _ => exact hop.elim

/-- **Native code that keeps to an estate is local**, if what it may ask for is. -/
theorem local_runNative {ok : α → Prop} {code : NativeCode α} (hcode : e.KeepsNative ok code) :
    e.Local (Run.runNative run me code) ok := by
  induction code with
  | done a => exact .pure hcode
  | panic p => exact .crash _
  | perform op next ih =>
    exact .bind (local_nativeReply hrun hcode.1) fun r hr => ih r (hcode.2 r hr)

/-- **What managed code may ask for is local**, and replies what it may. -/
theorem local_managedReply {op : ManagedOp} (hop : e.AsksManaged op) (x : Context) :
    e.Local (Run.managedReply run me x op) (e.RepliesManaged op) := by
  cases op with
  | log text => exact .record _
  | note line => exact .record _
  | dispose o =>
    obtain rfl : o = e.object := hop
    exact local_destroy hrun
  | callExtern o name args =>
    obtain ⟨rfl, hm, hargs⟩ := hop
    have hcls : ∀ w : World, e.In w → w.domain.classOf e.object = .ok e.cls := fun w hw => by
      rw [Domain.classOf, hw.classOf]
    have hask : e.Local (Run.askDomain (·.classOf e.object)) (· = .ok e.cls) :=
      .ask fun w hw => ⟨hcls w hw, fun v hv => (hcls v (hw.agree hv)).trans (hcls w hw).symm⟩
    refine .bind hask fun r hr => ?_
    rw [hr]
    dsimp only
    cases hfound : e.cls.findExtern? name .perInstance args with
    | none => exact .pure fun v hv => (nomatch hv)
    | some m => exact local_callExtern hrun (hm m hfound) hargs
  | _ => exact hop.elim

/-- **Managed code that keeps to an estate is local**, if what it may ask for is. -/
theorem local_runManaged {ok : α → Prop} {code : ManagedCode α} (x : Context)
    (hcode : e.KeepsManaged ok code) : e.Local (Run.runManaged run me x code) ok := by
  induction code with
  | done a => exact .pure hcode
  | panic p => exact .crash _
  | perform op next ih =>
    exact .bind (local_managedReply hrun hcode.1 x) fun r hr => ih r (hcode.2 r hr)

/-- Managed code goes the same way in all frames, as long as it keeps to the estate. -/
theorem ends_runManaged_frame {ok : α → Prop} {code : ManagedCode α} (x : Context) (f : FrameId)
    (hcode : e.KeepsManaged ok code) {w : World} {r : Except Crash α} {w' : World} (hw : e.In w)
    (h : (Run.runManaged run me x code).Ends w r w') :
    (Run.runManaged run me { x with frame := f } code).Ends w r w' := by
  induction code generalizing w with
  | done a => exact h
  | panic p => exact h
  | perform op next ih =>
    have same : Run.managedReply run me { x with frame := f } op =
        Run.managedReply run me x op := by
      cases op with
      | log | note | dispose | callExtern => rfl
      | _ => exact hcode.1.elim
    unfold Run.runManaged
    rw [same]
    obtain ⟨a, v, ha, h⟩ | ⟨c, rfl, hc⟩ := Process.Ends.of_bind h
    · obtain ⟨hok, T, told, hT, hends⟩ := local_managedReply hrun hcode.1 x hw ha
      obtain ⟨-, rfl⟩ := (hends w (.refl w)).unique ha
      exact ha.bind (ih a (hcode.2 a (hok a rfl)) (hT.inState hw told) h)
    · exact hc.bind_crash

end Operations

/-- **Code that keeps to an estate is local to it**, however deep it nests. -/
theorem runs_nested (e : Estate) (me : ThreadId) (n : Nat) : e.Runs (.nested n) me := by
  induction n with
  | zero => exact ⟨fun _ => .crash _, fun _ _ => .crash _, fun _ _ _ _ _ _ _ h => h⟩
  | succ n ih =>
    exact ⟨fun hcode => local_runNative ih hcode, fun x hcode => local_runManaged ih x hcode,
      fun x f hcode _ _ _ hw h => ends_runManaged_frame ih x f hcode hw h⟩

end Estate

end HostBridge
