import HostBridge.Proofs.Bridge.Quiet
import HostBridge.Proofs.Domain.Ledger

/-!
# What the domain has no part in

What code does to bridged instances, and what it writes to the journal and to the log, is
**idle** for a discipline that speaks of the objects of a domain (`World.Idle`). If such a
discipline is heedless of idle changes, the operations of the bridge keep every conduct as
soon as the code does that they enter (`Discipline.Heedless.bridged`).

They do more: none of them panics, whatever the code does that they enter. A hook or an
implementation that panics has faulted, and a construction, a destruction and a call go on
after that.

This is the counterpart of the module on what the bridge has no part in. A statement on objects,
roots or frames says nothing of handles, and with this module it is proved from the operations
of the domain alone. That the operations of the bridge settle, and do not just keep the conduct,
is needed where the domain has something to do after them: an object whose construction failed
is taken off the heap, and one whose destruction was asked for is.
-/

namespace HostBridge

/-- **A change that the domain has no part in**: of the bridge, of the calls that native code
keeps, and of the history by events that put no object on the heap. -/
structure World.Idle (w w' : World) : Prop where
  registry : w'.registry = w.registry
  domain : w'.domain = w.domain
  history : ∃ events, w'.history = events ++ w.history ∧ ∀ e ∈ events, e.isAllocation = false

theorem World.idle_refl (w : World) : w.Idle w := ⟨rfl, rfl, [], rfl, by simp⟩

/-- A line that puts nothing on the heap is idle. -/
theorem World.idle_record (w : World) {e : Event} (h : e.isAllocation = false) :
    w.Idle (w.record e) :=
  ⟨rfl, rfl, [e], rfl, by simpa using h⟩

/-- **A change of the bridge is idle**, with whatever it tells of handles. -/
theorem World.idle_onBridge (w : World) (b : Bridge) {events : List Event}
    (h : ∀ e ∈ events, e.isAllocation = false) : w.Idle (w.onBridge b events) :=
  ⟨rfl, rfl, events, rfl, h⟩

/-- The calls that native code keeps running are none of the domain's. -/
theorem World.idle_keep (w : World) (kept : List (ThreadId × Handle)) :
    w.Idle { w with kept := kept } :=
  ⟨rfl, rfl, [], rfl, by simp⟩

/-- Nothing is put on the heap meanwhile. -/
theorem World.Idle.allocations {w w' : World} (h : w.Idle w') : w'.allocations = w.allocations := by
  obtain ⟨events, he, hv⟩ := h.history
  exact World.allocations_append he hv

variable {τ α β ε : Type}

/-- **A heedless discipline** bears with idle changes, and demands nothing of them. -/
structure Discipline.Heedless (D : Discipline World τ) : Prop where
  inv : ∀ {w w' own}, D.inv w own → w.Idle w' → D.inv w' own
  demand : ∀ {w w' x}, w.Idle w' → D.demand w w' x

namespace Discipline.Heedless

variable {D : Discipline World τ} {C : Conduct τ} {me : ThreadId} {run : Runner}
  (hD : D.Heedless)

include hD

/-! ## Idle sections

An idle section leaves the stake as it is, and there is nothing in it that could panic. -/

/-- An idle section settles every conduct. -/
theorem exchangeWhen {ready : World → Bool} {f : World → α × World}
    (h : ∀ w : World, w.Idle (f w).2) : (Process.exchangeWhen ready f).Settles D C me := by
  intro x hx
  rw [← bind_pure (Process.exchangeWhen ready f)]
  refine Process.Follows.exchangeWhen (fun w own hinv hme _ _ _ =>
    ⟨hD.demand (h w), x, ?_, .inr ⟨⟨_, rfl⟩, hx⟩⟩)
  rw [Function.update_eq_self_iff.2 hme.symm]
  exact hD.inv hinv (h w)

theorem change {f : World → World} (h : ∀ w : World, w.Idle (f w)) :
    (Process.change f).Settles D C me :=
  hD.exchangeWhen (f := fun w => ((), f w)) h

theorem ask (f : World → α) : (Process.ask f).Settles D C me :=
  hD.exchangeWhen (f := fun w => (f w, w)) World.idle_refl

theorem await (ready : World → Bool) : (Process.await ready).Settles D C me :=
  hD.exchangeWhen (f := fun w => ((), w)) World.idle_refl

theorem record {e : Event} (h : e.isAllocation = false) : (Run.record e).Settles D C me :=
  hD.change (fun w => w.idle_record h)

theorem log (level : LogLevel) (text : String) : (Run.log level text).Settles D C me :=
  hD.record rfl

theorem askBridge (f : Bridge → α) : (Run.askBridge f).Settles D C me := hD.ask _

theorem askDomain (f : Domain → α) : (Run.askDomain f).Settles D C me := hD.ask _

/-- **A section of the bridge settles every conduct**, whatever it does there. -/
theorem onBridgeWhen {ready : Bridge → Bool} {f : Bridge → α × Bridge} {events : α → List Event}
    (h : ∀ a, ∀ e ∈ events a, e.isAllocation = false) :
    (Run.onBridgeWhen ready f events).Settles D C me :=
  hD.exchangeWhen (fun w => w.idle_onBridge _ (h _))

theorem changeBridge {f : Bridge → Bridge} {events : List Event}
    (h : ∀ e ∈ events, e.isAllocation = false) : (Run.changeBridge f events).Settles D C me :=
  hD.change (fun w => w.idle_onBridge _ h)

/-- Guarded native code settles a conduct that it keeps. -/
theorem catchNative {member : String} {ofFault : NativeFault → ε} {code : Run (Except ε α)}
    (h : code.Keeps D C me) : (HostBridge.catchNative member ofFault code).Settles D C me :=
  .catchNative hD.log member ofFault h

/-! ## The operations of the bridge

They are gone through in the order of their texts. Wherever code is entered it is guarded, and
so the only crash that comes out of them is that of nesting too deeply. -/

/-- The admission of a call settles every conduct. -/
theorem enter (o : ObjectId) (m : Member) : (Run.enter me o m).Settles D C me := by
  refine .bind (hD.askBridge _) (fun h? => ?_)
  cases h? with
  | none => exact .pure _
  | some h =>
    refine .bind (hD.onBridgeWhen (fun a e he => ?_)) (fun entered => ?_)
    · cases a <;> simp [Run.admissionEvents] at he
      subst he
      rfl
    · cases entered <;> exact .pure _

theorem settle (m : Member) (result : Except CallFailure BoundaryValue) :
    (Run.settle m result).Settles D C me := by
  cases result with
  | error failure => exact .pure _
  | ok v =>
    dsimp only [Run.settle]
    split
    · exact .pure _
    · exact .bind (hD.log _ _) (fun _ => .pure _)

section Running

variable (hrun : run.Keeps (D.manners C) me)

include hrun

omit hD in
theorem native (code : NativeCode α) : (run.native me code).Keeps D C me :=
  hrun.native code code.asks_true

/-- **A construction does not panic**: a hook that does has failed. -/
theorem attach (o : ObjectId) (typeName : String) (hooks : Hooks) :
    (Run.attach run me o typeName hooks).Settles D C me := by
  refine .bind (hD.onBridgeWhen (by simp [Event.isAllocation])) (fun h =>
    .bind (hD.onBridgeWhen (fun _ _ he => Run.eq_of_mem_announcementEvents he ▸ rfl))
      (fun announced => ?_))
  cases announced with
  | error state => exact .pure _
  | ok u =>
    refine .bind (hD.catchNative (.bind (hD.record rfl).keeps (fun _ => native hrun _)))
      (fun built => ?_)
    cases built with
    | ok resource =>
      exact .bind (hD.changeBridge (by simp [Event.isAllocation])) (fun _ =>
        .bind (hD.changeBridge (by simp)) (fun _ =>
          .bind (hD.changeBridge (by simp)) (fun _ => .pure _)))
    | error fault =>
      exact .bind (hD.changeBridge (by simp)) (fun _ =>
        .bind (hD.changeBridge (by simp [Event.isAllocation]))
          (fun _ => .bind (hD.log _ _) (fun _ => .pure _)))

/-- A construction that the type decides about settles the conduct, as one that runs a hook
does. -/
theorem construct (typeName : String) (o : ObjectId) :
    (Run.construct run me typeName o).Settles D C me := by
  refine .bind (hD.ask _) (fun registry => ?_)
  split
  · refine .bind (hD.attach hrun _ _ _) (fun built => ?_)
    cases built <;> exact .pure _
  · exact .pure _

/-- **A destruction does not panic**: a hook that does has had its resource. -/
theorem finishDestroy (h : Handle) : (Run.finishDestroy run me h).Settles D C me := by
  have last : (Run.changeBridge (·.setLifecycle h .destroyed)).Settles D C me :=
    hD.changeBridge (by simp)
  refine .bind (hD.changeBridge (by simp)) (fun _ => .bind (hD.onBridgeWhen (by simp))
    (fun resource => .bind (hD.askBridge _) (fun record? => ?_)))
  split
  · refine .bind (hD.catchNative (.bind (hD.record rfl).keeps (fun _ =>
      .bind (native hrun _) (fun _ => .pure _)))) (fun ended => ?_)
    cases ended with
    | ok u => exact last
    | error fault => exact .bind (hD.log _ _) (fun _ => last)
  · exact last

/-- **A request for destruction does not panic**, however it comes out. -/
theorem destroyRecord (h : Handle) : (Run.destroyRecord run me h).Settles D C me := by
  refine .bind (hD.onBridgeWhen (fun a e he => ?_)) (fun verdict => ?_)
  · cases a <;> simp [Run.verdictEvents] at he
    all_goals
      subst he
      rfl
  · cases verdict with
    | accepted =>
      exact .bind (hD.await _) (fun _ => .bind (hD.finishDestroy hrun h) (fun _ => .pure _))
    | _ => exact .pure _

theorem destroy (o : ObjectId) : (Run.destroy run me o).Settles D C me := by
  refine .bind (hD.askBridge _) (fun h? => ?_)
  cases h? with
  | some h => exact hD.destroyRecord hrun h
  | none => exact .pure _

/-- The end of a call does not panic, also where it carries out a destruction. -/
theorem leave (h : Handle) : (Run.leave run me h).Settles D C me := by
  refine .bind (hD.onBridgeWhen (by simp [Event.isAllocation])) (fun last => ?_)
  cases last with
  | true => exact hD.finishDestroy hrun h
  | false => exact .pure _

/-- An implementation that panics has faulted. -/
theorem runCall (m : Member) (c : NativeCall) (args : List BoundaryValue) :
    (Run.runCall run me m c args).Settles D C me :=
  hD.catchNative (.bind (hD.record rfl).keeps (fun _ => native hrun _))

/-- **A call of a native member does not panic**: an implementation that does has faulted. -/
theorem invoke (m : Member) (receiver : Option ObjectId) (args : List BoundaryValue) :
    (Run.invoke run me m receiver args).Settles D C me := by
  refine .bind (hD.ask _) (fun registry => ?_)
  split
  · exact .pure _
  split
  · cases receiver with
    | none => exact .pure _
    | some o =>
      refine .bind (hD.enter o m) (fun entered => ?_)
      cases entered with
      | error e => exact .pure _
      | ok h =>
        exact .bind (hD.runCall hrun _ _ _) (fun result =>
          .bind (hD.leave hrun h) (fun _ => hD.settle m result))
  · exact .bind (hD.runCall hrun _ _ _) (fun result => hD.settle m result)

end Running

/-! ## Access and kept calls

What is left of what code may ask the bridge for. -/

/-- The use of a resource settles every conduct: the function that is applied cannot panic. -/
theorem useResource (h : Handle) (kind : ResourceKind) (update : kind.Carrier → kind.Carrier) :
    (Run.useResource h kind update).Settles D C me := by
  refine .bind (hD.askBridge _) (fun r? => ?_)
  cases r? with
  | none => exact .pure _
  | some r => exact hD.onBridgeWhen (fun _ _ he => Run.eq_of_mem_useEvents he ▸ rfl)

theorem forget (o : ObjectId) : (Run.forget o).Settles D C me := hD.changeBridge (by simp)

theorem beginCall (o : ObjectId) (m : Member) : (Run.beginCall me o m).Settles D C me := by
  refine .bind (hD.enter o m) (fun entered => ?_)
  cases entered with
  | error e => exact .pure _
  | ok h =>
    have keep : (Run.keepCall me h).Settles D C me := hD.change (fun w => w.idle_keep _)
    exact .bind keep (fun _ => .pure _)

/-- The end of a kept call is the end of a call. -/
theorem endCall (hrun : run.Keeps (D.manners C) me) (h : Handle) :
    (Run.endCall run me h).Settles D C me := by
  have take : (Run.takeCall me h).Settles D C me := hD.exchangeWhen (fun w => w.idle_keep _)
  refine .bind take (fun taken => ?_)
  cases taken with
  | true => exact .bind (hD.leave hrun h) (fun _ => .pure _)
  | false => exact .pure _

/-- **The operations of the bridge keep every conduct.** -/
theorem bridged (C : Conduct τ) (me : ThreadId) : (D.manners C).Bridged me where
  ask := fun f => (hD.ask f).keeps
  note := fun _ => (hD.record rfl).keeps
  log := fun level text => (hD.log level text).keeps
  useResource := fun h kind update => (hD.useResource h kind update).keeps
  forget := fun o => (hD.forget o).keeps
  construct := fun hrun typeName o _ => (hD.construct hrun typeName o).keeps
  destroyRecord := fun hrun h => (hD.destroyRecord hrun h).keeps
  invoke := fun hrun m receiver args => (hD.invoke hrun m receiver args).keeps
  beginCall := fun o m => (hD.beginCall o m).keeps
  endCall := fun hrun h => (hD.endCall hrun h).keeps

end Discipline.Heedless

end HostBridge
