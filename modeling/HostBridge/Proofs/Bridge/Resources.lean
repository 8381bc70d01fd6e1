import HostBridge.Proofs.Bridge.Custody
import HostBridge.Proofs.Passage

/-!
# What destruction hooks are handed

The destruction hook of a handle is handed the resource that its construction hook returned,
with the changes that code made to it since then, one after the other and each of them once
(`resources_come_through`). This is so whatever threads do in between: calls within calls,
destructions that are left to the last call, hooks that run code of their own, and changes of
other resources.

A thread that takes the resource out of its record is the one that hands it to the hook, so
that a thread goes by the discipline of resources (`World.guarding`) if it ends with the grips
that it began with.

A change of a resource is one section. Code that looks at a resource, does something else and
then changes it does so in several sections, and others may have changed the resource between
them; the theorem is about each change by itself, and about the order that all of them have in
the history. It says what an update did (`Threads.UsesOnce`) from the side of the thread that
asked for it, so that no update is lost and none is made twice.
-/

namespace HostBridge

variable {α β ε : Type} {w w' : World} {b b' : Bridge} {g h : Handle} {me : ThreadId}
  {r : Resource}

/-! ## Sections that spare all resources

Everything the bridge does but to store a resource, to use it and to take it out. -/

/-- **All records stay**, with their resources. -/
def Bridge.SparesAll (b b' : Bridge) : Prop := ∀ h, b'.slot? h = b.slot? h

namespace Bridge.SparesAll

theorem refl (b : Bridge) : b.SparesAll b := fun _ => rfl

/-- A change of a record that leaves its resource alone spares all of them. -/
theorem updateRecord (b : Bridge) (h : Handle) {f : Record → Record}
    (hf : ∀ s, (f s).resource = s.resource) : b.SparesAll (b.updateRecord h f) := by
  intro g
  rw [b.slot?_updateRecord]
  split
  · exact congrArg (Option.map · _) (funext hf)
  · rfl

/-- Dropping an instance from the table spares its resource. -/
theorem forget (b : Bridge) (o : ObjectId) : b.SparesAll (b.forget o) := by
  unfold Bridge.forget
  split <;> exact fun _ => rfl

/-- The admission of a call spares all resources. -/
theorem admitCall (b : Bridge) (me : ThreadId) (h : Handle) :
    b.SparesAll (b.admitCall me h).2 := by
  obtain ⟨s, hs⟩ | ⟨r, -, -, ha⟩ := b.admitCall_cases me h
  · rw [hs]
    exact .refl b
  · rw [ha]
    exact .updateRecord b h fun _ => rfl

theorem dismiss (b : Bridge) (me : ThreadId) (h : Handle) :
    b.SparesAll (b.dismiss me h).2 := by
  unfold Bridge.dismiss
  dsimp only
  split
  · exact .refl b
  · split <;> exact .updateRecord b h fun _ => rfl

/-- **A request for destruction** spares all resources: what it does about them comes later. -/
theorem condemn (b : Bridge) (me : ThreadId) (h : Handle) :
    b.SparesAll (b.condemn me h).2 := by
  obtain hc | ⟨r, -, -, -, hc⟩ | ⟨r, -, -, -, hc⟩ := b.condemn_cases me h
  · rw [hc]
    exact .refl b
  · rw [hc]
    exact .updateRecord b h fun _ => rfl
  · rw [hc]
    exact .updateRecord b h fun _ => rfl

/-- Where there is no resource, none is taken. -/
theorem takeNothing (hr : (b.records.get? h).bind Record.resource = none) :
    b.SparesAll (b.takeResource h).2 := by
  intro g
  refine (b.slot?_updateRecord h g _).trans ?_
  split
  · next hg =>
    subst hg
    unfold slot?
    cases hs : b.records.get? g with
    | none => rfl
    | some s =>
      rw [hs] at hr
      exact congrArg some hr.symm
  · rfl

end Bridge.SparesAll

/-- **A change that spares all resources.** -/
def World.SparesAll (w w' : World) : Prop := ∀ h, w.Spares w' h

namespace World

theorem spares_onBridge (w : World) {events : List Event} (hb : w.bridge.SparesAll b)
    (he : ∀ e ∈ events, e.resource? = none) : w.SparesAll (w.onBridge b events) :=
  fun h => ⟨hb h, events, rfl, fun e hm => by simp [he e hm]⟩

/-- What the bridge has no part in spares all resources. -/
theorem Quiet.sparesAll (hq : w.Quiet w') : w.SparesAll w' := by
  obtain ⟨events, hh, he⟩ := hq.history
  refine fun h => ⟨by rw [hq.bridge], events, hh, fun e hm hr => ?_⟩
  have hn := he e hm
  cases e <;> cases hr <;> cases hn

end World

/-! ## Code that goes by the discipline

A thread has a grip on a handle from the section in which it is given the handle to the one in
which it stores the resource, and again from taking the resource out to handing it over. The
construction hook runs within the first of these. It may do what it likes all the same, since
what it begins it also ends, and the grip on its own handle is where it was. -/

/-- **The discipline of resources**, while handles are not numbered twice. -/
def World.guarding : Discipline World Grips where
  inv := World.Guarded
  within := fun w => (∃ own, w.Accounted own) ∧ w.constructions < 2 ^ 64
  demand := fun _ _ _ => True

/-- Code ends with the grips that it began with. -/
def Grips.same : Conduct Grips where
  rel := Eq
  trans := Eq.trans
  right := fun _ => rfl

/-- Code that goes by the discipline. -/
abbrev Guarding (me : ThreadId) (p : Run α) : Prop := p.Keeps World.guarding Grips.same me

namespace Guarding

/-! ### Sections, and operations that enter no code

A section goes by the discipline if it spares the resources of all handles. One does not, and it
is a use, which changes the resource in its place. -/

/-- What the bridge has no part in keeps the discipline. -/
theorem lenient : World.guarding.Lenient Grips.same where
  quiet := fun hw hq => hw.spare hq.sparesAll
  demand := fun _ _ => trivial
  silent := fun _ _ => trivial

theorem exchangeWhen {ready : World → Bool} {f : World → α × World}
    (h : ∀ w : World, w.SparesAll (f w).2) : Guarding me (Process.exchangeWhen ready f) := by
  intro x hx
  rw [← bind_pure (Process.exchangeWhen ready f)]
  refine Process.Follows.exchangeWhen (fun w own hw hme _ _ _ => ⟨trivial, x, ?_, .inr rfl⟩)
  rw [Function.update_eq_self_iff.2 hme.symm]
  exact hw.spare (h w)

/-- A section of the bridge that spares all resources keeps the discipline. -/
theorem onBridge {ready : Bridge → Bool} {f : Bridge → α × Bridge} {events : α → List Event}
    (h : ∀ b : Bridge, b.SparesAll (f b).2) (he : ∀ a, ∀ e ∈ events a, e.resource? = none) :
    Guarding me (Run.onBridgeWhen ready f events) :=
  exchangeWhen (fun w => w.spares_onBridge (h w.bridge) (he _))

theorem changeBridge {f : Bridge → Bridge} {events : List Event}
    (h : ∀ b : Bridge, b.SparesAll (f b)) (he : ∀ e ∈ events, e.resource? = none) :
    Guarding me (Run.changeBridge f events) :=
  exchangeWhen (f := fun w => ((), w.onBridge (f w.bridge) events))
    (fun w => w.spares_onBridge (h w.bridge) he)

theorem setLifecycle (h : Handle) (l : Lifecycle) :
    Guarding me (Run.changeBridge (·.setLifecycle h l)) :=
  changeBridge (fun b => .updateRecord b h fun _ => rfl) (by simp)

theorem record {e : Event} (he : e.resource? = none) : Guarding me (Run.record e) :=
  exchangeWhen (f := fun w => ((), w.record e)) (fun w h => ⟨rfl, [e], rfl, by simp [he]⟩)

/-- **The use of a resource keeps the discipline**: what is stored is what it was, changed once
more. -/
theorem useResource (h : Handle) (kind : ResourceKind) (update : kind.Carrier → kind.Carrier) :
    Guarding me (Run.useResource h kind update) := by
  refine .bind (lenient.askBridge _) (fun s? => ?_)
  cases s? with
  | none => exact .pure _
  | some s =>
    intro x hx
    dsimp only
    rw [← bind_pure (Run.onBridge _ (Run.useEvents h kind update))]
    refine Process.Follows.exchangeWhen (fun w own hw hme _ _ _ => ⟨trivial, x, ?_, .inr rfl⟩)
    rw [Function.update_eq_self_iff.2 hme.symm]
    dsimp only
    obtain ⟨e, hu⟩ | ⟨r, hs, rfl, hu⟩ := w.bridge.useResource_slot? h kind update
    · rw [hu]
      exact hw
    · rw [hu]
      exact hw.useResource hs update

/-- The admission of a call keeps the discipline. -/
theorem enter (o : ObjectId) (m : Member) : Guarding me (Run.enter me o m) := by
  refine .bind (lenient.askBridge _) (fun h? => ?_)
  cases h? with
  | none => exact .pure _
  | some h =>
    refine .bind (onBridge (fun b => .admitCall b me h) (fun a e he => ?_)) (fun entered => ?_)
    · cases a <;> simp [Run.admissionEvents] at he
      rw [he]
      rfl
    · cases entered <;> exact .pure _

theorem settle (m : Member) (result : Except CallFailure BoundaryValue) :
    Guarding me (Run.settle m result) := by
  cases result with
  | error failure => exact .pure _
  | ok v =>
    dsimp only [Run.settle]
    split
    · exact .pure _
    · exact .bind (lenient.log _ _) (fun _ => .pure _)

theorem beginCall (o : ObjectId) (m : Member) : Guarding me (Run.beginCall me o m) := by
  refine .bind (enter o m) (fun entered => ?_)
  cases entered with
  | error e => exact .pure _
  | ok h =>
    have keep : Guarding me (Run.keepCall me h) :=
      exchangeWhen (f := fun w => ((), { w with kept := (me, h) :: w.kept }))
        (fun w h => ⟨rfl, [], rfl, by simp⟩)
    exact .bind keep (fun _ => .pure _)

/-- **A thread lets go of a handle** in one section, and goes on. -/
theorem letGo_bind {x : Handle → Option Grip} {grip : Grip} {h : Handle} {f : World → World}
    {p : Run α} (hnone : x h = none)
    (hf : ∀ (w : World) own, w.Guarded own → own me h = some grip →
      (f w).Guarded (Function.update own me (Function.update (own me) h none)))
    (hp : Guarding me p) :
    (Process.change f >>= fun _ => p).Follows World.guarding me
      (fun e y => e = .error .tooDeep ∨ Grips.same.rel x y) (Function.update x h (some grip)) := by
  refine Process.Follows.change (fun w own hw hme _ _ => ⟨trivial, x, ?_, hp x rfl⟩)
  have hgrip : own me h = some grip := by simp [hme]
  have hback : Function.update x h none = x := Function.update_eq_self_iff.2 hnone.symm
  have := hf w own hw hgrip
  rwa [hme, Function.update_idem, hback] at this

section Running

variable {run : Runner} (hrun : run.Keeps (World.guarding.manners Grips.same) me)

include hrun

/-! ### Operations that enter code

The grip is given up before the hook of a destruction starts, together with the resource. The hook
of a construction starts before there is a resource to have a grip on, so that the thread goes
into it with the grip on an empty record, and comes out of it with the same. -/

theorem native (code : NativeCode α) : Guarding me (run.native me code) :=
  hrun.native code code.asks_true

/-- An implementation keeps the discipline, and its panics are stopped. -/
theorem runCall (m : Member) (c : NativeCall) (args : List BoundaryValue) :
    Guarding me (Run.runCall run me m c args) :=
  (lenient.catchNative _ _ (.bind (record rfl) (fun _ => native hrun _))).keeps

/-- **A destruction that is under way** hands over what it takes out. -/
theorem finishDestroy (h : Handle) : Guarding me (Run.finishDestroy run me h) := by
  refine .bind (changeBridge (fun _ => .refl _) (by simp)) (fun _ => ?_)
  intro x hx
  refine Process.Follows.exchangeWhen (fun w own hw hme _ _ _ => ⟨trivial, ?_⟩)
  dsimp only
  cases hr : (w.bridge.records.get? h).bind Record.resource with
  | none =>
    refine ⟨x, ?_, ?_⟩
    · rw [Function.update_eq_self_iff.2 hme.symm]
      exact hw.spare (w.spares_onBridge (.takeNothing hr) (by simp))
    · rw [show (w.bridge.takeResource h).1 = none from hr]
      exact Process.Keeps.bind (lenient.askBridge _) (fun _ => setLifecycle h _) x rfl
  | some v =>
    obtain ⟨s, hs, hv⟩ := Option.bind_eq_some_iff.1 hr
    have hslot : w.bridge.slot? h = some (some v) := by
      unfold Bridge.slot?
      rw [hs, Option.map_some, hv]
    obtain ⟨hnone, htaken⟩ : own me h = none ∧ _ := hw.take hslot
    rw [hme] at hnone htaken
    refine ⟨_, htaken, ?_⟩
    rw [show (w.bridge.takeResource h).1 = some v from hr]
    -- the record stays until the thread asks for it
    refine Process.Follows.ask (fun _ => trivial) (fun w own hw hme _ => ?_)
    have hgrip : own me h = some (.taken v) := by simp [hme]
    obtain ⟨-, -, -, hslot⟩ := (hw h).of_grip hgrip
    obtain ⟨s, hs, -⟩ := Option.map_eq_some_iff.1 hslot
    dsimp only
    rw [hs]
    have hook : (do
        Run.record (.destruction h v)
        run.native me (s.hooks.destroy h v)
        return Except.ok () : Run (Except NativeFault Unit)).Follows World.guarding me
        (fun e y => e = .error .tooDeep ∨ Grips.same.rel x y)
        (Function.update x h (some (.taken v))) :=
      letGo_bind hnone (fun _ _ hw hgrip => hw.hand hgrip)
        (.bind (native hrun _) (fun _ => .pure _))
    refine Process.Follows.bind ((Process.Settles.catchNative_from lenient.log_settles
      (s.typeName ++ "::.dtor") id hook).mono fun e y he => ?_)
    obtain rfl | ⟨⟨ended, rfl⟩, rfl⟩ := he
    · exact .inl rfl
    cases ended with
    | ok u => exact setLifecycle h _ x rfl
    | error fault =>
      exact Process.Keeps.bind (lenient.log _ _) (fun _ => setLifecycle h _) x rfl

/-- **A request for destruction keeps the discipline**, however it comes out. -/
theorem destroyRecord (h : Handle) : Guarding me (Run.destroyRecord run me h) := by
  refine .bind (onBridge (fun b => .condemn b me h) (fun a e he => ?_)) (fun verdict => ?_)
  · cases a <;> simp [Run.verdictEvents] at he
    all_goals
      rw [he]
      rfl
  cases verdict with
  | accepted =>
    exact .bind (exchangeWhen (f := fun w => ((), w)) (fun w => w.quiet_refl.sparesAll))
      (fun _ => .bind (finishDestroy hrun h) (fun _ => .pure _))
  | _ => exact .pure _

/-- The end of a call keeps the discipline, also where it carries out a destruction. -/
theorem leave (h : Handle) : Guarding me (Run.leave run me h) := by
  refine .bind (onBridge (fun b => .dismiss b me h) (by simp [Event.resource?]))
    (fun last => ?_)
  cases last with
  | true => exact finishDestroy hrun h
  | false => exact .pure _

/-- **A call of a bound member keeps the discipline.** -/
theorem invoke (m : Member) (receiver : Option ObjectId) (args : List BoundaryValue) :
    Guarding me (Run.invoke run me m receiver args) := by
  refine .bind (lenient.ask _) (fun registry => ?_)
  split
  · exact .pure _
  split
  · cases receiver with
    | none => exact .pure _
    | some o =>
      refine .bind (enter o m) (fun entered => ?_)
      cases entered with
      | error e => exact .pure _
      | ok h =>
        exact .bind (runCall hrun _ _ _) (fun result =>
          .bind (leave hrun h) (fun _ => settle m result))
  · exact .bind (runCall hrun _ _ _) (fun result => settle m result)

theorem endCall (h : Handle) : Guarding me (Run.endCall run me h) := by
  have take : Guarding me (Run.takeCall me h) :=
    exchangeWhen (fun w h => ⟨rfl, [], rfl, by simp⟩)
  refine .bind take (fun taken => ?_)
  cases taken with
  | true => exact .bind (leave hrun h) (fun _ => .pure _)
  | false => exact .pure _

/-- **A construction** stores what it has built, or gives its handle up. -/
theorem attach (o : ObjectId) (typeName : String) (hooks : Hooks) :
    Guarding me (Run.attach run me o typeName hooks) := by
  intro x hx
  refine Process.Follows.exchangeWhen (fun w own hw hme hs _ hs' => ⟨trivial, ?_⟩)
  obtain ⟨⟨stakes, ha⟩, -⟩ := hs
  have hcount : (w.onBridge w.bridge.reserve.2 [.issued w.bridge.reserve.1]).constructions =
      w.constructions + 1 :=
    List.countP_cons_of_pos rfl
  obtain ⟨hnone, hreserved⟩ : own me w.bridge.reserve.1 = none ∧ _ :=
    hw.reserve ha (hcount ▸ hs'.2)
  rw [hme] at hnone hreserved
  refine ⟨_, hreserved, ?_⟩
  generalize w.bridge.reserve.1 = h at hnone
  refine Process.Follows.exchangeWhen (fun w own hw hme _ _ _ => ⟨trivial, ?_⟩)
  have hgrip : own me h = some .reserved := by simp [hme]
  obtain ⟨s, ha⟩ | ⟨-, ha⟩ := w.bridge.announce_cases o typeName hooks h
  · -- the instance has a record in use
    have hspares : w.SparesAll (w.onBridge w.bridge [.discarded h]) :=
      w.spares_onBridge (.refl _) (by simp [Event.resource?])
    have := hw.giveUp hgrip (.inl rfl) hspares
    have hback : Function.update x h none = x := Function.update_eq_self_iff.2 hnone.symm
    rw [hme, Function.update_idem, hback] at this
    dsimp only
    rw [ha]
    exact ⟨x, this, .inr rfl⟩
  have hopened := hw.opened hgrip (s := { object := o, typeName := typeName, hooks := hooks }) rfl
    (w.bridge.instances.insert o h)
  rw [hme, Function.update_idem] at hopened
  dsimp only
  rw [ha]
  refine ⟨_, hopened, ?_⟩
  refine Process.Follows.bind ((lenient.catchNative _ _
    (.bind (record rfl) (fun _ => native hrun _)) _ rfl).mono fun e y he => ?_)
  obtain rfl | ⟨⟨built, rfl⟩, rfl⟩ := he
  · exact .inl rfl
  cases built with
  | ok resource =>
    have list : Guarding me (Run.changeBridge (·.list h)) :=
      changeBridge (fun _ => .refl _) (by simp)
    exact letGo_bind hnone (fun _ _ hw hgrip => hw.equip hgrip resource)
      (.bind list (fun _ => .bind (setLifecycle h _) (fun _ => .pure _)))
  | error fault =>
    have hspares : ∀ w : World, w.SparesAll (w.onBridge (w.bridge.withdraw o)) := fun w =>
      w.spares_onBridge (.refl _) (by simp)
    exact letGo_bind hnone (fun w _ hw hgrip => hw.giveUp hgrip (.inr rfl) (hspares w))
      (.bind (changeBridge (fun b => .updateRecord b h fun _ => rfl) (by simp [Event.resource?]))
        (fun _ => .bind (lenient.log _ _) (fun _ => .pure _)))

/-- A construction that the type decides about keeps the discipline. -/
theorem construct (typeName : String) (o : ObjectId) :
    Guarding me (Run.construct run me typeName o) := by
  refine .bind (lenient.ask _) (fun registry => ?_)
  split
  · refine .bind (attach hrun _ _ _) (fun result => ?_)
    cases result <;> exact .pure _
  · exact .pure _

end Running

/-- **All code goes by the discipline.** -/
theorem upheld (me : ThreadId) : (World.guarding.manners Grips.same).Upheld me :=
  lenient.upheld {
    ask := lenient.ask
    note := fun _ => record rfl
    log := lenient.log
    useResource := useResource
    forget := fun o => changeBridge (fun b => .forget b o) (by simp)
    construct := fun hrun typeName o _ => construct hrun typeName o
    destroyRecord := fun hrun => destroyRecord hrun
    invoke := fun hrun => invoke hrun
    beginCall := beginCall
    endCall := fun hrun => endCall hrun }

end Guarding

/-! ## Uses of a resource

A use is performed in two sections, one that looks the handle up and one that changes the
resource. In between the instance may be destroyed; the second section finds out. -/

/-- **A thread asks for one change of a resource**, on its way from one point of an interleaving
to another. Either it is told why not, and has changed nothing, or it has changed the resource
once, as a resource of its kind, and is told what it was before. All else that happens
meanwhile, other threads do. -/
def Threads.UsesOnce (t : Threads World α) (me : ThreadId) (g : Handle) (kind : ResourceKind)
    (update : kind.Carrier → kind.Carrier) (result : Except BridgeError kind.Carrier)
    (u : Threads World α) : Prop :=
  ∃ (t' v v' : Threads World α) (l₁ l₂ : List (Threads World α)), t'.state = t.state ∧
    Others me t' l₁ v ∧ Others me v' l₂ u ∧
    ((∃ e, result = .error e ∧ v'.state = v.state) ∨
      ∃ r, v.state.bridge.slot? g = some (some r) ∧
        (∃ same : r.kind = kind, result = .ok (same ▸ r.value)) ∧
        v'.state.history = .used g kind update :: v.state.history ∧
        v'.state.bridge.slot? g = some (some (r.change kind update)) ∧
        ∀ h, h ≠ g → v'.state.bridge.slot? h = v.state.bridge.slot? h)

/-- **Who asks for a change has it made once**, or is told why not. -/
theorem Threads.Performs.useResource {t u : Threads World α} {l : List (Threads World α)}
    {kind : ResourceKind} {update : kind.Carrier → kind.Carrier}
    {result : Except BridgeError kind.Carrier}
    (h : t.Performs me (Run.useResource g kind update) l (.ok result) u) :
    t.UsesOnce me g kind update result u := by
  obtain ⟨found, v, l₁, l₂, rfl, hask, h⟩ := h.bind
  obtain ⟨-, l', t', -, ht', -, hothers⟩ := hask.ask
  cases found with
  | none =>
    obtain ⟨hr, -, rfl⟩ := h.pure
    exact ⟨t', u, u, l', [], ht', hothers, .here, .inl ⟨_, Except.ok.inj hr, rfl⟩⟩
  | some s =>
    obtain ⟨-, hr, l'', v', -, hv', -, hothers'⟩ := h.exchangeWhen
    refine ⟨t', v, v', l', l'', ht', hothers, hothers', ?_⟩
    dsimp only at hr hv'
    obtain ⟨e, hu⟩ | ⟨r, hs, same, hu⟩ := v.state.bridge.useResource_slot? g kind update
    · rw [hu] at hr hv'
      exact .inl ⟨e, Except.ok.inj hr, hv'⟩
    · rw [hu] at hr hv'
      obtain ⟨x, hx, -⟩ := Option.map_eq_some_iff.1 hs
      have hslot := v.state.bridge.slot?_updateRecord g
      refine .inr ⟨r, hs, ⟨same, Except.ok.inj hr⟩, by rw [hv']; rfl, ?_, fun h hh => ?_⟩
      · rw [hv']
        refine (hslot g _).trans ((if_pos rfl).trans ?_)
        rw [hx]
        rfl
      · rw [hv']
        exact (hslot h _).trans (if_neg hh)

/-! ## Interleavings

Nobody has a grip on anything where a host starts, and so the custody of every handle is in order
at every point. What is left is to read it off for the sections in which a resource is changed or
handed over. -/

/-- **Every resource is accounted for** in every interleaving. -/
theorem World.Fresh.guarded_of_reaches (hw : w.Fresh) {n : Nat} {code : ThreadId → NativeCode α}
    {t : Threads World α}
    (ht : (w.threads n code).Reaches (fun w => w.constructions < 2 ^ 64) t) :
    ∃ own, t.state.Guarded own := by
  have hstart : w.Guarded (fun _ _ => none) := by
    refine fun h => .free (fun _ => rfl) (.unbuilt ?_ ?_)
    · rw [hw.history]
      exact List.forall_mem_nil _
    · rw [hw.bridge]
      rfl
  have follow : ∀ me, ((w.threads n code).todo me).Follows World.guarding me
      (fun e x => e = .error .tooDeep ∨ Grips.same.rel (fun _ => none) x) (fun _ => none) :=
    fun me => (Guarding.upheld me).runNative ((Guarding.upheld me).keeps_nested n) (code me)
      (code me).asks_true _ rfl
  have hwithin : (w.threads n code).Reaches World.guarding.within t :=
    (ht.along fun v hv _ => hw.accounted_of_reaches hv).mono fun _ h => ⟨h.2, h.1⟩
  obtain ⟨own, hown, -⟩ := Threads.Reaches.keeps (D := World.guarding) hwithin hstart follow
  exact ⟨own, hown⟩

/-- **Resources come through to their hooks.** At every point of every interleaving from the start
of a host on, while handles are not numbered twice:
* what the destruction hook of a handle was handed when it started is the resource that the
  construction hook had returned, with all changes made to it since then, each of them once, one
  after the other; it is handed over once, and there is no change of it after that;
* as long as a resource is stored, it is just as far on this way;
* who asks for a change, whatever handle it is of, either is told why not, and then nothing has
  been changed, or has changed the one resource once, and is told what it was before. -/
theorem resources_come_through (hw : w.Fresh) {n : Nat} {code : ThreadId → NativeCode α}
    {t : Threads World α}
    (ht : (w.threads n code).Reaches (fun w => w.constructions < 2 ^ 64) t) (h : Handle) :
    (∀ later r earlier, t.state.history = later ++ .destruction h r :: earlier →
      Accrued h earlier r ∧ Untouched h later) ∧
    (∀ r, t.state.bridge.slot? h = some (some r) → Accrued h t.state.history r) ∧
    ∀ me g kind update l result u,
      t.Performs me (Run.useResource g kind update) l (.ok result) u →
        t.UsesOnce me g kind update result u := by
  obtain ⟨own, hown⟩ := hw.guarded_of_reaches ht
  refine ⟨fun later r earlier hh => ?_, fun r hs => ?_, fun me g kind update l result u hp =>
    hp.useResource⟩
  · obtain ⟨htended, hlater⟩ := (hown h).of_destruction hh
    exact ⟨htended.accrued, hlater⟩
  · obtain ⟨-, -, htended⟩ := (hown h).of_slot? hs
    exact htended.accrued

/-! ## A resource that is changed twice

Two changes that do not commute, so that their order can be told from the result, and one that is
refused between them. -/

/-- A host with one type, whose instances have a number. -/
def tallyHost : World :=
  .start ⟨.empty, Table.empty.insert "T"
    { construct := fun _ => .done (.ok ⟨.long, 5⟩), destroy := fun _ _ => .done () }⟩
    .empty "host" 8

theorem tallyHost_fresh : tallyHost.Fresh := ⟨rfl, rfl, rfl⟩

/-- The number is changed twice, taken for a text in between, and destroyed. -/
def tallying : NativeCode Unit := do
  let _ ← NativeCode.op (.construct "T" ⟨1⟩)
  let _ ← NativeCode.op (.useResource ⟨1⟩ .long (· + 1))
  let _ ← NativeCode.op (.useResource ⟨1⟩ .text (· ++ "!"))
  let _ ← NativeCode.op (.useResource ⟨1⟩ .long (· * 2))
  let _ ← NativeCode.op (.destroy ⟨1⟩)
  return

/-- Where it is destroyed. -/
def tallied : World := ((tallying.course 1 mainThread).advance tallyHost).2

/-- The hook is handed the number with both changes. -/
theorem resources_come_through_tallied : ∃ (t : Threads World Unit) (earlier : List Event),
    (tallyHost.threads 1 fun _ => tallying).Reaches (fun w => w.constructions < 2 ^ 64) t ∧
      t.state.history = .destruction ⟨1⟩ ⟨.long, 12⟩ :: earlier ∧
      Accrued ⟨1⟩ earlier ⟨.long, 12⟩ ∧ (uses ⟨1⟩ earlier).length = 2 := by
  have hwithin : (tallying.course 1 mainThread).Always (fun w => w.constructions < 2 ^ 64)
      tallyHost := by decide +kernel
  have hreach : (tallying.course 1 mainThread).Reaches (fun w => w.constructions < 2 ^ 64)
      tallyHost _ tallied :=
    .of_forall (fun q s hq => (hq.always hwithin).here)
      ((tallying.course 1 mainThread).reaches_advance tallyHost)
  obtain ⟨t, ht, hstate, -⟩ :=
    (tallyHost.threads 1 fun _ => tallying).reaches_alone hreach rfl
  have hhistory : t.state.history = [] ++ .destruction ⟨1⟩ ⟨.long, 12⟩ :: tallied.history.tail := by
    rw [hstate]
    rfl
  exact ⟨t, _, ht, hhistory,
    ((resources_come_through tallyHost_fresh ht ⟨1⟩).1 [] _ _ hhistory).1, rfl⟩

end HostBridge
