import HostBridge.Proofs.Domain.Conduct

/-!
# The bridge and the books

The operations of the bridge that enter code keep the books of the domain as long as that
code does: constructions of instances, which count as those of new objects while their
hooks run (`follows_attach`), and calls of native members (`settles_invoke`). What is left
are sections that carry the objects along.

So the bridge has no part in the books (`bridged`).

The books look at the bridge for one thing: where the domain alone constructs instances, every
construction that is running is that of an object which the domain is making (`World.Sound`). A
section that announces a construction has to keep that, and code must leave no construction half
done (`World.Extends`). All the rest of the bridge may change as it likes.
-/

namespace HostBridge

variable {r : Regime} {me : ThreadId} {w w' : World} {x y z : Ledger} {run : Runner} {α β : Type}

/-! ## Construction of instances

From the announcement of the handle, through the hook, to the record that is live or gone. -/

/-- What code leaves behind that ran while an instance was constructed is what it leaves
behind altogether, once the construction is over. -/
theorem World.Extends.of_announce {b : Bridge} {h : Handle} {s : Record}
    (hb : b.records = w.bridge.records.insert h s) (hw : (w.onBridge b).Extends [] w')
    (hl : ∀ s', w'.bridge.records.get? h = some s' → s'.lifecycle ≠ .constructing) :
    w.Extends [] w' where
  history := hw.history
  held := hw.held
  pending := hw.pending
  building := fun g s' hs' hl' => by
    obtain ⟨s₀, hs₀, hc, ho⟩ := hw.building g s' hs' hl'
    have hg : g ≠ h := fun hg => hl s' (hg ▸ hs') hl'
    have hs₁ : b.records.get? g = some s₀ := hs₀
    rw [hb, Table.get?_insert, if_neg hg] at hs₁
    exact ⟨s₀, hs₁, hc, ho⟩

/-- A construction of an instance begins on behalf of one of an object. -/
theorem World.Sound.announce (hw : w.Sound r) {b : Bridge} {h : Handle} {s : Record}
    (hb : b.records = w.bridge.records.insert h s)
    (ho : r = .sole → s.object ∈ w.domain.allocating) : (w.onBridge b).Sound r := by
  intro hr g s' hs' hl
  have hs₁ : b.records.get? g = some s' := hs'
  rw [hb, Table.get?_insert] at hs₁
  split at hs₁
  · obtain rfl := Option.some.inj hs₁
    exact ho hr
  · exact hw hr g s' hs₁ hl

namespace Ledger

theorem Balanced.announce (hx : x.Balanced r me) {b : Bridge} {h : Handle} {s : Record}
    (hb : b.records = x.world.bridge.records.insert h s) (hs : s.hooks.Asks r.Permits) :
    (Ledger.mk (x.world.onBridge b) x.births).Balanced r me where
  hosted := {
    registry := hx.hosted.registry
    hooks := fun g s' hs' => by
      have hs₁ : b.records.get? g = some s' := hs'
      rw [hb, Table.get?_insert] at hs₁
      split at hs₁
      · obtain rfl := Option.some.inj hs₁
        exact hs
      · exact hx.hosted.hooks g s' hs₁
    kept := hx.hosted.kept }
  census := { hx.census with }
  depth := hx.depth
  secured := hx.secured
  exact := hx.exact

/-- **The end of a construction**: its record is not under construction any more. -/
theorem follows_conclude {b : Bridge} {h : Handle} {s : Record} {l : Lifecycle}
    {events : List Event} {k : Unit → Run β} {post : Except Crash β → Ledger → Prop}
    (hx : x.world.Sound r) (hb : b.records = x.world.bridge.records.insert h s)
    (hl : l ≠ .constructing) (he : ∀ e ∈ events, e.isVital = false)
    (hy : (Ledger.native r).rel ⟨x.world.onBridge b, x.births⟩ y)
    (hk : ∀ z, (Ledger.native r).rel x z → (k ()).Follows (World.rooting r me) me post z) :
    (Run.changeBridge (·.setLifecycle h l) events >>= k).Follows (World.rooting r me) me
      post y := by
  refine follows_change (fun hbal _ _ => ?_)
  have hc : y.world.Carries me (y.world.onBridge (y.world.bridge.setLifecycle h l) events) :=
    World.carries_onBridge (Bridge.onward_setLifecycle _ h hl) he
  have hr : Returns ⟨x.world.onBridge b, x.births⟩ _ :=
    hy.2.1.carry hc (fun _ => Nat.le_refl _) rfl
  refine ⟨demand_of_carries hc, y.births, hbal.idle hc rfl, hk _ ⟨hx, ?_, hy.2.2⟩⟩
  exact ⟨hr.world.of_announce hb (fun s' hs' => by
    have hs₁ : (y.world.bridge.setLifecycle h l).records.get? h = some s' := hs'
    rw [Bridge.setLifecycle, Bridge.updateRecord, Table.get?_modify, if_pos rfl] at hs₁
    obtain ⟨s₀, -, rfl⟩ := Option.map_eq_some_iff.1 hs₁
    exact hl), hr.allocating, hr.births⟩

section Attach

variable {b : Bridge} {h : Handle} {s : Record} {p : Run β}
  {post : Except Crash β → Ledger → Prop} (hx : x.world.Sound r)
  (hb : b.records = x.world.bridge.records.insert h s)
  (hz : (Ledger.native r).rel ⟨x.world.onBridge b, x.births⟩ z)
  (hp : ∀ v, (Ledger.native r).rel x v → p.Follows (World.rooting r me) me post v)
  (hdeep : ∀ v, post (.error .tooDeep) v)

include hx hb hz hp hdeep

/-- The hook has built a resource. -/
theorem follows_built (resource : Resource) :
    (do
      Run.changeBridge (·.equip h resource) [.constructed h, .equipped h resource]
      Run.changeBridge (·.list h)
      Run.changeBridge (·.setLifecycle h .live)
      p).Follows (World.rooting r me) me post z := by
  have equip : (Run.changeBridge (·.equip h resource) [.constructed h, .equipped h resource] :
      Run Unit).Settles (World.rooting r me) (Ledger.native r) me :=
    settles_changeBridge (fun b => b.onward_updateRecord h (fun _ => ⟨rfl, rfl, id⟩))
      (by simp [Event.isVital])
  have list : (Run.changeBridge (·.list h) : Run Unit).Settles
      (World.rooting r me) (Ledger.native r) me :=
    settles_changeBridge (fun _ => Bridge.onward_of_records rfl) (by simp)
  refine equip.follows ((Ledger.native r).right hz) (fun _ z₁ hz₁ => ?_) hdeep
  refine list.follows ((Ledger.native r).right hz₁) (fun _ z₂ hz₂ => ?_) hdeep
  exact follows_conclude hx hb (by simp) (by simp)
    ((Ledger.native r).trans ((Ledger.native r).trans hz hz₁) hz₂) hp

/-- The hook has failed. -/
theorem follows_failed (o : ObjectId) :
    (do
      Run.changeBridge (·.withdraw o)
      Run.changeBridge (·.setLifecycle h .unconstructed) [.discarded h]
      p).Follows (World.rooting r me) me post z := by
  have withdraw : (Run.changeBridge (·.withdraw o) : Run Unit).Settles
      (World.rooting r me) (Ledger.native r) me :=
    settles_changeBridge (fun _ => Bridge.onward_of_records rfl) (by simp)
  refine withdraw.follows ((Ledger.native r).right hz) (fun _ z₁ hz₁ => ?_) hdeep
  exact follows_conclude hx hb (by simp) (by simp [Event.isVital])
    ((Ledger.native r).trans hz hz₁) hp

end Attach

/-- **A construction of an instance is over when it ends**, be it well or not. While its
hook runs, it counts as one of a new object. -/
theorem follows_attach (hrun : run.Keeps (r.manners me) me) (o : ObjectId) (typeName : String)
    {hooks : Hooks} (hh : hooks.Asks r.Permits) (hx : x.world.Sound r)
    (ho : r = .sole → o ∈ x.world.domain.allocating) :
    (Run.attach run me o typeName hooks).Follows (World.rooting r me) me
      (fun e y => e = .error .tooDeep ∨ (∃ a, e = .ok a) ∧ (Ledger.native r).rel x y) x := by
  refine (settles_onBridge (f := Bridge.reserve) (fun _ => Bridge.onward_of_records rfl)
    (by simp [Event.isVital])).follows ⟨hx, .refl x, rfl⟩ (fun h y hy => ?_) (fun _ => Or.inl rfl)
  have hsy : y.world.Sound r := hy.2.1.sound hx
  refine follows_section (fun hb _ _ _ => ?_)
  obtain ⟨s, ha⟩ | ⟨-, ha⟩ := y.world.bridge.announce_cases o typeName hooks h
  · -- the instance has a record in use, which is left alone
    have hc : y.world.Carries me (y.world.record (.discarded h)) := World.carries_record rfl
    have hback : (Ledger.native r).rel y ⟨y.world.record (.discarded h), y.births⟩ :=
      ⟨hsy, (Returns.refl y).carry hc (fun _ => Nat.le_refl _) rfl, rfl⟩
    dsimp only
    rw [ha]
    exact ⟨demand_of_carries hc, y.births, hb.idle hc rfl,
      Or.inr ⟨⟨_, rfl⟩, (Ledger.native r).trans hy hback⟩⟩
  dsimp only
  rw [ha]
  refine ⟨demand_of_history rfl (fun h => absurd rfl h), y.births, hb.announce rfl hh, ?_⟩
  have hs : (y.world.onBridge { y.world.bridge with
      records := y.world.bridge.records.insert h { object := o, typeName, hooks }
      instances := y.world.bridge.instances.insert o h }).Sound r :=
    hsy.announce rfl (fun hr => hy.2.1.allocating ▸ ho hr)
  have hook : (Run.record (.construction h)).Keeps (World.rooting r me) (Ledger.native r) me :=
    (settles_record rfl).keeps
  refine (Process.Settles.catchNative settles_log (typeName ++ "::.ctor") id
    (.bind hook (fun _ => hrun.native _ (hh.construct h)))).follows ⟨hs, .refl _, rfl⟩
    (fun built z hz => ?_) (fun _ => Or.inl rfl)
  cases built with
  | ok resource =>
    dsimp only
    refine follows_built hsy rfl hz (fun v hv => ?_) (fun _ => Or.inl rfl) resource
    exact Or.inr ⟨⟨_, rfl⟩, (Ledger.native r).trans hy hv⟩
  | error fault =>
    dsimp only
    refine follows_failed hsy rfl hz (fun v hv => ?_) (fun _ => Or.inl rfl) o
    refine (settles_log _ _).follows ((Ledger.native r).right hv) (fun _ v₁ hv₁ => ?_)
      (fun _ => Or.inl rfl)
    exact Or.inr ⟨⟨_, rfl⟩, (Ledger.native r).trans ((Ledger.native r).trans hy hv) hv₁⟩

theorem follows_construct (hrun : run.Keeps (r.manners me) me) (typeName : String) (o : ObjectId)
    (hx : x.world.Sound r) (ho : r = .sole → o ∈ x.world.domain.allocating) :
    (Run.construct run me typeName o).Follows (World.rooting r me) me
      (fun e y => e = .error .tooDeep ∨ (∃ a, e = .ok a) ∧ (Ledger.native r).rel x y) x := by
  refine follows_ask (fun hb => ?_)
  cases hh : x.world.registry.hooks? typeName with
  | none => exact Or.inr ⟨⟨_, rfl⟩, hx, .refl x, rfl⟩
  | some hooks =>
    refine Process.Follows.bind ((follows_attach hrun o typeName
      (hb.hosted.registry.types typeName hooks hh) hx ho).mono (fun e y he => ?_))
    obtain rfl | ⟨⟨a, rfl⟩, hy⟩ := he
    · exact Or.inl rfl
    · cases a <;> exact Or.inr ⟨⟨_, rfl⟩, hy⟩

/-! ## Calls of native members

An implementation is code of the registry, which was asked to keep the books when the host was
set up. -/

theorem resolve_of_checkCall {registry : Registry} {m : Member} {args : List BoundaryValue}
    {c : NativeCall} (hc : Run.checkCall registry m args = .ok c) :
    registry.resolve m = .ok c := by
  unfold Run.checkCall at hc
  cases hr : registry.resolve m with
  | error e =>
    rw [hr] at hc
    cases hc
  | ok c' =>
    rw [hr] at hc
    simp only [bind, Except.bind, pure, Except.pure] at hc
    split at hc
    · cases hc
    · split at hc
      · cases hc
      · exact congrArg _ (Except.ok.inj hc)

theorem settles_invoke (hrun : run.Keeps (r.manners me) me) (m : Member)
    (receiver : Option ObjectId) (args : List BoundaryValue) :
    (Run.invoke run me m receiver args).Settles (World.rooting r me) (Ledger.native r) me := by
  refine settles_ask (fun x hb => ?_)
  cases hc : Run.checkCall x.world.registry m args with
  | error e => exact .pure _
  | ok c =>
    have hasks := hb.hosted.registry.calls m c (resolve_of_checkCall hc)
    dsimp only
    split
    · cases receiver with
      | none => exact .pure _
      | some o =>
        refine .bind (settles_enter o m) (fun entered => ?_)
        cases entered with
        | error e => exact .pure _
        | ok h =>
          exact .bind (settles_runCall hrun m c _ (hasks _)) (fun result =>
            .bind (settles_leave hrun h) (fun _ => settles_settle m result))
    · exact .bind (settles_runCall hrun m c _ (hasks _)) (fun result => settles_settle m result)

theorem settles_beginCall (o : ObjectId) (m : Member) :
    (Run.beginCall me o m).Settles (World.rooting r me) (Ledger.native r) me := by
  refine .bind (settles_enter o m) (fun entered => ?_)
  cases entered with
  | error e => exact .pure _
  | ok h =>
    refine .bind ?_ (fun _ => .pure _)
    refine settles_idle_change (fun w => ?_) (fun _ => rfl)
    refine ⟨rfl, Bridge.onward_of_records rfl, fun c hc => ?_, .refl _, [], rfl, by simp⟩
    obtain rfl | hc := List.mem_cons.1 hc
    · exact Or.inr rfl
    · exact Or.inl hc

theorem settles_endCall (hrun : run.Keeps (r.manners me) me) (h : Handle) :
    (Run.endCall run me h).Settles (World.rooting r me) (Ledger.native r) me := by
  refine .bind ?_ (fun taken => ?_)
  · exact settles_idle (fun w => ⟨rfl, Bridge.onward_of_records rfl,
      fun c hc => Or.inl (List.mem_of_mem_erase hc), .refl _, [], rfl, by simp⟩) (fun _ => rfl)
  · cases taken with
    | true => exact .bind (settles_leave hrun h) (fun _ => .pure _)
    | false => exact .pure _

/-- **The bridge has no part in the books.** -/
theorem bridged (r : Regime) (me : ThreadId) : (r.manners me).Bridged me where
  ask := fun f => (settles_ask_pure f _).keeps
  note := fun _ => (settles_record rfl).keeps
  log := fun level text => (settles_log level text).keeps
  useResource := fun h kind update => (settles_useResource h kind update).keeps
  forget := fun o => (settles_forget o).keeps
  construct := fun hrun typeName o hop _ hx =>
    (follows_construct hrun typeName o hx.1 (fun hr => by
      subst hr
      exact absurd rfl (hop typeName o))).mono (fun _ _ he => he.imp id And.right)
  destroyRecord := fun hrun h => (settles_destroyRecord hrun h).keeps
  invoke := fun hrun m receiver args => (settles_invoke hrun m receiver args).keeps
  beginCall := fun o m => (settles_beginCall o m).keeps
  endCall := fun hrun h => (settles_endCall hrun h).keeps

end Ledger

end HostBridge
