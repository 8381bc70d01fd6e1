import HostBridge.Proofs.Interleaving

/-!
# Code that keeps to one object

An object, its handle, its class, and the native members that may be called on it are the
**estate** of the object. Code keeps to an estate when everything that it asks for concerns the
estate (`Estate.KeepsNative`, `Estate.KeepsManaged`): it writes to the journal and to the log,
looks at the object or disposes of it, uses its resource, and calls the members of the estate,
with values that lead to no other object. The members and the destruction hook are code as well,
and the estate is in a state only if they keep to it there (`Estate.In`).

What such code does can be said without the rest of the state. It **is local**
(`Estate.Local`): a run of it depends on what the state shows of the estate and on nothing else
(`Estate.Agree`), what it does to the instances is a change of the estate (`Estate.Change`), and
it goes the same way in every state that shows the estate the same. Local code may be put
together from sections, in sequence and behind a boundary.

Two estates are apart if neither the object nor the handle of one is that of the other. A change
of one is not seen by the other, and changes of the two can be exchanged
(`Estate.Change.comm`).

## Changes as functions

That two pieces of code can be exchanged is a statement about three states, the one in between
being different in the two orders. A relation between states would not do: it says what may come
of a section, and not that the same comes of it elsewhere. So a change is a **function on
bridges** (`T`), and to be local is to have one that works in every state that shows the estate
the same. The functions are built from three deeds only, and it is enough to exchange those.

What the history is told is kept apart from that, since the order of two lines is just what
differs between the two orders.
-/

namespace HostBridge

variable {α β : Type}

/-! ## Tables that are changed in two places

The exchange of two changes comes down to this: entries of different keys do not get in each
other's way. -/

namespace Table

variable {κ : Type} [DecidableEq κ]

omit [DecidableEq κ] in
theorem ext_entries {t t' : Table κ α} (h : t.entries = t'.entries) : t = t' := by
  cases t
  cases t'
  cases h
  rfl

theorem modifyEntry_comm {k k' : κ} (hk : k ≠ k') (f g : α → α) (l : List (κ × α)) :
    modifyEntry k f (modifyEntry k' g l) = modifyEntry k' g (modifyEntry k f l) := by
  induction l with
  | nil => rfl
  | cons x l ih =>
    by_cases hx : x.1 = k
    · simp [modifyEntry, hx, hk]
    · by_cases hx' : x.1 = k'
      · simp [modifyEntry, hx', Ne.symm hk]
      · simp [modifyEntry, hx, hx', ih]

/-- **Changes under different keys can be exchanged.** -/
theorem modify_comm {k k' : κ} (hk : k ≠ k') (t : Table κ α) (f g : α → α) :
    (t.modify k' g).modify k f = (t.modify k f).modify k' g :=
  ext_entries (modifyEntry_comm hk f g t.entries)

/-- Keys may be struck in either order. -/
theorem erase_comm (t : Table κ α) (k k' : κ) : (t.erase k').erase k = (t.erase k).erase k' := by
  by_cases hk : k = k'
  · rw [hk]
  · refine ext_entries (List.eraseP_comm fun x _ => ?_)
    by_cases hx : x.1 = k'
    · exact .inr (by simpa [hx] using Ne.symm hk)
    · exact .inl (by simpa using hx)

/-- What is done to a value and undone has not been done. -/
theorem modify_modify_cancel {f g : α → α} (h : ∀ x, g (f x) = x) (t : Table κ α) (k : κ) :
    (t.modify k f).modify k g = t := by
  refine ext_entries ?_
  change modifyEntry k g (modifyEntry k f t.entries) = t.entries
  induction t.entries with
  | nil => rfl
  | cons x l ih =>
    by_cases hx : x.1 = k
    · simp [modifyEntry, hx, h, Prod.ext_iff]
    · simp [modifyEntry, hx, ih]

end Table

/-! ## What code may ask for

The limits are on the program and not on a run, and they are closed under the replies: a value
that came back from a call may be passed on, so what replies lead to is limited as well. -/

/-- **Code keeps within limits**: it asks for operations of a kind and ends with results of a
kind, as long as the replies are what they may be. -/
def Program.Within {I : Interface} (ask : I.Op → Prop) (reply : (op : I.Op) → I.Reply op → Prop)
    (ok : α → Prop) : Program I α → Prop
  | .done a => ok a
  | .panic _ => True
  | .perform op next => ask op ∧ ∀ r, reply op r → (next r).Within ask reply ok

/-- **What belongs to an object.** -/
structure Estate where
  /-- The object. -/
  object : ObjectId
  /-- Its handle, if it has one. -/
  handle? : Option Handle
  /-- Its class. -/
  cls : Class
  /-- The native members that are called on it. -/
  members : Member → Prop

namespace Estate

variable {e e' : Estate} {w v : World} {b b' : Bridge} {T : Bridge → Bridge}

/-- A boundary value leads to no other object. -/
def HoldsNative (e : Estate) : BoundaryValue → Prop
  | .object h => e.handle? = some h
  | _ => True

/-- A managed value leads to no other object. -/
def HoldsManaged (e : Estate) : ManagedValue → Prop
  | .object o => o = e.object
  | _ => True

/-- **Operations of native code** that concern nothing but the estate. -/
def AsksNative (e : Estate) : NativeOp → Prop
  | .note _ => True
  | .state o | .handleOf o | .destroy o | .forget o => o = e.object
  | .objectOf h | .useResource h _ _ | .release h => e.handle? = some h
  | .invoke m receiver args => e.members m ∧ (∀ o, receiver = some o → o = e.object) ∧
      ∀ v ∈ args, e.HoldsNative v
  | _ => False

/-- What such operations may reply. -/
def RepliesNative (e : Estate) : (op : NativeOp) → op.Reply → Prop
  | .handleOf _, r => ∀ h, r = .ok h → e.handle? = some h
  | .objectOf _, r => ∀ o, r = .ok o → o = e.object
  | .invoke _ _ _, r => ∀ v, r = .ok v → e.HoldsNative v
  | _, _ => True

/-- **Operations of managed code** that concern nothing but the estate. -/
def AsksManaged (e : Estate) : ManagedOp → Prop
  | .log _ | .note _ => True
  | .dispose o => o = e.object
  | .callExtern o name args => o = e.object ∧
      (∀ m, e.cls.findExtern? name .perInstance args = some m → e.members m) ∧
      ∀ v ∈ args, e.HoldsManaged v
  | _ => False

/-- What such operations may reply. -/
def RepliesManaged (e : Estate) : (op : ManagedOp) → op.Reply → Prop
  | .callExtern _ _ _, r => ∀ v, r = .ok v → e.HoldsManaged v
  | _, _ => True

/-- **Native code keeps to an estate.** -/
def KeepsNative (e : Estate) (ok : α → Prop) (code : NativeCode α) : Prop :=
  Program.Within (I := nativeInterface) e.AsksNative e.RepliesNative ok code

/-- **Managed code keeps to an estate.** -/
def KeepsManaged (e : Estate) (ok : α → Prop) (code : ManagedCode α) : Prop :=
  Program.Within (I := managedInterface) e.AsksManaged e.RepliesManaged ok code

/-! ## Estates in a state

An estate is a choice of names. Whether the state goes by it is what `In` says: the object has
no other handle, the record behind the handle is the object's, and the code that calls and the
destruction enter keeps to the estate. None of that is lost by a change of the estate, or by one
of an estate that is apart. -/

/-- **The bridge has no other handle for the object**, and the record behind it is of the object,
with a destruction hook that keeps to the estate. -/
structure InBridge (e : Estate) (b : Bridge) : Prop where
  found : ∀ h, b.find? e.object = some h → e.handle? = some h
  record : ∀ h r, e.handle? = some h → b.records.get? h = some r →
    r.object = e.object ∧ ∀ u, e.KeepsNative (fun _ => True) (r.hooks.destroy h u)

/-- **The members of an estate keep to it**, as they are bound in a registry. An implementation
gets the arguments that a call was checked for, after the handle if the member is one of
instances. -/
def KeepsCalls (e : Estate) (registry : Registry) : Prop :=
  ∀ m c xs, e.members m → Run.checkCall registry m xs = .ok c → (∀ x ∈ xs, e.HoldsNative x) →
    (m.isInstance = true → ∀ h, e.handle? = some h →
      e.KeepsNative (fun r => ∀ x, r = .ok x → e.HoldsNative x) (c.run (.object h :: xs))) ∧
    (m.isInstance = false →
      e.KeepsNative (fun r => ∀ x, r = .ok x → e.HoldsNative x) (c.run xs))

/-- **An estate is in a state.** The object is there, and the code of the estate keeps to it. -/
structure In (e : Estate) (w : World) : Prop where
  bridge : e.InBridge w.bridge
  classOf : w.domain.classOf? e.object = some e.cls
  calls : e.KeepsCalls w.registry

/-- **Two bridges show an estate the same.** -/
structure AgreeOn (e : Estate) (b b' : Bridge) : Prop where
  found : b'.find? e.object = b.find? e.object
  record : ∀ h, e.handle? = some h → b'.records.get? h = b.records.get? h
  listed : ∀ h, e.handle? = some h → b'.handles.count h = b.handles.count h

/-- **Two states show an estate the same.** -/
structure Agree (e : Estate) (w v : World) : Prop where
  bridge : e.AgreeOn w.bridge v.bridge
  classOf : v.domain.classOf? e.object = w.domain.classOf? e.object
  maxCallDepth : v.domain.maxCallDepth = w.domain.maxCallDepth
  registry : v.registry = w.registry

theorem AgreeOn.refl (b : Bridge) : e.AgreeOn b b := ⟨rfl, fun _ _ => rfl, fun _ _ => rfl⟩

theorem AgreeOn.trans {b'' : Bridge} (h : e.AgreeOn b b') (h' : e.AgreeOn b' b'') :
    e.AgreeOn b b'' where
  found := h'.found.trans h.found
  record := fun g hg => (h'.record g hg).trans (h.record g hg)
  listed := fun g hg => (h'.listed g hg).trans (h.listed g hg)

theorem AgreeOn.symm (h : e.AgreeOn b b') : e.AgreeOn b' b where
  found := h.found.symm
  record := fun g hg => (h.record g hg).symm
  listed := fun g hg => (h.listed g hg).symm

theorem Agree.refl (w : World) : e.Agree w w := ⟨.refl _, rfl, rfl, rfl⟩

theorem Agree.trans {u : World} (h : e.Agree w v) (h' : e.Agree v u) : e.Agree w u where
  bridge := h.bridge.trans h'.bridge
  classOf := h'.classOf.trans h.classOf
  maxCallDepth := h'.maxCallDepth.trans h.maxCallDepth
  registry := h'.registry.trans h.registry

theorem Agree.symm (h : e.Agree w v) : e.Agree v w :=
  ⟨h.bridge.symm, h.classOf.symm, h.maxCallDepth.symm, h.registry.symm⟩

/-- An estate is in every bridge that shows it the same. -/
theorem InBridge.agree (hb : e.InBridge b) (h : e.AgreeOn b b') : e.InBridge b' where
  found := fun g hg => hb.found g (h.found ▸ hg)
  record := fun g r hg hr => hb.record g r hg (h.record g hg ▸ hr)

/-- **An estate is in every state that shows it the same.** -/
theorem In.agree (hw : e.In w) (h : e.Agree w v) : e.In v where
  bridge := hw.bridge.agree h.bridge
  classOf := h.classOf.trans hw.classOf
  calls := h.registry ▸ hw.calls

/-! ## Changes of an estate

Deeds are the atoms. Everything that is proved of changes is proved of deeds first, and is
carried over one after the other. -/

/-- **What can be done to the instances in one go** that concerns nothing but the estate. The
record stays one of the object, with its hooks. -/
inductive Deed (e : Estate) : (Bridge → Bridge) → Prop
  /-- The record behind the handle changes. -/
  | update {h : Handle} (hh : e.handle? = some h) {f : Record → Record}
      (hf : ∀ r, (f r).object = r.object ∧ (f r).hooks = r.hooks) :
      Deed e (fun b => b.updateRecord h f)
  /-- The handle is not live any more. -/
  | unlist {h : Handle} (hh : e.handle? = some h) : Deed e (fun b => b.unlist h)
  /-- The object has no handle any more. -/
  | withdraw : Deed e (fun b => b.withdraw e.object)

/-- **A change of an estate**: deeds one after the other. -/
inductive Change (e : Estate) : (Bridge → Bridge) → Prop
  | nothing : Change e (fun b => b)
  | deed {T : Bridge → Bridge} (h : e.Deed T) : Change e T
  | andThen {T T' : Bridge → Bridge} (h : Change e T) (h' : Change e T') :
      Change e (fun b => T' (T b))

/-- **Two estates have nothing in common.** -/
structure Apart (e e' : Estate) : Prop where
  object : e.object ≠ e'.object
  handle : ∀ h, e.handle? = some h → e'.handle? ≠ some h

/-- Bridges that show an estate the same do so after a deed in both. -/
theorem Deed.agreeOn (hT : e.Deed T) (h : e.AgreeOn b b') : e.AgreeOn (T b) (T b') := by
  cases hT with
  | update hh hf =>
    refine ⟨h.found, fun g hg => ?_, h.listed⟩
    simp only [Bridge.updateRecord, Table.get?_modify, h.record g hg]
  | unlist hh =>
    refine ⟨h.found, h.record, fun g hg => ?_⟩
    simp only [Bridge.unlist, List.count_erase, h.listed g hg]
  | withdraw =>
    refine ⟨?_, h.record, h.listed⟩
    simp only [Bridge.find?, Bridge.withdraw, Table.get?_erase, if_true]

/-- An estate stays in a bridge when a deed is done to it. -/
theorem Deed.inBridge (hT : e.Deed T) (hb : e.InBridge b) : e.InBridge (T b) := by
  cases hT with
  | update hh hf =>
    refine ⟨hb.found, fun g r hg hr => ?_⟩
    simp only [Bridge.updateRecord, Table.get?_modify] at hr
    split at hr
    · obtain ⟨s, hs, rfl⟩ := Option.map_eq_some_iff.1 hr
      rw [(hf s).1, (hf s).2]
      exact hb.record g s hg hs
    · exact hb.record g r hg hr
  | unlist hh => exact ⟨hb.found, hb.record⟩
  | withdraw =>
    refine ⟨fun g hg => ?_, hb.record⟩
    simp [Bridge.find?, Bridge.withdraw, Table.get?_erase] at hg

/-- What is done to one estate, another does not show. -/
theorem Deed.aside (hT : e.Deed T) (hx : e.Apart e') (b : Bridge) : e'.AgreeOn b (T b) := by
  cases hT with
  | @update h hh f hf =>
    refine ⟨rfl, fun g hg => ?_, fun _ _ => rfl⟩
    have hne : g ≠ h := fun hgh => hx.handle h hh (hgh ▸ hg)
    exact (Table.get?_modify _ _ _ _).trans (if_neg hne)
  | @unlist h hh =>
    refine ⟨rfl, fun _ _ => rfl, fun g hg => ?_⟩
    have hne : g ≠ h := fun hgh => hx.handle h hh (hgh ▸ hg)
    exact List.count_erase_of_ne hne
  | withdraw =>
    refine ⟨?_, fun _ _ => rfl, fun _ _ => rfl⟩
    exact (Table.get?_erase _ _ _).trans (if_neg hx.object.symm)

/-- **Deeds on estates that are apart can be exchanged.** -/
theorem Deed.comm {T' : Bridge → Bridge} (hT : e.Deed T) (hT' : e'.Deed T') (hx : e.Apart e')
    (b : Bridge) : T (T' b) = T' (T b) := by
  cases hT with
  | @update h hh f hf =>
    cases hT' with
    | @update h' hh' f' hf' =>
      have hne : h ≠ h' := fun hhh => hx.handle h hh (hhh ▸ hh')
      simp only [Bridge.updateRecord, Table.modify_comm hne]
    | _ => rfl
  | unlist hh =>
    cases hT' with
    | unlist hh' => simp only [Bridge.unlist, List.erase_comm]
    | _ => rfl
  | withdraw =>
    cases hT' with
    | withdraw => simp only [Bridge.withdraw, Table.erase_comm]
    | _ => rfl

namespace Change

/-- Bridges that show an estate the same do so after a change in both. -/
theorem agreeOn (hT : e.Change T) (h : e.AgreeOn b b') : e.AgreeOn (T b) (T b') := by
  induction hT generalizing b b' with
  | nothing => exact h
  | deed hT => exact hT.agreeOn h
  | andThen _ _ ih ih' => exact ih' (ih h)

theorem inBridge (hT : e.Change T) (hb : e.InBridge b) : e.InBridge (T b) := by
  induction hT generalizing b with
  | nothing => exact hb
  | deed hT => exact hT.inBridge hb
  | andThen _ _ ih ih' => exact ih' (ih hb)

/-- **A change of one estate is not seen by another** that is apart from it. -/
theorem aside (hT : e.Change T) (hx : e.Apart e') (b : Bridge) : e'.AgreeOn b (T b) := by
  induction hT generalizing b with
  | nothing => exact .refl b
  | deed hT => exact hT.aside hx b
  | andThen _ _ ih ih' => exact (ih b).trans (ih' _)

/-- **Changes of estates that are apart can be exchanged.** -/
theorem comm {T' : Bridge → Bridge} (hT : e.Change T) (hT' : e'.Change T') (hx : e.Apart e')
    (b : Bridge) : T (T' b) = T' (T b) := by
  induction hT generalizing b with
  | nothing => rfl
  | andThen _ _ ih₁ ih₂ => exact (congrArg _ (ih₁ b)).trans (ih₂ _)
  | deed hT =>
    induction hT' generalizing b with
    | nothing => rfl
    | andThen _ _ ih₁ ih₂ => exact (ih₂ _).trans (congrArg _ (ih₁ b))
    | deed hT' => exact hT.comm hT' hx b

/-- An estate stays in a state when it is changed, whatever the history is told. -/
theorem inState (hT : e.Change T) (hw : e.In w) (told : List Event) :
    e.In (w.onBridge (T w.bridge) told) :=
  ⟨hT.inBridge hw.bridge, hw.classOf, hw.calls⟩

/-- States that show an estate the same do so after the same change. -/
theorem agree (hT : e.Change T) (h : e.Agree w v) (told : List Event) :
    e.Agree (w.onBridge (T w.bridge) told) (v.onBridge (T v.bridge) told) :=
  ⟨hT.agreeOn h.bridge, h.classOf, h.maxCallDepth, h.registry⟩

end Change

end Estate

/-! ## Local processes

The definition is about runs that end. What a run does to the state is then one change and one
piece of history, and any state that shows the estate the same can be put in the place of the
first. -/

/-- A process that ends does so in one way. -/
theorem Process.Ends.unique {σ : Type} {p : Process σ α} {s s' s'' : σ} {r r' : Except Crash α}
    (h : p.Ends s r s') (h' : p.Ends s r' s'') : r' = r ∧ s'' = s' := by
  have he : (Course.finish r', s'') = (Course.finish r, s') := h'.symm.trans h
  cases r <;> cases r' <;> cases he <;> exact ⟨rfl, rfl⟩

theorem World.onBridge_onBridge (w : World) (b b' : Bridge) (l l' : List Event) :
    (w.onBridge b l).onBridge b' l' = w.onBridge b' (l' ++ l) := by
  simp [World.onBridge]

/-- **A process is local to an estate.** Where it ends, it has changed the estate and told the
history something, and it does just this in every state that shows the estate the same. Its
results are of a kind. -/
def Estate.Local (e : Estate) (p : Run α) (ok : α → Prop) : Prop :=
  ∀ ⦃w r w'⦄, e.In w → p.Ends w r w' → (∀ a, r = .ok a → ok a) ∧
    ∃ T told, e.Change T ∧ ∀ v, e.Agree w v → p.Ends v r (v.onBridge (T v.bridge) told)

/-- **A section of the bridge is local**: reply and change are the same where the estate is. -/
def Estate.Does (e : Estate) (f : Bridge → α × Bridge) (ok : α → Prop) : Prop :=
  ∀ b, e.InBridge b → ok (f b).1 ∧
    ∃ T, e.Change T ∧ ∀ b', e.AgreeOn b b' → f b' = ((f b).1, T b')

namespace Estate.Local

variable {e : Estate} {p : Run α} {ok : α → Prop} {ok' : β → Prop}

theorem pure {a : α} (ha : ok a) : e.Local (pure a) ok := by
  intro w r w' hw h
  obtain ⟨rfl, rfl⟩ := (Process.Ends.pure a w).unique h
  exact ⟨fun x hx => Except.ok.inj hx ▸ ha, _, [], .nothing, fun v _ => .pure a v⟩

theorem crash (c : Crash) : e.Local (Process.crash c : Run α) ok := by
  intro w r w' hw h
  have hc : ∀ v : World, (Process.crash c : Run α).Ends v (.error c) v := fun v => rfl
  obtain ⟨rfl, rfl⟩ := (hc w).unique h
  exact ⟨fun x hx => (nomatch hx), _, [], .nothing, fun v _ => hc v⟩

/-- **Local processes in sequence are local**: the changes are composed, and the history is told
one after the other. -/
theorem bind {f : α → Run β} (hp : e.Local p ok) (hf : ∀ a, ok a → e.Local (f a) ok') :
    e.Local (p >>= f) ok' := by
  intro w r w'' hw h
  obtain ⟨a, w', ha, h⟩ | ⟨c, rfl, hc⟩ := h.of_bind
  · obtain ⟨hok, T, told, hT, hv⟩ := hp hw ha
    obtain ⟨-, rfl⟩ := (hv w (.refl w)).unique ha
    obtain ⟨hok', T', told', hT', hv'⟩ := hf a (hok a rfl) (hT.inState hw told) h
    refine ⟨hok', _, told' ++ told, hT.andThen hT', fun v hwv => ?_⟩
    refine (hv v hwv).bind ?_
    have hlast := hv' _ (hT.agree hwv told)
    rwa [World.onBridge_onBridge] at hlast
  · obtain ⟨-, T, told, hT, hv⟩ := hp hw hc
    exact ⟨fun x hx => (nomatch hx), T, told, hT, fun v hwv => (hv v hwv).bind_crash⟩

/-- Behind a boundary, local code goes on whatever its end is. -/
theorem attempt {k : Except Crash α → Run β} (hp : e.Local p ok)
    (hk : ∀ r, (∀ a, r = .ok a → ok a) → e.Local (k r) ok') :
    e.Local (p.attempt >>= k) ok' := by
  intro w r w'' hw h
  obtain ⟨x, w', hx, h⟩ := h.of_attempt_bind
  obtain ⟨hok, T, told, hT, hv⟩ := hp hw hx
  obtain ⟨-, rfl⟩ := (hv w (.refl w)).unique hx
  obtain ⟨hok', T', told', hT', hv'⟩ := hk x hok (hT.inState hw told) h
  refine ⟨hok', _, told' ++ told, hT.andThen hT', fun v hwv => ?_⟩
  refine (hv v hwv).attempt ?_
  have hlast := hv' _ (hT.agree hwv told)
  rwa [World.onBridge_onBridge] at hlast

/-! ### Sections

A section of the bridge is local if it waits for something the estate shows, replies what the
estate decides, and does a deed. -/

/-- **A section is local** if what it waits for and what it does is up to the estate. -/
theorem onBridgeWhen {ready : Bridge → Bool} {f : Bridge → α × Bridge} {events : α → List Event}
    (hr : ∀ b b', e.AgreeOn b b' → ready b' = ready b) (hf : e.Does f ok) :
    e.Local (Run.onBridgeWhen ready f events) ok := by
  intro w r w' hw h
  have hready : ready w.bridge = true := h.ready
  obtain ⟨hok, T, hT, hv⟩ := hf w.bridge hw.bridge
  have hends : (Run.onBridgeWhen ready f events).Ends w (.ok (f w.bridge).1) _ :=
    .onBridgeWhen hready rfl
  obtain ⟨rfl, -⟩ := hends.unique h
  refine ⟨fun a ha => Except.ok.inj ha ▸ hok, T, events (f w.bridge).1, hT, fun v hwv => ?_⟩
  exact .onBridgeWhen ((hr _ _ hwv.bridge).trans hready) (hv _ hwv.bridge)

theorem onBridge {f : Bridge → α × Bridge} (hf : e.Does f ok) {events : α → List Event} :
    e.Local (Run.onBridge f events) ok :=
  onBridgeWhen (fun _ _ _ => rfl) hf

theorem changeBridge {f : Bridge → Bridge} {events : List Event}
    (hf : ∀ b, e.InBridge b → ∃ T, e.Change T ∧ ∀ b', e.AgreeOn b b' → f b' = T b') :
    e.Local (Run.changeBridge f events) (fun _ => True) := by
  intro w r w' hw h
  obtain ⟨T, hT, hv⟩ := hf w.bridge hw.bridge
  have hends : ∀ v, (Run.changeBridge f events).Ends v (.ok ()) (v.onBridge (f v.bridge) events) :=
    fun v => .change _ v
  obtain ⟨rfl, -⟩ := (hends w).unique h
  refine ⟨fun _ _ => trivial, T, events, hT, fun v hwv => ?_⟩
  rw [← hv v.bridge hwv.bridge]
  exact hends v

theorem deed {f : Bridge → Bridge} {events : List Event} (hf : e.Deed f) :
    e.Local (Run.changeBridge f events) (fun _ => True) :=
  changeBridge (fun _ _ => ⟨f, .deed hf, fun _ _ => rfl⟩)

/-- A question is local if the estate decides the answer. -/
theorem ask {f : World → α} (hf : ∀ w, e.In w → ok (f w) ∧ ∀ v, e.Agree w v → f v = f w) :
    e.Local (Process.ask f) ok := by
  intro w r w' hw h
  obtain ⟨hok, hv⟩ := hf w hw
  obtain ⟨rfl, -⟩ := (Process.Ends.ask f w).unique h
  exact ⟨fun a ha => Except.ok.inj ha ▸ hok, _, [], .nothing, fun v hwv =>
    .of_ask (hv v hwv)⟩

theorem askBridge {f : Bridge → α}
    (hf : ∀ b, e.InBridge b → ok (f b) ∧ ∀ b', e.AgreeOn b b' → f b' = f b) :
    e.Local (Run.askBridge f) ok :=
  ask (fun _ hw => ⟨(hf _ hw.bridge).1, fun _ hwv => (hf _ hw.bridge).2 _ hwv.bridge⟩)

theorem await (ready : Bridge → Bool) (hr : ∀ b b', e.AgreeOn b b' → ready b' = ready b) :
    e.Local (Process.await fun w => ready w.bridge) (fun _ => True) := by
  intro w r w' hw h
  have hready : ready w.bridge = true :=
    Process.Ends.of_await (r := fun w : World => ready w.bridge) h
  have hends : (Process.await fun w : World => ready w.bridge).Ends w (.ok ()) w := .await hready
  obtain ⟨rfl, -⟩ := hends.unique h
  exact ⟨fun _ _ => trivial, _, [], .nothing, fun v hwv =>
    .await ((hr _ _ hwv.bridge).trans hready)⟩

/-- To tell the history something is local to every estate. -/
theorem record (event : Event) : e.Local (Run.record event) (fun _ => True) := by
  intro w r w' _ h
  have hends : ∀ v, (Run.record event).Ends v (.ok ()) (v.record event) := .change _
  obtain ⟨rfl, -⟩ := (hends w).unique h
  exact ⟨fun _ _ => trivial, _, [event], .nothing, fun v _ => hends v⟩

end Estate.Local

end HostBridge
