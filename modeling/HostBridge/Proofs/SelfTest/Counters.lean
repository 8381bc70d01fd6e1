import HostBridge.Proofs.Bridge.Records
import HostBridge.Proofs.SelfTest.Scene
import Mathlib.Data.List.Nodup

/-!
# Counters on a scene

The bridge as the self-test sees it. Its native objects are all of one type, which starts
every one of them with a counter at zero, and whose hooks write a line to the journal when an
object is created and when it is deleted. A record without its counter, or one that is on its
way out, is to be seen in the middle of an operation only: a scene lists the live counters,
and an operation as a whole adds one (`Leads.attach`), takes one away (`Leads.destroy`) or
changes one (`Leads.invoke`).

A method of the test object calls only the object that it has made just before, so calls are
on the counter that comes first.

Each operation of the bridge is several sections with a hook or an implementation between
them. In its middle the state shows no scene, so the proof of an operation goes through the
states themselves, from one that shows the scene before to one that shows the scene after.
What is known of the states on the way is what the earlier sections made of the first one.
-/

namespace HostBridge

open SelfTest

namespace Bridge.Shows

variable {b : Bridge} {counters rest : List Counter} {next : UInt64} {o : ObjectId} {h : Handle}
  {x y : Counter}

/-! ## Tables that show counters

The two tables of the bridge, and the records behind them, as far as live counters go. -/

theorem handle_ne (hb : b.Shows (x :: rest) next) (hy : y ∈ rest) : y.handle ≠ x.handle := by
  have hn := hb.handles ▸ hb.nodup
  intro he
  exact (List.nodup_cons.1 hn).1 (he ▸ List.mem_map_of_mem hy)

/-- Two counters have the same handle exactly if they have the same object. -/
theorem handle_eq_iff (hb : b.Shows counters next) (hx : x ∈ counters) (hy : y ∈ counters) :
    y.handle = x.handle ↔ y.object = x.object := by
  have hn := hb.handles ▸ hb.nodup
  constructor
  · intro he
    rw [List.inj_on_of_nodup_map hn hy hx he]
  · intro he
    rw [List.inj_on_of_nodup_map hb.objects hy hx he]

theorem find?_of_mem (hb : b.Shows counters next) (hx : x ∈ counters) :
    b.find? x.object = some x.handle := by
  obtain ⟨y, hy⟩ : ∃ y, counters.find? (fun y => y.object = x.object) = some y := by
    refine Option.isSome_iff_exists.1 (List.find?_isSome.2 ⟨x, hx, by simp⟩)
  have hyo : y.object = x.object := by simpa using List.find?_some hy
  rw [hb.found, hy, Option.map_some, (hb.handle_eq_iff hx (List.mem_of_find?_eq_some hy)).2 hyo]

theorem find?_eq_none (hb : b.Shows counters next) (ho : ∀ x ∈ counters, x.object ≠ o) :
    b.find? o = none := by
  rw [hb.found, List.find?_eq_none.2 (by simpa using ho)]
  rfl

/-- An object without a counter is announced. -/
theorem announce_eq (hb : b.Shows counters next) (ho : ∀ x ∈ counters, x.object ≠ o) :
    b.reserve.2.announce o myObject counterHooks h = (.ok (), { b with
      nextHandle := b.nextHandle + 1
      records := b.records.insert h { object := o, typeName := myObject, hooks := counterHooks }
      instances := b.instances.insert o h }) := by
  have : b.reserve.2.find? o = none := hb.find?_eq_none ho
  unfold Bridge.announce
  rw [this]
  rfl

/-- **A counter is new**: its record is opened, equipped, listed and brought to life. -/
theorem attach (hb : b.Shows counters next) (ho : ∀ x ∈ counters, x.object ≠ o)
    (hh : ∀ x ∈ counters, x.handle ≠ ⟨next⟩) :
    let opened := (b.reserve.2.announce o myObject counterHooks ⟨next⟩).2
    (((opened.equip ⟨next⟩ ⟨.counter, (0 : Int32)⟩).list ⟨next⟩).setLifecycle ⟨next⟩ .live).Shows
      ({ object := o, handle := ⟨next⟩ } :: counters) (next + 1) := by
  intro opened
  have hnodup : (⟨next⟩ :: b.handles).Nodup := by
    refine List.nodup_cons.2 ⟨fun hm => ?_, hb.nodup⟩
    rw [hb.handles] at hm
    obtain ⟨x, hx, he⟩ := List.mem_map.1 hm
    exact hh x hx he
  have hobjects : (o :: counters.map Counter.object).Nodup := by
    refine List.nodup_cons.2 ⟨fun hm => ?_, hb.objects⟩
    obtain ⟨x, hx, he⟩ := List.mem_map.1 hm
    exact ho x hx he
  simp only [opened, hb.announce_eq ho]
  refine ⟨congrArg (· + 1) hb.next, congrArg (_ :: ·) hb.handles, hnodup, hobjects,
    fun p => ?_, fun y hy => ?_⟩
  · have hp : b.instances.get? p = _ := hb.found p
    change (b.instances.insert o _).get? p = _
    rw [Table.get?_insert, List.find?_cons]
    by_cases hpo : p = o
    · simp [hpo]
    · have hop : o ≠ p := fun he => hpo he.symm
      simpa [hpo, hop] using hp
  · change (((b.records.insert _ _).modify _ _).modify _ _).get? _ = _
    rw [Table.get?_modify, Table.get?_modify, Table.get?_insert]
    obtain rfl | hy := List.mem_cons.1 hy
    · simp [Counter.record]
    · simpa [hh y hy] using hb.records y hy

/-- The record of the latest counter is changed. -/
theorem updateRecord (hb : b.Shows (x :: rest) next) {f : Record → Record}
    (ho : y.object = x.object) (hh : y.handle = x.handle) (hf : f x.record = y.record) :
    (b.updateRecord x.handle f).Shows (y :: rest) next := by
  refine ⟨hb.next, ?_, hb.nodup, ?_, fun p => ?_, fun z hz => ?_⟩
  · rw [List.map_cons, hh]
    exact hb.handles
  · rw [List.map_cons, ho]
    exact hb.objects
  · have hp : b.instances.get? p = _ := hb.found p
    change b.instances.get? p = _
    rw [List.find?_cons] at hp
    rw [List.find?_cons, ho]
    by_cases hxp : x.object = p
    · simpa [hxp, hh] using hp
    · simpa [hxp] using hp
  · obtain rfl | hz := List.mem_cons.1 hz
    · rw [hh, get?_updateRecord (hb.records x (List.mem_cons_self ..)), hf]
    · rw [get?_updateRecord_of_ne (hb.handle_ne hz)]
      exact hb.records z (List.mem_cons_of_mem _ hz)

/-- **A counter is gone**: it is struck from the live ones, loses its resource, and its
record is dropped. -/
theorem destroy (hb : b.Shows counters next) (hx : x ∈ counters) :
    let closed := (((b.setLifecycle x.handle .destructing).unlist x.handle).takeResource
      x.handle).2.setLifecycle x.handle .destroyed
    (closed.forget x.object).Shows (counters.filter (fun y => y.object ≠ x.object)) next := by
  intro closed
  have hne : ∀ y ∈ counters, (y.handle ≠ x.handle ↔ y.object ≠ x.object) := fun y hy =>
    not_congr (hb.handle_eq_iff hx hy)
  have hself : closed.records.get? x.handle =
      some { x.record with lifecycle := .destroyed, resource := none } :=
    get?_updateRecord (get?_updateRecord (get?_updateRecord (hb.records x hx) _) _) _
  have hother : ∀ k, k ≠ x.handle → closed.records.get? k = b.records.get? k := fun k hk =>
    (get?_updateRecord_of_ne hk _).trans
      ((get?_updateRecord_of_ne hk _).trans (get?_updateRecord_of_ne hk _))
  have hfind : closed.find? x.object = some x.handle := hb.find?_of_mem hx
  have hforget : closed.forget x.object = closed.withdraw x.object :=
    if_pos (Bridge.state_of_get? hfind hself)
  rw [hforget]
  refine ⟨hb.next, ?_, hb.nodup.erase _, hb.objects.sublist (List.filter_sublist.map _),
    fun p => ?_, fun y hy => ?_⟩
  · change b.handles.erase x.handle = _
    rw [hb.nodup.erase_eq_filter, hb.handles, List.filter_map]
    refine congrArg _ (List.filter_congr fun y hy => ?_)
    rw [Bool.eq_iff_iff]
    simp [hb.handle_eq_iff hx hy]
  · change (b.instances.erase x.object).get? p = _
    rw [Table.get?_erase, find?_filter_key Counter.object (· ≠ x.object)]
    have hp : b.instances.get? p = _ := hb.found p
    by_cases hpo : p = x.object
    · rw [if_pos hpo, if_neg (not_not_intro hpo)]
      rfl
    · rw [if_neg hpo, if_pos hpo, hp]
  · obtain ⟨hy, ho⟩ := List.mem_filter.1 hy
    have hk : y.handle ≠ x.handle := (hne y hy).2 (by simpa using ho)
    exact (hother _ hk).trans (hb.records y hy)

end Bridge.Shows

namespace SelfTest

variable {α : Type} {m : Nat} {run : Runner} {me : ThreadId} {s : Scene} {rest : List Counter}
  {x : Counter} {o : ObjectId}

variable (m me) in
/-- **The destruction of a counter ends** with its hook. -/
theorem finishDestroy_ends {v : World} {h : Handle} {r : Record} {n : Int32}
    (hr : v.bridge.records.get? h = some r) (hhooks : r.hooks = counterHooks)
    (hn : r.resource = some ⟨.counter, n⟩) :
    ∃ v', (Run.finishDestroy (.nested (m + 1)) me h).Ends v (.ok ()) v' ∧
      v'.registry = v.registry ∧ v'.domain = v.domain ∧
      v'.bridge = ((v.bridge.unlist h).takeResource h).2.setLifecycle h .destroyed ∧
      Event.journal v'.history = "MyObject deleted." :: Event.journal v.history := by
  have take : ∀ u : World, u.bridge = v.bridge.unlist h →
      (Run.onBridge (·.takeResource h)).Ends u (.ok (some ⟨.counter, n⟩))
        (u.onBridge (u.bridge.takeResource h).2) := by
    intro u hu
    refine .onBridgeWhen rfl (Prod.ext ?_ rfl)
    rw [hu]
    change (v.bridge.records.get? h).bind _ = _
    rw [hr, ← hn]
    rfl
  have look : ∀ u : World, u.bridge = ((v.bridge.unlist h).takeResource h).2 →
      (Run.askBridge (·.records.get? h)).Ends u (.ok (some { r with resource := none })) u := by
    intro u hu
    have hu' : u.bridge.records.get? h = some { r with resource := none } := by
      rw [hu]
      exact Bridge.get?_updateRecord hr _
    rw [← hu']
    exact .ask _ u
  refine exists_bind (.change _ v) (exists_bind (take _ rfl) (exists_bind (look _ rfl) ?_))
  rw [hhooks]
  refine exists_bind (a := .ok ()) (.attempt (.bind (.change _ _)
    (.bind (.bind (.change _ _) (.pure _ _)) (.pure _ _))) (.pure _ _)) ?_
  exact ⟨_, .change _ _, rfl, rfl, rfl, rfl⟩

namespace Leads

/-! ## Operations

A construction and a destruction, from scene to scene, and what they do for objects that have no
native side. -/

/-- **An object gets a counter.** -/
theorem attach (ho : ∀ x ∈ s.counters, x.object ≠ o)
    (hh : ∀ x ∈ s.counters, x.handle ≠ ⟨s.nextHandle⟩) :
    Leads (Run.attach (.nested (m + 1)) me o myObject counterHooks) s (.ok ⟨s.nextHandle⟩)
      { s with
        counters := { object := o, handle := ⟨s.nextHandle⟩ } :: s.counters
        nextHandle := s.nextHandle + 1
        journal := "MyObject created." :: s.journal } := by
  intro w hw
  have hb := hw.bridge
  have reserve : (Run.onBridge Bridge.reserve (fun h => [.issued h])).Ends w
      (.ok ⟨s.nextHandle⟩) (w.onBridge w.bridge.reserve.2 [.issued ⟨s.nextHandle⟩]) := by
    rw [← hb.next]
    exact .exchange _ w
  have announce : ∀ v : World, v.bridge = w.bridge.reserve.2 →
      (Run.onBridge (·.announce o myObject counterHooks ⟨s.nextHandle⟩)
        (Run.announcementEvents ⟨s.nextHandle⟩)).Ends v (.ok (.ok ()))
        (v.onBridge (w.bridge.reserve.2.announce o myObject counterHooks ⟨s.nextHandle⟩).2) := by
    intro v hv
    refine .onBridgeWhen rfl ?_
    rw [hv, hb.announce_eq ho]
  have build : ∀ v : World, (HostBridge.catchNative (myObject ++ "::.ctor") id (do
      Run.record (.construction ⟨s.nextHandle⟩)
      (Runner.nested (m + 1)).native me (counterHooks.construct ⟨s.nextHandle⟩))).Ends v
        (.ok (.ok ⟨.counter, (0 : Int32)⟩))
        ((v.record (.construction ⟨s.nextHandle⟩)).record (.note "MyObject created.")) :=
    fun v => .attempt (.bind (.change _ v) (.bind (.change _ _) (.pure _ _))) (.pure _ _)
  refine exists_bind reserve (exists_bind (announce _ rfl) (exists_bind (build _) ?_))
  refine exists_bind (.change _ _) (exists_bind (.change _ _) (exists_bind (.change _ _) ?_))
  exact ⟨_, .pure _ _, hw.registry, hw.domain, hb.attach ho hh,
    congrArg ("MyObject created." :: ·) hw.journal⟩

/-- **An object of the class with a native counter is constructed.** -/
theorem construct (ho : ∀ x ∈ s.counters, x.object ≠ o)
    (hh : ∀ x ∈ s.counters, x.handle ≠ ⟨s.nextHandle⟩) :
    Leads (Run.construct (.nested (m + 1)) me myObjectClass.fullName o) s
      (.ok (some ⟨s.nextHandle⟩)) { s with
        counters := { object := o, handle := ⟨s.nextHandle⟩ } :: s.counters
        nextHandle := s.nextHandle + 1
        journal := "MyObject created." :: s.journal } := by
  have hhooks : registry.hooks? myObjectClass.fullName = some counterHooks := rfl
  refine .bind (.askRegistry fun w hw => hw) ?_
  rw [hhooks]
  exact .bind (.attach ho hh) (.pure _ _)

/-- A test object has no native side. -/
theorem construct_none : Leads (Run.construct run me testClass.fullName o) s (.ok none) s := by
  have hhooks : registry.hooks? testClass.fullName = none := rfl
  refine .bind (.askRegistry fun w hw => hw) ?_
  rw [hhooks]
  exact .pure _ _

/-- **The native side of an object without a counter** is not there to be destroyed. -/
theorem destroy_none (ho : ∀ x ∈ s.counters, x.object ≠ o) :
    Leads (Run.destroy run me o) s false s :=
  .bind (.askBridge fun _ hb => hb.find?_eq_none ho) (.pure _ _)

/-- No record of it is there to be dropped. -/
theorem forget_none (ho : ∀ x ∈ s.counters, x.object ≠ o) : Leads (Run.forget o) s () s :=
  .change fun w hw => by
    have hstate : w.bridge.state o ≠ .destroyed := by
      simp [Bridge.state, hw.bridge.find?_eq_none ho]
    refine ⟨hw.registry, hw.domain, ?_, hw.journal⟩
    change (w.bridge.forget o).Shows _ _
    rw [Bridge.forget, if_neg hstate]
    exact hw.bridge

/-- **A counter is destroyed**, and its record dropped, before what follows. -/
theorem destroy (hx : x ∈ s.counters) (hidle : x.callers = []) {f : Unit → Run α} {a : α}
    {s' : Scene} (h : Leads (f ()) { s with
      counters := s.counters.filter (fun y => y.object ≠ x.object)
      journal := "MyObject deleted." :: s.journal } a s') :
    Leads (do
      let _ ← Run.destroy (.nested (m + 1)) me x.object
      Run.forget x.object >>= f) s a s' := by
  intro w hw
  have hb := hw.bridge
  have hr := hb.records x hx
  have find : (Run.askBridge (·.find? x.object)).Ends w (.ok (some x.handle)) w :=
    .of_ask (hb.find?_of_mem hx)
  have condemn : (Run.onBridgeWhen (·.isSettled x.handle) (·.condemn me x.handle)
      (Run.verdictEvents x.handle)).Ends w (.ok .accepted)
        (w.onBridge (w.bridge.setLifecycle x.handle .destructing) [.condemned x.handle]) := by
    refine .onBridgeWhen ?_ ?_
    · simp [Bridge.isSettled, Bridge.lifecycleAt, hr, Counter.record]
    · simp [Bridge.condemn, hr, Counter.record, Record.isOpen, hidle]
  have hget : (w.bridge.setLifecycle x.handle .destructing).records.get? x.handle =
      some { x.record with lifecycle := .destructing } := Bridge.get?_updateRecord hr _
  have wait : ∀ v : World, v.bridge = w.bridge.setLifecycle x.handle .destructing →
      (Process.await (fun v : World => v.bridge.isIdle x.handle)).Ends v (.ok ()) v := by
    intro v hv
    refine .await ?_
    simp [Bridge.isIdle, hv, hget, Counter.record, hidle]
  have destroyed : ∃ v, (Run.destroy (.nested (m + 1)) me x.object).Ends w (.ok true) v ∧
      v.registry = w.registry ∧ v.domain = w.domain ∧
      v.bridge = (((w.bridge.setLifecycle x.handle .destructing).unlist x.handle).takeResource
        x.handle).2.setLifecycle x.handle .destroyed ∧
      Event.journal v.history = "MyObject deleted." :: Event.journal w.history := by
    refine exists_bind find (exists_bind condemn (exists_bind (wait _ rfl) ?_))
    obtain ⟨v, hv, hd⟩ := finishDestroy_ends m me (v := w.onBridge _ [.condemned x.handle])
      (n := x.calls) hget rfl rfl
    exact ⟨v, hv.bind (.pure _ _), hd⟩
  obtain ⟨v, hv, hregistry, hdomain, hbridge, hjournal⟩ := destroyed
  refine exists_bind hv (exists_bind (.change _ v) (h _ ⟨?_, ?_, ?_, ?_⟩))
  · exact hregistry.trans hw.registry
  · exact hdomain ▸ hw.domain
  · have := hb.destroy hx
    rwa [← hbridge] at this
  · exact hjournal.trans (congrArg _ hw.journal)

/-! ## Calls

The native members are bound by the registry of the self-test and by no other, so a call comes to
an implementation that is known. -/

/-- Code changes the latest counter. -/
theorem useResource (hs : s.counters = x :: rest) (update : Int32 → Int32) :
    Leads (Run.useResource x.handle .counter update) s (.ok x.calls)
      { s with counters := { x with calls := update x.calls } :: rest } := by
  have listed : ∀ b : Bridge, b.Shows s.counters s.nextHandle →
      b.listed? x.handle = some x.record := by
    intro b hb
    have hx : x ∈ s.counters := hs ▸ List.mem_cons_self ..
    have hmem : x.handle ∈ b.handles := hb.handles ▸ List.mem_map_of_mem hx
    unfold Bridge.listed?
    rw [if_pos (List.contains_iff_mem.2 hmem), hb.records x hx]
  refine .bind (.askBridge listed) (.onBridge (fun b hb => ?_) rfl)
  rw [hs] at hb
  have hr := hb.records x (List.mem_cons_self ..)
  simp only [Bridge.useResource, hr, Option.bind_some, Counter.record, dite_true, true_and]
  exact hb.updateRecord rfl rfl rfl

/-- A call on the latest counter is admitted. -/
theorem enter (hs : s.counters = x :: rest) (member : Member) :
    Leads (Run.enter me x.object member) s (.ok x.handle)
      { s with counters := { x with callers := x.callers ++ [me] } :: rest } := by
  have hx : x ∈ s.counters := hs ▸ List.mem_cons_self ..
  have admitted : Leads (Run.onBridge (·.admitCall me x.handle) (Run.admissionEvents me x.handle)) s
      (.ok ()) { s with counters := { x with callers := x.callers ++ [me] } :: rest } := by
    refine .onBridge (fun b hb => ?_) rfl
    rw [hs] at hb
    have hr := hb.records x (List.mem_cons_self ..)
    simp only [Bridge.admitCall, hr]
    exact ⟨rfl, hb.updateRecord rfl rfl rfl⟩
  exact .bind (.askBridge fun b hb => hb.find?_of_mem hx) (.bind admitted (.pure _ _))

/-- A call on the latest counter ends. -/
theorem leave (hs : s.counters = x :: rest) :
    Leads (Run.leave run me x.handle) s ()
      { s with counters := { x with callers := x.callers.erase me } :: rest } := by
  have dismiss : Leads (Run.onBridge (·.dismiss me x.handle) (fun _ => [.dismissed x.handle me]))
      s false { s with counters := { x with callers := x.callers.erase me } :: rest } := by
    refine .onBridge (fun b hb => ?_) rfl
    rw [hs] at hb
    have hr := hb.records x (List.mem_cons_self ..)
    simp only [Bridge.dismiss, hr]
    exact ⟨rfl, hb.updateRecord rfl rfl rfl⟩
  exact .bind dismiss (.pure _ _)

/-- A result of the declared type is returned. -/
theorem settle_ok {member : Member} {v : BoundaryValue}
    (hv : v.checkTag member.signature.ret = .ok ()) :
    Leads (Run.settle member (.ok v)) s (.ok v) s := by
  unfold Run.settle
  dsimp only
  rw [hv]
  exact .bind (.log _ _) (.pure _ _)

/-- **A member is called on the latest counter**: its implementation may write to the
journal and count. -/
theorem invoke {member : Member} {call : NativeCall} {args : List BoundaryValue} (n : Int32)
    (journal : List String) {r : Except CallFailure BoundaryValue}
    {result : Except BridgeError BoundaryValue} (hmember : member.isInstance = true)
    (hcall : Run.checkCall registry member args = .ok call) (hs : s.counters = x :: rest)
    (hidle : x.callers = [])
    (h : Leads (run.native me (call.run (.object x.handle :: args)))
      { s with counters := { x with callers := [me] } :: rest } r
      { s with counters := { x with calls := n, callers := [me] } :: rest, journal := journal })
    (hr : ∀ s, Leads (Run.settle member r) s result s) :
    Leads (Run.invoke run me member (some x.object) args) s result
      { s with counters := { x with calls := n } :: rest, journal := journal } := by
  refine .bind (.askRegistry fun w hw => hw) ?_
  rw [hcall]
  dsimp only
  rw [if_pos hmember]
  refine .bind (.enter hs member) ?_
  rw [hidle, List.nil_append]
  refine .bind (.catchNative _ _ (.bind (.record rfl) h)) ?_
  refine .bind (.leave (x := { x with calls := n, callers := [me] }) rfl) ?_
  rw [List.erase_cons_head, ← hidle]
  exact hr _

/-! ### Implementations

They use the resource of their receiver, and write to the journal. -/

theorem echo (hs : s.counters = x :: rest) (value : String) :
    Leads (Run.runNative run me (echo.run [.object x.handle, .string value])) s
      (.ok (.string value)) { s with counters := { x with calls := x.calls + 1 } :: rest } :=
  .bind (.useResource hs (· + 1)) (.pure _ _)

theorem doStuff (hs : s.counters = x :: rest) (value : String) :
    Leads (Run.runNative run me (doStuff.run [.object x.handle, .string value])) s
      (.ok .void) { s with
        counters := { x with calls := x.calls + 1 } :: rest
        journal := ("DoStuff was called with: " ++ value) :: s.journal } :=
  .bind (.useResource hs (· + 1)) (.bind (.note _) (.pure _ _))

theorem callCount (hs : s.counters = x :: rest) :
    Leads (Run.runNative run me (callCount.run [.object x.handle])) s
      (.ok (.int32 x.calls)) { s with counters := { x with calls := x.calls } :: rest } :=
  .bind (.useResource hs id) (.pure _ _)

end Leads

end SelfTest

end HostBridge
