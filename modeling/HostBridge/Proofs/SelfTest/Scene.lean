import HostBridge.Proofs.Domain.Owners
import HostBridge.Proofs.Evaluation
import HostBridge.SelfTest.Scenarios

/-!
# Scenes of the self-test

The state of a host has more to it than the self-test can tell: the order of its tables, the
records of instances that are gone, lines of the log. What matters to the self-test is a
**scene**: which objects are on the heap and who owns them, which of them have a native
counter and what it stands at, what the journal says, and the numbers that objects and
handles get next. A state *shows* one scene (`World.Shows`), and a process *leads* from a
scene to a result and another scene if it comes to its end, with this result, from every
state that shows the first, and the state it leaves shows the second (`SelfTest.Leads`).

Scenes speak of roots by their owners only: there are as many as owners (`Domain.Exact`),
and so a section that lets roots come and go with their owners changes no more of a scene
than the owners (`Domain.Shows.balance`).

That a process leads somewhere says that it comes to its end, and not only where it is if it
does. So it composes like a triple of total correctness, with scenes for the assertions, and the
lemmas are named for the constructs of the language: one for the sequence, one for each kind of
section, one for the boundary. A proof about a scenario is then a walk through its code.
-/

namespace HostBridge

namespace SelfTest

/-- The registry of a host that is set up for the self-test. -/
def registry : Registry := (Registry.empty.addAll additions).2

/-- The classes of the assembly of the self-test. -/
def classes : List Class := [myObjectClass, nativeMathClass, testClass]

/-- The assembly can be built, under any name. -/
theorem assembly_eq (name : String) : assembly name = .ok ⟨name, classes⟩ := rfl

/-- **A native counter**: the object that has it, its handle, how often it was called, and
the threads with a call on it. -/
structure Counter where
  /-- The object. -/
  object : ObjectId
  /-- The handle. -/
  handle : Handle
  /-- What it stands at. -/
  calls : Int32 := 0
  /-- The threads with a call on it. -/
  callers : List ThreadId := []

/-- The record of a counter. -/
def Counter.record (x : Counter) : Record where
  object := x.object
  typeName := myObject
  hooks := counterHooks
  lifecycle := .live
  inFlight := x.callers
  resource := some ⟨.counter, x.calls⟩

/-- **What a scene says of the domain.** -/
structure Setting where
  /-- Name of the domain. -/
  domain : String
  /-- Name of the assembly that is provided. -/
  assembly : String
  /-- Whether the assembly has been loaded. -/
  loaded : Bool := false
  /-- The objects on the heap with their classes, the latest first. -/
  objects : List (ObjectId × Class) := []
  /-- The active frames. -/
  frames : List Frame := []
  /-- Objects whose construction is running. -/
  allocating : List ObjectId := []
  /-- Objects held by native code. -/
  held : List ObjectId := []
  /-- Objects that a collection has taken and not yet come to the end of. -/
  taken : List ObjectId := []
  /-- The number of the object allocated last. -/
  lastObject : UInt64 := 0

namespace Setting

/-- The class of an object on the heap. -/
def classOf? (x : Setting) (o : ObjectId) : Option Class :=
  (x.objects.find? (fun e => e.1 = o)).map Prod.snd

/-- The owners of roots of an object. -/
def owners (x : Setting) (o : ObjectId) : Nat :=
  x.held.count o + x.allocating.count o + (x.frames.map (·.claims o)).sum

/-- The object that is allocated next. -/
def nextObject (x : Setting) : ObjectId := ⟨x.lastObject + 1⟩

end Setting

/-- **A scene of the self-test.** -/
@[ext] structure Scene where
  /-- What there is in the domain. -/
  setting : Setting
  /-- The native counters that are live, the latest first. -/
  counters : List Counter := []
  /-- The number of the handle that is given out next. -/
  nextHandle : UInt64 := 1
  /-- The lines of the journal, the latest first. -/
  journal : List String := []

end SelfTest

open SelfTest

/-! ## States that show a scene

The parts of a scene, and what each of them says about the part of a state that it is the picture
of. -/

/-- **A domain shows a setting.** It allows two nested bodies, and its collections visit
their garbage in any order. -/
structure Domain.Shows (d : Domain) (x : Setting) : Prop where
  name : d.name = x.domain
  depth : 2 ≤ d.maxCallDepth
  order : ∀ n l, (d.sweepOrder n l).Perm l
  absent : d.image? absentAssembly = none
  provided : d.image? x.assembly = some ⟨x.assembly, SelfTest.classes⟩
  loaded : x.loaded = true → ∀ c ∈ SelfTest.classes, d.classes.get? c.fullName = some c
  exact : d.Exact
  classOf : ∀ o, d.classOf? o = x.classOf? o
  taken : ∀ o, (d.heap.get? o).map HeapObject.finalizing = some true → o ∈ x.taken
  frames : d.frames = x.frames
  allocating : d.allocating = x.allocating
  held : d.held = x.held
  lastObject : d.lastObject = x.lastObject

/-- **A bridge shows counters**, and the number of its next handle. -/
structure Bridge.Shows (b : Bridge) (counters : List Counter) (next : UInt64) : Prop where
  next : b.nextHandle = next
  handles : b.handles = counters.map Counter.handle
  nodup : b.handles.Nodup
  objects : (counters.map Counter.object).Nodup
  found : ∀ o, b.find? o = (counters.find? (fun x => x.object = o)).map Counter.handle
  records : ∀ x ∈ counters, b.records.get? x.handle = some x.record

/-- **A state shows a scene.** -/
structure World.Shows (w : World) (s : Scene) : Prop where
  registry : w.registry = SelfTest.registry
  domain : w.domain.Shows s.setting
  bridge : w.bridge.Shows s.counters s.nextHandle
  journal : Event.journal w.history = s.journal

/-- What is kept by its key is found by it as before. -/
theorem SelfTest.find?_filter_key {α κ : Type} [DecidableEq κ] (key : α → κ) (p : κ → Prop)
    [DecidablePred p] (l : List α) (k : κ) :
    (l.filter (fun a => p (key a))).find? (fun a => key a = k) =
      if p k then l.find? (fun a => key a = k) else none := by
  rw [List.find?_filter]
  by_cases hk : p k
  · rw [if_pos hk]
    congr 1
    funext a
    by_cases ha : key a = k
    · simp [ha, hk]
    · simp [ha]
  · rw [if_neg hk, List.find?_eq_none]
    intro a _
    simp only [decide_eq_true_eq, not_and]
    exact fun hp ha => hk (ha ▸ hp)

namespace Event

theorem journal_append (l l' : List Event) : journal (l ++ l') = journal l ++ journal l' :=
  List.filterMap_append

theorem journal_append_of_eq_nil {l : List Event} (h : journal l = []) (l' : List Event) :
    journal (l ++ l') = journal l' := by
  rw [journal_append, h, List.nil_append]

end Event

namespace SelfTest

variable {α β ε : Type} {p : Run α} {f : α → Run β} {s s' s'' : Scene} {a : α} {b : β}

/-! ## Processes that lead from scene to scene

Sequences, sections, and the two boundaries. -/

/-- A sequence comes to where its second part comes to from where the first has ended. -/
theorem exists_bind {w w' : World} {good : World → Prop} (h : p.Ends w (.ok a) w')
    (h' : ∃ w'', (f a).Ends w' (.ok b) w'' ∧ good w'') :
    ∃ w'', (p >>= f).Ends w (.ok b) w'' ∧ good w'' :=
  have ⟨w'', hf, hw⟩ := h'
  ⟨w'', h.bind hf, hw⟩

/-- **A process leads from a scene to a result and a scene**, from whatever state shows the
first. -/
def Leads (p : Run α) (s : Scene) (a : α) (s' : Scene) : Prop :=
  ∀ w : World, w.Shows s → ∃ w', p.Ends w (.ok a) w' ∧ w'.Shows s'

namespace Leads

theorem pure (a : α) (s : Scene) : Leads (pure a) s a s := fun w hw => ⟨w, .pure a w, hw⟩

/-- A first part that may say what it likes, as the rest takes it from there. -/
theorem bind_of (h : ∀ w : World, w.Shows s → ∃ a w' s', p.Ends w (.ok a) w' ∧ w'.Shows s' ∧
    Leads (f a) s' b s'') : Leads (p >>= f) s b s'' := by
  intro w hw
  obtain ⟨a, w', s', hp, hw', hf⟩ := h w hw
  exact exists_bind hp (hf w' hw')

theorem bind (h : Leads p s a s') (h' : Leads (f a) s' b s'') : Leads (p >>= f) s b s'' :=
  bind_of fun w hw =>
    have ⟨w', hp, hw'⟩ := h w hw
    ⟨a, w', s', hp, hw', h'⟩

theorem attempt {k : Except Crash α → Run β} (h : Leads p s a s')
    (h' : Leads (k (.ok a)) s' b s'') : Leads (p.attempt >>= k) s b s'' := by
  intro w hw
  obtain ⟨w', hp, hw'⟩ := h w hw
  obtain ⟨w'', hk, hw''⟩ := h' w' hw'
  exact ⟨w'', hp.attempt hk, hw''⟩

/-- An exchange with the state, of which every state that shows the scene says the same. -/
theorem exchange {f : World → α × World} (h : ∀ w, w.Shows s → (f w).1 = a ∧ (f w).2.Shows s') :
    Leads (Process.exchange f) s a s' := by
  intro w hw
  obtain ⟨rfl, hw'⟩ := h w hw
  exact ⟨_, .exchange f w, hw'⟩

theorem change {f : World → World} (h : ∀ w, w.Shows s → (f w).Shows s') :
    Leads (Process.change f) s () s' :=
  fun w hw => ⟨_, .change f w, h w hw⟩

theorem ask {f : World → α} (h : ∀ w, w.Shows s → f w = a) : Leads (Process.ask f) s a s := by
  intro w hw
  obtain rfl := h w hw
  exact ⟨w, .ask f w, hw⟩

theorem askDomain {f : Domain → α} (h : ∀ d, d.Shows s.setting → f d = a) :
    Leads (Run.askDomain f) s a s :=
  ask fun w hw => h w.domain hw.domain

theorem askBridge {f : Bridge → α} (h : ∀ b, b.Shows s.counters s.nextHandle → f b = a) :
    Leads (Run.askBridge f) s a s :=
  ask fun w hw => h w.bridge hw.bridge

theorem askRegistry {f : World → α} (h : ∀ w : World, w.registry = registry → f w = a) :
    Leads (Process.ask f) s a s :=
  ask fun w hw => h w hw.registry

theorem onDomain {f : Domain → α × Domain} {events : α → List Event} {x : Setting}
    (h : ∀ d, d.Shows s.setting → (f d).1 = a ∧ (f d).2.Shows x)
    (he : Event.journal (events a) = []) :
    Leads (Run.onDomain f events) s a { s with setting := x } :=
  exchange fun w hw =>
    have ⟨ha, hd⟩ := h w.domain hw.domain
    ⟨ha, hw.registry, hd, hw.bridge,
      (Event.journal_append_of_eq_nil (by rw [ha, he]) _).trans hw.journal⟩

theorem changeDomain {f : Domain → Domain} {events : List Event} {x : Setting}
    (h : ∀ d, d.Shows s.setting → (f d).Shows x) (he : Event.journal events = []) :
    Leads (Run.changeDomain f events) s () { s with setting := x } :=
  change fun w hw => ⟨hw.registry, h w.domain hw.domain, hw.bridge,
    (Event.journal_append_of_eq_nil he _).trans hw.journal⟩

theorem onBridge {f : Bridge → α × Bridge} {events : α → List Event} {counters : List Counter}
    {next : UInt64}
    (h : ∀ b, b.Shows s.counters s.nextHandle → (f b).1 = a ∧ (f b).2.Shows counters next)
    (he : Event.journal (events a) = []) :
    Leads (Run.onBridge f events) s a { s with counters := counters, nextHandle := next } :=
  exchange fun w hw =>
    have ⟨ha, hb⟩ := h w.bridge hw.bridge
    ⟨ha, hw.registry, hw.domain, hb,
      (Event.journal_append_of_eq_nil (by rw [ha, he]) _).trans hw.journal⟩

/-- An entry of the history that is no line for the journal. -/
theorem record {e : Event} (he : Event.journal [e] = []) : Leads (Run.record e) s () s :=
  change fun w hw => ⟨hw.registry, hw.domain, hw.bridge,
    (Event.journal_append_of_eq_nil he w.history).trans hw.journal⟩

theorem log (level : LogLevel) (text : String) : Leads (Run.log level text) s () s := record rfl

/-- A line for the journal. -/
theorem note (line : String) :
    Leads (Run.record (.note line)) s () { s with journal := line :: s.journal } :=
  change fun _ hw => ⟨hw.registry, hw.domain, hw.bridge, congrArg (line :: ·) hw.journal⟩

theorem catchNative {code : Run (Except ε α)} {r : Except ε α} (member : String)
    (ofFault : NativeFault → ε) (h : Leads code s r s') :
    Leads (HostBridge.catchNative member ofFault code) s r s' :=
  h.attempt (.pure _ _)

theorem managedBoundary_ok {code : Run (Except ManagedException α)} (member : String)
    (h : Leads code s (.ok a) s') :
    Leads (HostBridge.managedBoundary member code) s (.ok a) s' :=
  h.attempt (.pure _ _)

theorem managedBoundary_error {code : Run (Except ManagedException α)} {e : ManagedException}
    (member : String) (h : Leads code s (.error e) s') :
    Leads (HostBridge.managedBoundary member code) s (.error (.managedFault member e)) s' :=
  h.attempt (.bind (.log _ _) (.pure _ _))

theorem except_lift (h : Leads p s a s') : Leads (ExceptT.lift (ε := ε) p).run s (.ok a) s' :=
  h.bind (.pure _ _)

/-- What may throw comes to a value, and goes on from there. -/
theorem except_bind {p : ExceptT ε Run α} {f : α → ExceptT ε Run β} {r : Except ε β}
    (h : Leads p.run s (.ok a) s') (h' : Leads (f a).run s' r s'') :
    Leads (p >>= f).run s r s'' :=
  h.bind h'

theorem ensure {holds : Bool} {otherwise : String} (h : holds = true) :
    Leads (SelfTest.ensure holds otherwise).run s (.ok ()) s := by
  rw [h]
  exact .pure _ _

end Leads

/-! ## Code

The same for managed code, whose operations are replied to by processes. -/

section Code

variable {run : Runner} {me : ThreadId} {x : Context}

namespace Leads

theorem managed_bind {code : ManagedCode α} {f : α → ManagedCode β}
    (h : Leads (Run.runManaged run me x code) s a s')
    (h' : Leads (Run.runManaged run me x (f a)) s' b s'') :
    Leads (Run.runManaged run me x (code >>= f)) s b s'' := by
  rw [Run.runManaged_bind]
  exact h.bind h'

theorem managed_op {op : ManagedOp} {r : op.Reply}
    (h : Leads (Run.managedReply run me x op) s r s') :
    Leads (Run.runManaged run me x (ManagedCode.op op)) s r s' :=
  h.bind (.pure _ _)

theorem body_perform {op : ManagedOp} {r : op.Reply}
    (h : Leads (Run.managedReply run me x op) s r s') :
    Leads (Run.runManaged run me x (perform op).run) s (.ok r) s' :=
  managed_bind (managed_op h) (.pure _ _)

/-- What a body comes to, where its first part raises no exception. -/
theorem body_bind {b : Body α} {f : α → Body β} {r : Except ManagedException β}
    (h : Leads (Run.runManaged run me x b.run) s (.ok a) s')
    (h' : Leads (Run.runManaged run me x (f a).run) s' r s'') :
    Leads (Run.runManaged run me x (b >>= f).run) s r s'' :=
  managed_bind h h'

/-- The first part of a body raises an exception. -/
theorem body_throws {b : Body α} {f : α → Body β} {e : ManagedException}
    (h : Leads (Run.runManaged run me x b.run) s (.error e) s') :
    Leads (Run.runManaged run me x (b >>= f).run) s (.error e) s' :=
  managed_bind h (.pure _ _)

end Leads

end Code

end SelfTest

/-! ## Roots that come and go with their owners -/

namespace Domain

variable {d d' : Domain} {x : Setting} {g : FrameId}

theorem Balances.classOf? (h : d.Balances d' g) (o : ObjectId) :
    d'.classOf? o = d.classOf? o := by
  obtain ⟨count, hh, -⟩ := h
  unfold Domain.classOf?
  rw [hh, Option.map_map]
  rfl

namespace Shows

theorem owners_eq (h : d.Shows x) (o : ObjectId) : d.owners o = x.owners o := by
  unfold Domain.owners Setting.owners
  rw [h.held, h.allocating, h.frames]

theorem nextObject_eq (h : d.Shows x) : d.nextObject = x.nextObject := by
  unfold Domain.nextObject Setting.nextObject
  rw [h.lastObject]

/-- **A section that balances** leaves a setting with other owners. -/
theorem balance (h : d.Shows x) (hb : d.Balances d' g)
    (hd : ∃ heap frames next allocating held, d' = { d with
      heap := heap, frames := frames, nextFrame := next, allocating := allocating, held := held })
    {frames : List Frame} {allocating held : List ObjectId} (hf : d'.frames = frames)
    (ha : d'.allocating = allocating) (hh : d'.held = held) :
    d'.Shows { x with frames := frames, allocating := allocating, held := held } := by
  have hclass := fun o => (hb.classOf? o).trans (h.classOf o)
  have htaken := fun o ho => h.taken o ((hb.objects o).symm.trans ho)
  have hexact := hb.exact h.exact
  obtain ⟨heap, _, next, _, _, rfl⟩ := hd
  subst hf ha hh
  exact { h with exact := hexact, classOf := hclass, taken := htaken, frames := rfl,
                 allocating := rfl, held := rfl }

end Shows

end Domain

end HostBridge
