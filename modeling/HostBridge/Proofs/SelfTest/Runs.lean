import HostBridge.Proofs.SelfTest.Scenarios

/-!
# The self-test, run after run

A run of the self-test makes a test object, goes through the scenarios and lets go of the
object again. It leaves the journal longer, the classes loaded and its test object on the
heap, where nobody owns it; the collection of the next run will take it. So a run does not
start from where the one before has started, and what carries over from run to run is an
invariant of the scenes between them (`Scene.Settled`): nothing is going on, there are no
counters, and all objects on the heap are test objects with a number given out lately. It is
enough for a run to pass (`Scene.Settled.runAll_passes`) and holds after the run
(`Scene.Settled.ran`); by induction all runs pass, however many there are.

The order in which collections visit their garbage is a parameter of the domain. It only has
to be an order of that garbage, and no scene depends on it (`collect_ends`).

The runs may be more than there are numbers for objects. That a number is free when it comes up
again is part of the invariant, and costs nothing else than to know which objects the heap has
left: those of the last run, and no others.
-/

namespace HostBridge

open SelfTest

namespace Domain.Shows

variable {d : Domain} {x : Setting}

/-- The classes of the assembly are loaded. -/
theorem addClasses (h : d.Shows x) :
    (d.addClasses ⟨x.assembly, SelfTest.classes⟩).Shows { x with loaded := true } := by
  refine { h with loaded := fun _ c hc => ?_, exact := h.exact, classOf := h.classOf,
                  taken := h.taken, frames := h.frames, allocating := h.allocating,
                  held := h.held, lastObject := h.lastObject }
  change (((d.classes.insert _ _).insert _ _).insert _ _).get? c.fullName = some c
  have hnames : myObjectClass.fullName ≠ nativeMathClass.fullName ∧
      myObjectClass.fullName ≠ testClass.fullName ∧
      nativeMathClass.fullName ≠ testClass.fullName := by decide
  obtain ⟨h₁, h₂, h₃⟩ := hnames
  simp only [SelfTest.classes, List.mem_cons, List.not_mem_nil, or_false] at hc
  obtain rfl | rfl | rfl := hc <;> simp [Table.get?_insert, h₁, h₂, h₃]

end Domain.Shows

namespace SelfTest

variable {m n : Nat} {run : Runner} {me : ThreadId} {s : Scene} {name : String}

/-! ## What a run begins with

Loading an assembly that is not there, loading the one that is, and making the test object. -/

namespace Leads

theorem loadFails : Leads SelfTest.loadFails.run s (.ok (absentAssembly ++ " not found")) s := by
  have hload : Leads (Run.loadAssembly absentAssembly) s
      (.error (.assemblyNotFound absentAssembly)) s :=
    .bind (.askDomain fun d hd => hd.absent) (.pure _ _)
  exact .except_bind (.except_lift hload) (.pure _ _)

theorem getClassFails (i : String) :
    Leads (SelfTest.getClassFails ⟨i, classes⟩).run s
      (.ok (absentClass ++ " in " ++ i ++ " not found")) s :=
  .pure _ _

/-- **The assembly is loaded**, as all its externs are bound. -/
theorem loadAssembly :
    Leads (Run.loadAssembly s.setting.assembly) s (.ok ⟨s.setting.assembly, classes⟩)
      { s with setting := { s.setting with loaded := true } } := by
  refine .bind (.askDomain fun d hd => hd.provided) (.bind (.askRegistry fun w hw => hw) ?_)
  exact .bind (.changeDomain (fun d hd => hd.addClasses) rfl) (.pure _ _)

/-- **A test object is made** that native code holds. -/
theorem newInstance (howners : s.setting.owners s.setting.nextObject = 0) :
    Leads (Run.newInstance run me testClass) s (.ok ⟨testClass, s.setting.nextObject⟩)
      { s with setting := { s.setting with
          objects := (s.setting.nextObject, testClass) :: s.setting.objects
          held := s.setting.nextObject :: s.setting.held
          lastObject := s.setting.lastObject + 1 } } := by
  have hnew : Leads (Run.newObject run me testClass 0) s (.ok s.setting.nextObject)
      { s with setting := { s.setting with
          objects := (s.setting.nextObject, testClass) :: s.setting.objects
          allocating := s.setting.nextObject :: s.setting.allocating
          lastObject := s.setting.lastObject + 1 } } := by
    refine .bind (.onDomain (fun d hd => ⟨hd.nextObject_eq, hd.allocate _ howners⟩) rfl) ?_
    exact .bind .construct_none (.pure _ _)
  exact .bind hnew (.bind (.changeDomain (fun d hd => hd.hold rfl) rfl) (.pure _ _))

end Leads

/-! ## One run

From a settled scene to a settled scene. -/

/-- The names of the scenarios in a report. -/
def scenarioNames : List String :=
  ["load_assembly_fail", "get_class_fail", "get_method", "method", "method_with_parameter",
    "add_leet", "mixed_parameters", "string_return", "string_round_trip", "managed_exception",
    "native_exception", "caught_native_exception", "native_object", "native_object_lifecycle"]

/-- **Nothing is going on.** What is on the heap are test objects of runs that ended lately,
and so many objects with a counter were created and deleted. -/
structure Scene.Settled (s : Scene) (name : String) (n : Nat) : Prop where
  assembly : s.setting.assembly = name
  frames : s.setting.frames = []
  allocating : s.setting.allocating = []
  held : s.setting.held = []
  taken : s.setting.taken = []
  counters : s.counters = []
  objects : ∀ o c, s.setting.classOf? o = some c →
    c = testClass ∧ Recent 6 o.number (s.setting.lastObject + 1)
  created : s.journal.count "MyObject created." = n
  deleted : s.journal.count "MyObject deleted." = n

/-- The scene where the test object has been made. -/
def Scene.started (s : Scene) : Scene := { s with
  setting := { s.setting with
    loaded := true
    objects := (s.setting.nextObject, testClass) :: s.setting.objects
    held := s.setting.nextObject :: s.setting.held
    lastObject := s.setting.lastObject + 1 } }

/-- The scene that native code has let go of the test object in. -/
def Scene.dropped (s : Scene) : Scene := { s with setting := { s.setting with held := [] } }

theorem Scene.journal_started (s : Scene) : s.started.journal = s.journal := rfl

theorem Scene.journal_dropped (s : Scene) : s.dropped.journal = s.journal := rfl

theorem Scene.classOf?_dropped (s : Scene) (o : ObjectId) :
    s.dropped.setting.classOf? o = s.setting.classOf? o := rfl

theorem Scene.lastObject_dropped (s : Scene) :
    s.dropped.setting.lastObject = s.setting.lastObject := rfl

/-- **The scene after a run.** -/
def Scene.ran (s : Scene) : Scene := (s.started.tested s.setting.nextObject).dropped

namespace Scene.Settled

variable (h : s.Settled name n)

include h

theorem nextObject_new : s.setting.classOf? s.setting.nextObject = none := by
  refine Option.eq_none_iff_forall_not_mem.2 fun c hc => ?_
  exact ((h.objects _ c hc).2.ne (by decide)) rfl

theorem not_mem_counters (x : Counter) : x ∉ s.counters := by
  rw [h.counters]
  exact List.not_mem_nil

/-- **The test object of a run is the only one that is owned**, and the first that it makes. -/
theorem started : s.started.Resting s.setting.nextObject 0 where
  loaded := rfl
  frames := h.frames
  allocating := h.allocating
  held := congrArg (_ :: ·) h.held
  taken := h.taken
  test := by
    rw [Setting.classOf?_cons rfl, if_pos rfl]
  counted := fun x hx => absurd hx (h.not_mem_counters x)
  others := by
    intro o c hc
    rw [Setting.classOf?_cons rfl] at hc
    split at hc
    · exact .inr (Option.some.inj hc).symm
    · exact .inr (h.objects o c hc).1
  idle := fun x hx => absurd hx (h.not_mem_counters x)
  recentTest := .self _ _
  recentObjects := fun x hx => absurd hx (h.not_mem_counters x)
  recentHandles := fun x hx => absurd hx (h.not_mem_counters x)

/-- **Only the test object is on the heap after a run.** -/
theorem classOf?_ran (o : ObjectId) :
    s.ran.setting.classOf? o = if o = s.setting.nextObject then some testClass else none := by
  rw [Scene.ran, Scene.classOf?_dropped, Scene.tested, Scene.classOf?_collected]
  by_cases ho : o = s.setting.nextObject
  · rw [if_pos ho, if_pos ho, ho, h.started.used_make.test]
  · rw [if_neg ho, if_neg ho]

theorem journal_ran : s.ran.journal = runLines ++ s.journal := by
  rw [Scene.ran, Scene.journal_dropped, Scene.journal_tested (s := s.started) h.counters,
    Scene.journal_started]

/-- **A run leaves what another one can start from.** -/
theorem ran : s.ran.Settled name (n + 5) where
  assembly := by
    rw [← h.assembly]
    rfl
  frames := h.started.used_make.frames
  allocating := h.started.used_make.allocating
  held := rfl
  taken := h.started.used_make.taken
  counters := rfl
  objects := by
    intro o c hc
    rw [h.classOf?_ran] at hc
    split at hc
    · next ho =>
      have hrecent : Recent 6 s.setting.nextObject.number (s.ran.setting.lastObject + 1) := by
        rw [Scene.ran, Scene.lastObject_dropped, Scene.tested, Scene.lastObject_collected]
        exact h.started.used_make.recentTest
      exact ⟨(Option.some.inj hc).symm, ho ▸ hrecent⟩
    · cases hc
  created := by
    rw [h.journal_ran, List.count_append, count_created_runLines, h.created, Nat.add_comm]
  deleted := by
    rw [h.journal_ran, List.count_append, count_deleted_runLines, h.deleted, Nat.add_comm]

variable (m me) in
/-- **A run of the self-test passes.** -/
theorem runAll_passes : ∃ report : Report,
    Leads (runAll (.nested (m + 2)) me name) s (.ok report) s.ran ∧
      report.passed = true ∧ report.scenarios.map ScenarioResult.name = scenarioNames := by
  obtain rfl := h.assembly
  obtain ⟨others, hothers, hnames, hpassed⟩ : Passes (scenarios (.nested (m + 2)) me
      ⟨testClass, s.setting.nextObject⟩) s.started (s.started.tested s.setting.nextObject) :=
    scenarios_pass h.started h.counters (h.created.trans h.deleted.symm)
  have howners : ({ s.setting with loaded := true } : Setting).owners s.setting.nextObject = 0 := by
    simp [Setting.owners, h.held, h.allocating, h.frames]
  let report : Report := ⟨s.setting.domain, s.setting.assembly,
    ⟨"load_assembly_fail", true, absentAssembly ++ " not found"⟩ ::
    ⟨"get_class_fail", true, absentClass ++ " in " ++ s.setting.assembly ++ " not found"⟩ ::
    others, 0, []⟩
  refine ⟨report, ?_, ?_, ?_⟩
  · refine .bind (.result _ .loadFails) (.bind .loadAssembly ?_)
    refine .bind (.result _ (.getClassFails _)) ?_
    refine .bind (.newInstance howners) (.attempt hothers ?_)
    refine .bind (.changeDomain (fun d hd => hd.letGo (l := []) h.started.held) rfl) ?_
    exact .bind (.askDomain fun d hd => hd.name) (.pure _ _)
  · exact List.all_eq_true.2
      (List.forall_mem_cons.2 ⟨rfl, List.forall_mem_cons.2 ⟨rfl, hpassed⟩⟩)
  · exact congrArg (fun l => "load_assembly_fail" :: "get_class_fail" :: l) hnames

/-- **The heap after a run** holds the test object, which nobody owns any more, and nothing
else. -/
theorem heap_ran {d : Domain} (hd : d.Shows s.ran.setting) : ∃ x : HeapObject,
    x.cls = testClass ∧ x.roots = 0 ∧
    ∀ p y, d.heap.get? p = some y ↔ p = s.setting.nextObject ∧ y = x := by
  have hclass : ∀ p, d.classOf? p =
      if p = s.setting.nextObject then some testClass else none :=
    fun p => (hd.classOf p).trans (h.classOf?_ran p)
  obtain ⟨x, hx, hcls⟩ :=
    Option.map_eq_some_iff.1 ((hclass s.setting.nextObject).trans (if_pos rfl))
  refine ⟨x, hcls, ?_, fun p y => ⟨fun hp => ?_, ?_⟩⟩
  · rw [hd.exact _ x hx, hd.owners_eq]
    simp [Setting.owners, h.ran.frames, h.ran.allocating, h.ran.held]
  · have hy := hclass p
    rw [Domain.classOf?, hp] at hy
    split at hy
    · next he =>
      subst he
      exact ⟨rfl, Option.some.inj (hp.symm.trans hx)⟩
    · cases hy
  · rintro ⟨rfl, rfl⟩
    exact hx

end Scene.Settled

/-! ## Many runs

By induction, with the lines of each run in the journal. -/

/-- **Runs of the self-test**, one after the other. -/
def consecutive (run : Runner) (me : ThreadId) (assembly : String) :
    Nat → Run (List (Except ScriptError Report))
  | 0 => return []
  | k + 1 => do
    let earlier ← consecutive run me assembly k
    let last ← runAll run me assembly
    return earlier ++ [last]

variable (m me) in
/-- **However often the self-test is run, it passes**, and nothing is going on afterwards. -/
theorem Scene.Settled.consecutive_passes (h : s.Settled name n) (k : Nat) :
    ∃ (reports : List Report) (s' : Scene),
      Leads (consecutive (.nested (m + 2)) me name k) s (reports.map .ok) s' ∧
      reports.length = k ∧
      (∀ r ∈ reports, r.passed = true ∧ r.scenarios.map ScenarioResult.name = scenarioNames) ∧
      s'.Settled name (n + 5 * k) := by
  induction k with
  | zero => exact ⟨[], s, .pure _ _, rfl, nofun, h⟩
  | succ k ih =>
    obtain ⟨reports, s', hlead, hlength, hpassed, hs'⟩ := ih
    obtain ⟨last, hlast, hlastPassed⟩ := hs'.runAll_passes m me
    refine ⟨reports ++ [last], s'.ran, .bind hlead (.bind hlast ?_), ?_, ?_, hs'.ran⟩
    · rw [List.map_append]
      exact .pure _ _
    · rw [List.length_append, hlength, List.length_singleton]
    · exact List.forall_mem_append.2 ⟨hpassed, List.forall_mem_singleton.2 hlastPassed⟩

/-! ## From the start

A fresh host is a settled one. -/

/-- **A host that is set up for the self-test**: its members are bound, and its assembly is
provided under some name, in a domain that allows so many nested bodies and whose collections
visit their garbage in a given order. -/
def host (domain name : String) (maxCallDepth : Nat)
    (order : Nat → List (ObjectId × Class) → List (ObjectId × Class)) : World :=
  let start := World.start registry .empty domain maxCallDepth
  match assembly name with
  | .error _ => start
  | .ok image => { start with domain := { start.domain.provide image with sweepOrder := order } }

/-- The scene before the first run. -/
def Scene.fresh (domain name : String) : Scene where
  setting := { domain := domain, assembly := name }

theorem Scene.settled_fresh (domain name : String) : (Scene.fresh domain name).Settled name 0 where
  assembly := rfl
  frames := rfl
  allocating := rfl
  held := rfl
  taken := rfl
  counters := rfl
  objects := nofun
  created := rfl
  deleted := rfl

theorem host_shows {domain name : String} {maxCallDepth : Nat}
    {order : Nat → List (ObjectId × Class) → List (ObjectId × Class)}
    (hdepth : 2 ≤ maxCallDepth) (hname : name ≠ absentAssembly)
    (horder : ∀ n l, (order n l).Perm l) :
    (host domain name maxCallDepth order).Shows (.fresh domain name) := by
  unfold host
  rw [assembly_eq]
  exact {
    registry := rfl
    domain := {
      name := rfl
      depth := hdepth
      order := horder
      absent := (Table.get?_insert ..).trans (if_neg hname.symm)
      provided := (Table.get?_insert ..).trans (if_pos rfl)
      loaded := nofun
      exact := nofun
      classOf := fun _ => rfl
      taken := nofun
      frames := rfl
      allocating := rfl
      held := rfl
      lastObject := rfl }
    bridge := {
      next := rfl
      handles := rfl
      nodup := List.nodup_nil
      objects := List.nodup_nil
      found := fun _ => rfl
      records := nofun }
    journal := rfl }

/-- **What is left after so many runs** of the self-test, the last of which began in `v`:
every native object that was created was deleted, and the heap holds the test object of the
last run, which nobody owns. -/
structure TidiedUp (v w : World) (k : Nat) : Prop where
  created : (Event.journal w.history).count "MyObject created." = 5 * k
  deleted : (Event.journal w.history).count "MyObject deleted." = 5 * k
  handles : w.bridge.liveCount = 0
  heap : ∃ (o : ObjectId) (x : HeapObject), v.domain.heap.get? o = none ∧ x.cls = testClass ∧
    x.roots = 0 ∧ ∀ p y, w.domain.heap.get? p = some y ↔ p = o ∧ y = x

/-- **The self-test passes, however often it is run in one domain**, and tidies up after
itself. The domain may allow any number of nested bodies that is at least two, as the
constructor of an object with a counter runs inside the method that makes the object, and its
collections may visit their garbage in any order. The assembly may have any name but the one
that the first scenario takes for missing. -/
theorem consecutive_runs_pass (domain name : String) {n k : Nat}
    {order : Nat → List (ObjectId × Class) → List (ObjectId × Class)} (hn : 2 ≤ n) (hk : 1 ≤ k)
    (hname : name ≠ absentAssembly) (horder : ∀ c l, (order c l).Perm l) (m : Nat)
    (me : ThreadId) :
    ∃ (reports : List Report) (v w : World),
      (consecutive (.nested (m + 2)) me name (k - 1)).Ends (host domain name n order)
        (.ok (reports.dropLast.map .ok)) v ∧
      (consecutive (.nested (m + 2)) me name k).Ends (host domain name n order)
        (.ok (reports.map .ok)) w ∧
      reports.length = k ∧
      (∀ r ∈ reports, r.passed = true ∧ r.scenarios.map ScenarioResult.name = scenarioNames) ∧
      TidiedUp v w k := by
  obtain ⟨k, rfl⟩ : ∃ j, k = j + 1 := ⟨k - 1, by omega⟩
  obtain ⟨earlier, s, hearlier, hlength, hpassed, hs⟩ :=
    (Scene.settled_fresh domain name).consecutive_passes m me k
  obtain ⟨last, hlast, hlastPassed⟩ := hs.runAll_passes m me
  obtain ⟨v, hv, hvs⟩ := hearlier _ (host_shows hn hname horder)
  obtain ⟨w, hw, hws⟩ := hlast v hvs
  refine ⟨earlier ++ [last], v, w, ?_, .bind hv (.bind hw ?_), ?_, ?_, ?_⟩
  · rw [List.dropLast_concat]
    exact hv
  · rw [List.map_append]
    exact .pure _ _
  · rw [List.length_append, hlength, List.length_singleton]
  · exact List.forall_mem_append.2 ⟨hpassed, List.forall_mem_singleton.2 hlastPassed⟩
  · obtain ⟨x, hcls, hroots, hheap⟩ := hs.heap_ran hws.domain
    have hnew : v.domain.heap.get? s.setting.nextObject = none :=
      Option.map_eq_none_iff.1 ((hvs.domain.classOf _).trans hs.nextObject_new)
    refine ⟨?_, ?_, ?_, _, x, hnew, hcls, hroots, hheap⟩
    · rw [hws.journal, hs.ran.created]
      omega
    · rw [hws.journal, hs.ran.deleted]
      omega
    · rw [Bridge.liveCount, hws.bridge.handles, hs.ran.counters]
      rfl

/-- Two runs in a domain whose collections visit the latest object first. -/
theorem consecutive_runs_pass_reversed :
    2 ≤ 2 ∧ 1 ≤ 2 ∧ "BridgeTests" ≠ absentAssembly ∧
    (∀ l : List (ObjectId × Class), l.reverse.Perm l) ∧
    ∃ (reports : List Report) (v w : World),
      (consecutive (.nested 2) mainThread "BridgeTests" (2 - 1)).Ends
        (host "BridgeD" "BridgeTests" 2 fun _ l => l.reverse) (.ok (reports.dropLast.map .ok)) v ∧
      (consecutive (.nested 2) mainThread "BridgeTests" 2).Ends
        (host "BridgeD" "BridgeTests" 2 fun _ l => l.reverse) (.ok (reports.map .ok)) w ∧
      reports.length = 2 ∧
      (∀ r ∈ reports, r.passed = true ∧ r.scenarios.map ScenarioResult.name = scenarioNames) ∧
      TidiedUp v w 2 :=
  ⟨Nat.le_refl 2, by decide, by decide, List.reverse_perm,
    consecutive_runs_pass "BridgeD" "BridgeTests" (Nat.le_refl 2) (by decide) (by decide)
      (fun _ => List.reverse_perm) 0 mainThread⟩

end SelfTest

end HostBridge
