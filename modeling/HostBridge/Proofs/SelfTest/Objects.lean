import HostBridge.Proofs.SelfTest.Counters
import HostBridge.Proofs.SelfTest.Frames

/-!
# Objects with a counter

A method of the test object makes an object with a counter, and calls native members on it.
Its scene is then the scene before with one counter more (`Scene.make`); the calls change what
the counter stands at, and the journal.

The object and its handle are new because their numbers are. This is not for free: numbers are
words, and a host that runs the self-test again and again comes round to each of them again.
But at any time only few numbers are in use, all of them given out lately (`Recent`), and
those are not the number that comes next (`Recent.ne`).
-/

namespace HostBridge.SelfTest

/-! ## Numbers that were given out lately

Distances on the circle of words, where the number that comes next is at the front. -/

/-- **A number is one of the last ones** before the next, numbers counting on from the
largest to the smallest. -/
def Recent (n : Nat) (x next : UInt64) : Prop := (next - (x + 1)).toNat < n

namespace Recent

variable {n : Nat} {x next : UInt64}

theorem self (n : Nat) (x : UInt64) : Recent (n + 1) x (x + 1) := by
  unfold Recent
  rw [UInt64.sub_self]
  exact Nat.succ_pos n

theorem succ (h : Recent n x next) : Recent (n + 1) x (next + 1) := by
  unfold Recent at *
  have hsub : next + 1 - (x + 1) = next - (x + 1) + 1 := by grind
  rw [hsub, UInt64.toNat_add]
  exact Nat.lt_of_le_of_lt (Nat.mod_le _ _) (Nat.succ_lt_succ h)

theorem ne (h : Recent n x next) (hn : n < 2 ^ 64) : x ≠ next := by
  rintro rfl
  have hsub : x - (x + 1) = -1 := by grind
  unfold Recent at h
  rw [hsub] at h
  have : (-1 : UInt64).toNat = 2 ^ 64 - 1 := rfl
  omega

end Recent

/-! ## Scenes between two calls

Nothing is going on, the test object is held, and what was made since is there with its counter. -/

variable {m made : Nat} {run : Runner} {me : ThreadId} {s s' : Scene} {t o : ObjectId} {f : FrameId}
  {name : String} {a : Activation}

/-- The counter that is made next, when it stands at a number and has calls on it. -/
def Scene.nextCounter (s : Scene) (n : Int32) (callers : List ThreadId) : Counter :=
  ⟨s.setting.nextObject, ⟨s.nextHandle⟩, n, callers⟩

/-- **The scene with one counter more**, which stands at a number, with lines in the journal
since it was made, and with calls on it. -/
def Scene.make (s : Scene) (n : Int32 := 0) (lines : List String := [])
    (callers : List ThreadId := []) : Scene where
  setting := { s.setting with
    objects := (s.setting.nextObject, myObjectClass) :: s.setting.objects
    lastObject := s.setting.lastObject + 1 }
  counters := s.nextCounter n callers :: s.counters
  nextHandle := s.nextHandle + 1
  journal := lines ++ "MyObject created." :: s.journal

/-- **The test object is there, and no code is running.** The only other objects are those
with a counter and test objects of earlier runs. No more than so many objects have been made
since the test object, and the counters have the last numbers. -/
structure Scene.Resting (s : Scene) (t : ObjectId) (made : Nat) : Prop where
  loaded : s.setting.loaded = true
  frames : s.setting.frames = []
  allocating : s.setting.allocating = []
  held : s.setting.held = [t]
  taken : s.setting.taken = []
  test : s.setting.classOf? t = some testClass
  counted : ∀ x ∈ s.counters, s.setting.classOf? x.object = some myObjectClass
  others : ∀ o c, s.setting.classOf? o = some c →
    (∃ x ∈ s.counters, x.object = o) ∨ c = testClass
  idle : ∀ x ∈ s.counters, x.callers = []
  recentTest : Recent (made + 1) t.number (s.setting.lastObject + 1)
  recentObjects : ∀ x ∈ s.counters, Recent made x.object.number (s.setting.lastObject + 1)
  recentHandles : ∀ x ∈ s.counters, Recent made x.handle.number s.nextHandle

theorem Setting.classOf?_cons {x : Setting} {p : ObjectId} {c : Class}
    {objects : List (ObjectId × Class)} (hx : x.objects = (p, c) :: objects) (o : ObjectId) :
    x.classOf? o = if p = o then some c else ({ x with objects := objects }).classOf? o := by
  unfold Setting.classOf?
  rw [hx, List.find?_cons]
  by_cases h : p = o <;> simp [h]

namespace Scene.Resting

variable (h : s.Resting t made) (hfew : made + 1 < 2 ^ 64)

include h hfew

theorem test_ne_nextObject : t ≠ s.setting.nextObject := fun he =>
  h.recentTest.ne hfew (congrArg ObjectId.number he)

theorem object_ne_nextObject : ∀ x ∈ s.counters, x.object ≠ s.setting.nextObject :=
  fun x hx he => (h.recentObjects x hx).ne (by omega) (congrArg ObjectId.number he)

theorem handle_ne_nextHandle : ∀ x ∈ s.counters, x.handle ≠ ⟨s.nextHandle⟩ :=
  fun x hx he => (h.recentHandles x hx).ne (by omega) (congrArg Handle.number he)

theorem make (n : Int32) (lines : List String) : (s.make n lines).Resting t (made + 1) := by
  have hclass : ∀ o, (s.make n lines).setting.classOf? o =
      if s.setting.nextObject = o then some myObjectClass else s.setting.classOf? o :=
    fun o => Setting.classOf?_cons rfl o
  refine { h with test := ?_, counted := ?_, others := ?_, idle := ?_, recentTest := ?_,
                  recentObjects := ?_, recentHandles := ?_ }
  · rw [hclass, if_neg (h.test_ne_nextObject hfew).symm]
    exact h.test
  · intro x hx
    rw [hclass]
    obtain rfl | hx := List.mem_cons.1 hx
    · exact if_pos rfl
    · rw [if_neg (h.object_ne_nextObject hfew x hx).symm]
      exact h.counted x hx
  · intro o c hc
    rw [hclass] at hc
    split at hc
    · next he => exact .inl ⟨_, List.mem_cons_self .., he⟩
    · exact (h.others o c hc).imp_left fun ⟨x, hx, he⟩ => ⟨x, List.mem_cons_of_mem _ hx, he⟩
  · intro x hx
    obtain rfl | hx := List.mem_cons.1 hx
    · rfl
    · exact h.idle x hx
  · exact h.recentTest.succ
  · intro x hx
    obtain rfl | hx := List.mem_cons.1 hx
    · exact .self _ _
    · exact (h.recentObjects x hx).succ
  · intro x hx
    obtain rfl | hx := List.mem_cons.1 hx
    · exact .self _ _
    · exact (h.recentHandles x hx).succ

end Scene.Resting

/-! ## Objects made and members called

What a method does with an object of its own. -/

/-- The exception of a call of `Fail`. -/
def failException (message : String) : ManagedException :=
  ⟨BridgeError.nativeException, message, [(objectMember "Fail" [.string] .void).qualifiedName]⟩

namespace Leads

/-- A body that says what it does. -/
theorem saying {x : Context} (text : String) :
    Leads (Run.runManaged run me x (saying text x.activation)) s (.ok .void) s :=
  .managed_bind (.managed_op (.log _ _)) (.pure _ _)

/-- **An object with a counter is made**, and stays under construction. -/
theorem newObject {depth : Nat} (hdepth : depth < 2)
    (howners : s.setting.owners s.setting.nextObject = 0)
    (hobjects : ∀ x ∈ s.counters, x.object ≠ s.setting.nextObject)
    (hhandles : ∀ x ∈ s.counters, x.handle ≠ ⟨s.nextHandle⟩) :
    Leads (Run.newObject (.nested (m + 1)) me myObjectClass depth) s (.ok s.setting.nextObject)
      { s.make with setting := { s.make.setting with
          allocating := s.setting.nextObject :: s.setting.allocating } } := by
  refine .bind (.onDomain (fun d hd => ⟨hd.nextObject_eq, hd.allocate _ howners⟩) rfl) ?_
  refine .bind (.construct hobjects hhandles) ?_
  refine .attempt (.runBody [] hdepth fun f => .saying _) ?_
  exact .pure _ _

/-- **The test object makes an object with a counter**, which its frame keeps. -/
theorem make (h : s.Resting t made) (hfew : made + 1 < 2 ^ 64) :
    Leads (Run.runManaged (.nested (m + 1)) me ⟨testClass, f, 0, a⟩
        (SelfTest.newObject myObject).run)
      (s.enter ⟨f, name, some t, []⟩) (.ok s.setting.nextObject)
      (s.make.enter ⟨f, name, some t, [s.setting.nextObject]⟩) := by
  have hclass : ∀ d : Domain, d.Shows (s.enter ⟨f, name, some t, []⟩).setting →
      d.classNamed testClass myObject = .ok myObjectClass := by
    intro d hd
    have hfind : d.findClass? myObject = some myObjectClass :=
      hd.findClass?_fullName (c := myObjectClass) h.loaded (List.mem_cons_self ..)
    unfold Domain.classNamed
    rw [hfind]
    rfl
  have hne := h.test_ne_nextObject hfew
  have howners : (s.enter ⟨f, name, some t, []⟩).setting.owners s.setting.nextObject = 0 := by
    simp [Setting.owners, Scene.enter, h.held, h.allocating, h.frames, Frame.claims, hne]
  refine .managed_op (.bind (.askDomain hclass) ?_)
  refine .bind (.newObject Nat.one_lt_two howners (h.object_ne_nextObject hfew)
    (h.handle_ne_nextHandle hfew)) ?_
  exact .bind (.changeDomain (fun d hd => hd.adopt rfl rfl) rfl) (.pure _ _)

section Extern

variable {x : Context} {args : List ManagedValue} {xs : List BoundaryValue} {n k : Int32}
  {lines lines' : List String} {frame : Frame}

/-- **Managed code calls a native member** of the object made last: the implementation may
count, write to the journal, and fail. -/
theorem callExtern (member : Member) (call : NativeCall) {r : Except CallFailure BoundaryValue}
    {result : Except BridgeError BoundaryValue} {v : Except ManagedException ManagedValue}
    (hfind : myObjectClass.findExtern? name .perInstance args = some member)
    (hargs : ∀ u, Leads (Run.marshalAll args) u (.ok xs) u) (hmember : member.isInstance = true)
    (hcall : Run.checkCall registry member xs = .ok call)
    (h : Leads (run.native me (call.run (.object ⟨s.nextHandle⟩ :: xs)))
      ((s.make n lines [me]).enter frame) r ((s.make k lines' [me]).enter frame))
    (hr : ∀ u, Leads (Run.settle member r) u result u)
    (hv : ∀ u, Leads (match result with
      | .ok b => Run.unmarshal b
      | .error e => return .error (Run.raised member e)) u v u) :
    Leads (Run.runManaged run me x (SelfTest.callExtern s.setting.nextObject name args).run)
      ((s.make n lines).enter frame) v ((s.make k lines').enter frame) := by
  have hclass : ∀ d : Domain, d.Shows ((s.make n lines).enter frame).setting →
      d.classOf s.setting.nextObject = .ok myObjectClass := by
    intro d hd
    unfold Domain.classOf
    rw [hd.classOf, Setting.classOf?_cons rfl, if_pos rfl]
  refine .managed_op (.bind (.askDomain hclass) ?_)
  dsimp only
  rw [hfind]
  have hinvoke := Leads.invoke (s := (s.make n lines).enter frame) k
    (lines' ++ "MyObject created." :: s.journal) hmember hcall rfl rfl h hr
  exact .bind (hargs _) (.bind hinvoke (hv _))

theorem callEcho (value : String) :
    Leads (Run.runManaged (.nested (m + 1)) me x
        (SelfTest.callExtern s.setting.nextObject "Echo" [.string value]).run)
      ((s.make n lines).enter frame) (.ok (.string value)) ((s.make (n + 1) lines).enter frame) :=
  callExtern (objectMember "Echo" [.string] .string) SelfTest.echo rfl (fun _ => .pure _ _) rfl rfl
    (.echo (x := s.nextCounter n [me]) rfl value) (fun _ => .settle_ok rfl) (fun _ => .pure _ _)

theorem callDoStuff (value : String) :
    Leads (Run.runManaged (.nested (m + 1)) me x
        (SelfTest.callExtern s.setting.nextObject "DoStuff" [.string value]).run)
      ((s.make n lines).enter frame) (.ok .void)
      ((s.make (n + 1) (("DoStuff was called with: " ++ value) :: lines)).enter frame) :=
  callExtern (objectMember "DoStuff" [.string] .void) SelfTest.doStuff rfl (fun _ => .pure _ _) rfl
    rfl (.doStuff (x := s.nextCounter n [me]) rfl value) (fun _ => .settle_ok rfl)
    (fun _ => .pure _ _)

theorem callCallCount :
    Leads (Run.runManaged (.nested (m + 1)) me x
        (SelfTest.callExtern s.setting.nextObject "CallCount" []).run)
      ((s.make n lines).enter frame) (.ok (.int32 n)) ((s.make n lines).enter frame) :=
  callExtern (objectMember "CallCount" [] .int32) SelfTest.callCount rfl (fun _ => .pure _ _) rfl
    rfl (.callCount (x := s.nextCounter n [me]) rfl) (fun _ => .settle_ok rfl)
    (fun _ => .pure _ _)

theorem callFail (message : String) :
    Leads (Run.runManaged (.nested (m + 1)) me x
        (SelfTest.callExtern s.setting.nextObject "Fail" [.string message]).run)
      ((s.make n lines).enter frame) (.error (failException message))
      ((s.make n lines).enter frame) :=
  callExtern (objectMember "Fail" [.string] .void) SelfTest.fail rfl (fun _ => .pure _ _) rfl
    rfl (.pure _ _) (fun _ => .pure _ _) (fun _ => .pure _ _)

/-- **Managed code of the test class calls a native static member.** -/
theorem callStatic (member : Member) (call : NativeCall) {b : BoundaryValue} {v : ManagedValue}
    (hs : s.setting.loaded = true)
    (hfind : nativeMathClass.findExtern? name .static args = some member)
    (hargs : ∀ u, Leads (Run.marshalAll args) u (.ok xs) u) (hmember : member.isInstance = false)
    (hcall : Run.checkCall registry member xs = .ok call)
    (h : Leads (run.native me (call.run xs)) s (.ok b) s')
    (hb : b.checkTag member.signature.ret = .ok ())
    (hv : ∀ u, Leads (Run.unmarshal b) u (.ok v) u) :
    Leads (Run.runManaged run me ⟨testClass, f, 0, a⟩
      (SelfTest.callStaticExtern nativeMath name args).run) s (.ok v) s' := by
  have hclass : ∀ d : Domain, d.Shows s.setting →
      d.classNamed testClass nativeMath = .ok nativeMathClass := by
    intro d hd
    have hclass : d.findClass? nativeMath = some nativeMathClass :=
      hd.findClass?_fullName (c := nativeMathClass) hs (by simp [classes])
    unfold Domain.classNamed
    rw [hclass]
    rfl
  have hinvoke : Leads (Run.invoke run me member none xs) s (.ok b) s' := by
    refine .bind (.askRegistry fun w hw => hw) ?_
    rw [hcall]
    dsimp only
    rw [hmember]
    exact .bind (.catchNative _ _ (.bind (.record rfl) h)) (.settle_ok hb)
  refine .managed_op (.bind (.askDomain hclass) ?_)
  dsimp only
  rw [hfind]
  exact .bind (hargs _) (.bind hinvoke (hv _))

end Extern

end Leads

end HostBridge.SelfTest
