import HostBridge.Proofs.Dispatch
import HostBridge.Proofs.Domain.Marshalling

/-!
# Calls of native members

A managed body that calls a native member of a class which its domain has loaded finds
the member bound, and an implementation that takes what it is given. So the call does not
fail for a missing binding or a wrong number of arguments, and fails for a wrong type only
for two reasons: an object without a live handle, and an untyped implementation whose
result is not of the declared type. A `null` does not get as far as native code
(`extern_calls_fit`).

All of this holds while other threads load assemblies, and make and destroy instances.
The call may therefore find an argument without a handle at one of several moments; the
statements speak of the points that the thread comes by.

## Where the fit comes from

Nothing is checked for the first time when a body calls. That its member is bound was checked
when its assembly was loaded (`World.Bound`), and no section takes a binding back. That the
declaration takes the arguments is how the member was found among those of the class. That the
implementation takes them is what it was bound for. The checks of the boundary are made all the
same, and the theorem says which of them can still fail.

Of what a call needs, only the handles of its objects can be lost in the meantime. That is why
one of the two reasons is about handles, and none is about a binding.
-/

namespace HostBridge

variable {α : Type}

/-! ## Calls from managed bodies

Bodies call on objects and on types. The two find their class in different ways and do the same
with it. -/

/-- **A call of a native member** by a managed body: on an object, or on a type. -/
inductive ExternCall where
  | onObject (receiver : ObjectId) (name : String) (args : List ManagedValue)
  | onType (typeName name : String) (args : List ManagedValue)

namespace ExternCall

/-- The name of the member. -/
def name : ExternCall → String
  | onObject _ name _ => name
  | onType _ name _ => name

/-- The arguments. -/
def args : ExternCall → List ManagedValue
  | onObject _ _ args => args
  | onType _ _ args => args

/-- The receiver. -/
def receiver? : ExternCall → Option ObjectId
  | onObject receiver _ _ => some receiver
  | onType _ _ _ => none

/-- **The class whose declarations the call goes by**: that of the receiver, or the one that
the body knows by the name. -/
def classIn (d : Domain) (x : Context) : ExternCall → Except ManagedException Class
  | onObject receiver _ _ => d.classOf receiver
  | onType typeName _ _ => d.classNamed x.cls typeName

/-- **The declaration that matches the call.** -/
def member? (c : Class) : ExternCall → Option Member
  | onObject _ name args => c.findExtern? name .perInstance args
  | onType _ name args => c.findExtern? name .static args

/-- **What the call does**, asked for by the body that runs in a frame. -/
def process (run : Runner) (me : ThreadId) (x : Context) :
    ExternCall → Run (Except ManagedException ManagedValue)
  | onObject receiver name args => Run.managedReply run me x (.callExtern receiver name args)
  | onType typeName name args => Run.managedReply run me x (.callStaticExtern typeName name args)

/-- What the call does when its class is known. -/
def dispatch (run : Runner) (me : ThreadId) (call : ExternCall) :
    Except ManagedException Class → Run (Except ManagedException ManagedValue)
  | .error e => pure (.error e)
  | .ok c =>
    match call.member? c with
    | none => pure (.error (Run.missing c call.name call.args))
    | some m => Run.callExtern run me m call.receiver? call.args

/-- A call first looks for its class. -/
theorem process_eq (run : Runner) (me : ThreadId) (x : Context) (call : ExternCall) :
    call.process run me x = Run.askDomain (call.classIn · x) >>= call.dispatch run me := by
  cases call <;> refine congrArg (Run.askDomain _ >>= ·) (funext fun r => ?_) <;> cases r <;> rfl

end ExternCall

/-! ## Classes whose native members are bound

An invariant of every interleaving of a host that begins without classes. -/

/-- **The native members of every class** that the domain has loaded are bound. -/
def World.Bound (w : World) : Prop :=
  ∀ name c, w.domain.classes.get? name = some c →
    ∀ m ∈ c.externMembers, ∃ b, w.registry.resolve m = .ok b

namespace Domain

/-- A class that is there when an assembly was loaded is one of its classes, or was there
before. -/
theorem get?_addClasses {d : Domain} {i : Image} {name : String} {c : Class}
    (h : (d.addClasses i).classes.get? name = some c) :
    c ∈ i.classes ∨ d.classes.get? name = some c := by
  have hfold : ∀ (l : List Class) (t : Table String Class),
      (l.foldl (fun t c => t.insert c.fullName c) t).get? name = some c →
        c ∈ l ∨ t.get? name = some c := by
    intro l
    induction l with
    | nil => exact fun t ht => .inr ht
    | cons a l ih =>
      intro t ht
      obtain hl | ht := ih _ ht
      · exact .inl (List.mem_cons_of_mem a hl)
      · rw [Table.get?_insert] at ht
        split at ht
        · cases ht
          exact .inl List.mem_cons_self
        · exact .inr ht
  exact hfold i.classes d.classes h

end Domain

namespace World

variable {w w' : World} {me : ThreadId}

/-- **Loading an assembly is the only way to a class**, and finds its native members
bound. -/
theorem Bound.section (hw : w.Bound) (h : w.Section me w') : w'.Bound := by
  cases h with
  | load i hi =>
    intro name c hc m hm
    obtain hc | hc := Domain.get?_addClasses hc
    · exact hi m (List.mem_flatMap.2 ⟨c, hc, hm⟩)
    · exact hw name c hc m hm
  | inDomain d events hd =>
    intro name c hc
    exact hw name c (hd.classes ▸ hc)
  | _ => exact hw

theorem bound_of_reaches {n : Nat} {code : ThreadId → NativeCode α}
    (hw : w.domain.classes = .empty) {u : Threads World α}
    (hu : (w.threads n code).Reaches (fun _ => True) u) :
    u.state.registry = w.registry ∧ u.state.Bound := by
  refine keeps_of_sections (fun name c hc => ?_) (fun me v v' _ hs hv => hv.section hs) hu
  rw [hw] at hc
  cases hc

end World

/-- **A class that the domain has loaded** by a point of an interleaving: it was among the
loaded classes at some point before, if others of its name have not replaced it. -/
def Threads.HasLoaded (start t : Threads World α) (c : Class) : Prop :=
  ∃ v, start.Reaches (fun _ => True) v ∧ v.Reaches (fun _ => True) t ∧
    ∃ name, v.state.domain.classes.get? name = some c

namespace ExternCall

/-- A declaration that matches a call takes what the call passes. -/
theorem of_member? {c : Class} {call : ExternCall} {m : Member} (h : call.member? c = some m) :
    m ∈ c.externMembers ∧ Class.accepts m.signature.params call.args = true := by
  cases call <;>
  · have hm := List.find?_some h
    simp only [Bool.and_eq_true] at hm
    exact ⟨List.mem_of_find?_eq_some h, hm.2⟩

end ExternCall

/-! ## Calls of members that a loaded class declares

The errors a call may end with, from the conversion of its arguments to the return. -/

section Calls

variable {w : World} {n : Nat} {code : ThreadId → NativeCode α} {me : ThreadId}
  {t u : Threads World α} {l : List (Threads World α)}

/-- **A bound member that is called with values that fit** raises no other exceptions of the
bridge than it may. -/
theorem Threads.Performs.callExtern_error (ht : (w.threads n code).Reaches (fun _ => True) t)
    (hr : w.registry.Built) {m : Member} {c : NativeCall} (hc : w.registry.resolve m = .ok c)
    (hw : w.domain.classes = .empty) {j : Nat} {receiver : Option ObjectId}
    {args : List ManagedValue} (hargs : Class.accepts m.signature.params args = true)
    {e : ManagedException}
    (h : t.Performs me (Run.callExtern (.nested j) me m receiver args) l (.ok (.error e)) u) :
    e.typeName ≠ BridgeError.unboundException ∧ e.typeName ≠ BridgeError.arityException ∧
      (e.typeName = BridgeError.marshalException →
        (∃ o, .object o ∈ args ∧ ∃ v ∈ l, v.state.bridge.Lacks o) ∨
        c.IsRaw ∧ ∃ args x, c.Ran (.nested j) me l args (.ok x) ∧ x.tag ≠ m.signature.ret) := by
  obtain ⟨r, v, l₁, l₂, rfl, hmarshal, h⟩ := h.bind
  cases r with
  | error e' =>
    obtain ⟨he, rfl, rfl⟩ := h.pure
    cases he
    obtain ⟨-, he⟩ | ⟨he, o, ho, p, hp, hlacks⟩ := hmarshal.marshalAll_error ht
    · exact ManagedException.of_other he (by decide)
    · rw [he]
      refine ⟨by decide, by decide, fun _ => .inl ⟨o, ?_, p, by simp [hp], hlacks⟩⟩
      exact (List.takeWhile_sublist _).subset ho
  | ok xs =>
    have hv := (hmarshal.reaches ht).2
    have hreg := (World.bound_of_reaches hw hv).1
    obtain ⟨r, v', l₂, l₃, rfl, hinvoke, h⟩ := h.bind
    cases r with
    | ok x => exact ManagedException.of_other h.unmarshal_error (by decide)
    | error e' =>
      cases h.pure.1
      obtain ⟨hunbound, harity, hmarshalled⟩ := (hinvoke.invoke_error (by rwa [hreg])
        (by rwa [hreg]) (hmarshal.marshalAll_tags hargs)).raised
      refine ⟨hunbound, harity, fun he => .inr ?_⟩
      obtain ⟨hraw, args', x, hran, hx⟩ := hmarshalled he
      exact ⟨hraw, args', x, hran.append _ _, hx⟩

theorem Run.looks_callExtern_null {run : Runner} {m : Member} {receiver : Option ObjectId}
    {args : List ManagedValue} (h : .null ∈ args) :
    (Run.callExtern run me m receiver args).course.Looks (fun r => ∃ e, r = .ok (.error e)) := by
  unfold Run.callExtern
  rw [Process.course_bind]
  refine Course.Looks.after ((looks_marshalAll_null h).mono ?_)
  rintro _ ⟨e, rfl⟩
  exact Process.looks_pure ⟨e, rfl⟩

namespace ExternCall

variable {x : Context} {j : Nat} {call : ExternCall} {c : Class} {m : Member}

theorem dispatch_ok {run : Runner} (hm : call.member? c = some m) :
    call.dispatch run me (.ok c) = Run.callExtern run me m call.receiver? call.args := by
  rw [dispatch, hm]

/-- A call that has found its class and the declaration goes on with the member. -/
theorem onward (hc : call.classIn t.state.domain x = .ok c) (hm : call.member? c = some m)
    {r : Except ManagedException ManagedValue}
    (h : t.Performs me (call.process (.nested j) me x) l (.ok r) u) :
    ∃ t' l₁ l₂, l = l₁ ++ l₂ ∧ (∀ start : Threads World α, start.Reaches (fun _ => True) t →
        start.Reaches (fun _ => True) t') ∧
      t'.Performs me (Run.callExtern (.nested j) me m call.receiver? call.args) l₂ (.ok r) u := by
  rw [process_eq] at h
  obtain ⟨r', t', l₁, l₂, rfl, hask, h⟩ := h.bind
  obtain rfl : r' = .ok c := (Except.ok.inj hask.ask.1).trans hc
  rw [dispatch_ok hm] at h
  exact ⟨t', l₁, l₂, rfl, fun start ht => (hask.reaches ht).2, h⟩

/-- **A call with a `null` only looks**, as soon as it has been entered. -/
theorem looks_null (hc : call.classIn t.state.domain x = .ok c) (hm : call.member? c = some m)
    (hnull : .null ∈ call.args) {q : Course World (Except ManagedException ManagedValue)}
    (h : t.Passes me (call.process (.nested j) me x).course l q u) :
    l = [] ∧ q = (call.process (.nested j) me x).course ∨
      q.Looks (fun r => ∃ e, r = .ok (.error e)) := by
  obtain ⟨k, -, h⟩ := h
  rw [process_eq] at h ⊢
  cases h with
  | here => exact .inl ⟨rfl, rfl⟩
  | enter hready ho h =>
    change Threads.PassesBefore me k
      (call.dispatch (.nested j) me (call.classIn t.state.domain x)).course _ _ _ _ at h
    rw [hc, dispatch_ok hm] at h
    exact .inr (h.looks (Run.looks_callExtern_null hnull))

/-- **A call with a `null` comes to its end** if nothing gets in between, and has changed
nothing. -/
theorem ends_alone {run : Runner} (hc : call.classIn w.domain x = .ok c)
    (hm : call.member? c = some m) (hnull : .null ∈ call.args) :
    ∃ e, (call.process run me x).Ends w (.ok (.error e)) w := by
  have look : (Run.askDomain (call.classIn · x)).Ends w (.ok (.ok c)) w := .of_ask hc
  obtain ⟨r, hend, e, rfl⟩ : ∃ r, (Run.callExtern run me m call.receiver? call.args).Ends w r w ∧
      ∃ e, r = .ok (.error e) := (Run.looks_callExtern_null hnull).advance w
  rw [process_eq]
  rw [← dispatch_ok hm] at hend
  exact ⟨e, look.bind hend⟩

/-- **A call with a `null` ends with an exception**: the one for the `null`, or the one for an
object before it. -/
theorem ends_null (ht : (w.threads n code).Reaches (fun _ => True) t)
    (hc : call.classIn t.state.domain x = .ok c) (hm : call.member? c = some m)
    (hnull : .null ∈ call.args) {r : Except Crash (Except ManagedException ManagedValue)}
    (h : t.Performs me (call.process (.nested j) me x) l r u) :
    ∃ e, r = .ok (.error e) ∧ (e.typeName = ManagedException.nullReference ∨
      e.typeName = BridgeError.marshalException ∧
        ∃ o, .object o ∈ call.args.takeWhile (· ≠ .null) ∧ ∃ v ∈ l, v.state.bridge.Lacks o) := by
  obtain ⟨e, rfl⟩ : ∃ e, r = .ok (.error e) := by
    obtain ⟨-, hq⟩ | hlooks := looks_null hc hm hnull h
    · rw [process_eq] at hq
      cases r <;> cases hq
    · cases r <;> exact hlooks
  refine ⟨e, rfl, ?_⟩
  obtain ⟨t', l₁, l₂, rfl, hreach, h⟩ := onward hc hm h
  obtain ⟨r, t'', l₂, l₃, rfl, hmarshal, h⟩ := h.bind
  obtain ⟨k, -, hpasses⟩ := id hmarshal
  obtain ⟨e', hr⟩ := hpasses.looks (Run.looks_marshalAll_null hnull)
  cases hr
  cases h.pure.1
  obtain ⟨-, he⟩ | ⟨he, o, ho, v, hv, hlacks⟩ := hmarshal.marshalAll_error (hreach _ ht)
  · exact .inl he
  · exact .inr ⟨he, o, ho, v, by simp [hv], hlacks⟩

end ExternCall

/-- **Calls of native members fit what they are bound to.** Let a host, on any number of
threads, load assemblies into a domain that starts without classes, and let a managed body
call a native member on a class that the domain has loaded and that declares a matching
member. Then, whatever other threads do meanwhile:
* the call raises neither `Bridge.UnboundMemberException` nor `Bridge.ArityException`, and
  `Bridge.MarshalTypeException` only if an object among its arguments has been without a
  live handle, or an untyped implementation has returned a value of another type than the
  declared one;
* with a `null` among its arguments the call does nothing but look, up to its end, so that
  it does not come to native code. It comes to its end, and ends with
  `System.NullReferenceException`, unless an object before the `null` has been without a live
  handle. -/
theorem extern_calls_fit {w : World} (hr : w.registry.Built) (hw : w.domain.classes = .empty)
    {n : Nat} {code : ThreadId → NativeCode α} {t : Threads World α}
    (ht : (w.threads n code).Reaches (fun _ => True) t) {me : ThreadId} {x : Context} {j : Nat}
    {call : ExternCall} {c : Class} (hc : call.classIn t.state.domain x = .ok c)
    (hloaded : (w.threads n code).HasLoaded t c) {m : Member} (hm : call.member? c = some m) :
    (∀ l e u, t.Performs me (call.process (.nested j) me x) l (.ok (.error e)) u →
      e.typeName ≠ BridgeError.unboundException ∧ e.typeName ≠ BridgeError.arityException ∧
      (e.typeName = BridgeError.marshalException →
        (∃ o, .object o ∈ call.args ∧ ∃ v ∈ l, v.state.bridge.Lacks o) ∨
        ∃ b, w.registry.resolve m = .ok b ∧ b.IsRaw ∧
          ∃ args y, b.Ran (.nested j) me l args (.ok y) ∧ y.tag ≠ m.signature.ret)) ∧
    (.null ∈ call.args →
      (∀ l q u, t.Passes me (call.process (.nested j) me x).course l q u → l ≠ [] →
        q.Looks (fun r => ∃ e, r = .ok (.error e))) ∧
      (∃ e, (call.process (.nested j) me x).Ends t.state (.ok (.error e)) t.state) ∧
      ∀ l r u, t.Performs me (call.process (.nested j) me x) l r u → ∃ e, r = .ok (.error e) ∧
        (e.typeName = ManagedException.nullReference ∨
          e.typeName = BridgeError.marshalException ∧
            ∃ o, .object o ∈ call.args.takeWhile (· ≠ .null) ∧
              ∃ v ∈ l, v.state.bridge.Lacks o)) := by
  obtain ⟨v, hv, hvt, name, hname⟩ := hloaded
  obtain ⟨hmember, hargs⟩ := ExternCall.of_member? hm
  obtain ⟨hreg, hbound⟩ := World.bound_of_reaches hw hv
  obtain ⟨b, hb⟩ := hbound name c hname m hmember
  rw [hreg] at hb
  refine ⟨fun l e u h => ?_, fun hnull => ⟨fun l q u h hl => ?_,
    ExternCall.ends_alone hc hm hnull, fun l r u h => ?_⟩⟩
  · obtain ⟨t', l₁, l₂, rfl, hreach, h⟩ := ExternCall.onward hc hm h
    obtain ⟨hunbound, harity, hmarshal⟩ := h.callExtern_error (hreach _ ht) hr hb hw hargs
    refine ⟨hunbound, harity, fun he => ?_⟩
    obtain ⟨o, ho, v, hv, hlacks⟩ | ⟨hraw, args, y, hran, hy⟩ := hmarshal he
    · exact .inl ⟨o, ho, v, List.mem_append_right l₁ hv, hlacks⟩
    · exact .inr ⟨b, hb, hraw, args, y, by simpa using hran.append l₁ [], hy⟩
  · exact (ExternCall.looks_null hc hm hnull h).resolve_left (fun hh => hl hh.1)
  · exact ExternCall.ends_null ht hc hm hnull h

end Calls

/-! ## A call that fails

Untyped code is bound as if it returned a number, and returns nothing. -/

/-- A class with a native member, which its method calls. -/
def gauge : Class where
  scope := ""
  name := "Gauge"
  methods := [⟨"Poll", ⟨[], .int32⟩, .static, fun _ =>
    .perform (.callStaticExtern "Gauge" "Read" [.string "p"]) fun r => .done r⟩]
  externs := [⟨"Read", ⟨[.string], .int32⟩, .static⟩]

/-- The native member. -/
def gaugeRead : Member := ⟨"Gauge", "Read", ⟨[.string], .int32⟩, .static⟩

/-- What it is bound to: untyped code that returns nothing instead of a number. -/
def gaugeRegistry : Registry :=
  (Registry.empty.addAll
    [.member gaugeRead (.ofRaw [.string] .int32 fun _ => .done (.ok .void))]).2

theorem gaugeRegistry_built : gaugeRegistry.Built :=
  Registry.Built.empty.addAll (by simp [Registry.Addition.IsMade, NativeCall.IsRaw])

/-- The host at its start. -/
def gaugeHost : World := .start gaugeRegistry .empty "host" 8

/-- The host loads the class and enters its method. -/
def polling : NativeCode Unit :=
  .perform (.provide ⟨"A", [gauge]⟩) fun _ => .perform (.load "A") fun _ =>
    .perform (.enter ⟨"Gauge", "Poll", 0⟩ none []) fun _ => .done ()

/-- Where the assembly is there to be loaded. -/
def gaugeProvided : World := gaugeHost.onDomain (gaugeHost.domain.provide ⟨"A", [gauge]⟩)

/-- Where it is loaded. -/
def gaugeLoaded : World := ((Run.loadAssembly "A").advance gaugeProvided).2

/-- Where the frame of the method is open. -/
def gaugeOpened : World :=
  gaugeLoaded.onDomain (gaugeLoaded.domain.openFrame "Gauge::Poll" none).2

/-- Where the method is about to call the native member. -/
def gaugePolled : World := gaugeOpened.record (.body "Gauge::Poll" none [])

/-- The call, in the frame of the method. -/
def gaugeCall : Run (Except ManagedException ManagedValue) :=
  ExternCall.process (.nested 1) mainThread ⟨gauge, 0, 0, ⟨"Gauge::Poll", none, []⟩⟩
    (.onType "Gauge" "Read" [.string "p"])

theorem polling_meets :
    (polling.course 2 mainThread).Meets (fun _ => True) gaugeHost gaugeCall gaugePolled := by
  have provide : (Run.nativeReply (.nested 2) mainThread (.provide ⟨"A", [gauge]⟩)).Ends
      gaugeHost (.ok ()) gaugeProvided := rfl
  have load : (Run.nativeReply (.nested 2) mainThread (.load "A")).Ends gaugeProvided
      (.ok (.ok ⟨"A", [gauge]⟩)) gaugeLoaded := rfl
  have find : (Run.askDomain (·.findClass? "Gauge")).Ends gaugeLoaded (.ok (some gauge))
      gaugeLoaded := rfl
  have args : (Run.unmarshalAll []).Ends gaugeLoaded (.ok (.ok [])) gaugeLoaded := rfl
  have limit : (Run.askDomain Domain.maxCallDepth).Ends gaugeLoaded (.ok 8) gaugeLoaded := rfl
  have frame : (Run.onDomain (·.openFrame "Gauge::Poll" none)).Ends gaugeLoaded (.ok 0)
      gaugeOpened := rfl
  have tell : (Run.record (.body "Gauge::Poll" none [])).Ends gaugeOpened (.ok ())
      gaugePolled := rfl
  have start : (polling.course 2 mainThread).Meets (fun _ => True) gaugeHost
      (Run.runNative (.nested 2) mainThread polling) gaugeHost := .start _ trivial
  have enter : (polling.course 2 mainThread).Meets (fun _ => True) gaugeHost
      (Run.enterManaged (.nested 2) mainThread ⟨"Gauge", "Poll", 0⟩ none []) gaugeLoaded :=
    ((start.next provide).next load).first
  have body : (polling.course 2 mainThread).Meets (fun _ => True) gaugeHost
      (Run.runBody (.nested 2) mainThread gauge "Gauge::Poll" _ none [] 0) gaugeLoaded :=
    ((enter.first.attempt.next find).next args).first.first
  exact (((body.next limit).next frame).next tell).first.attempt.first

/-- The untyped implementation is why the call ends with a `Bridge.MarshalTypeException`. -/
theorem extern_calls_fit_polling : ∃ (t u : Threads World Unit) (l : List (Threads World Unit))
    (e : ManagedException), t.Performs mainThread gaugeCall l (.ok (.error e)) u ∧
      e.typeName = BridgeError.marshalException ∧
      ∃ b, gaugeRegistry.resolve gaugeRead = .ok b ∧ b.IsRaw ∧
        ∃ args y, b.Ran (.nested 1) mainThread l args (.ok y) ∧ y.tag ≠ .int32 := by
  obtain ⟨k, hk⟩ := polling_meets
  obtain ⟨t, ht, hstate, htodo, -⟩ := (gaugeHost.threads 2 fun _ => polling).reaches_alone hk rfl
  have hend : gaugeCall.Ends gaugePolled
      (.ok (.error (Run.raised gaugeRead (.marshalType ⟨.int32, .void⟩))))
      (gaugeCall.advance gaugePolled).2 := rfl
  obtain ⟨l, u, hperforms, -⟩ := Threads.performs_alone htodo (hstate.symm ▸ hend)
  have hloaded : (gaugeHost.threads 2 fun _ => polling).HasLoaded t gauge :=
    ⟨t, ht, .here trivial, "Gauge", by rw [hstate]; rfl⟩
  obtain ⟨-, -, hmarshal⟩ := (extern_calls_fit gaugeRegistry_built rfl ht rfl hloaded
    (m := gaugeRead) rfl).1 l _ u hperforms
  obtain ⟨o, ho, -⟩ | hraw := hmarshal rfl
  · simp [ExternCall.args] at ho
  · exact ⟨t, u, l, _, hperforms, rfl, hraw⟩

end HostBridge
