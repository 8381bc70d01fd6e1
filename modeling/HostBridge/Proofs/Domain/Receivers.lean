import HostBridge.Proofs.Bridge.Holding
import HostBridge.Proofs.Domain.Classes
import HostBridge.Proofs.Domain.Crossing
import HostBridge.Proofs.Domain.Typing

/-!
# Receivers of native members

A managed body calls an instance member on an object, and the implementation is handed the
handle of that object, in front of the arguments. Nobody compares the type that the instance
behind the handle was constructed as with the type that the member belongs to. They agree all
the same, on a host whose domain alone constructs instances (`receivers_fit_members`): the
member was declared by the class of the object under the full name of that class, and the
object was announced to the bridge under the same name. Objects that share a name may be of
different classes, one of which has replaced the other; an object keeps its class.

## A chain of names and times

The agreement goes over four moments. The object was allocated as one of a class; its instance
was constructed under the full name of that class; the body looked up the class of the object
and found a member of it; and the call was admitted on the handle that was found for the object
then. In between anything may happen on any thread. The class may be replaced by another of its
name, the instance may be destroyed and its handle taken off the list.

What holds the chain together is that each fact is about a thing that is not used twice: the
number of an object, and the number of a handle. The class of an object is for good
(`World.Serial.class_eq`), the record of a handle keeps its origin (`World.Fresh.origin_eq`),
and a handle that was found for an object was constructed for it.
-/

namespace HostBridge

variable {α : Type} {w : World} {n : Nat} {code : ThreadId → NativeCode α} {me : ThreadId}
  {t u v : Threads World α} {l : List (Threads World α)} {o : ObjectId} {g : Handle}
  {name : String} {args : List ManagedValue}

/-! ## Calls on objects

A call up to the point at which it is admitted, as a process of its own, so that a statement can
speak of that point. -/

/-- **A call that was admitted**: the member, the implementation that it is bound to, the handle
of the receiver and the arguments. -/
structure Admission where
  /-- The member. -/
  member : Member
  /-- Its implementation. -/
  code : NativeCall
  /-- The handle of the receiver. -/
  handle : Handle
  /-- The arguments after the receiver. -/
  args : List BoundaryValue

namespace Run

/-- **Admits a call of a member** on an object, for which the arguments are handed over and the
implementation is found. -/
def admitOn (me : ThreadId) (m : Member) (receiver : ObjectId) (args : List ManagedValue) :
    Run (Except ManagedException Admission) := do
  match ← marshalAll args with
  | .error e => return .error e
  | .ok xs =>
    match checkCall (← Process.ask World.registry) m xs with
    | .error e => return .error (raised m e)
    | .ok c =>
      match ← enter me receiver m with
      | .error e => return .error (raised m e)
      | .ok h => return .ok ⟨m, c, h, xs⟩

/-- **What a call on an object does before native code runs**: it finds the declaration that
matches, and is admitted. -/
def admission (me : ThreadId) (receiver : ObjectId) (name : String) (args : List ManagedValue) :
    Run (Except ManagedException Admission) := do
  match ← askDomain (·.classOf receiver) with
  | .error e => return .error e
  | .ok c =>
    match c.findExtern? name .perInstance args with
    | none => return .error (missing c name args)
    | some m => admitOn me m receiver args

/-- **What comes of a call**: if it was admitted, the implementation runs on the handle of the
receiver and the arguments, the call ends, and the result is handed back. -/
def conclude (run : Runner) (me : ThreadId) :
    Except ManagedException Admission → Run (Except ManagedException ManagedValue)
  | .error e => return .error e
  | .ok a => do
    let result ← runCall run me a.member a.code (.object a.handle :: a.args)
    leave run me a.handle
    match ← settle a.member result with
    | .ok v => unmarshal v
    | .error e => return .error (raised a.member e)

theorem callExtern_eq {m : Member} (hm : m.isInstance = true) (run : Runner) (me : ThreadId)
    (o : ObjectId) (args : List ManagedValue) :
    callExtern run me m (some o) args = admitOn me m o args >>= conclude run me := by
  rw [admitOn, bind_assoc]
  refine bind_congr fun marshalled => ?_
  cases marshalled with
  | error e => rfl
  | ok xs =>
    simp only [invoke, bind_assoc]
    refine bind_congr fun registry => ?_
    cases checkCall registry m xs with
    | error e => rfl
    | ok c =>
      simp only [hm, if_true, bind_assoc]
      refine bind_congr fun entered => ?_
      cases entered <;> rfl

/-- **A call on an object** is admitted, and goes on from there. -/
theorem managedReply_callExtern (run : Runner) (me : ThreadId) (x : Context) (o : ObjectId)
    (name : String) (args : List ManagedValue) :
    managedReply run me x (.callExtern o name args) =
      admission me o name args >>= conclude run me := by
  rw [admission, bind_assoc]
  refine bind_congr (m := Run) fun found => ?_
  cases found with
  | error e => rfl
  | ok c =>
    dsimp only
    cases hm : c.findExtern? name .perInstance args with
    | none => rfl
    | some m =>
      have hkind := List.find?_some hm
      simp only [Bool.and_eq_true, decide_eq_true_eq] at hkind
      exact callExtern_eq (by simp [Member.isInstance, hkind.1.2]) run me o args

end Run

/-! ## Calls that are admitted

What is known of a call from the fact that it got this far. -/

theorem Domain.classOf?_of_classOf {d : Domain} {c : Class} (hc : d.classOf o = .ok c) :
    d.classOf? o = some c := by
  unfold classOf at hc
  split at hc
  · next c' hc' => exact hc'.trans (congrArg some (Except.ok.inj hc))
  · cases hc

/-- **A call is admitted** behind the handle that was found for the instance. Others may have
gone ahead in between. -/
theorem Threads.Performs.enter_ok {m : Member}
    (h : t.Performs me (Run.enter me o m) l (.ok (.ok g)) u) :
    t.state.bridge.find? o = some g ∧ ∃ v, t.Reaches (fun _ => True) v ∧
      v.state.bridge.Admits g ∧ v.Reaches (fun _ => True) u := by
  obtain ⟨slot, v, l₁, l₂, rfl, hfind, h⟩ := h.bind
  have hslot : t.state.bridge.find? o = slot := (Except.ok.inj hfind.ask.1).symm
  have hv := (hfind.reaches (.here trivial)).2
  cases slot with
  | none => cases h.pure.1
  | some g' =>
    obtain ⟨entered, v', l₃, l₄, rfl, hentry, h⟩ := h.bind
    have hv' := (hentry.reaches (.here trivial)).2
    obtain ⟨-, hentered, -⟩ := hentry.exchangeWhen
    dsimp only at hentered
    cases entered with
    | error state => cases h.pure.1
    | ok _ =>
      obtain ⟨hg, -, rfl⟩ := h.pure
      obtain rfl := Except.ok.inj (Except.ok.inj hg)
      refine ⟨hslot, v, hv, ?_, hv'⟩
      obtain ⟨state, hrefused⟩ | ⟨r, hr, ho, -⟩ := v.state.bridge.admitCall_cases me g
      · rw [hrefused] at hentered
        cases Except.ok.inj hentered
      · exact ⟨r, hr, ho⟩

/-- **What an admitted call has come by**: the implementation of the member, the handle of the
receiver, and the moment at which the instance took it. -/
structure Threads.AdmitsAs (t : Threads World α) (o : ObjectId) (a : Admission)
    (u : Threads World α) : Prop where
  bound : ∃ v, t.Reaches (fun _ => True) v ∧ v.state.registry.resolve a.member = .ok a.code
  found : ∃ v v', t.Reaches (fun _ => True) v ∧ v.state.bridge.find? o = some a.handle ∧
    v.Reaches (fun _ => True) v' ∧ v'.state.bridge.Admits a.handle ∧
    v'.Reaches (fun _ => True) u

namespace Threads.Performs

variable {a : Admission}

theorem admitOn_ok {m : Member} (h : t.Performs me (Run.admitOn me m o args) l (.ok (.ok a)) u) :
    a.member = m ∧ t.AdmitsAs o a u := by
  obtain ⟨marshalled, v₁, l₁, l₁', rfl, hmarshal, h⟩ := h.bind
  have hv₁ := (hmarshal.reaches (.here trivial)).2
  cases marshalled with
  | error e => cases h.pure.1
  | ok xs =>
    obtain ⟨registry, v₂, l₂, l₂', rfl, hask, h⟩ := h.bind
    have hv₂ := hv₁.trans (hask.reaches (.here trivial)).2
    obtain rfl := Except.ok.inj hask.ask.1
    cases hc : Run.checkCall v₁.state.registry m xs with
    | error e =>
      rw [hc] at h
      cases h.pure.1
    | ok c =>
      rw [hc] at h
      obtain ⟨entered, v₃, l₃, l₃', rfl, henter, h⟩ := h.bind
      cases entered with
      | error e => cases h.pure.1
      | ok g =>
        obtain ⟨ha, -, rfl⟩ := h.pure
        obtain rfl := Except.ok.inj (Except.ok.inj ha)
        obtain ⟨hfind, v, hv, hadmits, hlater⟩ := henter.enter_ok
        exact ⟨rfl, ⟨v₁, hv₁, Ledger.resolve_of_checkCall hc⟩,
          v₂, v, hv₂, hfind, hv, hadmits, hlater⟩

theorem admission_ok (h : t.Performs me (Run.admission me o name args) l (.ok (.ok a)) u) :
    ∃ c v, t.state.domain.classOf? o = some c ∧ a.member.typeName = c.fullName ∧
      t.Reaches (fun _ => True) v ∧ v.AdmitsAs o a u := by
  obtain ⟨found, v, l₁, l₂, rfl, hask, h⟩ := h.bind
  have hfound : t.state.domain.classOf o = found := (Except.ok.inj hask.ask.1).symm
  cases found with
  | error e => cases h.pure.1
  | ok c =>
    dsimp only at h
    cases hm : c.findExtern? name .perInstance args with
    | none =>
      rw [hm] at h
      cases h.pure.1
    | some m =>
      rw [hm] at h
      obtain ⟨rfl, hadmits⟩ := h.admitOn_ok
      obtain ⟨e, -, he⟩ := List.mem_map.1 (List.mem_of_find?_eq_some hm)
      refine ⟨c, v, Domain.classOf?_of_classOf hfound, ?_, (hask.reaches (.here trivial)).2,
        hadmits⟩
      rw [← he]
      rfl

end Threads.Performs

/-! ## What the receiver is

The record behind the handle, at the time of the admission and at any time later. -/

/-- **The numbers have not run out**, neither those of handles nor those of objects. -/
def World.Unexhausted (w : World) : Prop := w.constructions < 2 ^ 64 ∧ w.Numerable

instance : DecidablePred World.Unexhausted := fun _ => inferInstanceAs (Decidable (_ ∧ _))

/-- If the numbers have not run out, they never had before. -/
theorem Threads.Reaches.unexhausted (ht : (w.threads n code).Reaches (fun _ => True) t)
    (hu : t.Reaches (fun _ => True) u) (hb : u.state.Unexhausted) :
    t.Reaches World.Unexhausted u := by
  refine (hu.along fun v htv hvu => ?_).mono fun _ h => h.2
  have hle := ((ht.trans htv).suffix hvu).sublist
  exact ⟨Nat.lt_of_le_of_lt hle.countP_le hb.1, Nat.lt_of_le_of_lt hle.countP_le hb.2⟩

/-- **An object is under watch** in every interleaving that comes by it, under the name of the
class that it is of there. -/
theorem World.Fresh.watched (hw : w.Fresh) (hd : w.domain.Opened)
    (ht : (w.threads n code).Reaches World.Unexhausted t) {c : Class}
    (hc : t.state.domain.classOf? o = some c) (hu : t.Reaches World.Unexhausted u)
    (hv : u.Reaches World.Unexhausted v) :
    (w.threads n code).Reaches (World.typing w.registry o c.fullName).within u ∧
      u.Reaches (World.typing w.registry o c.fullName).within v := by
  have numerable : ∀ {a b : Threads World α}, a.Reaches World.Unexhausted b →
      a.Reaches World.Numerable b := fun h => h.mono fun _ => And.right
  have within : ∀ s : Threads World α, (w.threads n code).Reaches World.Unexhausted s →
      (∀ c', s.state.domain.classOf? o = some c' → c' = c) →
      (World.typing w.registry o c.fullName).within s.state := fun s hs hclass =>
    ⟨hw.accounted_of_reaches (hs.mono fun _ => And.left), hs.within.1,
      fun c' hc' => congrArg Class.fullName (hclass c' hc')⟩
  have before := ht.along fun s hs hst => within s hs fun c' hc' =>
    (hd.serial.class_eq (numerable hs) (numerable hst) hc' hc).symm
  have after : ∀ s, t.Reaches World.Unexhausted s →
      (World.typing w.registry o c.fullName).within s.state := fun s hts =>
    within s (ht.trans hts) fun c' hc' =>
      hd.serial.class_eq (numerable ht) (numerable hts) hc hc'
  exact ⟨(before.mono fun _ => And.right).trans
      ((hu.along fun s hts _ => after s hts).mono fun _ => And.right),
    (hv.along fun s hus _ => after s (hu.trans hus)).mono fun _ => And.right⟩

/-- **What is behind the handle that was found** for an object under watch belongs to the object,
and is of the type that the object is of. -/
theorem World.Fresh.record_of_find? (hw : w.Fresh) (hr : w.registry.Asks NativeOp.NoConstruction)
    (hcode : ∀ me, Program.Asks (I := nativeInterface) NativeOp.NoConstruction (code me))
    {typeName : String}
    (ht : (w.threads n code).Reaches (World.typing w.registry o typeName).within t)
    (hu : t.Reaches (World.typing w.registry o typeName).within u)
    (hg : t.state.bridge.find? o = some g) :
    ∃ s, u.state.bridge.records.get? g = some s ∧ s.object = o ∧ s.typeName = typeName ∧
      w.registry.hooks? typeName = some s.hooks := by
  obtain ⟨⟨own, hown⟩, -⟩ := ht.within
  obtain ⟨s₀, hs₀, hobject⟩ := Option.map_eq_some_iff.1 (hown.owner o g hg)
  obtain ⟨s, hs, horigin⟩ := hw.keepsOrigins_of_reaches hr hcode ht hu g s₀ hs₀
  have ho : s.object = o := (congrArg Prod.fst horigin).trans hobject
  obtain ⟨own', htyped, -⟩ := hw.typed_of_reaches hr hcode (ht.trans hu)
  have hname := htyped.typeName g s hs ho
  exact ⟨s, hs, ho, hname, hname ▸ htyped.hooks g s hs⟩

/-- **Receivers fit the members that are called on them.** Let threads run native code on a
host, where neither that code nor anything bound constructs instances, and let a managed body
call an instance member on an object. The call is admitted before native code runs, with the
handle that the implementation is handed in front of the arguments (`Run.conclude`). From there
on, whatever was loaded and replaced, disposed of and collected before, and as long as neither
handles nor objects have run out of numbers:
* the implementation is the one that is bound to the member;
* the handle was constructed, and what is behind it belongs to the object;
* it was constructed as of the very type that the member belongs to, and has the hooks of that
  type. -/
theorem receivers_fit_members (hw : w.Fresh) (hd : w.domain.Opened)
    (hr : w.registry.Asks NativeOp.NoConstruction)
    (hcode : ∀ me, Program.Asks (I := nativeInterface) NativeOp.NoConstruction (code me))
    (ht : (w.threads n code).Reaches (fun _ => True) t) {a : Admission}
    (h : t.Performs me (Run.admission me o name args) l (.ok (.ok a)) u) :
    (∀ run x, Run.managedReply run me x (.callExtern o name args) =
      Run.admission me o name args >>= Run.conclude run me) ∧
    w.registry.resolve a.member = .ok a.code ∧
    ∀ z, u.Reaches (fun _ => True) z → z.state.Unexhausted →
      .constructed a.handle ∈ z.state.history ∧
      ∃ s, z.state.bridge.records.get? a.handle = some s ∧ s.object = o ∧
        s.typeName = a.member.typeName ∧
        w.registry.hooks? a.member.typeName = some s.hooks := by
  obtain ⟨c, p, hc, hname, hp, hadmits⟩ := h.admission_ok
  have hreach := ht.trans hp
  refine ⟨fun run x => Run.managedReply_callExtern run me x o name args, ?_, fun z hz hb => ?_⟩
  · obtain ⟨v, hv, hbound⟩ := hadmits.bound
    rwa [← World.registry_of_reaches (hreach.trans hv)]
  obtain ⟨v, v', hv, hfind, hv', hadmitted, hu⟩ := hadmits.found
  have ht' := hreach.trans hv
  -- nothing has run out before the point, and on the way to it the object keeps its class
  have hv'z := (ht'.trans hv').unexhausted (hu.trans hz) hb
  have hvv' := ht'.unexhausted hv' hv'z.start
  have htv := ht.unexhausted (hp.trans hv) hvv'.start
  have hstart := (Threads.Reaches.here trivial).unexhausted ht htv.start
  obtain ⟨hbefore, hafter⟩ := hw.watched hd hstart hc htv (hvv'.trans hv'z)
  refine ⟨?_, ?_⟩
  · obtain ⟨own, hown⟩ := hw.accounted_of_reaches
      ((hstart.trans (htv.trans hvv')).mono fun _ => And.left)
    obtain ⟨r, hr', hopen⟩ := hadmitted
    exact ((ht'.trans hv').suffix (hu.trans hz)).subset (hown.constructed_of_isOpen hr' hopen)
  · obtain ⟨s, hs, ho, htype, hhooks⟩ := hw.record_of_find? hr hcode hbefore hafter hfind
    exact ⟨s, hs, ho, htype.trans hname.symm, hname ▸ hhooks⟩

/-! ## An object of a class that was replaced

Its member is called by a body that runs when another class goes by the name. -/

/-- A class with a native member. -/
def dial : Class where
  scope := ""
  name := "Dial"
  externs := [⟨"Turn", ⟨[], .int32⟩, .perInstance⟩]

/-- Another class of the same name, which does not have the member, but a method that calls it
on the object that it is itself called on. -/
def redial : Class where
  scope := ""
  name := "Dial"
  methods := [⟨"Redial", ⟨[.object], .int32⟩, .static, fun a =>
    match a.args with
    | [.object o] => .perform (.callExtern o "Turn" []) fun r => .done r
    | _ => .done (.ok .null)⟩]

/-- The native member. -/
def dialTurn : Member := ⟨"Dial", "Turn", ⟨[], .int32⟩, .perInstance⟩

/-- What it is bound to. -/
def dialCode : NativeCall := .ofRaw [.object] .int32 fun _ => .done (.ok (.int32 0))

/-- A host with the member, and with hooks for the type. -/
def dialHost : World :=
  .start (Registry.empty.addAll [.member dialTurn dialCode, .type "Dial" plainHooks]).2 .empty
    "host" 8

theorem dialHost_fresh : dialHost.Fresh := ⟨rfl, rfl, rfl⟩

theorem dialHost_opened : dialHost.domain.Opened := ⟨rfl, rfl, rfl, rfl, rfl, fun _ _ => .refl _⟩

/-- The host makes an object of the one class, replaces the class by the other one, and enters
its method with the object. -/
def dialing : NativeCode Unit :=
  .perform (.provide ⟨"A", [dial]⟩) fun _ => .perform (.load "A") fun _ =>
    .perform (.newInstance dial) fun _ =>
      .perform (.provide ⟨"B", [redial]⟩) fun _ => .perform (.load "B") fun _ =>
        .perform (.enter ⟨"Dial", "Redial", 1⟩ none [.object ⟨1⟩]) fun _ => .done ()

/-- Where the class is there to be loaded. -/
def dialProvided : World := dialHost.onDomain (dialHost.domain.provide ⟨"A", [dial]⟩)

/-- Where it is loaded. -/
def dialLoaded : World := ((Run.loadAssembly "A").advance dialProvided).2

/-- Where the object is made. -/
def dialMade : World :=
  ((Run.nativeReply (.nested 2) mainThread (.newInstance dial)).advance dialLoaded).2

/-- Where the other class is there to be loaded. -/
def redialProvided : World := dialMade.onDomain (dialMade.domain.provide ⟨"B", [redial]⟩)

/-- Where it is loaded. -/
def redialLoaded : World := ((Run.loadAssembly "B").advance redialProvided).2

/-- Where the frame of the method is open. -/
def redialOpened : World :=
  redialLoaded.onDomain (redialLoaded.domain.openFrame "Dial::Redial" none).2

/-- Where the method is about to call the native member. -/
def redialed : World := redialOpened.record (.body "Dial::Redial" none [.object ⟨1⟩])

theorem dialHost_asks : dialHost.registry.Asks NativeOp.NoConstruction := by
  have hturn : (Registry.Addition.member dialTurn dialCode).Asks NativeOp.NoConstruction :=
    fun _ => trivial
  have hdial : (Registry.Addition.type "Dial" plainHooks).Asks NativeOp.NoConstruction :=
    ⟨fun _ => trivial, fun _ _ => trivial⟩
  exact Registry.Asks.empty.addAll
    (List.forall_mem_cons.2 ⟨hturn, List.forall_mem_singleton.2 hdial⟩)

theorem dialing_asks : Program.Asks (I := nativeInterface) NativeOp.NoConstruction dialing := by
  simp [dialing, Program.Asks, NativeOp.NoConstruction]

theorem dialing_meets : (dialing.course 2 mainThread).Meets (fun _ => True) dialHost
    (Run.admission mainThread ⟨1⟩ "Turn" []) redialed := by
  have provide : (Run.nativeReply (.nested 2) mainThread (.provide ⟨"A", [dial]⟩)).Ends
      dialHost (.ok ()) dialProvided := rfl
  have load : (Run.nativeReply (.nested 2) mainThread (.load "A")).Ends dialProvided
      (.ok (.ok ⟨"A", [dial]⟩)) dialLoaded := rfl
  have make : (Run.nativeReply (.nested 2) mainThread (.newInstance dial)).Ends dialLoaded
      (.ok (.ok ⟨1⟩)) dialMade := rfl
  have provide' : (Run.nativeReply (.nested 2) mainThread (.provide ⟨"B", [redial]⟩)).Ends
      dialMade (.ok ()) redialProvided := rfl
  have load' : (Run.nativeReply (.nested 2) mainThread (.load "B")).Ends redialProvided
      (.ok (.ok ⟨"B", [redial]⟩)) redialLoaded := rfl
  have find : (Run.askDomain (·.findClass? "Dial")).Ends redialLoaded (.ok (some redial))
      redialLoaded := rfl
  have args : (Run.unmarshalAll [.object ⟨1⟩]).Ends redialLoaded (.ok (.ok [.object ⟨1⟩]))
      redialLoaded := rfl
  have limit : (Run.askDomain Domain.maxCallDepth).Ends redialLoaded (.ok 8) redialLoaded := rfl
  have frame : (Run.onDomain (·.openFrame "Dial::Redial" none)).Ends redialLoaded (.ok 0)
      redialOpened := rfl
  have tell : (Run.record (.body "Dial::Redial" none [.object ⟨1⟩])).Ends redialOpened (.ok ())
      redialed := rfl
  have start : (dialing.course 2 mainThread).Meets (fun _ => True) dialHost
      (Run.runNative (.nested 2) mainThread dialing) dialHost := .start _ trivial
  have enter : (dialing.course 2 mainThread).Meets (fun _ => True) dialHost
      (Run.enterManaged (.nested 2) mainThread ⟨"Dial", "Redial", 1⟩ none [.object ⟨1⟩])
      redialLoaded :=
    (((((start.next provide).next load).next make).next provide').next load').first
  have body : (dialing.course 2 mainThread).Meets (fun _ => True) dialHost
      (Run.runBody (.nested 2) mainThread redial "Dial::Redial" _ none [.object ⟨1⟩] 0)
      redialLoaded :=
    ((enter.first.attempt.next find).next args).first.first
  have call : (dialing.course 2 mainThread).Meets (fun _ => True) dialHost
      (Run.managedReply (.nested 1) mainThread
        ⟨redial, 0, 0, ⟨"Dial::Redial", none, [.object ⟨1⟩]⟩⟩ (.callExtern ⟨1⟩ "Turn" []))
      redialed :=
    (((body.next limit).next frame).next tell).first.attempt.first
  rw [Run.managedReply_callExtern] at call
  exact call.first

/-- The object is of a class that was replaced, and the call of its member is admitted. -/
theorem receivers_fit_members_redialed : ∃ t l u,
    (dialHost.threads 2 fun _ => dialing).Reaches (fun _ => True) t ∧
    t.state.domain.classes.get? "Dial" = some redial ∧
    t.Performs mainThread (Run.admission mainThread ⟨1⟩ "Turn" []) l
      (.ok (.ok ⟨dialTurn, dialCode, ⟨1⟩, []⟩)) u ∧
    ∃ s, u.state.bridge.records.get? ⟨1⟩ = some s ∧ s.object = ⟨1⟩ ∧ s.typeName = "Dial" ∧
      dialHost.registry.hooks? "Dial" = some s.hooks := by
  obtain ⟨k, hk⟩ := dialing_meets
  obtain ⟨t, ht, hstate, htodo, -⟩ :=
    (dialHost.threads 2 fun _ => dialing).reaches_alone hk rfl
  have hend : (Run.admission mainThread ⟨1⟩ "Turn" []).Ends redialed
      (.ok (.ok ⟨dialTurn, dialCode, ⟨1⟩, []⟩))
      ((Run.admission mainThread ⟨1⟩ "Turn" []).advance redialed).2 := rfl
  obtain ⟨l, u, hperforms, hu⟩ := Threads.performs_alone htodo (hstate.symm ▸ hend)
  have hb : u.state.Unexhausted := by
    rw [hu, hstate]
    decide +kernel
  obtain ⟨-, -, hreceiver⟩ := receivers_fit_members dialHost_fresh dialHost_opened dialHost_asks
    (fun _ => dialing_asks) ht hperforms
  obtain ⟨-, hrecord⟩ := hreceiver u (.here trivial) hb
  exact ⟨t, l, u, ht, by rw [hstate]; rfl, hperforms, hrecord⟩

end HostBridge
