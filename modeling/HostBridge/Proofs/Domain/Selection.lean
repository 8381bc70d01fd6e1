import HostBridge.Proofs.Domain.ClassNames
import HostBridge.Proofs.Domain.Receivers

/-!
# Which method a call runs

A method of an object is called in two ways. Managed code names the object, and the method is
selected in the class that the object is of. Native code selects the method on its instance of
the object, and keeps of it no more than the full name of the class, which it looks up when the
call is made.

An object keeps its class, but a full name does not: the class that was loaded last has it. So
a call from managed code runs a method of the class that the object was made of, for good, and
a call from native code a method of whatever class has the full name by then
(`calls_select_methods`). Both run the same as long as no other class of that full name was
loaded, and where one was, the instance runs code that is not its own
(`replaced_methods_run`).

Whether the two agree cannot be seen at the call. The call from native code finds a class, and
in it a method that fits, and nothing is wrong with either. What went before decides: some thread
took over an assembly with a class of that full name (`Threads.Replaces`).
-/

namespace HostBridge

variable {α : Type} {w w' : World} {n : Nat} {code : ThreadId → NativeCode α} {me : ThreadId}
  {t u v : Threads World α} {l : List (Threads World α)} {run : Runner} {o : ObjectId}
  {c : Class} {name : String}

/-! ## Calls on their way to a method

A call ends without running a method if it does not find its class or if an argument does not
cross. Otherwise it runs a method of the class that it found. -/

/-- **A thread runs a method of a class** on its way from one point of an interleaving to
another: the method of a name, called with or without a receiver. -/
def Threads.RunsMethod (t : Threads World α) (me : ThreadId) (run : Runner) (c : Class)
    (name : String) (receiver : Option ObjectId) (depth : Nat) (u : Threads World α) : Prop :=
  ∃ args v l result v', t.Reaches (fun _ => True) v ∧
    v.Performs me (Run.runMethod run me c name receiver args depth) l (.ok result) v' ∧
    v'.Reaches (fun _ => True) u

namespace Threads.Performs

variable {m : MethodRef} {receiver : Option ObjectId}

/-- **A call from native code** runs a method of the class that has the name when the call is
made, if there is one and the arguments cross. -/
theorem callManaged {args : List BoundaryValue}
    {result : Except ManagedException BoundaryValue}
    (h : t.Performs me (Run.callManaged run me m receiver args) l (.ok result) u) :
    (∃ e, result = .error e) ∨ ∃ c, t.state.domain.findClass? m.typeName = some c ∧
      t.RunsMethod me run c m.method receiver 0 u := by
  obtain ⟨found, v, l₁, l₂, rfl, hask, h⟩ := h.bind
  have hfound : t.state.domain.findClass? m.typeName = found := (Except.ok.inj hask.ask.1).symm
  have hv := (hask.reaches (.here trivial)).2
  cases found with
  | none => exact .inl ⟨_, Except.ok.inj h.pure.1⟩
  | some c =>
    obtain ⟨crossed, v₁, l₃, l₄, rfl, hargs, h⟩ := h.bind
    have hv₁ := hv.trans (hargs.reaches (.here trivial)).2
    cases crossed with
    | error e => exact .inl ⟨e, Except.ok.inj h.pure.1⟩
    | ok xs =>
      obtain ⟨r, v₂, l₅, l₆, rfl, hrun, h⟩ := h.bind
      exact .inr ⟨c, hfound, xs, v₁, l₅, r, v₂, hv₁, hrun, (h.reaches (.here trivial)).2⟩

/-- **A call from managed code** runs a method of the class that the receiver is of, if the
receiver is on the heap. -/
theorem managedCall {x : Context} {args : List ManagedValue}
    {result : Except ManagedException ManagedValue}
    (h : t.Performs me (Run.managedReply run me x (.call o name args)) l (.ok result) u) :
    (∃ e, result = .error e) ∨ ∃ c, t.state.domain.classOf? o = some c ∧
      t.RunsMethod me run c name (some o) (x.depth + 1) u := by
  obtain ⟨found, v, l₁, l₂, rfl, hask, h⟩ := h.bind
  have hfound : t.state.domain.classOf o = found := (Except.ok.inj hask.ask.1).symm
  have hv := (hask.reaches (.here trivial)).2
  cases found with
  | error e => exact .inl ⟨e, Except.ok.inj h.pure.1⟩
  | ok c =>
    obtain ⟨r, v₁, l₃, l₄, rfl, hrun, h⟩ := h.bind
    exact .inr ⟨c, Domain.classOf?_of_classOf hfound, args, v, l₃, r, v₁, hv, hrun,
      (h.reaches (.here trivial)).2⟩

end Threads.Performs

/-! ## Full names that change hands

One kind of section can do it, the one that takes over an assembly. -/

/-- A section that takes a full name from its class takes over an assembly with another class of
that full name. -/
theorem World.Section.get?_classes (hs : w.Section me w')
    (hc : w.domain.classes.get? name = some c) :
    w'.domain.classes.get? name = some c ∨
      ∃ i : Image, w' = w.onDomain (w.domain.addClasses i) ∧
        ∃ x ∈ i.classes, x.fullName = name := by
  cases hs with
  | load i hi =>
    by_cases hx : ∃ x ∈ i.classes, x.fullName = name
    · exact .inr ⟨i, rfl, hx⟩
    · refine .inl ((Domain.get?_addClasses_of_unused fun x hi' hname => ?_).trans hc)
      exact hx ⟨x, hi', hname⟩
  | inDomain d events hd =>
    exact .inl (show d.classes.get? name = some c from hd.classes ▸ hc)
  | _ => exact .inl hc

/-- **A full name is replaced** between two points of an interleaving: some thread takes over an
assembly that has a class of that full name. -/
def Threads.Replaces (t : Threads World α) (name : String) (u : Threads World α) : Prop :=
  ∃ v v' : Threads World α, t.Reaches (fun _ => True) v ∧ v'.Reaches (fun _ => True) u ∧
    ∃ i : Image, v'.state = v.state.onDomain (v.state.domain.addClasses i) ∧
      ∃ x ∈ i.classes, x.fullName = name

/-- **A full name stays with its class** as long as it is not replaced. -/
theorem Threads.Reaches.get?_classes (ht : (w.threads n code).Reaches (fun _ => True) t)
    (hu : t.Reaches (fun _ => True) u) (hc : t.state.domain.classes.get? name = some c) :
    u.state.domain.classes.get? name = some c ∨ t.Replaces name u := by
  induction hu with
  | here hs => exact .inl hc
  | enter h hu hr hs ih =>
    obtain hkept | ⟨v, v', hv, hv', hload⟩ := ih
    · obtain ⟨-, hsec⟩ := World.section_of_reaches (ht.trans h) hu hr
      obtain hkept | ⟨i, hi, hx⟩ := hsec.get?_classes hkept
      · exact .inl hkept
      · exact .inr ⟨_, _, h, .here trivial, i, hi, hx⟩
    · exact .inr ⟨v, v', hv, hv'.enter hu hr hs, hload⟩

/-! ## What is selected -/

/-- **Which methods calls on an object run.** Let an object be of a class that has its full name,
at some point of an interleaving. Then a call of a method that is made at a later point, while
objects have not run out of numbers, ends without a result, throws before it comes to a method,
or
* made from managed code, it runs the method of that class;
* made from native code, through an instance of the object, it runs the method of the class that
  has the full name by then, which is the same class unless it was replaced in between. -/
theorem calls_select_methods (hd : w.domain.Opened)
    (ht : (w.threads n code).Reaches World.Numerable t)
    (hc : t.state.domain.classOf? o = some c)
    (hname : t.state.domain.classes.get? c.fullName = some c)
    (hu : t.Reaches World.Numerable u) :
    (∀ x args result, u.Performs me (Run.managedReply run me x (.call o name args)) l
        (.ok result) v →
      (∃ e, result = .error e) ∨ u.RunsMethod me run c name (some o) (x.depth + 1) v) ∧
    ∀ b arity args result, (Instance.mk c o).getMethod name arity = .ok b →
      u.Performs me (Run.callManaged run me b.method b.receiver args) l (.ok result) v →
      (∃ e, result = .error e) ∨ ∃ c', u.state.domain.findClass? c.fullName = some c' ∧
        u.RunsMethod me run c' name b.receiver 0 v ∧ (c' = c ∨ t.Replaces c.fullName u) := by
  refine ⟨fun x args result h => ?_, fun b arity args result hb h => ?_⟩
  · obtain hthrown | ⟨c', hc', hrun⟩ := h.managedCall
    · exact .inl hthrown
    · obtain rfl := hd.serial.class_eq ht hu hc hc'
      exact .inr hrun
  · have hmethod : b.method = ⟨c.fullName, name, arity⟩ := by
      unfold Instance.getMethod at hb
      split at hb
      · cases hb
      · cases hb
        rfl
    obtain hthrown | ⟨c', hc', hrun⟩ := h.callManaged
    · exact .inl hthrown
    · rw [hmethod] at hc' hrun
      refine .inr ⟨c', hc', hrun, ?_⟩
      obtain hkept | hreplaced := Threads.Reaches.get?_classes (ht.mono fun _ _ => trivial)
        (hu.mono fun _ _ => trivial) hname
      · exact .inl (Option.some.inj (hc'.symm.trans
          (Domain.findClass?_eq_some_iff.2 (.inl hkept))))
      · exact .inr hreplaced

/-! ## An instance of a class that was replaced

Two classes of one full name, loaded one after the other. -/

/-- A class with a method. -/
def clerk : Class where
  scope := ""
  name := "Clerk"
  methods := [⟨"Sign", ⟨[], .string⟩, .perInstance, fun _ => .done (.ok (.string "old"))⟩]

/-- Another class of the same name, with a method of the same name. -/
def newClerk : Class where
  scope := ""
  name := "Clerk"
  methods := [⟨"Sign", ⟨[], .string⟩, .perInstance, fun _ => .done (.ok (.string "new"))⟩]

/-- A host at its start. -/
def clerkHost : World := .start .empty .empty "host" 8

theorem clerkHost_opened : clerkHost.domain.Opened :=
  ⟨rfl, rfl, rfl, rfl, rfl, fun _ _ => .refl _⟩

/-- The host makes an object of the one class and replaces the class by the other. -/
def replacing : NativeCode Unit :=
  .perform (.provide ⟨"A", [clerk]⟩) fun _ => .perform (.load "A") fun _ =>
    .perform (.newInstance clerk) fun _ =>
      .perform (.provide ⟨"B", [newClerk]⟩) fun _ => .perform (.load "B") fun _ => .done ()

/-- Where it is replaced. -/
def replaced : World := ((replacing.course 1 mainThread).advance clerkHost).2

theorem replaced_reached : ∃ t, (clerkHost.threads 1 fun _ => replacing).Reaches
    World.Numerable t ∧ t.state = replaced := by
  have hwithin : ((replacing.course 1 mainThread).Always World.Numerable clerkHost) := by
    decide +kernel
  have hreach : (replacing.course 1 mainThread).Reaches World.Numerable clerkHost _ replaced :=
    .of_forall (fun q s hq => (hq.always hwithin).here)
      ((replacing.course 1 mainThread).reaches_advance clerkHost)
  obtain ⟨t, ht, hstate, -⟩ :=
    (clerkHost.threads 1 fun _ => replacing).reaches_alone hreach rfl
  exact ⟨t, ht, hstate⟩

/-- **An instance whose class was replaced runs the method of the other class**, where a call
from managed code on the same object runs its own. -/
theorem replaced_methods_run : ¬∀ (w : World) (n : Nat) (code : ThreadId → NativeCode Unit)
    (t : Threads World Unit) (c : Class) (o : ObjectId) (name : String) (b : BoundMethod)
    (x : Context) (w₁ w₂ : World) (v₁ : BoundaryValue) (v₂ : ManagedValue),
    w.domain.Opened → (w.threads n code).Reaches World.Numerable t →
      t.state.domain.classOf? o = some c → (Instance.mk c o).getMethod name 0 = .ok b →
      (Run.callManaged (.nested 1) mainThread b.method b.receiver []).Ends t.state
        (.ok (.ok v₁)) w₁ →
      (Run.managedReply (.nested 1) mainThread x (.call o name [])).Ends t.state
        (.ok (.ok v₂)) w₂ →
      (Run.marshal v₂).Ends w₂ (.ok (.ok v₁)) w₂ := by
  intro hsame
  obtain ⟨t, ht, hstate⟩ := replaced_reached
  let x : Context := ⟨newClerk, 0, 0, ⟨"Clerk::Sign", none, []⟩⟩
  let native := Run.callManaged (.nested 1) mainThread ⟨"Clerk", "Sign", 0⟩ (some ⟨1⟩) []
  let managed := Run.managedReply (.nested 1) mainThread x (.call ⟨1⟩ "Sign" [])
  have hnative : native.Ends t.state (.ok (.ok (.string "new"))) (native.advance replaced).2 := by
    rw [hstate]
    rfl
  have hmanaged : managed.Ends t.state (.ok (.ok (.string "old")))
      (managed.advance replaced).2 := by
    rw [hstate]
    rfl
  have hclass : t.state.domain.classOf? ⟨1⟩ = some clerk := by
    rw [hstate]
    rfl
  have hcrosses := hsame clerkHost 1 (fun _ => replacing) t clerk ⟨1⟩ "Sign"
    ⟨⟨"Clerk", "Sign", 0⟩, ⟨[], .string⟩, some ⟨1⟩⟩ x _ _ _ _ clerkHost_opened ht hclass rfl
    hnative hmanaged
  have hends : (Run.marshal (.string "old")).Ends (managed.advance replaced).2
    (.ok (.ok (.string "old"))) (managed.advance replaced).2 := rfl
  have hequal := (hends.symm.trans hcrosses)
  simp [Course.finish] at hequal

end HostBridge
