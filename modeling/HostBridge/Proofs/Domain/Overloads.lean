import HostBridge.Proofs.Domain.ClassNames
import HostBridge.Proofs.Domain.Crossing

/-!
# Members that share a name

A class may declare several members of one name, and a call takes the first declaration that
matches it. Two kinds of members are declared, and they are matched in different ways.

A **native member** is matched by its kind and by the values that are passed. A `null` fits a
string and an object alike, so that several declarations may match one call, and then the first
of them is not like the others. Yet the order in which they are declared is free
(`extern_order_is_free`): an assembly has no two declarations that differ in nothing but the
result, so without a `null` at most one declaration matches; and with one, the call fails on the
`null` before the declaration matters.

A **managed method** is matched by the number of parameters only, and not by its kind. Whether
the kind is that of the call is looked at afterwards, on the one method that was found. So the
order matters here: a method that stands behind another of its name and number of parameters is
never called, not even if it is the only one of its kind (`hidden_methods`). What a call comes
to, from managed code or through a thunk, is said by the first of them alone
(`first_declaration_decides`).

## What it means that an order is free

Two classes that declare the same members in different orders are two classes, and the calls on
them are two processes. That the order is free says that from the same state the two go on in
the same way, section by section, and not only that they return the same. So it is said with
`Process.GoesOnAs`: one look at the state, and from there on the very same process. The look is
the one that finds the class.

For methods the same relation says what a call comes to. The selected method is a value that
the class determines, and each of the four ways to call goes on as the process that is given
this value.
-/

namespace HostBridge

/-! ## What a process goes on as

A process that begins with looks at the state is, from a given state, the process that those
looks lead to. The relation goes through whatever follows, and through the boundary. -/

/-- **A process goes on as another** from a state: it looks at the state, and is the other
then. -/
def Process.GoesOnAs {σ α : Type} (p : Process σ α) (s : σ) (q : Process σ α) : Prop :=
  ∃ ready effect next, p.course = .step ready effect next ∧ ready s = true ∧ effect s = s ∧
    next s = q.course

namespace Process.GoesOnAs

variable {σ α β : Type} {s : σ}

/-- A look at the state goes on as what follows its answer. -/
theorem ask {f : σ → β} {k : β → Process σ α} {b : β} (h : f s = b) :
    (Process.ask f >>= k).GoesOnAs s (k b) :=
  ⟨_, _, _, Process.course_bind _ _, rfl, rfl, h ▸ rfl⟩

theorem bind {p q : Process σ β} (h : p.GoesOnAs s q) (k : β → Process σ α) :
    (p >>= k).GoesOnAs s (q >>= k) := by
  obtain ⟨ready, effect, next, hp, hr, he, hn⟩ := h
  refine ⟨ready, effect, fun s => (next s).after (Process.orCrash fun b => (k b).course), ?_, hr,
    he, ?_⟩
  · rw [Process.course_bind, hp]
    rfl
  · rw [Process.course_bind, ← hn]

theorem attempt {p q : Process σ α} (h : p.GoesOnAs s q) : p.attempt.GoesOnAs s q.attempt := by
  obtain ⟨ready, effect, next, hp, hr, he, hn⟩ := h
  refine ⟨ready, effect, fun s => (next s).after fun r => .done r, ?_, hr, he, ?_⟩
  · rw [Process.course_attempt, hp]
    rfl
  · rw [Process.course_attempt, ← hn]

/-- What comes of a process comes of what it goes on as. -/
theorem ends_iff {p q : Process σ α} (h : p.GoesOnAs s q) {e : Except Crash α} {s' : σ} :
    p.Ends s e s' ↔ q.Ends s e s' := by
  obtain ⟨ready, effect, next, hp, hr, he, hn⟩ := h
  unfold Process.Ends Process.advance
  rw [hp, Course.advance, if_pos hr, he, hn]

end Process.GoesOnAs

/-- Two continuations of a course that only looks are the same if they agree on its ends. -/
theorem Course.Looks.after_congr {σ α β : Type} {p : Course σ α}
    {k k' : Except Crash α → Course σ β} (hp : p.Looks (fun r => k r = k' r)) :
    p.after k = p.after k' := by
  induction p with
  | done a => exact hp
  | crash c => exact hp
  | step ready effect next ih =>
    exact congrArg (Course.step ready effect) (funext fun s => ih s (hp.2 s))

/-! ## Native members of one name

Matching by values: what fits two declarations has a `null` in it, or the two declare the same
parameters. -/

/-- A value other than `null` fits one type only. -/
theorem ManagedValue.eq_of_fits {v : ManagedValue} (hv : v ≠ .null) {t t' : Tag}
    (h : v.fits t = true) (h' : v.fits t' = true) : t = t' := by
  cases v with
  | null => exact absurd rfl hv
  | _ => exact (of_decide_eq_true h).trans (of_decide_eq_true h').symm

namespace Class

variable {c : Class} {name : String} {kind : MemberKind} {args : List ManagedValue}
  {externs : List Extern}

/-- Arguments without a `null` fit one list of parameters only. -/
theorem eq_of_accepts (hargs : .null ∉ args) {ts ts' : List Tag}
    (h : accepts ts args = true) (h' : accepts ts' args = true) : ts = ts' := by
  induction args generalizing ts ts' with
  | nil =>
    cases ts with
    | cons t ts => cases h
    | nil =>
      cases ts' with
      | cons t' ts' => cases h'
      | nil => rfl
  | cons v vs ih =>
    rw [List.mem_cons, not_or] at hargs
    cases ts with
    | nil => cases h
    | cons t ts =>
      cases ts' with
      | nil => cases h'
      | cons t' ts' =>
        simp only [accepts, Bool.and_eq_true] at h h'
        rw [ManagedValue.eq_of_fits (Ne.symm hargs.1) h.1 h'.1, ih hargs.2 h.2 h'.2]

/-- **No two extern declarations of a class are of one key**: they differ in more than the
result. -/
def Distinct (c : Class) : Prop := (c.externMembers.map Member.key).Nodup

theorem nodup_of_firstRepeated? {seen : List Member.Key} {l : List Member}
    (h : firstRepeated? seen l = none) :
    (l.map Member.key).Nodup ∧ ∀ k ∈ l.map Member.key, k ∉ seen := by
  induction l generalizing seen with
  | nil => exact ⟨List.nodup_nil, by simp⟩
  | cons m l ih =>
    unfold firstRepeated? at h
    split at h
    · cases h
    · next hm =>
      obtain ⟨hnodup, hseen⟩ := ih h
      refine ⟨List.nodup_cons.2 ⟨fun hk => hseen _ hk List.mem_cons_self, hnodup⟩, ?_⟩
      refine List.forall_mem_cons.2 ⟨by simpa using hm, fun k hk => ?_⟩
      exact fun hs => hseen k hk (List.mem_cons_of_mem _ hs)

/-- The classes of an assembly are checked when it is built. -/
theorem distinct_of_build {assembly : String} {classes : List Class} {i : Image}
    (h : Image.build assembly classes = .ok i) (hc : c ∈ i.classes) : c.Distinct := by
  unfold Image.build at h
  split at h
  · cases h
  · next hnone =>
    cases h
    exact (nodup_of_firstRepeated? (List.findSome?_eq_none_iff.1 hnone c hc)).1

theorem Distinct.eq_of_key (hc : c.Distinct) {m m' : Member} (hm : m ∈ c.externMembers)
    (hm' : m' ∈ c.externMembers) (h : m.key = m'.key) : m = m' :=
  List.inj_on_of_nodup_map hc hm hm' h

theorem key_of_findExtern? {m : Member} (h : c.findExtern? name kind args = some m) :
    m ∈ c.externMembers ∧ m.name = name ∧ m.kind = kind ∧ m.typeName = c.fullName ∧
      accepts m.signature.params args = true := by
  have hm := List.mem_of_find?_eq_some h
  have hmatch := List.find?_some h
  simp only [Bool.and_eq_true, decide_eq_true_eq] at hmatch
  obtain ⟨e, -, rfl⟩ := List.mem_map.1 hm
  exact ⟨hm, hmatch.1.1, hmatch.1.2, rfl, hmatch.2⟩

/-- In another order, there are the same members. -/
theorem mem_externMembers_perm (hp : externs.Perm c.externs) {m : Member} :
    m ∈ ({ c with externs := externs } : Class).externMembers ↔ m ∈ c.externMembers :=
  (hp.map c.externMember).mem_iff

/-- **No declaration matches a call in one order** if none does in the other. -/
theorem findExtern?_perm_eq_none_iff (hp : externs.Perm c.externs) :
    ({ c with externs := externs } : Class).findExtern? name kind args = none ↔
      c.findExtern? name kind args = none := by
  unfold findExtern?
  simp only [List.find?_eq_none, mem_externMembers_perm hp]

/-- **Without a `null` it is the same declaration**: there is no other. -/
theorem Distinct.findExtern?_perm (hc : c.Distinct) (hp : externs.Perm c.externs)
    (hargs : .null ∉ args) :
    ({ c with externs := externs } : Class).findExtern? name kind args =
      c.findExtern? name kind args := by
  cases h : c.findExtern? name kind args with
  | none => exact (findExtern?_perm_eq_none_iff hp).2 h
  | some m =>
    cases h' : ({ c with externs := externs } : Class).findExtern? name kind args with
    | none => cases ((findExtern?_perm_eq_none_iff hp).1 h').symm.trans h
    | some m' =>
      obtain ⟨hm, hname, hkind, htype, haccepts⟩ := key_of_findExtern? h
      obtain ⟨hm', hname', hkind', htype', haccepts'⟩ := key_of_findExtern? h'
      have hkey : m'.key = m.key := Member.Key.mk.injEq .. ▸
        ⟨htype'.trans htype.symm, hname'.trans hname.symm, eq_of_accepts hargs haccepts' haccepts,
          hkind'.trans hkind.symm⟩
      rw [hc.eq_of_key ((mem_externMembers_perm hp).1 hm') hm hkey]

end Class

/-! ## Calls of native members

First those with a `null`, then those of which one declaration matches. -/

/-- With a `null` among its arguments a call fails before it comes to its member. -/
theorem Run.callExtern_eq_of_null {args : List ManagedValue} (h : .null ∈ args) (run : Runner)
    (me : ThreadId) (m m' : Member) (receiver : Option ObjectId) :
    Run.callExtern run me m receiver args = Run.callExtern run me m' receiver args := by
  refine Process.ext_course ?_
  unfold Run.callExtern
  rw [Process.course_bind, Process.course_bind]
  refine Course.Looks.after_congr ((looks_marshalAll_null h).mono ?_)
  rintro _ ⟨e, rfl⟩
  rfl

namespace ExternCall

variable {call : ExternCall} {c : Class} {externs : List Extern}

theorem member?_perm_eq_none_iff (hp : externs.Perm c.externs) :
    call.member? { c with externs := externs } = none ↔ call.member? c = none := by
  cases call <;> exact Class.findExtern?_perm_eq_none_iff hp

theorem member?_perm (hc : c.Distinct) (hp : externs.Perm c.externs) (hargs : .null ∉ call.args) :
    call.member? { c with externs := externs } = call.member? c := by
  cases call <;> exact hc.findExtern?_perm hp hargs

/-- What no declaration matches is missing. -/
theorem dispatch_none {run : Runner} {me : ThreadId} (h : call.member? c = none) :
    call.dispatch run me (.ok c) = pure (.error (Run.missing c call.name call.args)) := by
  rw [dispatch, h]

/-- **A call does the same in either order**, once it has its class. -/
theorem dispatch_perm (hc : c.Distinct) (hp : externs.Perm c.externs) (run : Runner)
    (me : ThreadId) :
    call.dispatch run me (.ok { c with externs := externs }) = call.dispatch run me (.ok c) := by
  cases h : call.member? c with
  | none =>
    rw [dispatch_none h, dispatch_none ((member?_perm_eq_none_iff hp).2 h)]
    rfl
  | some m =>
    cases h' : call.member? { c with externs := externs } with
    | none => cases ((member?_perm_eq_none_iff hp).1 h').symm.trans h
    | some m' =>
      rw [dispatch_ok h, dispatch_ok h']
      by_cases hnull : .null ∈ call.args
      · exact Run.callExtern_eq_of_null hnull run me m' m _
      · rw [member?_perm hc hp hnull, h] at h'
        cases h'
        rfl

/-- A call finds its class and goes on with it. -/
theorem goesOnAs {d : World} {x : Context} (h : call.classIn d.domain x = .ok c) (run : Runner)
    (me : ThreadId) : (call.process run me x).GoesOnAs d (call.dispatch run me (.ok c)) := by
  rw [process_eq]
  exact .ask h

end ExternCall

/-- **The order of extern declarations is free.** Let a class be one of those that an assembly was
built of, and let its extern declarations be put in another order. A call of a native member by
a managed body, on an object or on a type, does in any state in which it comes upon the one
class what it does in any state in which it comes upon the other:
* it raises the exception for a missing member, if no declaration matches in either order;
* it calls the one member that matches in both orders, with the arguments that it has;
* it looks and raises an exception, if the orders have it at different members: there is a
  `null` among the arguments then. -/
theorem extern_order_is_free {assembly : String} {classes : List Class} {i : Image}
    (hi : Image.build assembly classes = .ok i) {c : Class} (hc : c ∈ i.classes)
    {externs : List Extern} (hp : externs.Perm c.externs) (call : ExternCall) (run : Runner)
    (me : ThreadId) :
    ∃ q : Run (Except ManagedException ManagedValue),
      (∀ (w : World) x, call.classIn w.domain x = .ok c →
        (call.process run me x).GoesOnAs w q) ∧
      (∀ (w : World) x, call.classIn w.domain x = .ok { c with externs := externs } →
        (call.process run me x).GoesOnAs w q) ∧
      ((call.member? c = none ∧ call.member? { c with externs := externs } = none ∧
          q = pure (.error (Run.missing c call.name call.args))) ∨
        ∃ m, call.member? c = some m ∧ q = Run.callExtern run me m call.receiver? call.args ∧
          (call.member? { c with externs := externs } = some m ∨
            .null ∈ call.args ∧ q.course.Looks (fun r => ∃ e, r = .ok (.error e)))) := by
  have hdistinct := Class.distinct_of_build hi hc
  refine ⟨call.dispatch run me (.ok c), fun w x hw => ExternCall.goesOnAs hw run me,
    fun w x hw => ?_, ?_⟩
  · rw [← ExternCall.dispatch_perm hdistinct hp]
    exact ExternCall.goesOnAs hw run me
  cases h : call.member? c with
  | none =>
    exact .inl ⟨rfl, (ExternCall.member?_perm_eq_none_iff hp).2 h, ExternCall.dispatch_none h⟩
  | some m =>
    refine .inr ⟨m, rfl, ExternCall.dispatch_ok h, ?_⟩
    by_cases hnull : .null ∈ call.args
    · rw [ExternCall.dispatch_ok h]
      exact .inr ⟨hnull, Run.looks_callExtern_null hnull⟩
    · exact .inl ((ExternCall.member?_perm hdistinct hp hnull).trans h)

/-- A class with two native members of one name, which a `null` fits both. -/
def panel : Class where
  scope := ""
  name := "Panel"
  externs := [⟨"Show", ⟨[.string], .void⟩, .static⟩, ⟨"Show", ⟨[.object], .void⟩, .static⟩]

/-- The class with its members the other way round. -/
def turnedPanel : Class := { panel with externs := panel.externs.reverse }

/-- A call by code of a class that passes nothing. -/
def showNothing (c : Class) : Run (Except ManagedException ManagedValue) :=
  ExternCall.process (.nested 1) mainThread ⟨c, 0, 0, ⟨"Panel::Draw", none, []⟩⟩
    (.onType "Panel" "Show" [.null])

/-- A host at its start. -/
def panelHost : World := .start .empty .empty "host" 8

/-- The two classes find two members for the call, and it does the same in both. -/
theorem extern_order_is_free_panel :
    ExternCall.member? panel (.onType "Panel" "Show" [.null]) ≠
      ExternCall.member? turnedPanel (.onType "Panel" "Show" [.null]) ∧
    ∃ q e, (showNothing panel).GoesOnAs panelHost q ∧
      (showNothing turnedPanel).GoesOnAs panelHost q ∧
      q.Ends panelHost (.ok (.error e)) panelHost := by
  have hfound : ExternCall.member? panel (.onType "Panel" "Show" [.null]) ≠ none := by decide
  have hdiffer : ExternCall.member? panel (.onType "Panel" "Show" [.null]) ≠
      ExternCall.member? turnedPanel (.onType "Panel" "Show" [.null]) := by decide
  have hbuilt : Image.build "A" [panel] = .ok ⟨"A", [panel]⟩ := rfl
  obtain ⟨q, hpanel, hturned, ⟨hnone, -⟩ | ⟨m, hm, -, hm' | ⟨-, hlooks⟩⟩⟩ :=
    extern_order_is_free hbuilt List.mem_cons_self (List.reverse_perm panel.externs)
      (.onType "Panel" "Show" [.null]) (.nested 1) mainThread
  · exact absurd hnone hfound
  · exact absurd (hm.trans hm'.symm) hdiffer
  · obtain ⟨r, hend, e, rfl⟩ := hlooks.advance panelHost
    exact ⟨hdiffer, q, e, hpanel panelHost _ rfl, hturned panelHost _ rfl, hend⟩

/-! ## Managed methods of one name

The four ways to call a method: from managed code on an object and on a type, from native code by
its full name, and through a thunk. Each finds a class first, then the first declaration of the
name and number of parameters in it, and then asks for its kind. -/

namespace Class

variable {c : Class} {name : String} {arity : Nat}

/-- **The first declaration** of a name and number of parameters among the methods of a class, of
whatever kind it is, or none. -/
def First (c : Class) (name : String) (arity : Nat) : Option Method → Prop
  | some m => ∃ before after, c.methods = before ++ m :: after ∧
      m.name = name ∧ m.signature.arity = arity ∧
      ∀ x ∈ before, x.name = name → x.signature.arity ≠ arity
  | none => ∀ x ∈ c.methods, x.name = name → x.signature.arity ≠ arity

/-- Selection finds the first declaration. -/
theorem findMethod?_eq_iff {first : Option Method} :
    c.findMethod? name arity = first ↔ c.First name arity first := by
  unfold findMethod?
  cases first with
  | none => simp [First, List.find?_eq_none]
  | some m =>
    rw [List.find?_eq_some_iff_append]
    simp only [First, Bool.and_eq_true, decide_eq_true_eq, Bool.not_eq_true', Bool.and_eq_false_imp,
      decide_eq_false_iff_not]
    constructor
    · rintro ⟨⟨hname, harity⟩, before, after, hl, hbefore⟩
      exact ⟨before, after, hl, hname, harity, hbefore⟩
    · rintro ⟨before, after, hl, hname, harity, hbefore⟩
      exact ⟨⟨hname, harity⟩, before, after, hl, hbefore⟩

theorem First.name_eq {m : Method} (h : c.First name arity (some m)) : m.name = name := by
  obtain ⟨-, -, -, hname, -⟩ := h
  exact hname

end Class

/-! ### Calls from managed code

The kind is asked for last. A method of the wrong kind is not skipped in favour of a later one:
the call fails as if there were no method at all. -/

/-- The kind of a call, by its receiver. -/
def MemberKind.ofReceiver : Option ObjectId → MemberKind
  | some _ => .perInstance
  | none => .static

/-- A method as a call of a kind may use it: not at all, if it is of the other kind. -/
def MemberKind.usable (kind : MemberKind) (first : Option Method) : Option Method :=
  first.filter (fun m => m.kind = kind)

namespace Run

variable (run : Runner) (me : ThreadId) (c : Class)

/-- **Runs a method that was selected**: its body, between the check of the arguments and the
check of the result. -/
def runSelected (m : Method) (receiver : Option ObjectId) (args : List ManagedValue)
    (depth : Nat) : Run (Except ManagedException ManagedValue) := do
  let frame := c.fullName ++ "::" ++ m.name
  match checkArguments frame m.signature args with
  | .error e => return .error e
  | .ok () =>
    match ← runBody run me c frame m.body receiver args depth with
    | .error e => return .error e
    | .ok v =>
      if v.fits m.signature.ret then return .ok v
      else
        return .error ⟨ManagedException.invalidCast,
          frame ++ " returned " ++ v.render ++ " for " ++ m.signature.ret.managedName, []⟩

/-- **What a call comes to**, by the method that was selected for it, if there is one. -/
def callSelected (name : String) (selected : Option Method) (receiver : Option ObjectId)
    (args : List ManagedValue) (depth : Nat) : Run (Except ManagedException ManagedValue) :=
  match selected with
  | none => pure (.error (missing c name args))
  | some m => runSelected run me c m receiver args depth

variable {run me c}

theorem takes_eq (m : Method) (receiver : Option ObjectId) :
    takes m receiver = decide (m.kind = MemberKind.ofReceiver receiver) := by
  cases receiver <;> cases h : m.kind <;> simp [takes, MemberKind.ofReceiver, h]

/-- **A method is called** as the first declaration says, of whatever kind that is. -/
theorem runMethod_eq {name : String} {receiver : Option ObjectId} {args : List ManagedValue}
    {first : Option Method} (h : c.First name args.length first) (depth : Nat) :
    runMethod run me c name receiver args depth =
      callSelected run me c name ((MemberKind.ofReceiver receiver).usable first) receiver args
        depth := by
  have hfilter : (c.findMethod? name args.length).filter (takes · receiver) =
      (MemberKind.ofReceiver receiver).usable first := by
    rw [Class.findMethod?_eq_iff.2 h]
    exact congrArg (Option.filter · first) (funext fun m => takes_eq m receiver)
  unfold runMethod
  rw [hfilter]
  cases hu : (MemberKind.ofReceiver receiver).usable first with
  | none => rfl
  | some m =>
    obtain rfl : first = some m := (Option.filter_eq_some_iff.1 hu).1
    obtain rfl := h.name_eq
    rfl

/-! ### Calls from native code

The arguments cross before the method is looked for, and what is looked for is their number. It is
the number of the arguments that crossed, which is the number of those that were passed. -/

/-- Arguments cross one by one, each as a value of its own type. -/
theorem looks_unmarshalAll (xs : List BoundaryValue) :
    (unmarshalAll xs).course.Looks (fun r => (∃ e, r = .ok (.error e)) ∨
      ∃ vs, r = .ok (.ok vs) ∧ List.Forall₂ (ManagedValue.Crosses fun _ _ => True) vs xs) := by
  have look : ∀ x : BoundaryValue, (unmarshal x).course.Looks (fun r => (∃ e, r = .ok (.error e)) ∨
      ∃ v, r = .ok (.ok v) ∧ v.Crosses (fun _ _ => True) x) := by
    intro x
    cases x with
    | object h =>
      refine Process.looks_bind (Process.looks_ask _) (fun r => ?_)
      cases r with
      | error e => exact .inl ⟨_, rfl⟩
      | ok o => exact .inr ⟨_, rfl, .object trivial⟩
    | _ => exact .inr ⟨_, rfl, by constructor⟩
  induction xs with
  | nil => exact .inr ⟨[], rfl, .nil⟩
  | cons x xs ih =>
    unfold unmarshalAll
    rw [Process.course_bind]
    refine Course.Looks.after ((look x).mono ?_)
    rintro _ (⟨e, rfl⟩ | ⟨v, rfl, hv⟩)
    · exact .inl ⟨e, rfl⟩
    · change (unmarshalAll xs >>= _).course.Looks _
      rw [Process.course_bind]
      refine Course.Looks.after (ih.mono ?_)
      rintro _ (⟨e, rfl⟩ | ⟨vs, rfl, hvs⟩)
      · exact .inl ⟨e, rfl⟩
      · exact .inr ⟨v :: vs, rfl, .cons hv hvs⟩

/-- What follows arguments that crossed may go by their types. -/
theorem unmarshalAll_bind_congr {β : Type} {xs : List BoundaryValue}
    {k k' : Except ManagedException (List ManagedValue) → Run β}
    (herror : ∀ e, k (.error e) = k' (.error e))
    (hok : ∀ vs, List.Forall₂ (ManagedValue.Crosses fun _ _ => True) vs xs →
      k (.ok vs) = k' (.ok vs)) :
    unmarshalAll xs >>= k = unmarshalAll xs >>= k' := by
  refine Process.ext_course ?_
  rw [Process.course_bind, Process.course_bind]
  refine Course.Looks.after_congr ((looks_unmarshalAll xs).mono ?_)
  rintro _ (⟨e, rfl⟩ | ⟨vs, rfl, hvs⟩)
  · exact congrArg Process.course (herror e)
  · exact congrArg Process.course (hok vs hvs)

/-- What a method ended with, as it crosses. -/
def marshalResult : Except ManagedException ManagedValue →
    Run (Except ManagedException BoundaryValue)
  | .error e => return .error e
  | .ok v => marshal v

/-- **What a call from native code comes to**, by the method that was selected for it, if there
is one. -/
def enterSelected (run : Runner) (me : ThreadId) (c : Class) (name : String)
    (selected : Option Method) (receiver : Option ObjectId) (args : List BoundaryValue) :
    Run (Except ManagedException BoundaryValue) := do
  match ← unmarshalAll args with
  | .error e => return .error e
  | .ok vs => marshalResult (← callSelected run me c name selected receiver vs 0)

theorem callManaged_goesOnAs {w : World} {m : MethodRef} {receiver : Option ObjectId}
    {args : List BoundaryValue} {first : Option Method}
    (hc : w.domain.findClass? m.typeName = some c)
    (h : c.First m.method args.length first) :
    (callManaged run me m receiver args).GoesOnAs w
      (enterSelected run me c m.method ((MemberKind.ofReceiver receiver).usable first) receiver
        args) := by
  have hselected : enterSelected run me c m.method ((MemberKind.ofReceiver receiver).usable first)
      receiver args = unmarshalAll args >>= fun r =>
        match r with
        | .error e => pure (.error e)
        | .ok vs => runMethod run me c m.method receiver vs 0 >>= marshalResult := by
    refine unmarshalAll_bind_congr (fun e => rfl) (fun vs hvs => ?_)
    rw [← hvs.length_eq] at h
    dsimp only
    rw [runMethod_eq h]
  rw [hselected]
  exact .ask (f := fun w : World => w.domain.findClass? m.typeName) hc

end Run

namespace Thunk

variable {params : List Tag} {ret : Tag}

/-! ### Thunks

A thunk selects twice: on the class that it is bound on, when it is bound, and on the class of
that full name, when it is called. -/

/-- **What binding a thunk comes to**, by the method that was selected for it, if there is one. A
class that was asked for by `asked` is bound by its full name. -/
def ofSelected (c : Class) (asked name : String) (receiver : Method → Option ObjectId)
    (params : List Tag) (ret : Tag) : Option Method → Except ScriptError (Thunk params ret)
  | none => .error (.methodNotFound (MethodRef.mk asked name params.length).render)
  | some m =>
    if m.signature = ⟨params, ret⟩ then .ok ⟨⟨c.fullName, name, params.length⟩, receiver m⟩
    else
      .error (.binding (.signatureMismatch
        ((MethodRef.mk c.fullName name params.length).render ++ m.signature.render)
        (Signature.mk params ret).render))

/-- **What a call of a thunk comes to**, by the method that was selected for it, if there is
one. -/
def callSelected (th : Thunk params ret) (run : Runner) (me : ThreadId) (c : Class)
    (selected : Option Method) (args : Tag.Args params) : Run (Except BridgeError ret.Native) := do
  match ← managedBoundary th.method.entryPoint
      (Run.enterSelected run me c th.method.method selected th.receiver
        (Tag.boundaryArgs params args)) with
  | .error e => return .error e
  | .ok v => return (v.toNative ret).mapError .marshalType

variable {c : Class} {name : String} {first : Option Method} {d : Domain}

/-- The receiver that a method of an instance is bound to. -/
def receiverFor (o : ObjectId) (m : Method) : Option ObjectId :=
  if m.kind = .perInstance then some o else none

theorem kind_of_receiverFor {o : ObjectId} {m : Method} (h : receiverFor o m = none) :
    m.kind = .static := by
  cases hk : m.kind with
  | static => rfl
  | perInstance => simp [receiverFor, hk] at h

theorem kind_eq_ofReceiver (o : ObjectId) (m : Method) :
    m.kind = MemberKind.ofReceiver (receiverFor o m) := by
  cases hk : m.kind <;> simp [receiverFor, hk, MemberKind.ofReceiver]

theorem bind_eq (hd : d.findClass? c.fullName = some c) {m : Method}
    (hm : c.findMethod? name params.length = some m) {receiver : Option ObjectId}
    (hr : receiver = none → m.kind = .static) :
    (bind d ⟨c.fullName, name, params.length⟩ receiver params ret).mapError ScriptError.binding =
      if m.signature = ⟨params, ret⟩ then
        .ok ⟨⟨c.fullName, name, params.length⟩, receiver⟩
      else
        .error (.binding (.signatureMismatch
          ((MethodRef.mk c.fullName name params.length).render ++ m.signature.render)
          (Signature.mk params ret).render)) := by
  have hsignature : Run.methodSignature? d ⟨c.fullName, name, params.length⟩ =
      some (m.signature, m.kind) := by
    unfold Run.methodSignature?
    rw [hd]
    simp [hm]
  have hkind : ¬(decide (m.kind = .perInstance) && receiver.isNone) = true := by
    cases receiver with
    | none => simp [hr rfl]
    | some o => simp
  unfold bind
  rw [hsignature]
  dsimp only
  by_cases hs : m.signature = ⟨params, ret⟩
  · rw [if_pos hs, if_neg (not_not.2 hs), if_neg hkind]
    rfl
  · rw [if_neg hs, if_pos hs]
    rfl

/-- A thunk of an instance is bound to the first declaration, of whatever kind. -/
theorem thunk_eq (hd : d.findClass? c.fullName = some c) (h : c.First name params.length first)
    (o : ObjectId) :
    (Instance.mk c o).thunk d name params ret =
      ofSelected c c.fullName name (receiverFor o) params ret first := by
  have hfirst := Class.findMethod?_eq_iff.2 h
  unfold Instance.thunk Instance.getMethod
  dsimp only
  rw [hfirst]
  cases first with
  | none => rfl
  | some m => exact bind_eq hd hfirst kind_of_receiverFor

/-- A thunk of a type is bound to the first declaration if that is static. -/
theorem ofStatic_eq {typeName : String} (hfound : d.findClass? typeName = some c)
    (hd : d.findClass? c.fullName = some c) (h : c.First name params.length first) :
    ofStatic d typeName name params ret =
      ofSelected c typeName name (fun _ => none) params ret (MemberKind.static.usable first) := by
  have hfirst := Class.findMethod?_eq_iff.2 h
  unfold ofStatic MemberKind.usable
  rw [hfound]
  dsimp only
  rw [hfirst]
  cases hu : first.filter (fun m => m.kind = .static) with
  | none => rfl
  | some m =>
    obtain ⟨rfl, hkind⟩ := Option.filter_eq_some_iff.1 hu
    exact bind_eq hd hfirst fun _ => of_decide_eq_true hkind

theorem length_boundaryArgs : ∀ (ts : List Tag) (args : Tag.Args ts),
    (Tag.boundaryArgs ts args).length = ts.length
  | [], _ => rfl
  | _ :: ts, (_, xs) => congrArg (· + 1) (length_boundaryArgs ts xs)

/-- A thunk selects its method anew when it is called. -/
theorem call_goesOnAs {th : Thunk params ret} {run : Runner} {me : ThreadId} {w : World}
    (hth : th.method = ⟨c.fullName, name, params.length⟩)
    (hc : w.domain.findClass? c.fullName = some c) (h : c.First name params.length first)
    (args : Tag.Args params) :
    (th.call run me args).GoesOnAs w (th.callSelected run me c
      ((MemberKind.ofReceiver th.receiver).usable first) args) := by
  rw [← length_boundaryArgs params args] at h
  refine .bind (.bind (.attempt ?_) _) _
  rw [hth]
  exact Run.callManaged_goesOnAs hc h

theorem of_ofSelected {asked : String} {receiver : Method → Option ObjectId}
    {selected : Option Method} {th : Thunk params ret}
    (h : ofSelected c asked name receiver params ret selected = .ok th) :
    ∃ m, selected = some m ∧ m.signature = ⟨params, ret⟩ ∧
      th = ⟨⟨c.fullName, name, params.length⟩, receiver m⟩ := by
  cases selected with
  | none => cases h
  | some m =>
    unfold ofSelected at h
    dsimp only at h
    split at h
    · next hs => exact ⟨m, rfl, hs, (Except.ok.inj h).symm⟩
    · cases h

/-- **A thunk that was bound calls the method that it was bound to**, wherever the class has its
full name. -/
theorem call_of_first (th : Thunk params ret) {m : Method}
    (hth : th.method = ⟨c.fullName, name, params.length⟩)
    (hm : c.First name params.length (some m)) (hkind : m.kind = MemberKind.ofReceiver th.receiver)
    {run : Runner} {me : ThreadId} {w : World} (hc : w.domain.findClass? c.fullName = some c)
    (args : Tag.Args params) :
    (th.call run me args).GoesOnAs w (th.callSelected run me c (some m) args) := by
  have husable : (MemberKind.ofReceiver th.receiver).usable (some m) = some m :=
    Option.filter_eq_some_iff.2 ⟨rfl, decide_eq_true hkind⟩
  rw [← husable]
  exact call_goesOnAs hth hc hm args

end Thunk

/-! ## What the first declaration decides -/

/-- **The first declaration of a name and number of parameters decides** what calls come to, of
whatever kind it is. At every point of every interleaving from the start of a host on, let a
class declare it first, or declare none. The method is usable for a call if it is of the kind of
the call, and then it runs; if it is not, or if there is none, the call raises the exception for
a missing method:
* from managed code, on an object of the class;
* from managed code, on a name that stands for the class.

In the same way a thunk is bound, if the types are those of the method, or is refused since there
is no such method; it is bound
* by an instance of the class, to the object if the method takes one, as long as the class has
  its full name, whatever the kind is;
* as a static method, by a name that stands for the class.

A thunk that was bound runs the method that it was bound to, in every state in which the class has
its full name. -/
theorem first_declaration_decides {α : Type} {w : World} (hw : w.domain.classes = .empty) {n : Nat}
    {code : ThreadId → NativeCode α} {t : Threads World α}
    (ht : (w.threads n code).Reaches (fun _ => True) t) (run : Runner) (me : ThreadId)
    {c : Class} {name : String} {arity : Nat} {first : Option Method}
    (hfirst : c.First name arity first) :
    (∀ x o args, args.length = arity → t.state.domain.classOf o = .ok c →
      (Run.managedReply run me x (.call o name args)).GoesOnAs t.state
        (Run.callSelected run me c name (MemberKind.perInstance.usable first) (some o) args
          (x.depth + 1) >>= Run.keeping x)) ∧
    (∀ x typeName args, args.length = arity →
      t.state.domain.classNamed x.cls typeName = .ok c →
      (Run.managedReply run me x (.callStatic typeName name args)).GoesOnAs t.state
        (Run.callSelected run me c name (MemberKind.static.usable first) none args
          (x.depth + 1) >>= Run.keeping x)) ∧
    ∀ params ret, params.length = arity →
      (∀ o, t.state.domain.findClass? c.fullName = some c →
        (Instance.mk c o).thunk t.state.domain name params ret =
          Thunk.ofSelected c c.fullName name (Thunk.receiverFor o) params ret first) ∧
      (∀ typeName, t.state.domain.findClass? typeName = some c →
        Thunk.ofStatic t.state.domain typeName name params ret =
          Thunk.ofSelected c typeName name (fun _ => none) params ret
            (MemberKind.static.usable first)) ∧
      ∀ th : Thunk params ret,
        ((∃ o, t.state.domain.findClass? c.fullName = some c ∧
            (Instance.mk c o).thunk t.state.domain name params ret = .ok th) ∨
          ∃ typeName, t.state.domain.findClass? typeName = some c ∧
            Thunk.ofStatic t.state.domain typeName name params ret = .ok th) →
        ∃ m, first = some m ∧ m.signature = ⟨params, ret⟩ ∧
          m.kind = MemberKind.ofReceiver th.receiver ∧
          ∀ s : World, s.domain.findClass? c.fullName = some c → ∀ args,
            (th.call run me args).GoesOnAs s (th.callSelected run me c (some m) args) := by
  have hd := World.indexed_of_reaches hw ht
  refine ⟨fun x o args hargs hc => ?_, fun x typeName args hargs hc => ?_,
    fun params ret hparams => ?_⟩
  · rw [← hargs] at hfirst
    rw [show MemberKind.perInstance = MemberKind.ofReceiver (some o) from rfl,
      ← Run.runMethod_eq hfirst]
    exact .ask (f := fun w : World => w.domain.classOf o) hc
  · rw [← hargs] at hfirst
    rw [show MemberKind.static = MemberKind.ofReceiver none from rfl, ← Run.runMethod_eq hfirst]
    exact .ask (f := fun w : World => w.domain.classNamed x.cls typeName) hc
  · subst hparams
    have hstatic : ∀ typeName, t.state.domain.findClass? typeName = some c →
        Thunk.ofStatic t.state.domain typeName name params ret =
          Thunk.ofSelected c typeName name (fun _ => none) params ret
            (MemberKind.static.usable first) :=
      fun typeName hfound => Thunk.ofStatic_eq hfound (hd.findClass?_fullName hfound) hfirst
    refine ⟨fun o hc => Thunk.thunk_eq hc hfirst o, hstatic, fun th hth => ?_⟩
    obtain ⟨o, hc, hth⟩ | ⟨typeName, hfound, hth⟩ := hth
    · obtain ⟨m, rfl, hs, rfl⟩ := Thunk.of_ofSelected ((Thunk.thunk_eq hc hfirst o).symm.trans hth)
      have hkind := Thunk.kind_eq_ofReceiver o m
      exact ⟨m, rfl, hs, hkind, fun s hs args => Thunk.call_of_first _ rfl hfirst hkind hs args⟩
    · obtain ⟨m, hm, hs, rfl⟩ := Thunk.of_ofSelected ((hstatic typeName hfound).symm.trans hth)
      obtain ⟨rfl, hkind⟩ := Option.filter_eq_some_iff.1 hm
      have hkind : m.kind = .static := of_decide_eq_true hkind
      exact ⟨m, rfl, hs, hkind, fun s hs args =>
        Thunk.call_of_first ⟨_, none⟩ rfl hfirst hkind hs args⟩

/-! ## A method that is hidden

Declared behind a method of the other kind, a method is there for nobody. -/

/-- **The first declaration of a kind**, of a name and number of parameters. -/
def Class.FirstOfKind (c : Class) (name : String) (arity : Nat) (kind : MemberKind) (m : Method) :
    Prop :=
  ∃ before after, c.methods = before ++ m :: after ∧
    m.name = name ∧ m.signature.arity = arity ∧ m.kind = kind ∧
    ∀ x ∈ before, x.name = name → x.signature.arity = arity → x.kind ≠ kind

/-- A method that takes no object. -/
def showType : Method :=
  ⟨"Show", ⟨[], .string⟩, .static, fun _ => .done (.ok (.string "of the type"))⟩

/-- A method of the same name that takes one. -/
def showObject : Method :=
  ⟨"Show", ⟨[], .string⟩, .perInstance, fun _ => .done (.ok (.string "of the object"))⟩

/-- A class that declares both. -/
def badge : Class where
  scope := ""
  name := "Badge"
  methods := [showType, showObject]

/-- A class that declares them the other way round. -/
def lanyard : Class where
  scope := ""
  name := "Lanyard"
  methods := [showObject, showType]

/-- The host loads the classes and makes an object of the first. -/
def wearing : NativeCode Unit :=
  .perform (.provide ⟨"A", [badge, lanyard]⟩) fun _ => .perform (.load "A") fun _ =>
    .perform (.newInstance badge) fun _ => .done ()

/-- Where it is made. -/
def worn : World := ((wearing.course 1 mainThread).advance panelHost).2

theorem worn_reached :
    ∃ t, (panelHost.threads 1 fun _ => wearing).Reaches (fun _ => True) t ∧ t.state = worn := by
  obtain ⟨t, ht, hstate, -⟩ := (panelHost.threads 1 fun _ => wearing).reaches_alone
    ((wearing.course 1 mainThread).reaches_advance panelHost) rfl
  exact ⟨t, ht, hstate⟩

/-- The frame from which the object is called. -/
def wornFrame : Context := ⟨badge, 0, 0, ⟨"Badge::Main", none, []⟩⟩

/-- A call on the object finds the method of the type, which it cannot use; a thunk for the type
runs that method. -/
theorem first_declaration_decides_worn :
    ∃ t : Threads World Unit, (panelHost.threads 1 fun _ => wearing).Reaches (fun _ => True) t ∧
      (Run.managedReply (.nested 1) mainThread wornFrame (.call ⟨1⟩ "Show" [])).GoesOnAs t.state
        (pure (.error (Run.missing badge "Show" []))) ∧
      ∃ th : Thunk [] .string, Thunk.ofStatic t.state.domain "Badge" "Show" [] .string = .ok th ∧
        (th.call (.nested 1) mainThread ()).GoesOnAs t.state
          (th.callSelected (.nested 1) mainThread badge (some showType) ()) := by
  obtain ⟨t, ht, hstate⟩ := worn_reached
  have hfirst : badge.First "Show" 0 (some showType) :=
    ⟨[], [showObject], rfl, rfl, rfl, by simp⟩
  have hfound : t.state.domain.findClass? "Badge" = some badge := hstate ▸ rfl
  obtain ⟨hcall, -, hthunks⟩ :=
    first_declaration_decides rfl ht (.nested 1) mainThread hfirst
  obtain ⟨-, hstatic, hbound⟩ := hthunks [] .string rfl
  have hth : Thunk.ofStatic t.state.domain "Badge" "Show" [] .string =
      .ok ⟨⟨"Badge", "Show", 0⟩, none⟩ := (hstatic "Badge" hfound).trans rfl
  obtain ⟨m, hm, -, -, hruns⟩ := hbound _ (.inr ⟨"Badge", hfound, hth⟩)
  cases hm
  exact ⟨t, ht, hcall wornFrame ⟨1⟩ [] rfl (hstate ▸ rfl), _, hth, hruns t.state hfound ()⟩

/-- **A method that stands behind another of its name and number of parameters is hidden**, even
if the other is not of its kind: a call on an object does not select the first method that takes
one, and no thunk is bound to the first method that takes none. -/
theorem hidden_methods :
    (¬∀ (w : World) (n : Nat) (code : ThreadId → NativeCode Unit) (t : Threads World Unit),
      w.domain.classes = .empty → (w.threads n code).Reaches (fun _ => True) t →
        ∀ (c : Class) (o : ObjectId) (name : String) (args : List ManagedValue) (m : Method)
          (x : Context), t.state.domain.classOf o = .ok c →
          c.FirstOfKind name args.length .perInstance m →
          (Run.managedReply (.nested 1) mainThread x (.call o name args)).GoesOnAs t.state
            (Run.callSelected (.nested 1) mainThread c name (some m) (some o) args
              (x.depth + 1) >>= Run.keeping x)) ∧
    ¬∀ (w : World) (n : Nat) (code : ThreadId → NativeCode Unit) (t : Threads World Unit),
      w.domain.classes = .empty → (w.threads n code).Reaches (fun _ => True) t →
        ∀ (c : Class) (name : String) (m : Method) (text : String),
          t.state.domain.findClass? c.fullName = some c →
          c.FirstOfKind name m.signature.arity .static m →
          Thunk.ofStatic t.state.domain c.fullName name m.signature.params m.signature.ret ≠
            .error (.methodNotFound text) := by
  obtain ⟨t, ht, hstate⟩ := worn_reached
  refine ⟨fun hbyKind => ?_, fun hbyKind => ?_⟩
  · have hfirst : badge.FirstOfKind "Show" 0 .perInstance showObject :=
      ⟨[showType], [], rfl, rfl, rfl, rfl, by simp [showType]⟩
    have hcall := hbyKind panelHost 1 (fun _ => wearing) t rfl ht badge ⟨1⟩ "Show" [] showObject
      wornFrame (hstate ▸ rfl) hfirst
    have hmissing : (Run.managedReply (.nested 1) mainThread wornFrame
        (.call ⟨1⟩ "Show" [])).Ends t.state (.ok (.error (Run.missing badge "Show" [])))
          t.state := by
      rw [hstate]
      rfl
    let selected := Run.callSelected (.nested 1) mainThread badge "Show" (some showObject)
      (some ⟨1⟩) [] 1 >>= Run.keeping wornFrame
    have hruns : selected.Ends t.state (.ok (.ok (.string "of the object")))
        (selected.advance worn).2 := by
      rw [hstate]
      rfl
    have hequal := congrArg Prod.fst (hruns.symm.trans (hcall.ends_iff.1 hmissing))
    cases hequal
  · have hfirst : lanyard.FirstOfKind "Show" 0 .static showType :=
      ⟨[showObject], [], rfl, rfl, rfl, rfl, by simp [showObject]⟩
    have hnone := hbyKind panelHost 1 (fun _ => wearing) t rfl ht lanyard "Show" showType
      "Lanyard::Show/0" (hstate ▸ rfl) hfirst
    exact hnone (hstate ▸ rfl)

end HostBridge
