import HostBridge.Proofs.Passage
import HostBridge.Proofs.Registry

/-!
# Calls of bound members

A bound member that is called with arguments of the declared types fails for three reasons
only: its receiver is not live, its implementation has faulted, or the implementation is
untyped and has returned a value of another type than the declared one
(`NativeCall.Fails`, `Threads.Performs.invoke_error`). A typed implementation takes what the
checks of a call let through, because it was registered under the types that it was made
for.

The errors are told by what a thread performs, and so they hold of a call in any interleaving.
Each of them comes with what caused it: a failed call says that the implementation was run, on
which arguments, and what it ended with (`NativeCall.Ran`). Without that a statement on the types
of errors would allow a call to fail for no reason.
-/

namespace HostBridge

variable {α β : Type} {me : ThreadId} {o : ObjectId} {t u : Threads World α}
  {l : List (Threads World α)}

/-! ## Implementations

An implementation is code, and what it may return is read off that code. -/

/-- **What code returns in an interleaving** is what it can return. -/
theorem Threads.Performs.returns {j : Nat} {ok : β → Prop} {p : NativeCode β} {b : β}
    (hp : p.Returns ok) (h : t.Performs me ((Runner.nested j).native me p) l (.ok b) u) : ok b := by
  cases j with
  | zero => cases h.crash.1
  | succ j =>
    change t.Performs me (Run.runNative (Runner.nested j) me p) l (.ok b) u at h
    induction p generalizing t l with
    | done a =>
      cases h.pure.1
      exact hp
    | panic q => cases h.crash.1
    | perform op next ih =>
      obtain ⟨r, v, l₁, l₂, rfl, -, h⟩ := h.bind
      exact ih r (hp r) h

/-- **An implementation ran to its end** on behalf of a thread, from one of the points that
the thread came by to another. -/
def NativeCall.Ran (c : NativeCall) (run : Runner) (me : ThreadId) (l : List (Threads World α))
    (args : List BoundaryValue) (result : Except CallFailure BoundaryValue) : Prop :=
  ∃ (t u : Threads World α) (l₁ l₂ l₃ : List (Threads World α)), l = l₁ ++ (l₂ ++ l₃) ∧
    t.Performs me (run.native me (c.run args)) l₂ (.ok result) u

theorem NativeCall.Ran.append {c : NativeCall} {run : Runner} {args : List BoundaryValue}
    {result : Except CallFailure BoundaryValue} (h : c.Ran run me l args result)
    (l' l'' : List (Threads World α)) : c.Ran run me (l' ++ (l ++ l'')) args result := by
  obtain ⟨t, u, l₁, l₂, l₃, rfl, h⟩ := h
  exact ⟨t, u, l' ++ l₁, l₂, l₃ ++ l'', by simp, h⟩

theorem Threads.Performs.runCall {run : Runner} {m : Member} {c : NativeCall}
    {args : List BoundaryValue} {result : Except CallFailure BoundaryValue}
    (h : t.Performs me (Run.runCall run me m c args) l (.ok result) u) :
    (∃ f, result = .error (.fault f)) ∨ c.Ran run me l args result := by
  obtain ⟨r, v, l₁, l₂, rfl, hcode, h⟩ := h.attempt
  match r with
  | .ok result' =>
    cases h.pure.1
    obtain ⟨-, v', l₃, l₄, rfl, -, hcode⟩ := hcode.bind
    exact .inr ⟨v', v, l₃, l₄, l₂, by simp, hcode⟩
  | .error (.panicked q) =>
    obtain ⟨-, v', l₃, l₄, rfl, -, h⟩ := h.bind
    cases h.pure.1
    exact .inl ⟨_, rfl⟩
  | .error .tooDeep => cases h.crash.1

/-! ## The check of a call

It passes if the arguments are of the declared types. -/

/-- Values of the declared types pass the check of a call. -/
theorem checkTags_of_tags {xs : List BoundaryValue} {ts : List Tag}
    (h : xs.map BoundaryValue.tag = ts) : BoundaryValue.checkTags xs ts = .ok () := by
  induction xs generalizing ts with
  | nil =>
    subst h
    rfl
  | cons x xs ih =>
    subst h
    have hx : x.checkTag x.tag = .ok () := if_pos rfl
    rw [List.map_cons, BoundaryValue.checkTags, hx]
    exact ih rfl

theorem checkCall_of_tags {r : Registry} {m : Member} {c : NativeCall} (hc : r.resolve m = .ok c)
    {xs : List BoundaryValue} (h : xs.map BoundaryValue.tag = m.signature.params) :
    Run.checkCall r m xs = .ok c := by
  have hlength : ¬xs.length ≠ m.signature.arity := by
    rw [not_not, Signature.arity, ← h, List.length_map]
  unfold Run.checkCall
  rw [hc, checkTags_of_tags h]
  show (if xs.length ≠ m.signature.arity then _ else _) = _
  rw [if_neg hlength]
  rfl

/-! ## Why calls fail

Each part of a call, with the errors that it may end with. -/

/-- A result is refused if it is a failure, or a value of another type. -/
theorem Threads.Performs.settle_error {m : Member} {result : Except CallFailure BoundaryValue}
    {e : BridgeError} (h : t.Performs me (Run.settle m result) l (.ok (.error e)) u) :
    (∃ failure, result = .error failure ∧ e = Run.CallFailure.toError m.render failure) ∨
      ∃ x, result = .ok x ∧ x.tag ≠ m.signature.ret ∧
        e = .marshalType ⟨m.signature.ret, x.tag⟩ := by
  cases result with
  | error failure =>
    cases h.pure.1
    exact .inl ⟨failure, rfl, rfl⟩
  | ok x =>
    have hcheck : x.checkTag m.signature.ret =
        if x.tag = m.signature.ret then .ok () else .error ⟨m.signature.ret, x.tag⟩ := rfl
    dsimp only [Run.settle] at h
    split at hcheck
    · rw [hcheck] at h
      obtain ⟨-, v, l₁, l₂, rfl, -, h⟩ := h.bind
      cases h.pure.1
    · next hne =>
      rw [hcheck] at h
      cases h.pure.1
      exact .inr ⟨x, rfl, hne, rfl⟩

/-- **Why a call of a bound member fails** whose arguments are of the declared types: the
receiver is not live, the implementation has faulted, or it is untyped and has returned a
value of another type. -/
inductive NativeCall.Fails (c : NativeCall) (run : Runner) (me : ThreadId) (m : Member)
    (l : List (Threads World α)) : BridgeError → Prop
  | invalidState (s : Lifecycle) : Fails c run me m l (.invalidState m.render s)
  | fault (f : NativeFault) : Fails c run me m l (.nativeFault m.render f)
  | result (args : List BoundaryValue) (x : BoundaryValue) (hc : c.IsRaw)
    (hx : x.tag ≠ m.signature.ret) (hran : c.Ran run me l args (.ok x)) :
    Fails c run me m l (.marshalType ⟨m.signature.ret, x.tag⟩)

theorem Threads.Performs.runCall_settle {j : Nat} {m : Member} {c : NativeCall}
    {args : List BoundaryValue} {result : Except CallFailure BoundaryValue} {e : BridgeError}
    {t' u' : Threads World α} {l' l₀ l₃ : List (Threads World α)}
    (hret : c.ret = m.signature.ret) (hmade : c.IsRaw ∨ c.IsTyped)
    (hargs : args.map BoundaryValue.tag = c.params)
    (h : t.Performs me (Run.runCall (.nested j) me m c args) l (.ok result) u)
    (h' : t'.Performs me (Run.settle m result) l' (.ok (.error e)) u') :
    c.Fails (.nested j) me m (l₀ ++ (l ++ l₃)) e := by
  have faulted : ∀ f, result = .error (.fault f) →
      c.Fails (.nested j) me m (l₀ ++ (l ++ l₃)) e := by
    rintro f rfl
    cases h'.pure.1
    exact .fault f
  obtain ⟨f, hf⟩ | hran := h.runCall
  · exact faulted f hf
  obtain ⟨v, v', l₁, l₂, l₄, rfl, hcode⟩ := hran
  obtain ⟨failure, rfl, -⟩ | ⟨x, rfl, hx, rfl⟩ := h'.settle_error
  · have hanswers : ∃ ok, NativeCall.Answers ok (.error failure) := by
      obtain hraw | htyped := hmade
      · exact ⟨_, hcode.returns (hraw.returns args)⟩
      · exact ⟨_, hcode.returns (htyped.returns hargs)⟩
    obtain ⟨-, f, rfl⟩ := hanswers
    exact faulted f rfl
  · obtain hraw | htyped := hmade
    · exact .result args x hraw hx (.append ⟨v, v', l₁, l₂, l₄, rfl, hcode⟩ _ _)
    · have hanswers : NativeCall.Answers (fun v => v.tag = c.ret) (.ok x) :=
        hcode.returns (htyped.returns hargs)
      exact absurd (hanswers.trans hret) hx

/-- A receiver is refused for its state. -/
theorem Threads.Performs.enter_error {m : Member} {e : BridgeError}
    (h : t.Performs me (Run.enter me o m) l (.ok (.error e)) u) :
    ∃ s, e = .invalidState m.render s := by
  obtain ⟨h?, v, l₁, l₂, rfl, -, h⟩ := h.bind
  cases h? with
  | none =>
    cases h.pure.1
    exact ⟨_, rfl⟩
  | some g =>
    obtain ⟨r, v', l₂, l₃, rfl, -, h⟩ := h.bind
    cases r with
    | ok x => cases h.pure.1
    | error s =>
      cases h.pure.1
      exact ⟨s, rfl⟩

/-- **A bound member that is called with arguments of the declared types** fails for no other
reason than those of `NativeCall.Fails`. -/
theorem Threads.Performs.invoke_error (hr : t.state.registry.Built) {m : Member} {c : NativeCall}
    (hc : t.state.registry.resolve m = .ok c) {j : Nat} {receiver : Option ObjectId}
    {args : List BoundaryValue} (hargs : args.map BoundaryValue.tag = m.signature.params)
    {e : BridgeError}
    (h : t.Performs me (Run.invoke (.nested j) me m receiver args) l (.ok (.error e)) u) :
    c.Fails (.nested j) me m l e := by
  obtain ⟨hparams, hret, hmade⟩ := hr.resolve hc
  obtain ⟨r, v, l₁, l₂, rfl, hask, h⟩ := h.bind
  cases hask.ask.1
  rw [checkCall_of_tags hc hargs] at h
  dsimp only at h
  split at h
  · next hinst =>
    cases receiver with
    | none =>
      cases h.pure.1
      exact .invalidState _
    | some o =>
      obtain ⟨r, v', l₂, l₃, rfl, henter, h⟩ := h.bind
      cases r with
      | error e' =>
        cases h.pure.1
        obtain ⟨s, rfl⟩ := henter.enter_error
        exact .invalidState s
      | ok g =>
        obtain ⟨result, v₁, l₃, l₄, rfl, hcall, h⟩ := h.bind
        obtain ⟨-, v₂, l₄, l₅, rfl, -, h⟩ := h.bind
        rw [← List.append_assoc]
        refine hcall.runCall_settle hret hmade ?_ h
        rw [hparams, Member.nativeParams, if_pos hinst, ← hargs]
        rfl
  · next hinst =>
    obtain ⟨result, v', l₂, l₃, rfl, hcall, h⟩ := h.bind
    refine hcall.runCall_settle hret hmade ?_ h
    rw [hparams, Member.nativeParams, if_neg hinst, hargs]

/-! ## What failed calls are raised as

A body that calls a native member sees an exception, and tells its reason by the name of its
type. -/

/-- An exception that tells of nothing that the checks of a call prevent. -/
theorem ManagedException.of_other {e : ManagedException} {name : String} {reason : Prop}
    (he : e.typeName = name) (hname : name ∉ [BridgeError.unboundException,
      BridgeError.arityException, BridgeError.marshalException]) :
    e.typeName ≠ BridgeError.unboundException ∧ e.typeName ≠ BridgeError.arityException ∧
      (e.typeName = BridgeError.marshalException → reason) := by
  simp only [List.mem_cons, List.not_mem_nil, or_false, not_or] at hname
  rw [he]
  exact ⟨hname.1, hname.2.1, fun h => absurd h hname.2.2⟩

/-- What a failed call is raised as, by its reason. -/
theorem NativeCall.Fails.raised {c : NativeCall} {run : Runner} {m : Member} {e : BridgeError}
    (h : c.Fails run me m l e) :
    (Run.raised m e).typeName ≠ BridgeError.unboundException ∧
      (Run.raised m e).typeName ≠ BridgeError.arityException ∧
      ((Run.raised m e).typeName = BridgeError.marshalException →
        c.IsRaw ∧ ∃ args x, c.Ran run me l args (.ok x) ∧ x.tag ≠ m.signature.ret) := by
  cases h with
  | invalidState s =>
    have he : (Run.raised m (.invalidState m.render s)).typeName =
      BridgeError.lifecycleException := rfl
    exact ManagedException.of_other he (by decide)
  | fault f =>
    have he : (Run.raised m (.nativeFault m.render f)).typeName =
      BridgeError.nativeException := rfl
    exact ManagedException.of_other he (by decide)
  | result args x hc hx hran =>
    have he : (Run.raised m (.marshalType ⟨m.signature.ret, x.tag⟩)).typeName =
      BridgeError.marshalException := rfl
    rw [he]
    exact ⟨by decide, by decide, fun _ => ⟨hc, args, x, hran, hx⟩⟩

end HostBridge
