import HostBridge.Proofs.Bridge.Balance
import HostBridge.Proofs.Dispatch
import HostBridge.Proofs.Domain.Crossing
import HostBridge.Proofs.Domain.Unwinding
import HostBridge.Proofs.Registration

/-!
# When native code runs, and what becomes of a call

A call of a member is accepted (`World.Accepts`) or refused for one reason
(`World.Refuses`), and which of the two it is, the state says at the start: the
checks only look. A call that is refused ends at the very state that it started
at. A call that is accepted enters its implementation once, on its own arguments,
and what the implementation ends with decides the result (`NativeCall.Outcome`);
after it, nothing is left to do but to end the call on the receiver.

An implementation is given what it takes, because it was bound under the types
that it was made for. That carries the check of the registration to the call: the
conversion of the arguments, which a typed implementation makes once more, cannot
fail.

All this is said of a thread that is looked at alone, from any state of the
bridge. What is left of the calls on a receiver cannot be said so, since the
implementation may do anything; it is said of the points of an interleaving
(`Threads.AtCode.balanced`).

## The order of the checks

A call can be wrong in several ways at once: an unknown member may be given too few arguments,
and on a receiver that is released. Which error is reported then is part of what a caller
relies on, so the reasons to refuse are stated so that at most one of them holds: each has
among its premises that the earlier checks passed. With that, "accepted or refused, and not
both" is a theorem about the two inductive types, and the errors need no further account.

## What an implementation may end with

An implementation is code of the host and may end with a value, with a failure or with a panic,
and the caller gets none of these as it is. The types `NativeCall.Caught` and
`NativeCall.Settled` follow the two stages in which they are turned into the result, and
`NativeCall.Outcome` is what the two stages come to. Of the failures it has only the fault,
since an implementation that is given what it takes ends with no other
(`NativeCall.Returned`).
-/

namespace HostBridge

variable {α : Type} {me : ThreadId} {w w' : World} {m : Member} {receiver : Option ObjectId}
  {args : List BoundaryValue} {guard : Option Handle} {c : NativeCall} {run : Runner}

/-! ## What a call needs

Acceptance and the reasons to refuse, in the order in which they are looked for. -/

/-- **The first value of another type** than the declared one, and the error that
tells of it. -/
def BoundaryValue.FirstMismatch (xs : List BoundaryValue) (ts : List Tag) (e : TagMismatch) :
    Prop :=
  ∃ fitting x rest t rest', xs = fitting ++ x :: rest ∧ ts = fitting.map tag ++ t :: rest' ∧
    x.tag ≠ t ∧ e = ⟨t, x.tag⟩

/-- The state that a refused call reports: a destruction that is scheduled counts as
under way. -/
def Bridge.reported (b : Bridge) (o : ObjectId) : Lifecycle :=
  match (b.find? o).bind b.records.get? with
  | some r => if r.destroyPending then .destructing else r.lifecycle
  | none => .unconstructed

/-- **A call is accepted**: its member is bound, with its return type, its arguments
are as many as declared and of the declared types, and the receiver of an instance
member admits calls. `guard` is the handle that the call is admitted on. -/
inductive World.Accepts (w : World) (m : Member) (receiver : Option ObjectId)
    (args : List BoundaryValue) : Option Handle → Prop
  /-- On a static member, whatever the receiver. -/
  | static (bound : m ∈ w.registry.members)
    (typed : args.map BoundaryValue.tag = m.signature.params) (kind : m.kind = .static) :
    Accepts w m receiver args none
  /-- On a member of an instance. -/
  | onInstance (bound : m ∈ w.registry.members)
    (typed : args.map BoundaryValue.tag = m.signature.params) (kind : m.kind = .perInstance)
    {o : ObjectId} {h : Handle} (there : receiver = some o) (found : w.bridge.find? o = some h)
    (admits : w.bridge.Admits h) : Accepts w m receiver args (some h)

/-- **A call is refused**, with an error: for the first of the reasons in this order. -/
inductive World.Refuses (w : World) (m : Member) (receiver : Option ObjectId)
    (args : List BoundaryValue) : BridgeError → Prop
  /-- The member is not bound, or with another return type. -/
  | unbound (h : m ∉ w.registry.members) : Refuses w m receiver args (.unboundMember m.render)
  /-- The arguments are too few or too many. -/
  | arity (bound : m ∈ w.registry.members) (h : args.length ≠ m.signature.arity) :
    Refuses w m receiver args (.arity m.render m.signature.arity args.length)
  /-- An argument is of another type. -/
  | argument (bound : m ∈ w.registry.members) (counted : args.length = m.signature.arity)
    {e : TagMismatch} (h : BoundaryValue.FirstMismatch args m.signature.params e) :
    Refuses w m receiver args (.marshalType e)
  /-- A member of an instance is called without one. -/
  | noReceiver (bound : m ∈ w.registry.members)
    (typed : args.map BoundaryValue.tag = m.signature.params) (kind : m.kind = .perInstance)
    (h : receiver = none) : Refuses w m receiver args (.invalidState m.render .unconstructed)
  /-- The receiver admits no calls. -/
  | receiver (bound : m ∈ w.registry.members)
    (typed : args.map BoundaryValue.tag = m.signature.params) (kind : m.kind = .perInstance)
    {o : ObjectId} (there : receiver = some o)
    (h : ∀ g, w.bridge.find? o = some g → ¬w.bridge.Admits g) :
    Refuses w m receiver args (.invalidState m.render (w.bridge.reported o))

/-! ## The checks

Each check answers the same way on the same data, so that a reason to refuse is also what the
check says. -/

/-- Values are checked up to the first one that does not fit. -/
theorem BoundaryValue.checkTags_cases {xs : List BoundaryValue} {ts : List Tag}
    (hlength : xs.length = ts.length) : xs.map tag = ts ∨ ∃ e, FirstMismatch xs ts e := by
  induction xs generalizing ts with
  | nil => exact .inl (List.eq_nil_of_length_eq_zero hlength.symm).symm
  | cons x xs ih =>
    obtain ⟨t, ts, rfl⟩ := List.exists_cons_of_length_eq_add_one hlength.symm
    by_cases hx : x.tag = t
    · obtain hxs | ⟨e, fitting, y, rest, u, rest', rfl, hts, hne, he⟩ :=
        ih (Nat.succ.inj hlength)
      · exact .inl (by rw [List.map_cons, hx, hxs])
      · exact .inr ⟨e, x :: fitting, y, rest, u, rest', rfl, by rw [hts, ← hx]; rfl, hne, he⟩
    · exact .inr ⟨_, [], x, xs, t, ts, rfl, rfl, hx, rfl⟩

/-- The check reports the first value that does not fit. -/
theorem BoundaryValue.FirstMismatch.checkTags {xs : List BoundaryValue} {ts : List Tag}
    {e : TagMismatch} (h : FirstMismatch xs ts e) : checkTags xs ts = .error e := by
  obtain ⟨fitting, x, rest, t, rest', rfl, rfl, hne, rfl⟩ := h
  induction fitting with
  | nil =>
    have hx : x.checkTag t = .error ⟨t, x.tag⟩ := if_neg hne
    rw [List.nil_append, List.map_nil, List.nil_append, BoundaryValue.checkTags, hx]
    rfl
  | cons y fitting ih =>
    have hy : y.checkTag y.tag = .ok () := if_pos rfl
    rw [List.cons_append, List.map_cons, List.cons_append, BoundaryValue.checkTags, hy]
    exact ih

/-- Values that do not fit are not of the declared types. -/
theorem BoundaryValue.FirstMismatch.ne {xs : List BoundaryValue} {ts : List Tag}
    {e : TagMismatch} (h : FirstMismatch xs ts e) : xs.map tag ≠ ts := by
  obtain ⟨fitting, x, rest, t, rest', rfl, rfl, hne, rfl⟩ := h
  simp [hne]

/-- **A member is listed exactly if something is found for it.** -/
theorem Registry.Built.mem_members {r : Registry} (hr : r.Built) :
    m ∈ r.members ↔ ∃ c, r.resolve m = .ok c := by
  obtain ⟨history, rfl⟩ := hr.exists_history
  simp only [Registry.mem_members, Registry.resolve_eq_ok]

theorem Registry.Built.resolve_error {r : Registry} (hr : r.Built) (h : m ∉ r.members) :
    r.resolve m = .error (.unboundMember m.render) := by
  cases hc : r.resolve m with
  | ok c => exact absurd (hr.mem_members.2 ⟨c, hc⟩) h
  | error e =>
    unfold Registry.resolve at hc
    split at hc
    · split at hc <;> cases hc
      rfl
    · cases hc
      rfl

/-- The number of the arguments is looked at before their types. -/
theorem checkCall_arity {r : Registry} (hc : r.resolve m = .ok c)
    (h : args.length ≠ m.signature.arity) :
    Run.checkCall r m args = .error (.arity m.render m.signature.arity args.length) := by
  unfold Run.checkCall
  rw [hc]
  show (if args.length ≠ m.signature.arity then _ else _) = _
  rw [if_pos h]
  rfl

theorem checkCall_mismatch {r : Registry} (hc : r.resolve m = .ok c)
    (hcounted : args.length = m.signature.arity) {e : TagMismatch}
    (h : BoundaryValue.FirstMismatch args m.signature.params e) :
    Run.checkCall r m args = .error (.marshalType e) := by
  unfold Run.checkCall
  rw [hc, h.checkTags]
  show (if args.length ≠ m.signature.arity then _ else _) = _
  rw [if_neg (not_not.2 hcounted)]
  rfl

theorem Member.isInstance_static (h : m.kind = .static) : m.isInstance = false := by
  rw [isInstance, h]
  rfl

theorem Member.isInstance_perInstance (h : m.kind = .perInstance) : m.isInstance = true := by
  rw [isInstance, h]
  rfl

/-! ## Accepted or refused

The two are exclusive, and between them they cover every call. -/

/-- **A call is accepted or refused.** -/
theorem World.accepts_or_refuses (w : World) (m : Member) (receiver : Option ObjectId)
    (args : List BoundaryValue) :
    (∃ guard, w.Accepts m receiver args guard) ∨ ∃ e, w.Refuses m receiver args e := by
  by_cases hbound : m ∈ w.registry.members
  swap
  · exact .inr ⟨_, .unbound hbound⟩
  by_cases hcounted : args.length = m.signature.arity
  swap
  · exact .inr ⟨_, .arity hbound hcounted⟩
  obtain htyped | ⟨e, he⟩ := BoundaryValue.checkTags_cases hcounted
  swap
  · exact .inr ⟨_, .argument hbound hcounted he⟩
  cases hkind : m.kind with
  | static => exact .inl ⟨_, .static hbound htyped hkind⟩
  | perInstance =>
    cases receiver with
    | none => exact .inr ⟨_, .noReceiver hbound htyped hkind rfl⟩
    | some o =>
      by_cases hadmits : ∃ g, w.bridge.find? o = some g ∧ w.bridge.Admits g
      · obtain ⟨g, hfound, hg⟩ := hadmits
        exact .inl ⟨_, .onInstance hbound htyped hkind rfl hfound hg⟩
      · exact .inr ⟨_, .receiver hbound htyped hkind rfl fun g hfound hg =>
          hadmits ⟨g, hfound, hg⟩⟩

/-- No call is both. -/
theorem World.Accepts.not_refuses (ha : w.Accepts m receiver args guard) {e : BridgeError} :
    ¬w.Refuses m receiver args e := by
  have hfacts : m ∈ w.registry.members ∧ args.map BoundaryValue.tag = m.signature.params := by
    cases ha with
    | static bound typed => exact ⟨bound, typed⟩
    | onInstance bound typed => exact ⟨bound, typed⟩
  intro h
  cases h with
  | unbound h => exact h hfacts.1
  | arity _ h =>
    refine h ?_
    rw [Signature.arity, ← hfacts.2, List.length_map]
  | argument _ _ h => exact h.ne hfacts.2
  | noReceiver _ _ kind h =>
    cases ha with
    | static _ _ kind' => cases kind.symm.trans kind'
    | onInstance _ _ _ there => cases h.symm.trans there
  | receiver _ _ kind there h =>
    cases ha with
    | static _ _ kind' => cases kind.symm.trans kind'
    | onInstance _ _ _ there' found admits =>
      obtain rfl := Option.some.inj (there.symm.trans there')
      exact h _ found admits

/-! ## Calls that are refused

No implementation runs, and the state is as it was before the call. -/

theorem Bridge.admitCall_of_not_admits {b : Bridge} {o : ObjectId} {h : Handle}
    (hfound : b.find? o = some h) (hnot : ¬b.Admits h) (me : ThreadId) :
    b.admitCall me h = (.error (b.reported o), b) := by
  cases hr : b.records.get? h with
  | none => simp [admitCall, reported, hfound, hr]
  | some r =>
    have hclosed : r.isOpen = false := Bool.eq_false_iff.2 fun hopen => hnot ⟨r, hr, hopen⟩
    simp [admitCall, reported, hfound, hr, hclosed]

/-- **A call that is not admitted** is told the reason, and leaves the state as it is. -/
theorem Run.ends_enter_of_not_admits {o : ObjectId}
    (hn : ∀ g, w.bridge.find? o = some g → ¬w.bridge.Admits g) (me : ThreadId) (m : Member) :
    (Run.enter me o m).Ends w (.ok (.error (.invalidState m.render (w.bridge.reported o)))) w := by
  have hask : (Run.askBridge (·.find? o)).Ends w (.ok (w.bridge.find? o)) w := rfl
  refine hask.bind ?_
  cases hfound : w.bridge.find? o with
  | none =>
    have hreported : w.bridge.reported o = .unconstructed := by simp [Bridge.reported, hfound]
    rw [hreported]
    exact .pure _ _
  | some g =>
    have hsection := Bridge.admitCall_of_not_admits hfound (hn g hfound) me
    exact Process.Ends.bind (.onBridgeWhen rfl hsection) (.pure _ _)

/-- **A refused call ends where it started**, whatever the reason. -/
theorem World.Refuses.ends (hr : w.registry.Built) {e : BridgeError}
    (h : w.Refuses m receiver args e) (run : Runner) (me : ThreadId) :
    (Run.invoke run me m receiver args).Ends w (.ok (.error e)) w := by
  refine Process.Ends.bind (.ask World.registry w) ?_
  cases h with
  | unbound h =>
    have hcheck : Run.checkCall w.registry m args = .error (.unboundMember m.render) := by
      unfold Run.checkCall
      rw [hr.resolve_error h]
      rfl
    rw [hcheck]
    exact .pure _ _
  | arity bound h =>
    obtain ⟨c, hc⟩ := hr.mem_members.1 bound
    rw [checkCall_arity hc h]
    exact .pure _ _
  | argument bound counted h =>
    obtain ⟨c, hc⟩ := hr.mem_members.1 bound
    rw [checkCall_mismatch hc counted h]
    exact .pure _ _
  | noReceiver bound typed kind h =>
    obtain ⟨c, hc⟩ := hr.mem_members.1 bound
    rw [checkCall_of_tags hc typed]
    dsimp only
    rw [if_pos (Member.isInstance_perInstance kind), h]
    exact .pure _ _
  | @receiver bound typed kind o there h =>
    obtain ⟨c, hc⟩ := hr.mem_members.1 bound
    rw [checkCall_of_tags hc typed]
    dsimp only
    rw [if_pos (Member.isInstance_perInstance kind), there]
    exact (Run.ends_enter_of_not_admits h me m).bind (.pure _ _)

/-! ## Calls that are accepted

The way from the entry on the receiver through the implementation to the result. -/

/-- What an implementation is given: the handle of the receiver in front, for a member
of an instance. -/
def NativeCall.arguments (guard : Option Handle) (args : List BoundaryValue) :
    List BoundaryValue :=
  (guard.map BoundaryValue.object).toList ++ args

/-- The state in which the call is admitted on its receiver. -/
def World.admitted (w : World) (me : ThreadId) : Option Handle → World
  | some h => w.onBridge (w.bridge.admitCall me h).2 [.admitted h me]
  | none => w

/-- **The state that an implementation starts at.** -/
def World.atEntry (w : World) (me : ThreadId) (m : Member) (guard : Option Handle)
    (args : List BoundaryValue) : World :=
  (w.admitted me guard).record (.call m (NativeCall.arguments guard args))

/-- The line that a panic leaves in the log. -/
def World.warned (w : World) (m : Member) : Except Crash (Except CallFailure BoundaryValue) → World
  | .error (.panicked p) => w.record (.log .error (m.render ++ " panicked: " ++ p.message))
  | _ => w

/-- The line that a result leaves in the log. -/
def World.traced (w : World) (m : Member) : Except BridgeError BoundaryValue → World
  | .ok v => w.record (.log .trace (m.render ++ " returned " ++ v.render))
  | .error _ => w

/-- The end of a call on its receiver. -/
def Run.endAdmitted (run : Runner) (me : ThreadId) : Option Handle → Run Unit
  | some h => leave run me h
  | none => pure ()

/-- **What becomes of a call** by what its implementation ended with: a value of the
declared type is the result, a failure or a panic is a fault, and a value of another type,
which only an untyped implementation returns, is refused. -/
inductive NativeCall.Outcome (c : NativeCall) (m : Member) :
    Except Crash (Except CallFailure BoundaryValue) → Except BridgeError BoundaryValue → Prop
  | value {v : BoundaryValue} (hv : v.tag = m.signature.ret) : Outcome c m (.ok (.ok v)) (.ok v)
  | fault (f : NativeFault) :
    Outcome c m (.ok (.error (.fault f))) (.error (.nativeFault m.render f))
  | panic (p : Panic) : Outcome c m (.error (.panicked p))
    (.error (.nativeFault m.render ⟨m.render ++ " panicked: " ++ p.message⟩))
  | mistyped {v : BoundaryValue} (untyped : ¬c.IsTyped) (hv : v.tag ≠ m.signature.ret) :
    Outcome c m (.ok (.ok v)) (.error (.marshalType ⟨m.signature.ret, v.tag⟩))

/-! ### From the end of an implementation to the result -/

/-- What code returns when it runs alone is what it can return. -/
theorem Process.Ends.returns {β : Type} {j : Nat} {ok : β → Prop} {p : NativeCode β} {b : β}
    (hp : p.Returns ok) (h : ((Runner.nested j).native me p).Ends w (.ok b) w') : ok b := by
  have hstart : Threads.todo ⟨w, fun _ => ((Runner.nested j).native me p).course⟩ me =
      ((Runner.nested j).native me p).course.after Course.finish := (Course.after_finish _).symm
  obtain ⟨l, u, hu, -⟩ := Threads.performs_alone hstart h
  exact hu.returns hp

/-- What the boundary makes of the end of an implementation. -/
inductive NativeCall.Caught (m : Member) :
    Except Crash (Except CallFailure BoundaryValue) → Except CallFailure BoundaryValue → Prop
  | ended (x : Except CallFailure BoundaryValue) : Caught m (.ok x) x
  | panicked (p : Panic) : Caught m (.error (.panicked p))
    (.error (.fault ⟨m.render ++ " panicked: " ++ p.message⟩))

/-- What a result is looked at for. -/
inductive NativeCall.Settled (m : Member) :
    Except CallFailure BoundaryValue → Except BridgeError BoundaryValue → Prop
  | value {v : BoundaryValue} (hv : v.tag = m.signature.ret) : Settled m (.ok v) (.ok v)
  | mistyped {v : BoundaryValue} (hv : v.tag ≠ m.signature.ret) :
    Settled m (.ok v) (.error (.marshalType ⟨m.signature.ret, v.tag⟩))
  | failure (failure : CallFailure) :
    Settled m (.error failure) (.error (Run.CallFailure.toError m.render failure))

/-- The first stage: the implementation runs, and what it ends with is caught or handed on. -/
theorem runCall_ends_iff {xs : List BoundaryValue} {x : Except CallFailure BoundaryValue} :
    (Run.runCall run me m c xs).Ends w (.ok x) w' ↔
      ∃ result w₂, (run.native me (c.run xs)).Ends (w.record (.call m xs)) result w₂ ∧
        w' = w₂.warned m result ∧ NativeCall.Caught m result x := by
  have hrecord : (Run.record (.call m xs)).Ends w (.ok ()) (w.record (.call m xs)) := rfl
  constructor
  · intro h
    obtain ⟨result, w₂, hcode, h⟩ := h.of_attempt_bind
    refine ⟨result, w₂, hcode.rest hrecord, ?_⟩
    match result with
    | .ok y =>
      cases h
      exact ⟨rfl, .ended _⟩
    | .error (.panicked p) =>
      cases h
      exact ⟨rfl, .panicked p⟩
    | .error .tooDeep => cases h
  · rintro ⟨result, w₂, hcode, rfl, _ | p⟩
    · exact Process.Ends.attempt (hrecord.bind hcode) (.pure _ _)
    · exact Process.Ends.attempt (hrecord.bind hcode)
        ((Process.Ends.change _ _).bind (.pure _ _))

/-- The second stage: what the first one handed on becomes the result. -/
theorem settle_ends_iff {x : Except CallFailure BoundaryValue}
    {r : Except BridgeError BoundaryValue} :
    (Run.settle m x).Ends w (.ok r) w' ↔ w' = w.traced m r ∧ NativeCall.Settled m x r := by
  cases x with
  | error failure =>
    constructor
    · intro h
      cases h
      exact ⟨rfl, .failure failure⟩
    · rintro ⟨rfl, _ | _⟩
      exact .pure _ _
  | ok v =>
    have hcheck : v.checkTag m.signature.ret =
        if v.tag = m.signature.ret then .ok () else .error ⟨m.signature.ret, v.tag⟩ := rfl
    unfold Run.settle
    by_cases hv : v.tag = m.signature.ret
    · rw [if_pos hv] at hcheck
      simp only [hcheck]
      constructor
      · intro h
        cases h
        exact ⟨rfl, .value hv⟩
      · rintro ⟨rfl, _ | hne⟩
        · exact (Process.Ends.change _ _).bind (.pure _ _)
        · exact absurd hv hne
    · rw [if_neg hv] at hcheck
      simp only [hcheck]
      constructor
      · intro h
        cases h
        exact ⟨rfl, .mistyped hv⟩
      · rintro ⟨rfl, htag | _⟩
        · exact absurd htag hv
        · exact .pure _ _

/-- **What an implementation returns that is given what it takes**: a value or a fault, and
a typed one a value of the declared type. -/
structure NativeCall.Returned (c : NativeCall) (m : Member)
    (x : Except CallFailure BoundaryValue) : Prop where
  fault : ∀ failure, x = .error failure → ∃ f, failure = .fault f
  value : c.IsTyped → ∀ v, x = .ok v → v.tag = m.signature.ret

theorem Process.Ends.returned {j : Nat} {xs : List BoundaryValue}
    {x : Except CallFailure BoundaryValue} (hargs : xs.map BoundaryValue.tag = c.params)
    (hret : c.ret = m.signature.ret) (hmade : c.IsRaw ∨ c.IsTyped)
    (h : ((Runner.nested j).native me (c.run xs)).Ends w (.ok x) w') : c.Returned m x where
  fault := by
    rintro failure rfl
    obtain hraw | htyped := hmade
    · have hanswers : NativeCall.Answers (fun _ => True) (.error failure) :=
        h.returns (hraw.returns xs)
      exact hanswers
    · have hanswers : NativeCall.Answers (fun v => v.tag = c.ret) (.error failure) :=
        h.returns (htyped.returns hargs)
      exact hanswers
  value := by
    rintro htyped v rfl
    have hanswers : NativeCall.Answers (fun v => v.tag = c.ret) (.ok v) :=
      h.returns (htyped.returns hargs)
    exact hanswers.trans hret

/-- An outcome is a catch and a settlement, one after the other. -/
theorem NativeCall.outcome_iff {result : Except Crash (Except CallFailure BoundaryValue)}
    {r : Except BridgeError BoundaryValue} (hreturned : ∀ x, result = .ok x → c.Returned m x) :
    c.Outcome m result r ↔ ∃ x, Caught m result x ∧ Settled m x r := by
  constructor
  · rintro (hv | f | p | ⟨-, hv⟩)
    · exact ⟨_, .ended _, .value hv⟩
    · exact ⟨_, .ended _, .failure (.fault f)⟩
    · exact ⟨_, .panicked p, .failure _⟩
    · exact ⟨_, .ended _, .mistyped hv⟩
  · rintro ⟨x, _ | p, hsettled⟩
    · cases hsettled with
      | value hv => exact .value hv
      | mistyped hv => exact .mistyped (fun htyped => hv ((hreturned _ rfl).value htyped _ rfl)) hv
      | failure failure =>
        obtain ⟨f, rfl⟩ := (hreturned _ rfl).fault _ rfl
        exact .fault f
    · cases hsettled
      exact .panic p

/-! ### The whole call

The admission, the implementation, the end of the call on the receiver, and the two stages. -/

/-- **What is found for an accepted call fits it.** -/
theorem World.Accepts.exists_call (hr : w.registry.Built)
    (ha : w.Accepts m receiver args guard) : ∃ c, w.registry.resolve m = .ok c ∧
      (NativeCall.arguments guard args).map BoundaryValue.tag = c.params ∧
      c.ret = m.signature.ret ∧ (c.IsRaw ∨ c.IsTyped) := by
  cases ha with
  | static bound typed kind =>
    obtain ⟨c, hc⟩ := hr.mem_members.1 bound
    obtain ⟨hparams, hret, hmade⟩ := hr.resolve hc
    rw [Member.nativeParams, if_neg (by simp [Member.isInstance_static kind])] at hparams
    exact ⟨c, hc, typed.trans hparams.symm, hret, hmade⟩
  | onInstance bound typed kind =>
    obtain ⟨c, hc⟩ := hr.mem_members.1 bound
    obtain ⟨hparams, hret, hmade⟩ := hr.resolve hc
    rw [Member.nativeParams, if_pos (Member.isInstance_perInstance kind)] at hparams
    exact ⟨c, hc, (congrArg (Tag.object :: ·) typed).trans hparams.symm, hret, hmade⟩

theorem Bridge.Admits.ends_enter {o : ObjectId} {h : Handle} (ha : w.bridge.Admits h)
    (hfound : w.bridge.find? o = some h) (me : ThreadId) (m : Member) :
    (Run.enter me o m).Ends w (.ok (.ok h)) (w.admitted me (some h)) := by
  have hask : (Run.askBridge (·.find? o)).Ends w (.ok (w.bridge.find? o)) w := rfl
  refine hask.bind ?_
  rw [hfound]
  have hsection : w.bridge.admitCall me h = (.ok (), (w.bridge.admitCall me h).2) :=
    Prod.ext (admitCall_of_admits ha me) rfl
  exact Process.Ends.bind (.onBridgeWhen rfl hsection) (.pure _ _)

/-- What is left of a call when its implementation has run. -/
def Run.settleCall (run : Runner) (me : ThreadId) (m : Member) (guard : Option Handle)
    (x : Except CallFailure BoundaryValue) : Run (Except BridgeError BoundaryValue) := do
  endAdmitted run me guard
  settle m x

/-- **An accepted call is its implementation**, behind the boundary and from the state
that admits it, and what is left after that. -/
theorem World.Accepts.invoke_advance (ha : w.Accepts m receiver args guard)
    (hc : w.registry.resolve m = .ok c) (run : Runner) (me : ThreadId) :
    (Run.invoke run me m receiver args).advance w =
      (Run.runCall run me m c (NativeCall.arguments guard args) >>=
        Run.settleCall run me m guard).advance (w.admitted me guard) := by
  refine (Process.advance_ask_bind _ _ w).trans ?_
  cases ha with
  | static bound typed kind =>
    rw [checkCall_of_tags hc typed]
    dsimp only
    rw [if_neg (by simp [Member.isInstance_static kind])]
    rfl
  | onInstance bound typed kind there found admits =>
    rw [checkCall_of_tags hc typed]
    dsimp only
    rw [if_pos (Member.isInstance_perInstance kind), there]
    dsimp only
    rw [Process.advance_bind,
      show (Run.enter me _ m).advance w = _ from admits.ends_enter found me m]
    rfl

/-- **The implementation is met**, whether it comes to an end or not. -/
theorem World.Accepts.meets (ha : w.Accepts m receiver args guard)
    (hc : w.registry.resolve m = .ok c) (run : Runner) (me : ThreadId) :
    (Run.invoke run me m receiver args).course.Meets (fun _ => True) w
      (run.native me (c.run (NativeCall.arguments guard args))) (w.atEntry me m guard args) := by
  have hstart := (Course.Meets.start (Run.invoke run me m receiver args)
    (P := fun _ => True) (s := w) trivial).next (.ask World.registry w)
  have hrecord : ∀ v xs, (Run.record (.call m xs)).Ends v (.ok ()) (v.record (.call m xs)) :=
    fun _ _ => rfl
  cases ha with
  | static bound typed kind =>
    rw [checkCall_of_tags hc typed] at hstart
    dsimp only at hstart
    rw [if_neg (by simp [Member.isInstance_static kind])] at hstart
    exact hstart.first.catchNative.next (hrecord _ _)
  | onInstance bound typed kind there found admits =>
    subst there
    rw [checkCall_of_tags hc typed] at hstart
    dsimp only at hstart
    rw [if_pos (Member.isInstance_perInstance kind)] at hstart
    exact (hstart.next (admits.ends_enter found me m)).first.catchNative.next (hrecord _ _)

/-- **What an accepted call ends with is decided by its implementation**, and the implementation
runs once. -/
theorem World.Accepts.ends_iff (hr : w.registry.Built) (ha : w.Accepts m receiver args guard)
    (hc : w.registry.resolve m = .ok c) (j : Nat) (me : ThreadId)
    (r : Except BridgeError BoundaryValue) (w' : World) :
    (Run.invoke (.nested j) me m receiver args).Ends w (.ok r) w' ↔
      ∃ result w₂ w₃, ((Runner.nested j).native me (c.run (NativeCall.arguments guard args))).Ends
          (w.atEntry me m guard args) result w₂ ∧
        c.Outcome m result r ∧
        (Run.endAdmitted (.nested j) me guard).Ends (w₂.warned m result) (.ok ()) w₃ ∧
        w' = w₃.traced m r := by
  obtain ⟨c', hc', hargs, hret, hmade⟩ := ha.exists_call hr
  obtain rfl : c' = c := Except.ok.inj (hc'.symm.trans hc)
  have hreturned : ∀ {result w₂}, ((Runner.nested j).native me
      (c'.run (NativeCall.arguments guard args))).Ends (w.atEntry me m guard args) result w₂ →
      ∀ x, result = .ok x → c'.Returned m x := by
    rintro _ w₂ h x rfl
    exact h.returned hargs hret hmade
  unfold Process.Ends
  rw [ha.invoke_advance hc]
  constructor
  · intro h
    obtain ⟨x, v, hcall, h⟩ := Process.Ends.of_bind_ok h
    obtain ⟨result, w₂, hcode, rfl, hcaught⟩ := runCall_ends_iff.1 hcall
    obtain ⟨_, w₃, hended, h⟩ := h.of_bind_ok
    obtain ⟨rfl, hsettled⟩ := settle_ends_iff.1 h
    exact ⟨result, w₂, w₃, hcode,
      (NativeCall.outcome_iff (hreturned hcode)).2 ⟨x, hcaught, hsettled⟩, hended, rfl⟩
  · rintro ⟨result, w₂, w₃, hcode, houtcome, hended, rfl⟩
    obtain ⟨x, hcaught, hsettled⟩ := (NativeCall.outcome_iff (hreturned hcode)).1 houtcome
    have hcall : (Run.runCall (.nested j) me m c' (NativeCall.arguments guard args)).Ends
        (w.admitted me guard) (.ok x) (w₂.warned m result) :=
      runCall_ends_iff.2 ⟨result, w₂, hcode, rfl, hcaught⟩
    exact hcall.bind (Process.Ends.bind hended (settle_ends_iff.2 ⟨rfl, hsettled⟩))

/-! ## What a call leaves behind

The calls in progress on the receiver are as many after the call as before it, at whatever
point the thread is. -/

theorem keeps_enter (o : ObjectId) (m : Member) :
    (Run.enter me o m).Keeps World.bridging Stakes.presented me := by
  refine fun x hx => (follows_enter o m).mono fun r y hy => .inr ?_
  obtain ⟨e, -, rfl⟩ | ⟨h, -, rfl⟩ := hy
  · exact hx
  · exact ⟨hx.1, hx.1.calling _⟩

section

variable {t u v : Threads World α} {l l' : List (Threads World α)} {n : Nat}
  {code : ThreadId → NativeCode α}

/-- **Where an implementation starts, code runs**: the call that was admitted for it is the
thread's to end. -/
theorem Threads.AtCode.implementation (ht : (w.threads n code).AtCode me t) {o : ObjectId}
    {h : Handle} (henter : t.Performs me (Run.enter me o m) l (.ok (.ok h)) v)
    (hrecord : v.Performs me (Run.record (.call m args)) l' (.ok ()) u)
    (hb : u.state.constructions < 2 ^ 64) : (w.threads n code).AtCode me u := by
  have hvb : v.state.constructions < 2 ^ 64 := Nat.lt_of_le_of_lt
    ((ht.reached.trans (henter.reaches (.here trivial)).2).constructions_le
      (hrecord.reaches (.here trivial)).2) hb
  exact (ht.performs (keeps_enter o m) henter hvb).performs
    (Process.Keeps.presented (bridging_lenient.record rfl)) hrecord hb

end

/-- **Members are called as they are bound.** In any state of a host whose registry was put
together addition by addition, a call is accepted (`World.Accepts`) or else refused, for the
first of the reasons of `World.Refuses`:
* a call that is refused ends with its error, and at the state that it started at;
* a call that is accepted comes to its implementation, with the arguments of the call and
  with the handle of the receiver in front. It is decided by what this one run of the
  implementation ends with (`NativeCall.Outcome`): a value that is returned is of the declared
  type, and a call of a typed implementation has no other error than a fault;
* no call panics.

A thread that calls a member at any point where code runs, while other threads do what they
like, has as many calls on every handle afterwards as it had before, but for those that
native code takes up or ends on purpose. Every thread of a host starts at such a point, and
native code, managed code and the admission of a call lead from one such point to
another. -/
theorem members_are_called_as_bound {w : World} (hr : w.registry.Built) (j : Nat) (me : ThreadId)
    (m : Member) (receiver : Option ObjectId) (args : List BoundaryValue) :
    ((∃ guard, w.Accepts m receiver args guard) ↔ ¬∃ e, w.Refuses m receiver args e) ∧
    (∀ e, w.Refuses m receiver args e →
      (Run.invoke (.nested j) me m receiver args).Ends w (.ok (.error e)) w) ∧
    (∀ guard, w.Accepts m receiver args guard → ∃ c, w.registry.resolve m = .ok c ∧
      (Run.invoke (.nested j) me m receiver args).course.Meets (fun _ => True) w
        ((Runner.nested j).native me (c.run (NativeCall.arguments guard args)))
        (w.atEntry me m guard args) ∧
      (∀ r w', (Run.invoke (.nested j) me m receiver args).Ends w (.ok r) w' ↔
        ∃ result w₂ w₃, ((Runner.nested j).native me
            (c.run (NativeCall.arguments guard args))).Ends (w.atEntry me m guard args) result w₂ ∧
          c.Outcome m result r ∧
          (Run.endAdmitted (.nested j) me guard).Ends (w₂.warned m result) (.ok ()) w₃ ∧
          w' = w₃.traced m r) ∧
      (∀ v w', (Run.invoke (.nested j) me m receiver args).Ends w (.ok (.ok v)) w' →
        v.tag = m.signature.ret) ∧
      (c.IsTyped → ∀ e w', (Run.invoke (.nested j) me m receiver args).Ends w (.ok (.error e)) w' →
        ∃ f, e = .nativeFault m.render f)) ∧
    (∀ p w', ¬(Run.invoke (.nested j) me m receiver args).Ends w (.error (.panicked p)) w') ∧
    ∀ {α : Type} {s : World}, s.Fresh → ∀ (n : Nat) (code : ThreadId → NativeCode α),
      (s.threads n code).AtCode me (s.threads n code) ∧
      ∀ {t u : Threads World α} {l : List (Threads World α)}, (s.threads n code).AtCode me t →
        u.state.constructions < 2 ^ 64 →
        (∀ {β : Type} (p : NativeCode β) (b : β),
          t.Performs me ((Runner.nested j).native me p) l (.ok b) u →
          (s.threads n code).AtCode me u) ∧
        (∀ {β : Type} (x : Context) (p : ManagedCode β) (b : β),
          t.Performs me ((Runner.nested j).managed me x p) l (.ok b) u →
          (s.threads n code).AtCode me u) ∧
        (∀ o h v l₁ l₂ xs, t.Performs me (Run.enter me o m) l₁ (.ok (.ok h)) v →
          v.Performs me (Run.record (.call m xs)) l₂ (.ok ()) u →
          (s.threads n code).AtCode me u) ∧
        ∀ r, t.Performs me (Run.invoke (.nested j) me m receiver args) l (.ok r) u →
          (s.threads n code).AtCode me u ∧
          ∀ g, (u.state.inFlight g).count me + t.state.kept.count (me, g) =
            (t.state.inFlight g).count me + u.state.kept.count (me, g) := by
  refine ⟨⟨?_, fun hnot => (w.accepts_or_refuses m receiver args).resolve_right hnot⟩,
    fun e he => he.ends hr _ me, fun guard ha => ?_, fun p w' h => ?_, fun {α s} hs n code =>
      ⟨hs.atCode n code me, fun {t u l} ht hb => ⟨fun p b h => ?_, fun x p b h => ?_,
        fun o h v l₁ l₂ xs henter hrecord => ht.implementation henter hrecord hb,
        fun r h => ?_⟩⟩⟩
  · rintro ⟨guard, ha⟩ ⟨e, he⟩
    exact ha.not_refuses he
  · obtain ⟨c, hc, -⟩ := ha.exists_call hr
    refine ⟨c, hc, ha.meets hc _ me, ha.ends_iff hr hc j me, fun v w' h => ?_,
      fun htyped e w' h => ?_⟩
    · obtain ⟨result, w₂, w₃, -, houtcome, -⟩ := (ha.ends_iff hr hc j me _ w').1 h
      cases houtcome with
      | value hv => exact hv
    · obtain ⟨result, w₂, w₃, -, houtcome, -⟩ := (ha.ends_iff hr hc j me _ w').1 h
      cases houtcome with
      | fault f => exact ⟨f, rfl⟩
      | panic p => exact ⟨_, rfl⟩
      | mistyped untyped => exact absurd htyped untyped
  · exact h.contained (contained_nativeReply _ me (.invoke m receiver args) (by simp) (by simp))
  · exact ht.performs (((bridged me).keeps_nested j).native p (Program.asks_true _)).presented h hb
  · exact ht.performs (((bridged me).keeps_nested j).managed x p).presented h hb
  · have hkeeps := keeps_invoke ((bridged me).keeps_nested j) m receiver args
    exact ⟨ht.performs hkeeps.presented h hb, ht.balanced hkeeps h hb⟩

/-- A native member. -/
def wheelTurn : Member := ⟨"Wheel", "Turn", ⟨[.int32], .int32⟩, .perInstance⟩

/-- What it is bound to: typed code, which answers how far it was turned. -/
def wheelCode : NativeCall :=
  .ofTyped [.object, .int32] .int32 fun xs => .done (.ok xs.2.1)

/-- The bindings of a host, which has hooks for the type, too. -/
def wheelRegistry : Registry :=
  (Registry.empty.addAll [.member wheelTurn wheelCode, .type "Wheel"
    { construct := fun _ => .done (.ok ⟨.nothing, ()⟩), destroy := fun _ _ => .done () }]).2

theorem wheelRegistry_built : wheelRegistry.Built := by
  refine Registry.Built.empty.addAll (List.forall_mem_cons.2 ⟨.inr ⟨_, _, _, rfl⟩, ?_⟩)
  exact List.forall_mem_singleton.2 trivial

/-- The host at its start. -/
def wheelHost : World := .start wheelRegistry .empty "host" 8

/-- The host calls the member on an instance. -/
def wheelTurning : NativeCode Unit :=
  .perform (.invoke wheelTurn (some ⟨1⟩) [.int32 5]) fun _ => .done ()

/-- The host constructs the instance first. -/
def wheeling : NativeCode Unit := .perform (.construct "Wheel" ⟨1⟩) fun _ => wheelTurning

/-- The construction. -/
def wheelConstruction : Run (Except BridgeError (Option Handle)) :=
  Run.construct (.nested 2) mainThread "Wheel" ⟨1⟩

/-- Where the instance is live. -/
def wheelMade : World := (wheelConstruction.advance wheelHost).2

/-- The instance is live, so that a call is accepted that has an argument, and refused if it has
none; a call that is made leaves nothing behind. -/
theorem members_are_called_as_bound_wheel :
    (∃ guard, wheelMade.Accepts wheelTurn (some ⟨1⟩) [.int32 5] guard) ∧
    (Run.invoke (.nested 2) mainThread wheelTurn (some ⟨1⟩) []).Ends wheelMade
      (.ok (.error (.arity wheelTurn.render 1 0))) wheelMade ∧
    ∃ (t u : Threads World Unit) (l : List (Threads World Unit)) (v : BoundaryValue),
      t.Performs mainThread (Run.invoke (.nested 2) mainThread wheelTurn (some ⟨1⟩) [.int32 5]) l
        (.ok (.ok v)) u ∧ v.tag = .int32 ∧
      (u.state.inFlight ⟨1⟩).count mainThread = (t.state.inFlight ⟨1⟩).count mainThread := by
  have hfresh : wheelHost.Fresh := ⟨rfl, rfl, rfl⟩
  have hbuilt : wheelMade.registry.Built := wheelRegistry_built
  have hbound : wheelTurn ∈ wheelMade.registry.members := hbuilt.mem_members.2 ⟨wheelCode, rfl⟩
  have haccepts : wheelMade.Accepts wheelTurn (some ⟨1⟩) [.int32 5] (some ⟨1⟩) :=
    .onInstance hbound rfl rfl rfl rfl ⟨_, rfl, rfl⟩
  have hrefuses : wheelMade.Refuses wheelTurn (some ⟨1⟩) [] (.arity wheelTurn.render 1 0) :=
    .arity hbound (by decide)
  obtain ⟨-, hrefused, -⟩ := members_are_called_as_bound hbuilt 2 mainThread wheelTurn
    (some ⟨1⟩) []
  obtain ⟨-, -, haccepted, -, hbalanced⟩ := members_are_called_as_bound hbuilt 2 mainThread
    wheelTurn (some ⟨1⟩) [.int32 5]
  refine ⟨⟨_, haccepts⟩, hrefused _ hrefuses, ?_⟩
  -- the thread makes the instance
  have hmade : wheelConstruction.Ends wheelHost (.ok (.ok (some ⟨1⟩))) wheelMade := rfl
  have hstart : (wheelHost.threads 2 fun _ => wheeling).todo mainThread =
      wheelConstruction.course.after (Process.orCrash fun _ =>
        (Run.runNative (.nested 2) mainThread wheelTurning).course) :=
    Process.course_bind wheelConstruction fun _ => Run.runNative (.nested 2) mainThread wheelTurning
  obtain ⟨l₁, t, hpasses, ht⟩ :=
    @Threads.passesBefore_alone _ _ _ mainThread (wheelHost.threads 2 fun _ => wheeling) _ _ _ _
      hmade
  have htodo := hpasses.todo hstart
  have hcode : (wheelHost.threads 2 fun _ => wheeling).AtCode mainThread t :=
    (hbalanced hfresh 2 _).1.performs
      (keeps_construct ((bridged _).keeps_nested 2) "Wheel" ⟨1⟩).presented ⟨_, hstart, hpasses⟩
      (by rw [ht]; decide +kernel)
  -- and calls the member
  have hend : (Run.invoke (.nested 2) mainThread wheelTurn (some ⟨1⟩) [.int32 5]).Ends wheelMade
      (.ok (.ok (.int32 5)))
      ((Run.invoke (.nested 2) mainThread wheelTurn (some ⟨1⟩) [.int32 5]).advance wheelMade).2 :=
    rfl
  obtain ⟨c, -, -, -, hvalue, -⟩ := haccepted _ haccepts
  obtain ⟨l, u, hperforms, hu⟩ := Threads.performs_alone
    (htodo.trans (Process.course_bind _ _)) (ht.symm ▸ hend)
  obtain ⟨-, hsame⟩ := ((hbalanced hfresh 2 _).2 hcode (by rw [hu, ht]; decide +kernel)).2.2.2 _
    hperforms
  have hkept : u.state.kept = t.state.kept := by
    rw [hu, ht]
    rfl
  exact ⟨t, u, l, _, hperforms, hvalue _ _ hend, by have := hsame ⟨1⟩; rw [hkept] at this; omega⟩

end HostBridge
