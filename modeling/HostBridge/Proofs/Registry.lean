import HostBridge.Proofs.Evaluation

/-!
# What is bound to a member

A registry that was put together addition by addition (`Registry.Built`) holds, under
every member, an implementation that takes and returns what the member declares
(`Registry.Built.resolve`). A typed implementation that is given what it takes does not
refuse it, and returns a value of its type; an untyped one never says that its arguments
were wrong (`NativeCall.IsTyped.returns`, `NativeCall.IsRaw.returns`).

Any record of parameter types, a result type and code is an implementation as far as its type
goes, and one whose code disagrees with its types could be written down. But implementations are
made in two ways only (`NativeCall.ofTyped`, `NativeCall.ofRaw`), and that a registry has no
others is the invariant `Registry.Built`. What code asks for is treated in the same manner
(`Registry.Asks`): an assumption on all code of a host is one on the additions.
-/

namespace HostBridge

variable {α β : Type}

/-! ## What code returns

A property of all leaves of a program, which holds of what it returns in any run. -/

/-- **Code returns values of a kind only**, whatever it is replied to. -/
def Program.Returns {I : Interface} (ok : α → Prop) : Program I α → Prop
  | .done a => ok a
  | .panic _ => True
  | .perform _ next => ∀ r, (next r).Returns ok

namespace Program.Returns

variable {I : Interface} {ok : β → Prop}

theorem bind_of_forall {f : α → Program I β} (h : ∀ a, (f a).Returns ok) (p : Program I α) :
    (p >>= f).Returns ok := by
  induction p with
  | done a => exact h a
  | panic q => trivial
  | perform op next ih => exact ih

end Program.Returns

/-! ## Implementations

The two ways of making one, and what each of them is good for. -/

namespace NativeCall

/-- An implementation that is trusted with its result. -/
def IsRaw (c : NativeCall) : Prop := ∃ params ret body, c = ofRaw params ret body

/-- An implementation that has the types it declares. -/
def IsTyped (c : NativeCall) : Prop := ∃ params ret body, c = ofTyped params ret body

/-- What an implementation makes of a call: a value of any kind, or a fault. -/
def Answers (ok : BoundaryValue → Prop) : Except CallFailure BoundaryValue → Prop
  | .ok v => ok v
  | .error failure => ∃ f, failure = .fault f

/-- Untyped code returns a value or a fault. -/
theorem IsRaw.returns {c : NativeCall} (hc : c.IsRaw) (args : List BoundaryValue) :
    Program.Returns (I := nativeInterface) (Answers (fun _ => True)) (c.run args) := by
  obtain ⟨params, ret, body, rfl⟩ := hc
  refine Program.Returns.bind_of_forall (fun result => ?_) (body args)
  cases result with
  | ok v => trivial
  | error f => exact ⟨f, rfl⟩

/-- Values that have the types that are expected are converted to them. -/
theorem nativeArgs_of_tags {ts : List Tag} {vs : List BoundaryValue}
    (h : vs.map BoundaryValue.tag = ts) : ∃ xs, nativeArgs ts vs = .ok xs := by
  induction ts generalizing vs with
  | nil => exact ⟨(), rfl⟩
  | cons t ts ih =>
    obtain ⟨v, vs, rfl, hv, hvs⟩ := List.map_eq_cons_iff.1 h
    obtain ⟨x, hx⟩ : ∃ x, v.toNative t = .ok x := by
      subst hv
      cases v <;> exact ⟨_, rfl⟩
    obtain ⟨xs, hxs⟩ := ih hvs
    refine ⟨(x, xs), ?_⟩
    unfold nativeArgs
    rw [hx, hxs]
    rfl

/-- Typed code that is given what it takes returns a value of its type, or a fault. -/
theorem IsTyped.returns {c : NativeCall} (hc : c.IsTyped) {args : List BoundaryValue}
    (h : args.map BoundaryValue.tag = c.params) :
    Program.Returns (I := nativeInterface) (Answers (fun v => v.tag = c.ret)) (c.run args) := by
  obtain ⟨params, ret, body, rfl⟩ := hc
  have hlength : args.length = params.length := by
    rw [← List.length_map BoundaryValue.tag, h]
    rfl
  obtain ⟨xs, hxs⟩ := nativeArgs_of_tags h
  have hxs' : nativeArgs params args = .ok xs := hxs
  dsimp only [ofTyped]
  rw [if_pos hlength, hxs']
  refine Program.Returns.bind_of_forall (fun result => ?_) (body xs)
  cases result with
  | ok x => exact BoundaryValue.tag_ofNative ret x
  | error f => exact ⟨f, rfl⟩

end NativeCall

/-! ## Registries

Properties of single additions, carried to all that is found in a registry. -/

namespace Registry

/-- **What a host can add**: a type, or a member with an implementation of one of the two
kinds there are. -/
def Addition.IsMade : Addition → Prop
  | .member _ c => c.IsRaw ∨ c.IsTyped
  | .type _ _ => True

/-- **A registry that was put together** addition by addition. -/
inductive Built : Registry → Prop
  /-- Nothing was added. -/
  | empty : Built .empty
  /-- One thing more was added, or was refused. -/
  | add {r : Registry} {a : Addition} (hr : Built r) (ha : a.IsMade) : Built (r.add a).2

/-- Adding one thing after the other puts a registry together, also up to a thing that is
refused. -/
theorem Built.addAll {r : Registry} (hr : r.Built) {additions : List Addition}
    (h : ∀ a ∈ additions, a.IsMade) : (r.addAll additions).2.Built := by
  induction additions generalizing r with
  | nil => exact hr
  | cons a rest ih =>
    obtain ⟨ha, hrest⟩ := List.forall_mem_cons.1 h
    have hadd := hr.add ha
    unfold Registry.addAll
    split
    · next r' heq =>
      rw [heq] at hadd
      exact ih hadd hrest
    · next e r' heq =>
      rw [heq] at hadd
      exact hadd

/-- What is added asks for operations of a kind only. -/
def Addition.Asks (ok : NativeOp → Prop) : Addition → Prop
  | .member _ c => ∀ args, Program.Asks (I := nativeInterface) ok (c.run args)
  | .type _ hooks => hooks.Asks ok

namespace Asks

variable {r : Registry} {ok : NativeOp → Prop}

theorem empty : Registry.empty.Asks ok := ⟨nofun, nofun⟩

/-- A registry asks for what it asked for, and for what the new implementation does. -/
theorem register (hr : r.Asks ok) {m : Member} {c : NativeCall}
    (hc : ∀ args, Program.Asks (I := nativeInterface) ok (c.run args)) :
    (r.register m c).2.Asks ok := by
  unfold Registry.register
  split
  · exact hr
  split
  · exact hr
  refine ⟨fun m' c' hc' => ?_, hr.types⟩
  unfold resolve at hc'
  rw [Table.get?_insert] at hc'
  by_cases hkey : m'.key = m.key
  · rw [if_pos hkey] at hc'
    dsimp only at hc'
    split at hc'
    · exact Except.ok.inj hc' ▸ hc
    · cases hc'
  · rw [if_neg hkey] at hc'
    exact hr.calls m' c' hc'

/-- A registry asks for what it asked for, and for what the new hooks do. -/
theorem bridgeType (hr : r.Asks ok) {name : String} {hooks : Hooks} (hh : hooks.Asks ok) :
    (r.bridgeType name hooks).2.Asks ok := by
  unfold Registry.bridgeType
  split
  · exact hr
  refine ⟨hr.calls, fun name' hooks' hh' => ?_⟩
  unfold hooks? at hh'
  rw [Table.get?_insert] at hh'
  split at hh'
  · exact Option.some.inj hh' ▸ hh
  · exact hr.types name' hooks' hh'

theorem add (hr : r.Asks ok) {a : Addition} (ha : a.Asks ok) : (r.add a).2.Asks ok := by
  cases a with
  | member m c => exact hr.register ha
  | type name hooks => exact hr.bridgeType ha

/-- **A registry asks for what was added to it**, also up to a thing that is refused. -/
theorem addAll (hr : r.Asks ok) {additions : List Addition} (h : ∀ a ∈ additions, a.Asks ok) :
    (r.addAll additions).2.Asks ok := by
  induction additions generalizing r with
  | nil => exact hr
  | cons a rest ih =>
    obtain ⟨ha, hrest⟩ := List.forall_mem_cons.1 h
    have hadd := hr.add ha
    unfold Registry.addAll
    split
    · next r' heq =>
      rw [heq] at hadd
      exact ih hadd hrest
    · next e r' heq =>
      rw [heq] at hadd
      exact hadd

end Asks

/-- **Every binding agrees with its member**, and is found under its key. -/
def Agrees (r : Registry) : Prop :=
  ∀ key b, r.calls.get? key = some b → b.member.key = key ∧
    b.call.params = b.member.nativeParams ∧ b.call.ret = b.member.signature.ret ∧
    (b.call.IsRaw ∨ b.call.IsTyped)

/-- A registration keeps the bindings that agree, and adds none that does not. -/
theorem Agrees.register {r : Registry} (hr : r.Agrees) {m : Member} {c : NativeCall}
    (hc : c.IsRaw ∨ c.IsTyped) : (r.register m c).2.Agrees := by
  unfold Registry.register
  split
  · exact hr
  · next hsame =>
    split
    · exact hr
    · intro key b hb
      simp only [ne_eq, Bool.or_eq_true, decide_eq_true_eq, not_or, not_not] at hsame
      rw [Table.get?_insert] at hb
      split at hb
      · next hkey =>
        cases hb
        exact ⟨hkey.symm, hsame.1, hsame.2, hc⟩
      · exact hr key b hb

/-- **In a registry that was put together every binding agrees with its member.** -/
theorem Built.agrees {r : Registry} (hr : r.Built) : r.Agrees := by
  induction hr with
  | empty =>
    intro key b hb
    cases hb
  | @add r a hr ha ih =>
    cases a with
    | member m c => exact ih.register ha
    | type name hooks =>
      -- declaring a type leaves the bindings as they are
      have hcalls : (r.bridgeType name hooks).2.calls = r.calls := by
        unfold Registry.bridgeType
        split <;> rfl
      intro key b hb
      exact ih key b (hcalls ▸ hb)

/-- **What is found for a member fits it**: it takes and returns what the member
declares, and is of one of the two kinds there are. -/
theorem Built.resolve {r : Registry} (hr : r.Built) {m : Member} {c : NativeCall}
    (h : r.resolve m = .ok c) :
    c.params = m.nativeParams ∧ c.ret = m.signature.ret ∧ (c.IsRaw ∨ c.IsTyped) := by
  unfold Registry.resolve at h
  split at h
  · next b hb =>
    split at h <;> cases h
    next hret =>
    obtain ⟨hkey, hparams, hr', hmade⟩ := hr.agrees m.key b hb
    refine ⟨?_, hr'.trans hret, hmade⟩
    have hp : b.member.signature.params = m.signature.params := congrArg Member.Key.params hkey
    have hk : b.member.kind = m.kind := congrArg Member.Key.kind hkey
    rw [hparams, Member.nativeParams, Member.nativeParams, Member.isInstance, Member.isInstance,
      hp, hk]
  · cases h

end Registry

end HostBridge
