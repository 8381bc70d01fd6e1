import HostBridge.Proofs.Passage
import HostBridge.Proofs.Sections

/-!
# Values that cross

What a managed body passes to native code crosses one value after the other. A value of a
type that fits crosses as a value of that type (`Threads.Performs.marshalAll_tags`). Two
things cannot cross: a `null`, and an object without a live handle
(`Threads.Performs.marshalAll_error`).

Other threads make and destroy instances while values cross, and the handle of an object is
looked up in two sections. So an object that is found without a live handle need not be
without one when the call begins or when it ends, but was so at a point that the thread
came by (`Threads.Others.lacks`).

This is what makes an error of marshalling a statement about **time**. The exception says that
an object has no live handle, and the statement that it says so for a reason has to name a moment
at which that was true. The moment exists because an instance never goes from one live handle to
another in one section: it has none in between (`Bridge.Section.find?`). So if the handle
that the first lookup found is not live at the second, there was a point without one.
-/

namespace HostBridge

variable {α : Type}

/-! ## Objects without a handle

An object lacks a handle if nothing is known of it, if it is under construction, or if its
destruction has been accepted. -/

namespace Bridge

/-- **An object without a live handle.** -/
def Lacks (b : Bridge) (o : ObjectId) : Prop := ∀ h, b.handleOf o ≠ .ok h

variable {b b' : Bridge} {me : ThreadId} {o : ObjectId} {h : Handle}

/-- The handle of an object is asked for by that of its latest record. -/
theorem handleOf_of_find? (hb : b.find? o = some h) : b.handleOf o = b.openHandle o h := by
  unfold handleOf
  rw [hb]

/-- An object that the bridge does not know lacks a handle. -/
theorem lacks_of_find? (hb : b.find? o = none) : b.Lacks o := by
  intro h hh
  unfold handleOf at hh
  rw [hb] at hh
  cases hh

/-- An object whose record is closed lacks a handle. -/
theorem lacks_of_closed (hb : b.find? o = some h)
    (hr : ∀ r, b.records.get? h = some r → r.isOpen = false) : b.Lacks o := by
  intro g hg
  rw [handleOf_of_find? hb] at hg
  unfold openHandle at hg
  split at hg
  · cases hg
  · next r hh =>
    rw [hr r hh] at hg
    cases hg

/-- A withdrawal leaves an object where it was, or without a handle. -/
theorem find?_withdrawn (b : Bridge) (o o' : ObjectId) :
    (b.withdraw o').find? o = b.find? o ∨ (b.withdraw o').Lacks o := by
  have hfind : (b.withdraw o').find? o = if o = o' then none else b.find? o := Table.get?_erase ..
  split at hfind
  · exact .inr (lacks_of_find? hfind)
  · exact .inl hfind

/-- An instance that is announced has a handle, which is not live yet. -/
theorem find?_announced (b : Bridge) (o o' : ObjectId) (r : Record) (h : Handle)
    (hr : r.lifecycle = .constructing := by rfl) :
    let b' := { b with records := b.records.insert h r, instances := b.instances.insert o' h }
    b'.find? o = b.find? o ∨ b'.Lacks o := by
  intro b'
  have hfind : b'.find? o = if o = o' then some h else b.find? o := Table.get?_insert ..
  split at hfind
  · refine .inr (lacks_of_closed hfind (fun r' hr' => ?_))
    rw [show b'.records.get? h = some r from (Table.get?_insert ..).trans (if_pos rfl)] at hr'
    cases hr'
    simp [Record.isOpen, hr]
  · exact .inl hfind

/-- **An object that a section gives another handle to, or takes it from, has no live handle
after it.** -/
theorem Section.find? (hs : b.Section me b') (o : ObjectId) :
    b'.find? o = b.find? o ∨ b'.Lacks o := by
  cases hs with
  | announce o' typeName hooks h =>
    unfold Bridge.announce
    dsimp only
    split
    · exact find?_announced ..
    · split
      · exact find?_announced ..
      · exact .inl rfl
  | withdraw o' => exact find?_withdrawn ..
  | forget o' =>
    unfold Bridge.forget
    split
    · exact find?_withdrawn ..
    · exact .inl rfl
  | admitCall h =>
    unfold Bridge.admitCall
    split
    · exact .inl rfl
    · split <;> exact .inl rfl
  | dismiss h =>
    unfold Bridge.dismiss
    dsimp only
    split
    · exact .inl rfl
    · split <;> exact .inl rfl
  | condemn h hb =>
    unfold Bridge.condemn
    split
    · exact .inl rfl
    · split
      · exact .inl rfl
      · split <;> exact .inl rfl
  | useResource h kind update =>
    unfold Bridge.useResource
    split
    · exact .inl rfl
    · split <;> exact .inl rfl
  | _ => exact .inl rfl

end Bridge

/-- **A section of any kind** leaves an object with the handle that it had, or without a live
one. -/
theorem World.Section.find? {w w' : World} {me : ThreadId} (hs : w.Section me w') (o : ObjectId) :
    w'.bridge.find? o = w.bridge.find? o ∨ w'.bridge.Lacks o := by
  cases hs with
  | inBridge b events hb => exact hb.find? o
  | _ => exact .inl rfl

/-! ## The way of a value

Most values need no state to cross. An object does, twice. -/

section Crossing

variable {w : World} {n : Nat} {code : ThreadId → NativeCode α} {me : ThreadId} {o : ObjectId}
  {h : Handle} {t u : Threads World α} {l : List (Threads World α)}

/-- The point at which others begin is one of those they come by. -/
theorem Threads.Others.mem_head (ho : Threads.Others me t l u) : t ∈ l ++ [u] := by
  cases ho <;> simp

/-- **An object whose handle is not live any more** has been without a live handle, even if
it has got another one meanwhile. -/
theorem Threads.Others.lacks (ho : Threads.Others me t l u)
    (ht : (w.threads n code).Reaches (fun _ => True) t) (hfind : t.state.bridge.find? o = some h)
    (hu : ∀ g, u.state.bridge.openHandle o h ≠ .ok g) :
    ∃ v ∈ l ++ [u], v.state.bridge.Lacks o := by
  induction ho with
  | @here t =>
    refine ⟨t, by simp, fun g hg => hu g ?_⟩
    rw [← hg, Bridge.handleOf_of_find? hfind]
  | @enter t u l you ready effect next hyou hstep hr ho ih =>
    obtain ⟨-, hs⟩ := World.section_of_reaches ht hstep hr
    obtain hsame | hlacks := hs.find? o
    · obtain ⟨v, hv, hlacks⟩ := ih (ht.enter hstep hr trivial) (hsame.trans hfind) hu
      exact ⟨v, List.mem_cons_of_mem _ hv, hlacks⟩
    · exact ⟨_, List.mem_cons_of_mem _ ho.mem_head, hlacks⟩

/-- An object whose handle is asked for in vain has been without a live one. -/
theorem Threads.Performs.handleOf (ht : (w.threads n code).Reaches (fun _ => True) t)
    {e : BridgeError} (h : t.Performs me (Run.handleOf o) l (.ok (.error e)) u) :
    ∃ v ∈ l, v.state.bridge.Lacks o := by
  obtain ⟨h?, v, l₁, l₂, rfl, hfind, h⟩ := h.bind
  obtain ⟨he, l', t', rfl, hstate, hreach, ho⟩ := hfind.ask
  cases he
  cases hf : t.state.bridge.find? o with
  | none => exact ⟨t, by simp, Bridge.lacks_of_find? hf⟩
  | some g =>
    dsimp only at h
    rw [hf] at h
    obtain ⟨he, l'', -, rfl, -⟩ := h.ask
    -- the handle that was found is not live when the thread comes to look at its record
    obtain ⟨p, hp, hlacks⟩ := ho.lacks (ht.trans hreach) (hstate ▸ hf)
      (fun g hg => by cases (Except.ok.inj he).trans hg)
    refine ⟨p, ?_, hlacks⟩
    obtain hp | rfl := List.mem_append.1 hp |>.imp_right List.mem_singleton.1
    · simp [hp]
    · simp

/-- **A value that fits a type crosses as a value of it.** -/
theorem Threads.Performs.marshal_tag {v : ManagedValue} {x : BoundaryValue} {tag : Tag}
    (h : t.Performs me (Run.marshal v) l (.ok (.ok x)) u) (hv : v.fits tag = true) :
    x.tag = tag := by
  cases v with
  | object o =>
    obtain ⟨r, v, l₁, l₂, rfl, -, h⟩ := h.bind
    cases r with
    | error e => cases h.pure.1
    | ok g =>
      cases h.pure.1
      exact (of_decide_eq_true hv).symm
  | null => cases h.pure.1
  | _ =>
    cases h.pure.1
    exact (of_decide_eq_true hv).symm

/-- **A value that cannot cross** is null, or an object that was without a live handle on the
way. -/
theorem Threads.Performs.marshal_error (ht : (w.threads n code).Reaches (fun _ => True) t)
    {v : ManagedValue} {e : ManagedException}
    (h : t.Performs me (Run.marshal v) l (.ok (.error e)) u) :
    v = .null ∧ e.typeName = ManagedException.nullReference ∨
      ∃ o, v = .object o ∧ e.typeName = BridgeError.marshalException ∧
        ∃ p ∈ l, p.state.bridge.Lacks o := by
  cases v with
  | object o =>
    obtain ⟨r, v, l₁, l₂, rfl, hhandle, h⟩ := h.bind
    cases r with
    | ok g => cases h.pure.1
    | error e' =>
      obtain ⟨he, rfl, rfl⟩ := h.pure
      cases he
      exact .inr ⟨o, rfl, rfl, by simpa using hhandle.handleOf ht⟩
  | null =>
    cases h.pure.1
    exact .inl ⟨rfl, rfl⟩
  | _ => cases h.pure.1

/-- **Values that fit are marshalled as values of the types that they fit.** -/
theorem Threads.Performs.marshalAll_tags {vs : List ManagedValue} {xs : List BoundaryValue}
    {ts : List Tag} (h : t.Performs me (Run.marshalAll vs) l (.ok (.ok xs)) u)
    (hvs : Class.accepts ts vs = true) : xs.map BoundaryValue.tag = ts := by
  induction vs generalizing xs ts t u l with
  | nil =>
    cases h.pure.1
    cases ts with
    | nil => rfl
    | cons tag ts => cases hvs
  | cons v vs ih =>
    cases ts with
    | nil => cases hvs
    | cons tag ts =>
      simp only [Class.accepts, Bool.and_eq_true] at hvs
      obtain ⟨r, t₁, l₁, l₂, rfl, hv, h⟩ := h.bind
      cases r with
      | error e => cases h.pure.1
      | ok x =>
        obtain ⟨r, t₂, l₂, l₃, rfl, hrest, h⟩ := h.bind
        cases r with
        | error e => cases h.pure.1
        | ok xs' =>
          cases h.pure.1
          rw [List.map_cons, hv.marshal_tag hvs.1, ih hrest hvs.2]

/-- **Marshalling fails at the first argument that cannot cross**: a `null`, or an object that
has been without a live handle. -/
theorem Threads.Performs.marshalAll_error (ht : (w.threads n code).Reaches (fun _ => True) t)
    {vs : List ManagedValue} {e : ManagedException}
    (h : t.Performs me (Run.marshalAll vs) l (.ok (.error e)) u) :
    .null ∈ vs ∧ e.typeName = ManagedException.nullReference ∨
      e.typeName = BridgeError.marshalException ∧
        ∃ o, .object o ∈ vs.takeWhile (· ≠ .null) ∧ ∃ p ∈ l, p.state.bridge.Lacks o := by
  induction vs generalizing t l with
  | nil => cases h.pure.1
  | cons v vs ih =>
    obtain ⟨r, t₁, l₁, l₂, rfl, hv, h⟩ := h.bind
    cases r with
    | error e' =>
      obtain ⟨he, rfl, rfl⟩ := h.pure
      cases he
      obtain ⟨rfl, he⟩ | ⟨o, rfl, he, hp⟩ := hv.marshal_error ht
      · exact .inl ⟨by simp, he⟩
      · exact .inr ⟨he, o, by simp, by simpa using hp⟩
    | ok x =>
      obtain ⟨r, t₂, l₂, l₃, rfl, hrest, h⟩ := h.bind
      cases r with
      | ok xs => cases h.pure.1
      | error e' =>
        obtain ⟨he, rfl, rfl⟩ := h.pure
        cases he
        have hnull : v ≠ .null := by
          rintro rfl
          cases hv.pure.1
        obtain ⟨hmem, he⟩ | ⟨he, o, ho, p, hp, hlacks⟩ := ih (hv.reaches ht).2 hrest
        · exact .inl ⟨List.mem_cons_of_mem v hmem, he⟩
        · refine .inr ⟨he, o, ?_, p, by simp [hp], hlacks⟩
          rw [List.takeWhile_cons_of_pos (by simpa using hnull)]
          exact List.mem_cons_of_mem v ho

/-- A value that cannot come in is a handle that leads nowhere any more. -/
theorem Threads.Performs.unmarshal_error {x : BoundaryValue} {e : ManagedException}
    (h : t.Performs me (Run.unmarshal x) l (.ok (.error e)) u) :
    e.typeName = BridgeError.releasedException := by
  cases x with
  | object g =>
    obtain ⟨r, v, l₁, l₂, rfl, hask, h⟩ := h.bind
    cases r with
    | ok o => cases h.pure.1
    | error e' =>
      cases h.pure.1
      have he := hask.ask.1
      dsimp only [Bridge.objectOf] at he
      split at he <;> cases he
      rfl
  | _ => cases h.pure.1

end Crossing

/-! ## Arguments that cannot cross

Null is refused without a look at the state, so a call with a null among its arguments is over
before anything native has been asked for. -/

/-- To marshal a value is to look at most. -/
theorem Run.looks_marshal (v : ManagedValue) :
    (Run.marshal v).course.Looks (fun r => ∃ b, r = .ok b) := by
  cases v with
  | object o =>
    refine Process.looks_bind (Process.looks_bind (Process.looks_ask _) (fun h? => ?_))
      (fun r => ?_)
    · cases h? with
      | none => exact Process.looks_pure ⟨_, rfl⟩
      | some h => exact Process.looks_ask _
    · cases r <;> exact Process.looks_pure ⟨_, rfl⟩
  | _ => exact Process.looks_pure ⟨_, rfl⟩

/-- **With a `null` among them, arguments are never marshalled**, whatever the state is. -/
theorem Run.looks_marshalAll_null {vs : List ManagedValue} (h : .null ∈ vs) :
    (Run.marshalAll vs).course.Looks (fun r => ∃ e, r = .ok (.error e)) := by
  induction vs with
  | nil => cases h
  | cons v vs ih =>
    cases v with
    | null => exact Process.looks_pure ⟨_, rfl⟩
    | _ =>
      have hrest := ih (by simpa using h)
      refine Process.looks_bind (looks_marshal _) (fun r => ?_)
      cases r with
      | error e => exact Process.looks_pure ⟨_, rfl⟩
      | ok x =>
        rw [Process.course_bind]
        refine Course.Looks.after (hrest.mono ?_)
        rintro _ ⟨e, rfl⟩
        exact Process.looks_pure ⟨e, rfl⟩

end HostBridge
