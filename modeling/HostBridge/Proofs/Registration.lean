import HostBridge.Proofs.Registry

/-!
# What a history of additions leaves

Members are bound and types are declared one after the other, and a refusal does not end
the registration: the next addition is tried on what is there. So a registry is what its
whole history made of it, the refused additions included (`Registry.ofHistory`).

The history can be read from the front: under a key stands the first registration whose
implementation fits its member (`get?_calls_ofHistory`), and for a type the first hooks
that were declared (`get?_types_ofHistory`). Both are one fact about one addition, which
fills what is still free and leaves everything else alone (`get?_calls_attempt`,
`get?_types_attempt`). What is accepted, found, listed and counted after any history
follows (`history_keeps_the_first`).

An addition may be refused for what it is or for what came before. An implementation that does
not fit its member is refused in every registry, and one for a key that is taken is refused in
this one. So whether an addition was accepted cannot be told from the addition, and `Accepted`
speaks of the place in the history at which it was made. That it comes to the same as being the
first valid one (`accepted_iff`) is where the two reasons are brought together.
-/

namespace HostBridge

/-- **An implementation fits a member**: it takes and returns what the member declares. -/
def NativeCall.Fits (c : NativeCall) (m : Member) : Prop :=
  c.params = m.nativeParams ∧ c.ret = m.signature.ret

instance (c : NativeCall) (m : Member) : Decidable (c.Fits m) :=
  inferInstanceAs (Decidable (_ ∧ _))

/-- Two members with one key and one return type are the same member. -/
theorem Member.eq_of_key {m m' : Member} (hkey : m.key = m'.key)
    (hret : m.signature.ret = m'.signature.ret) : m = m' := by
  obtain ⟨t, n, ⟨ps, ret⟩, k⟩ := m
  obtain ⟨t', n', ⟨ps', ret'⟩, k'⟩ := m'
  cases hkey
  cases hret
  rfl

namespace Registry

/-- **Tries to add one thing**, and goes on with the registry that is left, whatever the answer
is. -/
def attempt (r : Registry) (a : Addition) : Registry := (r.add a).2

/-- **The registry after a history** of additions, refused ones included. -/
def ofHistory (history : List Addition) : Registry := history.foldl attempt .empty

/-- What an addition binds to a key, where nothing is bound to it yet. -/
def Addition.binding? (key : Member.Key) : Addition → Option Binding
  | .member m c => if c.Fits m ∧ m.key = key then some ⟨m, c⟩ else none
  | .type _ _ => none

/-- The hooks an addition gives a type, where it has none yet. -/
def Addition.hooks? (typeName : String) : Addition → Option Hooks
  | .member _ _ => none
  | .type name hooks => if name = typeName then some hooks else none

/-- **A registration succeeded** at some place of a history. -/
def Accepted (history : List Addition) (m : Member) (c : NativeCall) : Prop :=
  ∃ before after, history = before ++ .member m c :: after ∧
    ((ofHistory before).register m c).1 = .ok ()

/-- **The first valid registration with its key**: every earlier one with the same key had
an implementation that does not fit. -/
def FirstValid (history : List Addition) (m : Member) (c : NativeCall) : Prop :=
  ∃ before after, history = before ++ .member m c :: after ∧ c.Fits m ∧
    ∀ m' c', .member m' c' ∈ before → c'.Fits m' → m'.key ≠ m.key

/-! ## One addition

Accepted additions fill a place that was free, refused ones change nothing. -/

section

variable {r : Registry} {m : Member} {c : NativeCall} {name : String} {hooks : Hooks}

/-- A member is bound if the implementation fits it and its key is free. -/
theorem register_accepted (hfits : c.Fits m) (hfree : r.calls.get? m.key = none) :
    r.register m c = (.ok (), { r with calls := r.calls.insert m.key ⟨m, c⟩ }) := by
  unfold register
  rw [if_neg (by simp [hfits.1, hfits.2]), hfree]

/-- **A refused member leaves the registry that was there**, whatever it was refused for. -/
theorem register_refused (h : ¬(c.Fits m ∧ r.calls.get? m.key = none)) :
    ∃ e, r.register m c = (.error e, r) := by
  unfold register
  by_cases hfits : c.Fits m
  · obtain ⟨b, hb⟩ := Option.ne_none_iff_exists'.1 fun hfree => h ⟨hfits, hfree⟩
    rw [if_neg (by simp [hfits.1, hfits.2]), hb]
    exact ⟨_, rfl⟩
  · rw [if_pos (by simpa [NativeCall.Fits, imp_iff_not_or] using hfits)]
    exact ⟨_, rfl⟩

/-- **What a registration is accepted for.** -/
theorem register_eq_ok :
    (r.register m c).1 = .ok () ↔ c.Fits m ∧ r.calls.get? m.key = none := by
  constructor
  · intro h
    by_contra hn
    obtain ⟨e, he⟩ := register_refused hn
    rw [he] at h
    cases h
  · rintro ⟨hfits, hfree⟩
    rw [register_accepted hfits hfree]

/-- A type gets hooks if it has none. -/
theorem bridgeType_accepted (hfree : r.types.get? name = none) :
    r.bridgeType name hooks = (.ok (), { r with types := r.types.insert name hooks }) := by
  unfold bridgeType Table.contains
  rw [hfree]
  rfl

/-- **Refused hooks leave the registry that was there.** -/
theorem bridgeType_refused (h : r.types.get? name ≠ none) :
    ∃ e, r.bridgeType name hooks = (.error e, r) := by
  obtain ⟨given, hgiven⟩ := Option.ne_none_iff_exists'.1 h
  unfold bridgeType Table.contains
  rw [hgiven]
  exact ⟨_, rfl⟩

/-- **A refused addition leaves the registry that was there.** -/
theorem add_refused {a : Addition} {e : BridgeError} (h : (r.add a).1 = .error e) :
    (r.add a).2 = r := by
  cases a with
  | member m c =>
    by_cases hfree : c.Fits m ∧ r.calls.get? m.key = none
    · cases h.symm.trans (register_eq_ok.2 hfree)
    · obtain ⟨e', he'⟩ := register_refused hfree
      exact congrArg Prod.snd he'
  | type name hooks =>
    by_cases hfree : r.types.get? name = none
    · have haccepted : r.bridgeType name hooks = _ := bridgeType_accepted hfree
      cases h.symm.trans (congrArg Prod.fst haccepted)
    · obtain ⟨e', he'⟩ : ∃ e', r.bridgeType name hooks = (.error e', r) :=
        bridgeType_refused hfree
      exact congrArg Prod.snd he'

/-- What is left of trying to bind a member. -/
theorem attempt_member :
    r.attempt (.member m c) =
      if c.Fits m ∧ r.calls.get? m.key = none then
        { r with calls := r.calls.insert m.key ⟨m, c⟩ }
      else r := by
  by_cases hfree : c.Fits m ∧ r.calls.get? m.key = none
  · rw [if_pos hfree]
    exact congrArg Prod.snd (register_accepted hfree.1 hfree.2)
  · rw [if_neg hfree]
    obtain ⟨e, he⟩ := register_refused hfree
    exact congrArg Prod.snd he

/-- What is left of trying to give a type hooks. -/
theorem attempt_type :
    r.attempt (.type name hooks) =
      if r.types.get? name = none then { r with types := r.types.insert name hooks } else r := by
  by_cases hfree : r.types.get? name = none
  · rw [if_pos hfree]
    exact congrArg Prod.snd (bridgeType_accepted hfree)
  · rw [if_neg hfree]
    obtain ⟨e, he⟩ := bridgeType_refused hfree
    exact congrArg Prod.snd he

end

/-- **An addition fills a key that is free** and leaves the others alone. -/
theorem get?_calls_attempt (r : Registry) (a : Addition) (key : Member.Key) :
    (r.attempt a).calls.get? key = (r.calls.get? key).or (a.binding? key) := by
  cases a with
  | type name hooks =>
    have hcalls : (r.attempt (.type name hooks)).calls = r.calls := by
      rw [attempt_type]
      split <;> rfl
    rw [hcalls]
    exact Option.or_none.symm
  | member m c =>
    rw [attempt_member]
    unfold Addition.binding?
    by_cases hkey : m.key = key
    · subst hkey
      by_cases hfits : c.Fits m
      · cases hbound : r.calls.get? m.key <;> simp [hfits, hbound, Table.get?_insert]
      · simp [hfits]
    · have hother : ∀ b, (r.calls.insert m.key b).get? key = r.calls.get? key := fun b => by
        rw [Table.get?_insert, if_neg (Ne.symm hkey)]
      split <;> simp [hkey, hother]

/-- **An addition gives hooks to a type that has none** and leaves the others alone. -/
theorem get?_types_attempt (r : Registry) (a : Addition) (typeName : String) :
    (r.attempt a).types.get? typeName = (r.types.get? typeName).or (a.hooks? typeName) := by
  cases a with
  | member m c =>
    have htypes : (r.attempt (.member m c)).types = r.types := by
      rw [attempt_member]
      split <;> rfl
    rw [htypes]
    exact Option.or_none.symm
  | type name hooks =>
    rw [attempt_type]
    unfold Addition.hooks?
    by_cases hname : name = typeName
    · subst hname
      cases hbound : r.types.get? name <;> simp [hbound, Table.get?_insert]
    · have hother : (r.types.insert name hooks).get? typeName = r.types.get? typeName := by
        rw [Table.get?_insert, if_neg (Ne.symm hname)]
      split <;> simp [hname, hother]

/-! ## A whole history

By induction from its front, since it is the first that counts. -/

/-- **What is kept is the first that was given**: if an addition fills a place that is free and
leaves a full one alone, then after a history the place has the first thing that an addition
had for it. -/
theorem kept_ofHistory {β : Type} (kept : Registry → Option β) (given : Addition → Option β)
    (hempty : kept .empty = none) (hstep : ∀ r a, kept (r.attempt a) = (kept r).or (given a))
    (history : List Addition) : kept (ofHistory history) = history.findSome? given := by
  suffices h : ∀ r, kept (history.foldl attempt r) = (kept r).or (history.findSome? given) by
    refine (h .empty).trans ?_
    rw [hempty, Option.none_or]
  induction history with
  | nil => exact fun r => Option.or_none.symm
  | cons a rest ih =>
    intro r
    rw [List.foldl_cons, ih, hstep, Option.or_assoc, List.findSome?_cons]
    cases given a <;> rfl

/-- **Under a key stands the first registration that fits.** -/
theorem get?_calls_ofHistory (history : List Addition) (key : Member.Key) :
    (ofHistory history).calls.get? key = history.findSome? (Addition.binding? key) :=
  kept_ofHistory (·.calls.get? key) _ rfl (fun r a => get?_calls_attempt r a key) history

/-- **A type has the first hooks that were declared for it.** -/
theorem get?_types_ofHistory (history : List Addition) (typeName : String) :
    (ofHistory history).types.get? typeName = history.findSome? (Addition.hooks? typeName) :=
  kept_ofHistory (·.types.get? typeName) _ rfl (fun r a => get?_types_attempt r a typeName) history

/-- **A refused addition leaves no trace**: a history goes on as if it had not been tried. -/
theorem ofHistory_append_of_refused {history : List Addition} {a : Addition} {e : BridgeError}
    (h : ((ofHistory history).add a).1 = .error e) (after : List Addition) :
    ofHistory (history ++ a :: after) = ofHistory (history ++ after) := by
  have hsame : (ofHistory history).attempt a = ofHistory history := add_refused h
  unfold ofHistory at hsame ⊢
  rw [List.foldl_append, List.foldl_append, List.foldl_cons, hsame]

/-- A registry that was put together is what some history leaves. -/
theorem Built.exists_history {r : Registry} (hr : r.Built) : ∃ history, ofHistory history = r := by
  induction hr with
  | empty => exact ⟨[], rfl⟩
  | @add r a hr ha ih =>
    obtain ⟨history, rfl⟩ := ih
    refine ⟨history ++ [a], ?_⟩
    show List.foldl attempt .empty (history ++ [a]) = ((ofHistory history).add a).2
    rw [List.foldl_append]
    rfl

section

variable {history : List Addition} {m : Member} {c : NativeCall} {key : Member.Key}
  {typeName : String}

/-! ### Accepted registrations

A registration is accepted at its place in the history. Under a key that is the first one that
fits, so the places need not be spoken of in the end. -/

theorem Addition.binding?_eq_some {a : Addition} {b : Binding} :
    a.binding? key = some b ↔ a = .member b.member b.call ∧ b.call.Fits b.member ∧
      b.member.key = key := by
  obtain ⟨m', c'⟩ := b
  cases a with
  | type name hooks => simp [binding?]
  | member m c =>
    simp only [binding?, Option.ite_none_right_eq_some, Option.some.injEq, Binding.mk.injEq,
      Addition.member.injEq]
    constructor
    · rintro ⟨h, rfl, rfl⟩
      exact ⟨⟨rfl, rfl⟩, h⟩
    · rintro ⟨⟨rfl, rfl⟩, h⟩
      exact ⟨h, rfl, rfl⟩

theorem Addition.hooks?_eq_some {a : Addition} {hooks : Hooks} :
    a.hooks? typeName = some hooks ↔ a = .type typeName hooks := by
  cases a with
  | member m c => simp [hooks?]
  | type name given =>
    simp only [hooks?, Option.ite_none_right_eq_some, Option.some.injEq, Addition.type.injEq]

/-- Nothing stands under a key exactly if nothing that fits was registered there. -/
theorem get?_calls_eq_none :
    (ofHistory history).calls.get? key = none ↔
      ∀ m c, .member m c ∈ history → c.Fits m → m.key ≠ key := by
  rw [get?_calls_ofHistory, List.findSome?_eq_none_iff]
  constructor
  · intro h m c hmem hfits hkey
    have hb : (Addition.member m c).binding? key = some ⟨m, c⟩ :=
      Addition.binding?_eq_some.2 ⟨rfl, hfits, hkey⟩
    cases hb.symm.trans (h _ hmem)
  · intro h a hmem
    rw [Option.eq_none_iff_forall_ne_some]
    intro b hb
    obtain ⟨rfl, hfits, hkey⟩ := Addition.binding?_eq_some.1 hb
    exact h _ _ hmem hfits hkey

theorem get?_calls_eq_some :
    (ofHistory history).calls.get? key = some ⟨m, c⟩ ↔ m.key = key ∧ FirstValid history m c := by
  rw [get?_calls_ofHistory, List.findSome?_eq_some_iff]
  constructor
  · rintro ⟨before, a, after, rfl, hb, hbefore⟩
    obtain ⟨rfl, hfits, rfl⟩ := Addition.binding?_eq_some.1 hb
    refine ⟨rfl, before, after, rfl, hfits, fun m' c' hmem hfits' hkey => ?_⟩
    cases (Addition.binding?_eq_some (b := ⟨m', c'⟩)).2 ⟨rfl, hfits', hkey⟩ |>.symm.trans
      (hbefore _ hmem)
  · rintro ⟨rfl, before, after, rfl, hfits, hbefore⟩
    refine ⟨before, .member m c, after, rfl, Addition.binding?_eq_some.2 ⟨rfl, hfits, rfl⟩,
      fun a hmem => ?_⟩
    rw [Option.eq_none_iff_forall_ne_some]
    intro b hb
    obtain ⟨rfl, hfits', hkey⟩ := Addition.binding?_eq_some.1 hb
    exact hbefore _ _ hmem hfits' hkey

/-- **A registration is accepted exactly where it is the first valid one.** -/
theorem accepted_iff : Accepted history m c ↔ FirstValid history m c := by
  unfold Accepted FirstValid
  refine exists_congr fun before => exists_congr fun after => and_congr_right fun _ => ?_
  rw [register_eq_ok, get?_calls_eq_none]

/-- A key is free until a registration with it was accepted. -/
theorem get?_calls_eq_none_iff_accepted :
    (ofHistory history).calls.get? key = none ↔
      ∀ m c, Accepted history m c → m.key ≠ key := by
  simp only [accepted_iff]
  rw [Option.eq_none_iff_forall_ne_some]
  constructor
  · intro h m c hvalid hkey
    exact h ⟨m, c⟩ (get?_calls_eq_some.2 ⟨hkey, hvalid⟩)
  · intro h b hb
    obtain ⟨hkey, hvalid⟩ := get?_calls_eq_some.1 hb
    exact h b.member b.call hvalid hkey

theorem key_of_get?_calls {b : Binding} (h : (ofHistory history).calls.get? key = some b) :
    b.member.key = key :=
  (get?_calls_eq_some.1 h).1

/-! ### What a registry lists and finds -/

/-- The members that are listed are those that something is bound to. -/
theorem mem_members :
    m ∈ (ofHistory history).members ↔ ∃ c, (ofHistory history).calls.get? m.key = some ⟨m, c⟩ := by
  unfold members Table.values
  rw [List.map_map, List.mem_map]
  constructor
  · rintro ⟨⟨key, b⟩, hmem, rfl⟩
    have hb := Table.mem_toList.1 hmem
    refine ⟨b.call, ?_⟩
    show (ofHistory history).calls.get? b.member.key = some b
    rw [key_of_get?_calls hb]
    exact hb
  · rintro ⟨c, hc⟩
    exact ⟨(m.key, ⟨m, c⟩), Table.mem_toList.2 hc, rfl⟩

/-- The keys of the members are the keys of the table. -/
theorem map_key_members (history : List Addition) :
    (ofHistory history).members.map Member.key = (ofHistory history).calls.keys := by
  unfold members Table.values Table.keys
  rw [List.map_map, List.map_map]
  refine List.map_congr_left fun e he => ?_
  exact key_of_get?_calls (Table.mem_toList.1 he)

theorem resolve_eq_ok :
    (ofHistory history).resolve m = .ok c ↔
      (ofHistory history).calls.get? m.key = some ⟨m, c⟩ := by
  unfold resolve
  cases hb : (ofHistory history).calls.get? m.key with
  | none => simp
  | some b =>
    have hkey := key_of_get?_calls hb
    dsimp only
    constructor
    · intro h
      split at h <;> cases h
      next hret => rw [← Member.eq_of_key hkey hret]
    · rintro ⟨⟩
      exact if_pos rfl

/-- **What is found for a member** is the implementation it was first validly registered
with, if no other return type came first. -/
theorem resolve_eq_ok_iff :
    (ofHistory history).resolve m = .ok c ↔ FirstValid history m c := by
  rw [resolve_eq_ok, get?_calls_eq_some]
  exact and_iff_right rfl

theorem hooks?_eq_some {hooks : Hooks} :
    (ofHistory history).hooks? typeName = some hooks ↔
      ∃ before after, history = before ++ .type typeName hooks :: after ∧
        ∀ hooks', .type typeName hooks' ∉ before := by
  unfold hooks?
  rw [get?_types_ofHistory, List.findSome?_eq_some_iff]
  constructor
  · rintro ⟨before, a, after, rfl, ha, hbefore⟩
    obtain rfl := Addition.hooks?_eq_some.1 ha
    refine ⟨before, after, rfl, fun hooks' hmem => ?_⟩
    cases (Addition.hooks?_eq_some.2 rfl).symm.trans (hbefore _ hmem)
  · rintro ⟨before, after, rfl, hbefore⟩
    refine ⟨before, .type typeName hooks, after, rfl, Addition.hooks?_eq_some.2 rfl,
      fun a hmem => ?_⟩
    rw [Option.eq_none_iff_forall_ne_some]
    intro hooks' ha
    obtain rfl := Addition.hooks?_eq_some.1 ha
    exact hbefore hooks' hmem

/-- A type is bridged exactly if hooks were declared for it. -/
theorem isBridged_iff :
    (ofHistory history).isBridged typeName = true ↔ ∃ hooks, .type typeName hooks ∈ history := by
  unfold isBridged Table.contains
  rw [get?_types_ofHistory, List.findSome?_isSome_iff]
  constructor
  · rintro ⟨a, hmem, ha⟩
    obtain ⟨hooks, hhooks⟩ := Option.isSome_iff_exists.1 ha
    obtain rfl := Addition.hooks?_eq_some.1 hhooks
    exact ⟨hooks, hmem⟩
  · rintro ⟨hooks, hmem⟩
    exact ⟨_, hmem, Option.isSome_iff_exists.2 ⟨hooks, Addition.hooks?_eq_some.2 rfl⟩⟩

end

/-- **A registry keeps what came first.** After any history of additions, accepted and
refused ones in any order:

* a member is accepted with an implementation exactly if that takes and returns what the
  member declares and no member with the same key was accepted before;
* a refused addition leaves the registry that was there, and no trace later on;
* the members that are listed are those that were accepted, each key once, as many as are
  counted;
* a member is found exactly if it is listed itself, with its return type, and what is found
  is the implementation of the first valid registration with its key;
* a type is bridged exactly if hooks were declared for it, and it has the first of them. -/
theorem history_keeps_the_first (history : List Addition) :
    (∀ m c, ((ofHistory history).register m c).1 = .ok () ↔
      (c.params = m.nativeParams ∧ c.ret = m.signature.ret) ∧
        ∀ m' c', Accepted history m' c' → m'.key ≠ m.key) ∧
    (∀ a e, ((ofHistory history).add a).1 = .error e →
      ((ofHistory history).add a).2 = ofHistory history ∧
        ∀ after, ofHistory (history ++ a :: after) = ofHistory (history ++ after)) ∧
    (∀ m, m ∈ (ofHistory history).members ↔ ∃ c, Accepted history m c) ∧
    ((ofHistory history).members.map Member.key).Nodup ∧
    (ofHistory history).members.length = (ofHistory history).size ∧
    (∀ m, (∃ c, (ofHistory history).resolve m = .ok c) ↔ m ∈ (ofHistory history).members) ∧
    (∀ m c, (ofHistory history).resolve m = .ok c ↔ FirstValid history m c) ∧
    (∀ typeName, (ofHistory history).isBridged typeName = true ↔
      ∃ hooks, .type typeName hooks ∈ history) ∧
    (∀ typeName hooks, (ofHistory history).hooks? typeName = some hooks ↔
      ∃ before after, history = before ++ .type typeName hooks :: after ∧
        ∀ hooks', .type typeName hooks' ∉ before) := by
  refine ⟨fun m c => ?_, fun a e h => ⟨add_refused h, ofHistory_append_of_refused h⟩,
    fun m => ?_, ?_, ?_, fun m => ?_, fun m c => resolve_eq_ok_iff,
    fun typeName => isBridged_iff, fun typeName hooks => hooks?_eq_some⟩
  · rw [register_eq_ok, get?_calls_eq_none_iff_accepted]
    rfl
  · simp only [mem_members, accepted_iff, get?_calls_eq_some, true_and]
  · rw [map_key_members]
    exact Table.nodup_toList _
  · simp [members, Table.values, Table.toList, size, Table.size]
  · simp only [mem_members, resolve_eq_ok]

end Registry

end HostBridge
