import HostBridge.Proofs.Alike
import HostBridge.Proofs.Passage
import HostBridge.Proofs.Sections

/-!
# The depth of calls

A body that calls managed code tells how deep the call is, and a body that would be nested
deeper than the domain allows is not run. This bounds the bodies that are active between
an entry into managed code and the code that runs: an **entry** is a call of a method from
native code, the creation of an instance by native code, and a finalizer that a collection
runs. Every entry starts to count anew, so that bodies of several entries may be active on
one thread (`call_depth_restarts`).

To say so without trusting the depth that is handed on, a runner counts the bodies itself:
`Runner.counting` knows from the way it was come by how many bodies of the entry are active,
and has something else done in place of a body too many. It does the same as the runner
that does not count (`bodies_within_depth`), whatever that something else is.

## Counting without a counter

The active bodies are not part of the state, and they should not be. A number in the state
would have to be kept in step with the code that runs, and the statement would then be about
that number. A runner, on the other hand, is the meaning that code is given, and a runner that
treats a body too many in its own way gives a meaning of its own to code that nests too deep.
That two runners do the same on all code, with any way of treating the body too many, says that
such a body never comes to run.

What is compared is all that the two do, section by section (`Runner.Alike`), and not only what
they end with. So code that runs for ever is covered too.
-/

namespace HostBridge

variable {α β : Type}

/-! ## Counting

The runner that counts, and the induction that compares it with the one that does not: along
the levels of the nesting, with the number of active bodies and the depth of the context in
step. -/

/-- Whether an operation of managed code calls managed code of the same entry. -/
def ManagedOp.isCall : ManagedOp → Bool
  | .newObject _ => true
  | .call _ _ _ => true
  | .callStatic _ _ _ => true
  | _ => false

/-- Runs managed code, each operation by a runner of its own. -/
def Run.runManagedBy (runner : ManagedOp → Runner) (me : ThreadId) (x : Context) :
    ManagedCode α → Run α
  | .done a => pure a
  | .panic p => .crash (.panicked p)
  | .perform op next => do
    let r ← managedReply (runner op) me x op
    runManagedBy runner me x (next r)

/-- **The runner that counts.** `active` bodies of the entry are active that the code at hand
belongs to. Calls of a body find one more of them; other operations of it, and native
code, enter managed code anew. In place of a body that would be one more than `limit`, or
whose frame tells another depth, `excess` runs. -/
def Runner.counting (limit : Nat) (excess : Runner) : (levels : Nat) → (active : Nat) → Runner
  | 0, _ => .nested 0
  | levels + 1, active =>
    { native := fun me code => Run.runNative (counting limit excess levels 0) me code
      managed := fun me x code =>
        if x.depth = active ∧ active < limit then
          Run.runManagedBy (fun op =>
            counting limit excess levels (if op.isCall then active + 1 else 0)) me x code
        else excess.managed me x code }

/-- **Threads that count** the bodies they run. -/
def World.countingThreads (w : World) (excess : Runner) (levels : Nat)
    (code : ThreadId → NativeCode α) : Threads World α :=
  ⟨w, fun me =>
    (Run.runNative (.counting w.domain.maxCallDepth excess levels 0) me (code me)).course⟩

namespace Runner

variable {P : World → Prop} {limit active : Nat} {me : ThreadId} {excess run run' : Runner}
  (hP : ∀ w : World, P w → w.domain.maxCallDepth = limit)

include hP

/-- **A body calls alike** when its calls are run alike one deeper. -/
theorem Alike.managedCall (hrun : run.Alike P limit (active + 1) me run') {x : Context}
    (hx : x.depth = active) (op : ManagedOp) (hop : op.isCall = true) :
    (Run.managedReply run me x op).Alike P (Run.managedReply run' me x op) := by
  subst hx
  cases op with
  | newObject typeName =>
    refine .next (fun c? => ?_)
    cases c? with
    | error e => exact .refl _
    | ok c => exact .bind (hrun.newObject hP c) (fun _ => .refl _)
  | call receiver name args =>
    refine .next (fun c? => ?_)
    cases c? with
    | error e => exact .refl _
    | ok c => exact .bind (hrun.runMethod hP _ _ _ _) (fun _ => .refl _)
  | callStatic typeName name args =>
    refine .next (fun c? => ?_)
    cases c? with
    | error e => exact .refl _
    | ok c => exact .bind (hrun.runMethod hP _ _ _ _) (fun _ => .refl _)
  | _ => cases hop

/-- What a body asks for besides is done alike when managed code is entered alike. -/
theorem Alike.managedOther (hrun : run.Alike P limit 0 me run') {x : Context} (op : ManagedOp)
    (hop : op.isCall = false) :
    (Run.managedReply run me x op).Alike P (Run.managedReply run' me x op) := by
  cases op with
  | newObject typeName => cases hop
  | call receiver name args => cases hop
  | callStatic typeName name args => cases hop
  | callExtern receiver name args =>
    refine .next (fun c? => ?_)
    cases c? with
    | error e => exact .refl _
    | ok c =>
      dsimp only
      split
      · exact .refl _
      · exact hrun.callExtern _ _ _
  | callStaticExtern typeName name args =>
    refine .next (fun c? => ?_)
    cases c? with
    | error e => exact .refl _
    | ok c =>
      dsimp only
      split
      · exact .refl _
      · exact hrun.callExtern _ _ _
  | dispose o => exact hrun.destroy o
  | collect => exact hrun.collectOnRequest hP
  | _ => exact .refl _

omit hP in
/-- Code runs alike whose operations are done alike. -/
theorem alike_runManagedBy {runner : ManagedOp → Runner} {x : Context}
    (h : ∀ op, (Run.managedReply run me x op).Alike P (Run.managedReply (runner op) me x op))
    (code : ManagedCode α) :
    (Run.runManaged run me x code).Alike P (Run.runManagedBy runner me x code) := by
  induction code with
  | done a => exact .refl _
  | panic q => exact .refl _
  | perform op next ih => exact .bind (h op) ih

/-- **Counting changes nothing**, because no body is one too many. -/
theorem alike_counting (levels active : Nat) :
    (Runner.nested levels).Alike P limit active me (.counting limit excess levels active) := by
  induction levels generalizing active with
  | zero => exact ⟨fun _ => .refl _, fun _ _ _ _ => .refl _⟩
  | succ levels ih =>
    refine ⟨fun code => (ih 0).runNative hP code, fun x code hx hactive => ?_⟩
    change (Run.runManaged (.nested levels) me x code).Alike P (ite _ _ _)
    rw [if_pos ⟨hx, hactive⟩]
    refine alike_runManagedBy (fun op => ?_) code
    cases hop : op.isCall with
    | true => exact (ih (active + 1)).managedCall hP hx op hop
    | false => exact (ih 0).managedOther hP op hop

end Runner

/-! ## The bound

Of every thread of every run, with the bound that the domain was opened with. -/

/-- How deep calls may be nested never changes. -/
theorem World.Section.maxCallDepth {w w' : World} {me : ThreadId} (h : w.Section me w') :
    w'.domain.maxCallDepth = w.domain.maxCallDepth := by
  cases h with
  | inDomain d events hd => exact hd.maxCallDepth
  | _ => rfl

theorem World.maxCallDepth_of_reaches {w : World} {levels : Nat} {code : ThreadId → NativeCode α}
    {u : Threads World α} (hu : (w.threads levels code).Reaches (fun _ => True) u) :
    u.state.domain.maxCallDepth = w.domain.maxCallDepth :=
  (keeps_of_sections (I := fun v => v.domain.maxCallDepth = w.domain.maxCallDepth) rfl
    (fun _ _ _ _ hs hv => hs.maxCallDepth.trans hv) hu).2

/-- **A body that would be nested too deeply is not run.** -/
theorem Threads.Passes.overflow {t u : Threads World α} {me : ThreadId} {run : Runner} {c : Class}
    {name : String} {body : MethodBody} {receiver : Option ObjectId} {args : List ManagedValue}
    {depth : Nat} {l : List (Threads World α)}
    {q : Course World (Except ManagedException ManagedValue)}
    (h : t.Passes me (Run.runBody run me c name body receiver args depth).course l q u)
    (hdepth : t.state.domain.maxCallDepth ≤ depth) :
    l = [] ∨ q = .done (.error (Run.overflow t.state.domain.maxCallDepth name)) := by
  obtain ⟨k, -, h⟩ := h
  unfold Run.runBody Run.askDomain at h
  rw [Process.course_bind, Process.course_ask] at h
  cases h with
  | here => exact .inl rfl
  | enter hr ho h =>
    change Threads.PassesBefore me k
      (Process.course (if t.state.domain.maxCallDepth ≤ depth then _ else _)) _ _ _ _ at h
    rw [if_pos hdepth] at h
    cases h
    exact .inr rfl

/-- **No entry into managed code nests more bodies than the domain allows**, on any thread of
any interleaving:
* threads that count the bodies of each entry, and have anything else done in place of a
  body too many, have the same interleavings. So there is never a body too many, and the
  depth that a frame tells is the number of bodies of its entry that it is nested in;
* a body that would be one too many is not run. The call has looked at the state, and
  ends with `System.StackOverflowException`. -/
theorem bodies_within_depth (w : World) (levels : Nat) (code : ThreadId → NativeCode α)
    (excess : Runner) :
    (∀ u, (w.threads levels code).Reaches (fun _ => True) u →
      ∃ v, (w.countingThreads excess levels code).Reaches (fun _ => True) v ∧
        u.Alike (fun s => s.domain.maxCallDepth = w.domain.maxCallDepth) v) ∧
    (∀ v, (w.countingThreads excess levels code).Reaches (fun _ => True) v →
      ∃ u, (w.threads levels code).Reaches (fun _ => True) u ∧
        u.Alike (fun s => s.domain.maxCallDepth = w.domain.maxCallDepth) v) ∧
    ∀ t, (w.threads levels code).Reaches (fun _ => True) t →
      ∀ run me c name body receiver args depth, w.domain.maxCallDepth ≤ depth →
        ∀ l q u, t.Passes me (Run.runBody run me c name body receiver args depth).course l q u →
          l ≠ [] →
            q = .done (.error (Run.overflow w.domain.maxCallDepth name)) ∧
              (Run.overflow w.domain.maxCallDepth name).typeName =
                ManagedException.stackOverflow := by
  have halike : (w.threads levels code).Alike
      (fun s => s.domain.maxCallDepth = w.domain.maxCallDepth)
      (w.countingThreads excess levels code) :=
    ⟨rfl, fun me => (Runner.alike_counting (fun _ h => h) levels 0).runNative (fun _ h => h) _⟩
  obtain ⟨hforth, hback⟩ := halike.reaches (fun u hu => World.maxCallDepth_of_reaches hu)
  refine ⟨hforth, hback, fun t ht run me c name body receiver args depth hdepth l q u h hl => ?_⟩
  rw [← World.maxCallDepth_of_reaches ht] at hdepth ⊢
  exact ⟨(h.overflow hdepth).resolve_left hl, rfl⟩

/-! ## Several entries on one thread

Managed code calls a native member, which calls managed code again. That is a second entry, and
it counts from zero. -/

/-- A class of two methods. The first one calls a native member. -/
def relay : Class where
  scope := ""
  name := "Relay"
  methods := [
    ⟨"A", .nullary, .static, fun _ =>
      .perform (.callStaticExtern "Relay" "Hop" []) fun r => .done r⟩,
    ⟨"B", .nullary, .static, fun _ => .done (.ok .void)⟩]
  externs := [⟨"Hop", .nullary, .static⟩]

/-- The native member enters the second method. -/
def relayHop : NativeCall := .ofRaw [] .void fun _ =>
  .perform (.enter ⟨"Relay", "B", 0⟩ none []) fun _ => .done (.ok .void)

/-- A host that allows one body only. -/
def relayHost : World :=
  .start (Registry.empty.addAll [.member ⟨"Relay", "Hop", .nullary, .static⟩ relayHop]).2
    .empty "host" 1

/-- The host enters the first method. -/
def relaying : NativeCode Unit :=
  .perform (.provide ⟨"R", [relay]⟩) fun _ => .perform (.load "R") fun _ =>
    .perform (.enter ⟨"Relay", "A", 0⟩ none []) fun _ => .done ()

/-- Where the body of the second method runs. -/
def relayed : Course World Unit × World :=
  ((relaying.course 5 mainThread).play (fun _ => True) 15 relayHost).get (by decide +kernel)

theorem relayed_reached : (relaying.course 5 mainThread).Reaches (fun _ => True) relayHost
    relayed.1 relayed.2 :=
  (Course.Reaches.here trivial).play (Option.some_get _).symm

/-- **Two bodies are active on one thread** of a host that allows one, because the second is
entered from native code. -/
theorem call_depth_restarts : ¬∀ (w : World) (levels : Nat) (code : NativeCode Unit)
    (q : Course World Unit) (w' : World),
    (code.course levels mainThread).Reaches (fun _ => True) w q w' →
      w'.domain.frames.length ≤ w.domain.maxCallDepth := by
  intro h
  have htwo : relayed.2.domain.frames.length = 2 := by decide +kernel
  have hone := h relayHost 5 relaying relayed.1 relayed.2 relayed_reached
  rw [htwo] at hone
  exact absurd hone (by decide)

/-- The threads that count come there as well, for each of the bodies is the first of its
entry. In place of a body too many nothing could run here. -/
theorem bodies_within_depth_relay :
    ∃ v, (relayHost.countingThreads (.nested 0) 5 fun _ => relaying).Reaches (fun _ => True) v ∧
      v.state.domain.frames.length = 2 := by
  obtain ⟨u, hu, hstate, -⟩ :=
    (relayHost.threads 5 fun _ => relaying).reaches_alone relayed_reached rfl
  obtain ⟨v, hv, halike⟩ :=
    (bodies_within_depth relayHost 5 (fun _ => relaying) (.nested 0)).1 u hu
  refine ⟨v, hv, ?_⟩
  rw [halike.state, hstate]
  decide +kernel

end HostBridge
