import HostBridge.Proofs.Domain.Retention

/-!
# Objects that are not made

Making an object fails in two ways, and leaves different things behind (`Run.FailsToMake`). Where
the native side could not be constructed, the object is taken off the heap. Where the managed
constructor threw, the native side is there, and it takes a collection to get rid of both: the
construction gives back its own root, and the object stays.

An object under construction is never taken by a collection, so it is still there when the
constructor has thrown (`Ledger.Bears`). In a tame run its roots are its owners, and it is up to
those who have got hold of it meanwhile whether the next collection takes it
(`failed_objects_are_garbage`).

A constructor can hand out the object that it constructs before it throws: native code may hold
it, and a frame that is still active may have got hold of it. An object that is not made is
therefore garbage only if nobody else owns it, and who owns it is asked at the state in which
making it has ended. Up to there the run must be ordinary, since a panic leaves roots behind
that belong to nobody.
-/

namespace HostBridge

variable {w v v' : World} {run : Runner} {me : ThreadId} {c : Class} {depth n m : Nat}
  {o : ObjectId} {e : ManagedException} {α : Type} {code : NativeCode α}

/-- A new object is put on the heap. -/
def World.withNew (w : World) (c : Class) : World :=
  w.onDomain (w.domain.allocate c).2 [.allocated w.domain.nextObject]

theorem World.allocations_withNew (w : World) (c : Class) :
    (w.withNew c).allocations = w.allocations + 1 :=
  List.countP_cons_of_pos rfl

/-- **How making an object fails** that is put on the heap at `w`, with an exception at `v`. -/
inductive Run.FailsToMake (run : Runner) (me : ThreadId) (c : Class) (depth : Nat) (o : ObjectId)
    (w : World) : ManagedException → World → Prop
  /-- The native side could not be constructed. The object is removed. -/
  | native {v : World} {e : BridgeError}
      (failed : (Run.construct run me c.fullName o).Ends (w.withNew c) (.ok (.error e)) v) :
      FailsToMake run me c depth o w (e.toException.pushFrame c.constructorFrame)
        (v.onDomain ((v.domain.remove o).abandonAllocation o))
  /-- The native side is there, and the managed constructor threw. The object is left to the
  collector. -/
  | managed {u v : World} {h : Option Handle} {body : MethodBody} {e : ManagedException}
      (built : (Run.construct run me c.fullName o).Ends (w.withNew c) (.ok (.ok h)) u)
      (hbody : c.constructor = some body)
      (threw : (Run.runBody run me c c.constructorFrame body (some o) [] depth).Ends u
        (.ok (.error e)) v) :
      FailsToMake run me c depth o w e
        (v.onDomain ((v.domain.unroot o).abandonAllocation o))

/-- **Making an object fails in one of the two ways**, and in no other. -/
theorem newObject_throws_iff : (Run.newObject run me c depth).Ends w (.ok (.error e)) v ↔
    Run.FailsToMake run me c depth w.domain.nextObject w e v := by
  have allocates : (Run.onDomain (·.allocate c) (fun o => [.allocated o])).Ends w
      (.ok w.domain.nextObject) (w.withNew c) := .exchange _ w
  constructor
  · intro h
    obtain ⟨built, u, hconstruct, h⟩ := (h.rest allocates).of_bind_ok
    cases built with
    | error e =>
      cases h
      exact .native hconstruct
    | ok handle =>
      dsimp only [Run.runConstructor] at h
      split at h
      · cases h
      next body hbody =>
      obtain ⟨result, v', hrun, h⟩ := h.of_attempt_bind
      match result with
      | .error crash => cases h
      | .ok (.ok value) => cases h
      | .ok (.error e) =>
        cases h
        exact .managed hconstruct hbody hrun
  · rintro (⟨hfailed⟩ | ⟨hbuilt, hbody, hthrew⟩)
    · exact allocates.bind (hfailed.bind ((Process.Ends.change _ _).bind rfl))
    · refine allocates.bind (hbuilt.bind ?_)
      dsimp only [Run.runConstructor]
      rw [hbody]
      exact hthrew.attempt ((Process.Ends.change _ _).bind rfl)

/-! ## What is left

Two states to look at: the heap after a failed native construction, where the object is not,
and the heap after a failed constructor, where it is. -/

theorem World.Ordinary.within (h : w.Ordinary) : (World.rooting .tame mainThread).within w :=
  ⟨h.1, fun _ => h.2⟩

section Ordinary

variable (hord : ∀ q u, (Run.newObject (.nested m) mainThread c depth).course.Reaches
  (fun _ => True) v q u → u.Ordinary)

include hord

/-- Where making an object leads to ordinary states only, there is a number for the object. -/
theorem World.Ordinary.allocations_lt : v.allocations + 1 < 2 ^ 64 := by
  rw [← v.allocations_withNew c]
  exact (hord _ _ (.enter (.here trivial) rfl trivial)).1

/-- **A construction still has the root of its object when the constructor has thrown**, whatever
the hook and the constructor have done. -/
theorem Ledger.Balanced.bears_of_throws {births : ObjectId → FrameId} {u : World}
    {h : Option Handle} {body : MethodBody}
    (hb : (Ledger.mk v births).Balanced .tame mainThread)
    (hbuilt : (Run.construct (.nested m) mainThread c.fullName v.domain.nextObject).Ends
      (v.withNew c) (.ok (.ok h)) u)
    (hbody : c.constructor = some body)
    (hthrew : (Run.runBody (.nested m) mainThread c c.constructorFrame body
      (some v.domain.nextObject) [] depth).Ends u (.ok (.error e)) v') :
    ∃ births', (Ledger.mk v' births').Balanced .tame mainThread ∧
      Ledger.Bears v.domain.nextObject ⟨v, births⟩ ⟨v', births'⟩ := by
  have hrun := (Ledger.rooted .tame mainThread).keeps_nested m
  -- the parts of the run
  have hstart : (Run.newObject (.nested m) mainThread c depth).course.Meets (fun _ => True) v
      (Run.newObject (.nested m) mainThread c depth) v := .start _ trivial
  have hmeets := hstart.next (.exchange _ v)
  have hmeets' := hmeets.next hbuilt
  dsimp only [Run.runConstructor] at hmeets'
  rw [hbody] at hmeets'
  have hwithin : ∀ {β : Type} {p : Run β} {s : World},
      (Run.newObject (.nested m) mainThread c depth).course.Meets (fun _ => True) v p s →
      ∀ q w, p.course.Reaches (fun _ => True) s q w →
        (World.rooting .tame mainThread).within w := by
    intro β p s hm q w hq
    obtain ⟨r, hr⟩ := hm.reaches hq
    exact (hord r w hr).within
  -- the object is born, and neither the hook nor the constructor ends its construction
  have hbound := World.Ordinary.allocations_lt hord
  have hborn := hb.bears hbound c
  have hnew : (World.rooting .tame mainThread).inv (v.withNew c) (fun _ => ⟨v.withNew c, _⟩) :=
    ⟨rfl, hb.allocate c hbound (fun _ => (hord _ _ (.here trivial)).2)⟩
  obtain ⟨y, hy, hconstructed⟩ := hbuilt.keeps (hwithin hmeets.first) hnew
    (Ledger.follows_construct hrun _ _ nofun nofun)
  have hbuilding := hborn.returns (hconstructed.resolve_left (by simp)).2
  obtain ⟨z, hz, -, hran⟩ := hthrew.keeps (hwithin hmeets'.first.attempt) hy
    (by
      rw [Function.update_self]
      exact Ledger.follows_runBody hrun c _ body _ [] depth nofun)
  obtain ⟨rfl, hbalanced⟩ : z.world = v' ∧ z.Balanced .tame mainThread := by
    simpa [World.rooting] using hz
  exact ⟨z.births, hbalanced, hbuilding.returns (hran.resolve_left (by simp)).1⟩

/-- **Objects that are not made are gone, or garbage**, wherever a tame run makes an object and
gets an exception:
* where the native side could not be constructed, the object is not on the heap any more;
* where the constructor threw, the object is on the heap. Its construction owns nothing of it any
  more, and the next collection takes it, unless native code holds it or an active frame has got
  hold of it. -/
theorem failed_objects_are_garbage (hw : w.Fresh) (hd : w.domain.Opened)
    (hm : (code.course n mainThread).Meets World.Ordinary w
      (Run.newObject (.nested m) mainThread c depth) v)
    (hend : (Run.newObject (.nested m) mainThread c depth).Ends v (.ok (.error e)) v')
    (ho : o = v.domain.nextObject) :
    o ∉ v'.domain.allocating ∧
    ((∃ e' u, (Run.construct (.nested m) mainThread c.fullName o).Ends (v.withNew c)
        (.ok (.error e')) u) ∧ v'.domain.mark o = none ∨
      (∃ h u, (Run.construct (.nested m) mainThread c.fullName o).Ends (v.withNew c)
        (.ok (.ok h)) u) ∧ v'.domain.mark o = some false ∧
      (o ∈ v'.domain.takeGarbage.1.map Prod.fst ↔
        o ∉ v'.domain.held ∧ ∀ t ∈ v'.domain.frames, t.receiver ≠ some o ∧ o ∉ t.locals)) := by
  subst ho
  obtain ⟨k, hk⟩ := hm
  obtain ⟨births, hb⟩ := hw.tame_of_reaches hd hk
  have hk' := hk.trans ((hend.reaches.of_forall hord).after k)
  -- the construction is over, one way or another
  have hover : v.domain.nextObject ∉ v'.domain.allocating := by
    have hrun := (Ledger.rooted .tame mainThread).keeps_nested m
    have hinv : (World.rooting .tame mainThread).inv v (fun _ => ⟨v, births⟩) := ⟨rfl, hb⟩
    obtain ⟨y, hy, -, hreturns, -⟩ := hend.keeps (fun q u hq => (hord q u hq).within) hinv
      (Ledger.follows_newObject hrun c depth nofun)
    have hworld : y.world = v' := by simpa using hy.1
    rw [← hworld, hreturns.allocating]
    exact (hb.census.nextObject_fresh (World.Ordinary.allocations_lt hord)).2.2
  refine ⟨hover, ?_⟩
  cases newObject_throws_iff.1 hend with
  | @native u e' hfailed =>
    refine .inl ⟨⟨e', u, hfailed⟩, ?_⟩
    exact (Domain.mark_remove ..).trans (if_pos rfl)
  | @managed u z h body _ hbuilt hbody hthrew =>
    obtain ⟨births', hbz, hbears⟩ := hb.bears_of_throws hord hbuilt hbody hthrew
    obtain ⟨-, x, hx, hfin, -⟩ := hbz.secured _ hbears.mem
    have hmark : ((z.domain.unroot v.domain.nextObject).abandonAllocation
        v.domain.nextObject).mark v.domain.nextObject = some false := by
      refine (z.domain.mark_unroot ..).trans ?_
      rw [Domain.mark, hx, Option.map_some, hfin]
    refine .inr ⟨⟨h, u, hbuilt⟩, hmark, ?_⟩
    rw [collected_iff_unowned hw hd hk']
    exact ⟨fun h => ⟨h.2.1, h.2.2.2⟩, fun h => ⟨hmark, h.1, hover, h.2⟩⟩

end Ordinary

/-- A class whose constructor throws. -/
def stillborn : Class where
  scope := ""
  name := "T"
  constructor := some fun _ => .done (.error ⟨"System.Exception", "no", []⟩)

/-- Where the constructor has thrown. -/
def stillbornLeft : World :=
  ((Run.newInstance (.nested 1) mainThread stillborn).advance plainHost).2

example : stillbornLeft.domain.takeGarbage.1.map Prod.fst = [⟨1⟩] := by decide +kernel

end HostBridge
