import HostBridge.Proofs.Domain.Lasting
import HostBridge.Proofs.Domain.Roots

/-!
# What keeps an object on the heap

An object stays on the heap as long as it has an owner (`owned_objects_stay`): native code that
holds it, or a frame that has it as its receiver or among its locals. Nobody else counts. In a
tame run, a collection takes exactly what has no owner (`collected_iff_unowned`).

The objects among the arguments of a frame are not among its locals, and neither are those that
a call of a native member returns to it (`callExtern_keeps_nothing`). So a collection may free
them while the frame is active, unless somebody else owns them
(`argument_freed_while_active`, `result_freed_while_active`).

The two directions need different assumptions. That a collection takes only what has no owner
holds wherever the roots are known to cover the owners, and so whatever panics from there on.
That it takes all of it needs the count to be exact, and an exact count is lost with the first
panic. The point at which an object is first known to have an owner must therefore belong to a
tame run, and what comes after it may be anything.
-/

namespace HostBridge

variable {w w' w'' v v' : World} {o : ObjectId} {n : Nat} {α : Type}

namespace Domain

variable {d : Domain}

/-- Nobody owns an object that is not held, not under construction and with no frame. -/
theorem owners_eq_zero_iff : d.owners o = 0 ↔ o ∉ d.held ∧ o ∉ d.allocating ∧
    ∀ t ∈ d.frames, t.receiver ≠ some o ∧ o ∉ t.locals := by
  refine ⟨owners_eq_zero, fun ⟨hheld, halloc, hframes⟩ => ?_⟩
  have hclaims : ∀ k ∈ d.frames.map (·.claims o), k = 0 := by
    intro k hk
    obtain ⟨t, ht, rfl⟩ := List.mem_map.1 hk
    obtain ⟨hrec, hloc⟩ := hframes t ht
    rw [Frame.claims, if_neg hrec, List.count_eq_zero.2 hloc]
  simp [owners, List.sum_eq_zero hclaims, List.count_eq_zero.2 hheld,
    List.count_eq_zero.2 halloc]

/-- Where roots are owners, they cover them. -/
theorem Exact.covers (hd : d.Exact) (ha : o ∉ d.allocating) (ho : d.mark o = some false) :
    d.Covers o 0 := by
  obtain ⟨x, hx, hfin⟩ := Option.map_eq_some_iff.1 ho
  exact ⟨ha, x, hx, hfin, (hd o x hx).ge⟩

theorem Covers.mark {k : Nat} (h : d.Covers o k) : d.mark o = some false := by
  obtain ⟨-, x, hx, hfin, -⟩ := h
  rw [Domain.mark, hx, Option.map_some, hfin]

/-- **A collection takes what has no owner**, where roots are owners. -/
theorem Exact.mem_takeGarbage (hd : d.Exact) (ho : ∀ n l, (d.sweepOrder n l).Perm l) :
    o ∈ d.takeGarbage.1.map Prod.fst ↔ d.mark o = some false ∧ d.owners o = 0 := by
  constructor
  · intro hm
    obtain ⟨⟨p, c⟩, he, rfl⟩ := List.mem_map.1 hm
    obtain ⟨x, hx, hr, hfin, -⟩ := (Domain.mem_takeGarbage ho).1 he
    exact ⟨by rw [mark, hx, Option.map_some, hfin], (hd p x hx).symm.trans hr⟩
  · rintro ⟨hmark, howners⟩
    obtain ⟨x, hx, hfin⟩ := Option.map_eq_some_iff.1 hmark
    exact List.mem_map.2 ⟨(o, x.cls),
      (Domain.mem_takeGarbage ho).2 ⟨x, hx, (hd o x hx).trans howners, hfin, rfl⟩, rfl⟩

end Domain

/-- A host that starts has numbered all of its objects. -/
theorem World.Fresh.numbered (hw : w.Fresh) (hd : w.domain.Opened) : w.Numbered :=
  have hc := hd.census hw.history
  ⟨hc.numbered, hc.heap, hc.order⟩

/-- The books of a tame run are in order. -/
theorem World.Fresh.tame_of_reaches (hw : w.Fresh) (hd : w.domain.Opened) {code : NativeCode α}
    {q : Course World α} (hq : (code.course n mainThread).Reaches World.Ordinary w q v) :
    ∃ births, (Ledger.mk v births).Balanced .tame mainThread := by
  have hall : ∀ op, Regime.tame.Permits op := fun _ => trivial
  obtain ⟨births, hb, -⟩ := hw.balanced_of_reaches hd (w.registry.asks_of_forall hall)
    (fun h => by cases h) (code.asks_of_forall hall) (hq.mono (fun _ hv => ⟨hv.1, fun _ => hv.2⟩))
  exact ⟨births, hb⟩

/-! ## Owners

What a collection takes, and what stays, put in terms of holders and frames. -/

/-- **A collection takes exactly what nobody owns**, wherever a tame run comes to it: what
native code does not hold, what is not under construction, and what no active frame has as its
receiver or among its locals. -/
theorem collected_iff_unowned (hw : w.Fresh) (hd : w.domain.Opened) {code : NativeCode α}
    {q : Course World α} (hq : (code.course n mainThread).Reaches World.Ordinary w q v) :
    o ∈ v.domain.takeGarbage.1.map Prod.fst ↔ v.domain.mark o = some false ∧
      o ∉ v.domain.held ∧ o ∉ v.domain.allocating ∧
        ∀ t ∈ v.domain.frames, t.receiver ≠ some o ∧ o ∉ t.locals := by
  obtain ⟨births, hb⟩ := hw.tame_of_reaches hd hq
  rw [(hb.exact rfl).mem_takeGarbage hb.census.order, Domain.owners_eq_zero_iff]

/-- **What has an owner stays on the heap**, from any point of a tame run on, whatever panics and
whatever is collected after that point. -/
theorem owned_objects_stay (hw : w.Fresh) (hd : w.domain.Opened) {code : NativeCode α}
    {q r : Course World α} (hq : (code.course n mainThread).Reaches World.Ordinary w q v)
    (ha : o ∉ v.domain.allocating) (hmark : v.domain.mark o = some false)
    (hr : q.Reaches (fun u => u.Numerable ∧ 0 < u.domain.owners o) v r v') :
    v'.domain.mark o = some false ∧ o ∉ v'.domain.takeGarbage.1.map Prod.fst := by
  obtain ⟨births, hb⟩ := hw.tame_of_reaches hd hq
  have hnum := hw.numbered hd
  have hq' : (code.course n mainThread).Reaches World.Numerable w q v :=
    hq.mono (fun _ hu => hu.1)
  have hcovers := hnum.covers_of_reaches hq' ((hb.exact rfl).covers ha hmark) hr
  have hv' := hnum.of_reaches (hq'.trans (hr.mono (fun _ hu => hu.1)))
  exact ⟨hcovers.mark, hcovers.not_mem_takeGarbage hr.within.2 hv'.order⟩

/-- **What a frame keeps stays on the heap until it ends**: its receiver, and all that is among
its locals. -/
theorem frame_keeps_objects (hw : w.Fresh) (hd : w.domain.Opened) {code : NativeCode α}
    {q r : Course World α} (hq : (code.course n mainThread).Reaches World.Ordinary w q v)
    (ha : o ∉ v.domain.allocating) (hmark : v.domain.mark o = some false) {f : FrameId}
    (hr : q.Reaches (fun u => u.Numerable ∧
      ∃ t ∈ u.domain.frames, t.id = f ∧ (t.receiver = some o ∨ o ∈ t.locals)) v r v') :
    v'.domain.mark o = some false ∧ o ∉ v'.domain.takeGarbage.1.map Prod.fst := by
  refine owned_objects_stay hw hd hq ha hmark (hr.mono ?_)
  rintro u ⟨hu, t, ht, -, hkeeps⟩
  refine ⟨hu, Nat.pos_of_ne_zero (fun hzero => ?_)⟩
  obtain ⟨-, -, hframes⟩ := Domain.owners_eq_zero_iff.1 hzero
  obtain ⟨hrec, hloc⟩ := hframes t ht
  exact hkeeps.elim hrec hloc

/-- **A call of a native member gives its result no owner**: when it has ended, the frames are as
they were, so is what is under construction, and native code holds no more than it did of what
was there before. -/
theorem callExtern_keeps_nothing (hw : w.Fresh) (hd : w.domain.Opened) {code : NativeCode α}
    {m : Nat} {member : Member} {receiver : Option ObjectId} {args : List ManagedValue}
    {result : Except ManagedException ManagedValue}
    (hm : (code.course n mainThread).Meets World.Ordinary w
      (Run.callExtern (.nested m) mainThread member receiver args) v)
    (he : (Run.callExtern (.nested m) mainThread member receiver args).course.Reaches
      World.Ordinary v (.done result) v') :
    v'.domain.frames = v.domain.frames ∧ v'.domain.allocating = v.domain.allocating ∧
      ∀ o, o.number.toNat ≤ v.allocations → v'.domain.owners o ≤ v.domain.owners o := by
  obtain ⟨k, hk⟩ := hm
  obtain ⟨births, hb⟩ := hw.tame_of_reaches hd hk
  have hrooted := Ledger.rooted .tame mainThread
  have hkeeps := hrooted.toBridged.callExtern (hrooted.keeps_nested m) member receiver args
  have hinv : (World.rooting .tame mainThread).inv v (fun _ => ⟨v, births⟩) := ⟨rfl, hb⟩
  obtain ⟨y, ⟨hy, -⟩, hpost⟩ := Course.Reaches.keeps
    (he.mono (fun _ hu => ⟨hu.1, fun _ => hu.2⟩)) hinv (hkeeps _ ⟨nofun, .refl _, rfl⟩)
  rw [Function.update_self] at hy
  subst hy
  have hrel : (Ledger.native .tame).rel ⟨v, births⟩ y := Or.resolve_left hpost (by simp)
  obtain ⟨-, hreturns, hframes⟩ := hrel
  refine ⟨hframes, hreturns.allocating, fun o ho => ?_⟩
  have hheld := hreturns.world.held o ho
  simp only [Domain.owners] at hheld ⊢
  rw [hframes, hreturns.allocating]
  exact Nat.add_le_add_right (Nat.add_le_add_right hheld _) _

/-! ## Objects that go while a frame knows them

A frame knows what it was passed and what its calls returned, and keeps only some of that. Two
bodies collect before they are done with an object. -/

/-- A class with a native side. -/
def token : Class where
  scope := ""
  name := "T"

namespace Careless

/-- Asks a native member for an object, and collects. -/
def keepBody : MethodBody := fun _ =>
  .perform (.callStaticExtern "Host" "Make" []) fun _ => .perform .collect fun _ =>
    .done (.ok .void)

/-- Collects, whatever it was given. -/
def holdBody : MethodBody := fun _ => .perform .collect fun _ => .done (.ok .void)

/-- A class whose methods collect before they are done with an object. -/
def cls : Class where
  scope := ""
  name := "Host"
  methods := [
    ⟨"Keep", .nullary, .static, keepBody⟩, ⟨"Hold", ⟨[.object], .void⟩, .static, holdBody⟩]
  externs := [⟨"Make", ⟨[], .object⟩, .static⟩]

/-- The host. The native member returns the first instance. -/
def host : World :=
  .start (Registry.empty.addAll [
    .type "T" { construct := fun _ => .done (.ok ⟨.nothing, ()⟩), destroy := fun _ _ => .done () },
    .member ⟨"Host", "Make", ⟨[], .object⟩, .static⟩
      (.ofRaw [] .object fun _ => .done (.ok (.object ⟨1⟩)))]).2
    .empty "host" 8

/-- Native code makes an object and lets go of it. -/
def dropping : NativeCode Bool := do
  let _ ← NativeCode.op (.provide ⟨"A", [token, cls]⟩)
  let _ ← NativeCode.op (.load "A")
  let _ ← NativeCode.op (.newInstance token)
  NativeCode.op (.dropInstance ⟨1⟩)

/-- Where the object has been let go of. -/
def dropped : World := ((Run.runNative (.nested 2) mainThread dropping).advance host).2

/-- After that, native code enters a method. -/
def entering (name : String) (args : List BoundaryValue) : NativeCode Unit := do
  let _ ← dropping
  let _ ← NativeCode.op (.enter ⟨"Host", name, args.length⟩ none args)
  return

theorem entering_meets (name : String) (args : List BoundaryValue) :
    ((entering name args).course 2 mainThread).Meets (fun _ => True) host
      (Run.callManaged (.nested 2) mainThread ⟨"Host", name, args.length⟩ none args) dropped := by
  have drop : (Run.runNative (.nested 2) mainThread dropping).Ends host (.ok true) dropped := rfl
  have start : ((entering name args).course 2 mainThread).Meets (fun _ => True) host
      (Run.runNative (.nested 2) mainThread (entering name args)) host := .start _ trivial
  unfold entering at start
  rw [Run.runNative_bind] at start
  exact (start.next drop).first.first.attempt

/-- Where the frame of a method is open. -/
def entered (name : String) (xs : List ManagedValue) : World :=
  (dropped.onDomain (dropped.domain.openFrame ("Host::" ++ name) none).2).record
    (.body ("Host::" ++ name) none xs)

/-- The frame. -/
def frameOf (name : String) (xs : List ManagedValue) : Context :=
  ⟨cls, 0, 0, ⟨"Host::" ++ name, none, xs⟩⟩

/-- The method runs in its frame. -/
theorem entering_runs (name : String) {args : List BoundaryValue} {xs : List ManagedValue}
    (m : Method) (hargs : (Run.unmarshalAll args).Ends dropped (.ok (.ok xs)) dropped)
    (hm : (cls.findMethod? name xs.length).filter (Run.takes · none) = some m)
    (hfit : Run.checkArguments ("Host::" ++ name) m.signature xs = .ok ()) :
    ((entering name args).course 2 mainThread).Meets (fun _ => True) host
      (Run.runManaged (.nested 1) mainThread (frameOf name xs)
        (m.body (frameOf name xs).activation)) (entered name xs) := by
  have find : (Run.askDomain (·.findClass? "Host")).Ends dropped (.ok (some cls)) dropped := rfl
  have limit : (Run.askDomain Domain.maxCallDepth).Ends dropped (.ok 8) dropped := rfl
  have frame : (Run.onDomain (·.openFrame ("Host::" ++ name) none)).Ends dropped (.ok 0)
      (dropped.onDomain (dropped.domain.openFrame ("Host::" ++ name) none).2) := rfl
  have hname : cls.fullName ++ "::" ++ name = "Host::" ++ name := rfl
  have call := (((entering_meets name args).next find).next hargs).first
  unfold Run.runMethod at call
  rw [hname, hm] at call
  dsimp only at call
  rw [hfit] at call
  exact (((call.first.next limit).next frame).next (.change _ _)).first.attempt

/-- The method that is given the object. -/
def holding : Run (Except ManagedException ManagedValue) :=
  Run.runManaged (.nested 1) mainThread (frameOf "Hold" [.object ⟨1⟩])
    (holdBody (frameOf "Hold" [.object ⟨1⟩]).activation)

/-- Where its collection has freed the object. -/
def freed : Course World (Except ManagedException ManagedValue) × World :=
  (holding.course.play World.Ordinary 13 (entered "Hold" [.object ⟨1⟩])).get (by decide +kernel)

/-- The other method asks the native member for the object. -/
def asking : Run (Except ManagedException ManagedValue) :=
  Run.managedReply (.nested 1) mainThread (frameOf "Keep" []) (.callStaticExtern "Host" "Make" [])

/-- Where the native member has returned it. -/
def returned : World := (asking.advance (entered "Keep" [])).2

/-- What the method does then. -/
def keeping : Run (Except ManagedException ManagedValue) :=
  Run.runManaged (.nested 1) mainThread (frameOf "Keep" [])
    (.perform .collect fun _ => .done (.ok .void))

/-- Where its collection has freed the object. -/
def lost : Course World (Except ManagedException ManagedValue) × World :=
  (keeping.course.play World.Ordinary 13 returned).get (by decide +kernel)

end Careless

open Careless in
/-- **An argument may be freed while the frame is active** that was given it, be the run as tame
as can be. -/
theorem argument_freed_while_active : ¬∀ (n m : Nat) (code : NativeCode Unit) (x : Context)
    (body : MethodBody) (v v' : World) (r : Course World (Except ManagedException ManagedValue))
    (o : ObjectId),
    (code.course n mainThread).Meets World.Ordinary host
      (Run.runManaged (.nested m) mainThread x (body x.activation)) v →
    (Run.runManaged (.nested m) mainThread x (body x.activation)).course.Reaches World.Ordinary
      v r v' →
    .object o ∈ x.activation.args → v.domain.heap.get? o ≠ none →
      v'.domain.heap.get? o ≠ none := by
  intro h
  have hordinary : ((entering "Hold" [.object ⟨1⟩]).course 2 mainThread).Always World.Ordinary
      host := by
    decide +kernel
  have hargs : (Run.unmarshalAll [.object ⟨1⟩]).Ends dropped (.ok (.ok [.object ⟨1⟩])) dropped :=
    rfl
  obtain ⟨k, hk⟩ := entering_runs "Hold" ⟨"Hold", ⟨[.object], .void⟩, .static, holdBody⟩ hargs
    rfl rfl
  have hmeets := hk.of_forall (fun _ v hv => (hv.always hordinary).here)
  have hreach : holding.course.Reaches World.Ordinary (entered "Hold" [.object ⟨1⟩])
      freed.1 freed.2 :=
    (Course.Reaches.here hmeets.within).play (Option.some_get _).symm
  have hthere : ((entered "Hold" [.object ⟨1⟩]).domain.heap.get? ⟨1⟩).isSome = true := by
    decide +kernel
  have hgone : (freed.2.domain.heap.get? ⟨1⟩).isSome = false := by decide +kernel
  have hkept := h 2 1 _ _ holdBody _ _ _ ⟨1⟩ ⟨k, hmeets⟩ hreach (List.mem_singleton_self _)
    (Option.isSome_iff_ne_none.1 hthere)
  rw [Option.isSome_iff_ne_none.2 hkept] at hgone
  cases hgone

open Careless in
/-- **What a native member has returned may be freed while the frame is active** that called
it. -/
theorem result_freed_while_active : ¬∀ (n m : Nat) (code : NativeCode Unit) (x : Context)
    (typeName name : String) (args : List ManagedValue)
    (next : Except ManagedException ManagedValue →
      ManagedCode (Except ManagedException ManagedValue))
    (v u v' : World) (r : Course World (Except ManagedException ManagedValue)) (o : ObjectId),
    (code.course n mainThread).Meets World.Ordinary host
      (Run.runManaged (.nested m) mainThread x
        (.perform (.callStaticExtern typeName name args) next)) v →
    (Run.managedReply (.nested m) mainThread x (.callStaticExtern typeName name args)).Ends v
      (.ok (.ok (.object o))) u →
    (Run.runManaged (.nested m) mainThread x (next (.ok (.object o)))).course.Reaches
      World.Ordinary u r v' →
    u.domain.heap.get? o ≠ none → v'.domain.heap.get? o ≠ none := by
  intro h
  have hordinary : ((entering "Keep" []).course 2 mainThread).Always World.Ordinary host := by
    decide +kernel
  have hargs : (Run.unmarshalAll []).Ends dropped (.ok (.ok [])) dropped := rfl
  obtain ⟨k, hk⟩ := entering_runs "Keep" ⟨"Keep", .nullary, .static, keepBody⟩ hargs rfl rfl
  have hmeets := hk.of_forall (fun _ v hv => (hv.always hordinary).here)
  have hreach : keeping.course.Reaches World.Ordinary returned lost.1 lost.2 :=
    (Course.Reaches.here (by decide +kernel)).play (Option.some_get _).symm
  have hthere : (returned.domain.heap.get? ⟨1⟩).isSome = true := by decide +kernel
  have hgone : (lost.2.domain.heap.get? ⟨1⟩).isSome = false := by decide +kernel
  have hkept := h 2 1 _ _ _ _ _ _ _ returned _ _ ⟨1⟩ ⟨k, hmeets⟩ rfl hreach
    (Option.isSome_iff_ne_none.1 hthere)
  rw [Option.isSome_iff_ne_none.2 hkept] at hgone
  cases hgone

end HostBridge
