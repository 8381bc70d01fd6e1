import HostBridge.Proofs.Bridge.Calls
import Mathlib.Data.Set.Card

/-!
# Handles and instances

The bridge leads from instances to handles and from handles to instances by two
tables, which it changes one at a time. Wherever code of a host that runs on one
thread gets to run, inside hooks and calls too, the two agree
(`identities_agree`): the live handles are the handles of the live instances, one
each, and it makes no difference by which of the two a destruction is asked for.

A line in the journal is what tells where code runs: all code may write one
wherever it is (`Course.AtNote`).

## Between two sections

Inside the bridge the tables do disagree. A construction lists its handle in one section and
declares the instance live in the next, and a destruction takes the handle out of one table
before it changes the record. A second thread can look in between, and then finds an instance
by one way that it does not find by the other.

A single thread cannot. Whenever its own code runs it has finished the section pairs that it
began, and no other thread has begun any. So the statement needs one thread, and it needs the
points at which code runs, but it does not need that the code behaves: hooks that call the
bridge again, fail or panic are all admitted.
-/

namespace HostBridge

variable {w w' : World} {own : ThreadId → Stakes} {h g : Handle} {o : ObjectId} {α : Type}

/-! ## Where code of a single thread runs

The stakes of all threads but one are empty, and that one owns no handle that is on its way. -/

/-- **Code is about to write a line to the journal.** -/
def Course.AtNote (q : Course World α) (w : World) : Prop :=
  ∃ ready effect next, q = .step ready effect next ∧ ready w = true ∧ w.Notes (effect w)

theorem World.Notes.constructions (hn : w.Notes w') : w'.constructions = w.constructions := by
  obtain ⟨line, hl⟩ := hn
  unfold World.constructions
  rw [hl]
  exact List.countP_cons_of_neg (by simp [Event.isIssue])

/-- **Where code of a single thread runs**, everything is accounted for, and no
handle is on its way in or out of the list. -/
theorem World.Fresh.presentable_of_reaches (hw : w.Fresh) {n : Nat} {code : NativeCode α}
    {q : Course World α}
    (hq : Course.Reaches (fun w => w.constructions < 2 ^ 64) (code.course n mainThread) w q w')
    (hn : q.AtNote w') : ∃ own, w'.Accounted own ∧ ∀ t, (own t).Presentable := by
  have idle : Stakes.Presentable (fun _ => {}) := fun _ => ⟨by simp, by simp, by simp⟩
  obtain ⟨y, hy, hf⟩ := hw.follows_of_reaches hq
  obtain ⟨ready, effect, next, rfl, hr, hl⟩ := hn
  have hwithin : (effect w').constructions < 2 ^ 64 := by
    rw [hl.constructions]
    exact hq.within
  obtain ⟨hd, -⟩ := hf w' _ hy (by rw [Function.update_self]) hq.within hr hwithin
  refine ⟨_, hy, fun t => ?_⟩
  by_cases ht : t = mainThread
  · subst ht
    rw [Function.update_self]
    exact hd hl
  · rw [Function.update_of_ne ht]
    exact idle

namespace World.Accounted

variable (hw : w.Accounted own) (hp : ∀ t, (own t).Presentable)

include hw

/-! ## Live handles

What is listed is live and what is live is listed, so that either table can be asked. -/

/-- What is live is listed, and the latest of its instance. -/
theorem of_live {r : Record} (hr : w.bridge.records.get? h = some r) (hl : r.lifecycle = .live) :
    h ∈ w.bridge.handles ∧ w.bridge.instances.get? r.object = some h := by
  obtain ⟨φ, hφ⟩ := hw.standing h
  have hlive : φ = .live ∨ φ = .pending := by
    refine Phase.of_live ?_
    rw [← hφ.shows.lifecycle, ← hl]
    show (w.bridge.records.get? h).map _ = _
    rw [hr]
    rfl
  have hshow : φ.outline.listed = true ∧ φ.outline.current = true := by
    obtain rfl | rfl := hlive <;> exact ⟨rfl, rfl⟩
  have hc : w.isCurrent h = true := hφ.shows.current hshow.2
  rw [isCurrent_eq, hr] at hc
  exact ⟨List.contains_iff_mem.1 (hφ.shows.listed.trans hshow.1), by simpa using hc⟩

include hp in
/-- Where code runs, what is listed is live. -/
theorem of_listed (hm : h ∈ w.bridge.handles) :
    ∃ r, w.bridge.records.get? h = some r ∧ r.lifecycle = .live := by
  obtain ⟨φ, hφ⟩ := hw.standing h
  have hlisted : φ.outline.listed = true :=
    hφ.shows.listed.symm.trans (List.contains_iff_mem.2 hm)
  have hlive : φ.outline.lifecycle = some .live := by
    cases φ with
    | held t k =>
      -- a thread that holds a listed handle is not where code runs
      have hk : (own t h).work = some k := (hφ.work t).trans (if_pos rfl)
      have := hp t h
      rw [hk] at this
      cases k <;> simp at this hlisted
    | live => rfl
    | pending => rfl
    | _ => cases hlisted
  exact hφ.shows.exists_record hlive

include hp in
theorem objectOf_eq_ok (hm : h ∈ w.bridge.handles) :
    ∃ r, w.bridge.records.get? h = some r ∧ r.lifecycle = .live ∧
      w.bridge.objectOf h = .ok r.object := by
  obtain ⟨r, hr, hl⟩ := hw.of_listed hp hm
  refine ⟨r, hr, hl, ?_⟩
  unfold Bridge.objectOf Bridge.listed?
  rw [if_pos (List.contains_iff_mem.2 hm), hr]

end World.Accounted

namespace Bridge

variable {b : Bridge}

/-- **Calls are admitted** on what is behind a handle: it is live, and no destruction of it
is scheduled. -/
def Admits (b : Bridge) (h : Handle) : Prop :=
  ∃ r, b.records.get? h = some r ∧ r.isOpen = true

theorem of_handleOf (hh : b.handleOf o = .ok h) : b.find? o = some h ∧ b.Admits h := by
  unfold handleOf at hh
  cases hf : b.find? o with
  | none =>
    rw [hf] at hh
    cases hh
  | some g =>
    rw [hf] at hh
    dsimp only at hh
    unfold openHandle at hh
    cases hr : b.records.get? g with
    | none =>
      rw [hr] at hh
      cases hh
    | some r =>
      rw [hr] at hh
      dsimp only at hh
      split at hh
      · next ho =>
        obtain rfl := Except.ok.inj hh
        exact ⟨rfl, r, hr, ho⟩
      · cases hh

end Bridge

theorem Bridge.mem_of_objectOf {b : Bridge} (ho : b.objectOf h = .ok o) : h ∈ b.handles := by
  unfold Bridge.objectOf Bridge.listed? at ho
  by_contra hm
  rw [if_neg (fun hc => hm (List.contains_iff_mem.1 hc))] at ho
  cases ho

namespace World.Accounted

variable (hw : w.Accounted own) (hp : ∀ t, (own t).Presentable)

include hw

/-- A handle that is given out for an instance leads back to it. -/
theorem objectOf_of_handleOf (hh : w.bridge.handleOf o = .ok h) : w.bridge.objectOf h = .ok o := by
  obtain ⟨hf, r, hr, ho⟩ := Bridge.of_handleOf hh
  have hl : r.lifecycle = .live := by
    simp only [Record.isOpen, Bool.and_eq_true, decide_eq_true_eq] at ho
    exact ho.1
  have hob : r.object = o := by
    have := hw.owner o h hf
    rw [hr] at this
    exact Option.some.inj this
  unfold Bridge.objectOf Bridge.listed?
  rw [if_pos (List.contains_iff_mem.2 (hw.of_live hr hl).1), hr, ← hob]

include hp

/-- **The handle of an instance is the latest that the instance was given.** -/
theorem find?_of_objectOf (ho : w.bridge.objectOf h = .ok o) : w.bridge.find? o = some h := by
  obtain ⟨r, hr, hl, hob⟩ := hw.objectOf_eq_ok hp (Bridge.mem_of_objectOf ho)
  obtain rfl := Except.ok.inj (ho.symm.trans hob)
  exact (hw.of_live hr hl).2

/-- **The live instances are those of the live handles.** -/
theorem state_eq_live_iff : w.bridge.state o = .live ↔ ∃ h, w.bridge.objectOf h = .ok o := by
  constructor
  · intro hs
    unfold Bridge.state at hs
    cases hf : w.bridge.find? o with
    | none =>
      rw [hf] at hs
      cases hs
    | some h =>
      cases hr : w.bridge.records.get? h with
      | none =>
        simp [hf, Bridge.lifecycleAt, hr] at hs
      | some r =>
        have hl : r.lifecycle = .live := by simpa [hf, Bridge.lifecycleAt, hr] using hs
        obtain ⟨r', hr', -, hob⟩ := hw.objectOf_eq_ok hp (hw.of_live hr hl).1
        obtain rfl := Option.some.inj (hr.symm.trans hr')
        have ho : r.object = o := by
          have := hw.owner o h hf
          rw [hr] at this
          exact Option.some.inj this
        exact ⟨h, ho ▸ hob⟩
  · rintro ⟨h, ho⟩
    obtain ⟨r, hr, hl, -⟩ := hw.objectOf_eq_ok hp (Bridge.mem_of_objectOf ho)
    unfold Bridge.state
    rw [hw.find?_of_objectOf hp ho]
    simpa [Bridge.lifecycleAt, hr] using hl

theorem liveCount_eq : w.bridge.liveCount = {o | w.bridge.state o = .live}.ncard := by
  have hcount : (w.bridge.handles.toFinset : Set Handle).ncard = w.bridge.liveCount := by
    rw [Set.ncard_coe_finset, List.toFinset_card_of_nodup hw.handles]
    rfl
  rw [← hcount]
  have hok : ∀ h ∈ (w.bridge.handles.toFinset : Set Handle), ∃ o, w.bridge.objectOf h = .ok o :=
    fun h hm =>
      have ⟨r, _, _, hob⟩ := hw.objectOf_eq_ok hp (h := h) (by simpa using hm)
      ⟨r.object, hob⟩
  refine Set.ncard_congr (fun h hm => (hok h hm).choose) (fun h hm => ?_)
    (fun g h hg hh he => ?_) (fun o ho => ?_)
  · exact (hw.state_eq_live_iff hp).2 ⟨h, (hok h hm).choose_spec⟩
  · have hg' := hw.find?_of_objectOf hp (hok g hg).choose_spec
    have hh' := hw.find?_of_objectOf hp (hok h hh).choose_spec
    rw [he] at hg'
    exact Option.some.inj (hg'.symm.trans hh')
  · obtain ⟨h, hob⟩ := (hw.state_eq_live_iff hp).1 ho
    have hm : h ∈ (w.bridge.handles.toFinset : Set Handle) := by
      simpa using Bridge.mem_of_objectOf hob
    exact ⟨h, hm, Except.ok.inj ((hok h hm).choose_spec.symm.trans hob)⟩

/-- **By its handle or by its instance**: a destruction asked for is the same. -/
theorem release_eq_destroy (ho : w.bridge.objectOf h = .ok o) (run : Runner) (me : ThreadId) :
    (Run.release run me h).advance w = (Run.destroy run me o).advance w := by
  have hf := hw.find?_of_objectOf hp ho
  obtain ⟨r, hr, hl, -⟩ := hw.objectOf_eq_ok hp (Bridge.mem_of_objectOf ho)
  have hs : w.bridge.listed? h = some r := by
    unfold Bridge.listed?
    rw [if_pos (List.contains_iff_mem.2 (Bridge.mem_of_objectOf ho)), hr]
  have hrelease : (Run.release run me h).advance w = (Run.destroyRecord run me h).advance w := by
    refine (Process.advance_ask_bind _ _ w).trans ?_
    dsimp only
    rw [hs]
  have hdestroy : (Run.destroy run me o).advance w = (Run.destroyRecord run me h).advance w := by
    refine (Process.advance_ask_bind _ _ w).trans ?_
    dsimp only
    rw [hf]
  rw [hrelease, hdestroy]

end World.Accounted

/-! ## The two tables agree -/

/-- The handle that code is given for an instance. -/
theorem advance_handleOf (w : World) (o : ObjectId) :
    (Run.handleOf o).advance w = (.done (w.bridge.handleOf o), w) := by
  refine (Process.advance_ask_bind _ _ w).trans ?_
  dsimp only
  unfold Bridge.handleOf
  cases w.bridge.find? o <;> rfl

/-- **Handles and instances agree** wherever code runs on the only thread of a host,
from its start on:
* the handle that is given out for an instance leads back to the instance;
* a live handle belongs to an instance, and an instance has one live handle at
  most;
* there are as many live handles as live instances;
* whether a destruction is asked for by the live handle of an instance or by the
  instance makes no difference, neither to the answer nor to what becomes of the
  host. -/
theorem identities_agree {w : World} (hw : w.Fresh) (n : Nat) (code : NativeCode α)
    {q : Course World α} {w' : World}
    (hq : Course.Reaches (fun w => w.constructions < 2 ^ 64) (code.course n mainThread) w q w')
    (hn : q.AtNote w') :
    (∀ o h, w'.bridge.handleOf o = .ok h → w'.bridge.objectOf h = .ok o) ∧
    (∀ h ∈ w'.bridge.handles, ∃! o, w'.bridge.objectOf h = .ok o) ∧
    (∀ g h o, w'.bridge.objectOf g = .ok o → w'.bridge.objectOf h = .ok o → g = h) ∧
    w'.bridge.liveCount = {o | w'.bridge.state o = .live}.ncard ∧
    (∀ o h, w'.bridge.objectOf h = .ok o → ∀ run me,
      (Run.release run me h).advance w' = (Run.destroy run me o).advance w') := by
  obtain ⟨own, hown, hp⟩ := hw.presentable_of_reaches hq hn
  refine ⟨fun o h hh => hown.objectOf_of_handleOf hh, fun h hm => ?_, fun g h o hg hh => ?_,
    hown.liveCount_eq hp, fun o h ho run me => hown.release_eq_destroy hp ho run me⟩
  · obtain ⟨r, -, -, hob⟩ := hown.objectOf_eq_ok hp hm
    exact ⟨r.object, hob, fun o ho => Except.ok.inj (ho.symm.trans hob)⟩
  · have hg' := hown.find?_of_objectOf hp hg
    exact Option.some.inj (hg'.symm.trans (hown.find?_of_objectOf hp hh))

/-- Where code has constructed an instance and is about to say so. -/
def built : Course World Unit × World :=
  ((NativeCode.course (do
    let _ ← NativeCode.op (.construct "T" ⟨1⟩)
    NativeCode.note "built") 1 mainThread).play (fun w => w.constructions < 2 ^ 64) 7
      plainHost).get (by decide +kernel)

theorem identities_agree_built : built.2.bridge.objectOf ⟨1⟩ = .ok ⟨1⟩ ∧
    {o | built.2.bridge.state o = .live}.ncard = 1 := by
  have hreach : Course.Reaches _ _ plainHost built.1 built.2 :=
    (Course.Reaches.here (by decide)).play (Option.some_get _).symm
  have hnote : built.1.AtNote built.2 := ⟨_, _, _, rfl, rfl, "built", rfl⟩
  have hlive : built.2.bridge.liveCount = 1 := by decide +kernel
  have := identities_agree plainHost_fresh 1 _ hreach hnote
  refine ⟨this.1 ⟨1⟩ ⟨1⟩ rfl, ?_⟩
  rw [← this.2.2.2.1, hlive]

end HostBridge
