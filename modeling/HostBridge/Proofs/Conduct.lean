import HostBridge.Proofs.Discipline

/-!
# Conduct

How processes follow a discipline, operation by operation: a sequence follows
when its second part follows wherever the first one ends (`Process.Follows.bind`),
and a section follows when it keeps the invariant (`Process.Follows.exchangeWhen`
and its kin).

Most code leaves the stake of its thread as it found it, up to a relation: its
**conduct**. `Process.Keeps` says so of a process from every stake, and is closed
under all that processes are built with. The end of a run that was nested too
deeply is exempt, because nothing runs after it.

There are three degrees. A process that **follows** is known from one stake, with
a condition on its end that may be any. One that **keeps** a conduct is known
from every stake code may run with, and may panic. One that **settles** keeps the
conduct and does not panic, which is what the operations of the bridge do: they
stop the panics of the code they enter. The difference matters where a clean-up
stands behind a call that may panic, since it is only done if there is none.
-/

namespace HostBridge

variable {σ τ α β : Type} {D : Discipline σ τ} {me : ThreadId}

namespace Process

/-- **A process follows a discipline** when its course does. -/
def Follows (D : Discipline σ τ) (me : ThreadId) (post : Except Crash α → τ → Prop)
    (p : Process σ α) (x : τ) : Prop :=
  p.course.Follows D me post x

/-- What has to hold at the end of a process that `f` follows. -/
def Leading (D : Discipline σ τ) (me : ThreadId) (f : α → Process σ β)
    (post : Except Crash β → τ → Prop) : Except Crash α → τ → Prop
  | .ok a, y => (f a).Follows D me post y
  | .error c, y => post (.error c) y

namespace Follows

variable {x : τ} {post : Except Crash β → τ → Prop}

/-- A process that follows may be said to end with less. -/
theorem mono {p : Process σ β} {post' : Except Crash β → τ → Prop}
    (hp : p.Follows D me post x) (h : ∀ r y, post r y → post' r y) :
    p.Follows D me post' x :=
  Course.Follows.mono h hp

theorem pure {b : β} (h : post (.ok b) x) : (pure b : Process σ β).Follows D me post x := h

theorem crash {c : Crash} (h : post (.error c) x) :
    (crash c : Process σ β).Follows D me post x := h

/-- **A sequence follows** if its first part does, to an end from which the second follows. -/
theorem bind {p : Process σ α} {f : α → Process σ β}
    (hp : p.Follows D me (Leading D me f post) x) : (p >>= f).Follows D me post x := by
  unfold Follows
  rw [course_bind]
  refine Course.Follows.after (Course.Follows.mono (fun r y h => ?_) hp)
  cases r with
  | ok a => exact h
  | error c => exact h

/-- **An attempt follows** if what comes after it does, from the end that the attempt comes to.
-/
theorem attempt {p : Process σ α} {k : Except Crash α → Process σ β}
    (hp : p.Follows D me (fun r y => (k r).Follows D me post y) x) :
    (p.attempt >>= k).Follows D me post x := by
  refine bind ?_
  unfold Follows
  rw [course_attempt]
  exact Course.Follows.after hp

/-! ### Sections

Each of these has the section and what comes after it in one, because the stake
of the thread changes in the section and the rest has to follow from the new
one. The invariant and the stake are what is known when the section is entered;
the demand and a stake with which the invariant holds again are what is owed. -/

/-- **A section is followed** by showing what it demands, and by a stake with which the
invariant holds after it. -/
theorem exchangeWhen {ready : σ → Bool} {f : σ → α × σ} {k : α → Process σ β}
    (h : ∀ s own, D.inv s own → own me = x → D.within s → ready s = true → D.within (f s).2 →
      D.demand s (f s).2 x ∧
        ∃ y, D.inv (f s).2 (Function.update own me y) ∧ (k (f s).1).Follows D me post y) :
    (Process.exchangeWhen ready f >>= k).Follows D me post x := by
  unfold Follows
  rw [course_bind]
  exact h

theorem exchange {f : σ → α × σ} {k : α → Process σ β}
    (h : ∀ s own, D.inv s own → own me = x → D.within s → D.within (f s).2 →
      D.demand s (f s).2 x ∧
        ∃ y, D.inv (f s).2 (Function.update own me y) ∧ (k (f s).1).Follows D me post y) :
    (Process.exchange f >>= k).Follows D me post x :=
  exchangeWhen (fun s own hinv hx hs _ hs' => h s own hinv hx hs hs')

theorem change {f : σ → σ} {k : Unit → Process σ β}
    (h : ∀ s own, D.inv s own → own me = x → D.within s → D.within (f s) →
      D.demand s (f s) x ∧
        ∃ y, D.inv (f s) (Function.update own me y) ∧ (k ()).Follows D me post y) :
    (Process.change f >>= k).Follows D me post x := by
  unfold Follows
  rw [course_bind]
  exact fun s own hinv hx hs _ hs' => h s own hinv hx hs hs'

theorem await {ready : σ → Bool} {k : Unit → Process σ β}
    (h : ∀ s own, D.inv s own → own me = x → D.within s → ready s = true →
      D.demand s s x ∧
        ∃ y, D.inv s (Function.update own me y) ∧ (k ()).Follows D me post y) :
    (Process.await ready >>= k).Follows D me post x := by
  unfold Follows
  rw [course_bind]
  exact fun s own hinv hx hs hr _ => h s own hinv hx hs hr

/-- A question needs no new stake: what was known before it is known after it. -/
theorem ask {f : σ → α} {k : α → Process σ β} (hd : ∀ s, D.demand s s x)
    (h : ∀ s own, D.inv s own → own me = x → D.within s → (k (f s)).Follows D me post x) :
    (Process.ask f >>= k).Follows D me post x := by
  unfold Follows
  rw [course_bind]
  intro s own hinv hx hs _ _
  subst hx
  exact ⟨hd s, own me, by rwa [Function.update_eq_self], h s own hinv rfl hs⟩

end Follows

/-- **A process that follows keeps the invariant** to its end. -/
theorem Ends.keeps {p : Process σ α} {s s' : σ} {e : Except Crash α} {own : ThreadId → τ}
    {post : Except Crash α → τ → Prop} (h : p.Ends s e s')
    (hs : ∀ q v, p.course.Reaches (fun _ => True) s q v → D.within v) (hinv : D.inv s own)
    (hp : p.Follows D me post (own me)) :
    ∃ y, D.inv s' (Function.update own me y) ∧ post e y := by
  obtain ⟨y, hy, hf⟩ := (h.reaches.of_forall hs).keeps hinv hp
  refine ⟨y, hy, ?_⟩
  cases e with
  | ok a => exact hf
  | error c => exact hf

end Process

/-! ## Keeping a conduct

A relation on stakes is a conduct if it can be composed, and if a stake in which
code may end is one in which code may start. The second is what lets code follow
code: `C.rel x x` is the condition under which anything may run at all. -/

/-- **A conduct**: how a stake may differ after some code from what it was. -/
structure Conduct (τ : Type) where
  /-- Before and after. -/
  rel : τ → τ → Prop
  /-- One change after the other. -/
  trans : ∀ {x y z}, rel x y → rel y z → rel x z
  /-- Where code may end, code may start. -/
  right : ∀ {x y}, rel x y → rel y y

namespace Process

variable {C : Conduct τ}

/-- **A process keeps a conduct** from every stake that may be started from,
unless code was nested too deeply. -/
def Keeps (D : Discipline σ τ) (C : Conduct τ) (me : ThreadId) (p : Process σ α) : Prop :=
  ∀ x, C.rel x x → p.Follows D me (fun r y => r = .error .tooDeep ∨ C.rel x y) x

/-- **A process settles** when it keeps a conduct and does not panic. -/
def Settles (D : Discipline σ τ) (C : Conduct τ) (me : ThreadId) (p : Process σ α) : Prop :=
  ∀ x, C.rel x x →
    p.Follows D me (fun r y => r = .error .tooDeep ∨ (∃ a, r = .ok a) ∧ C.rel x y) x

/-- A process that ends as nested too deeply, whatever it does until then. -/
def Doomed (D : Discipline σ τ) (me : ThreadId) (p : Process σ α) : Prop :=
  ∀ x, p.Follows D me (fun r _ => r = .error .tooDeep) x

theorem doomed_crash : (Process.crash .tooDeep : Process σ α).Doomed D me :=
  fun _ => Follows.crash rfl

namespace Keeps

theorem pure (a : α) : (pure a : Process σ α).Keeps D C me := fun _ hx => Or.inr hx

theorem crash (c : Crash) : (Process.crash c : Process σ α).Keeps D C me :=
  fun _ hx => Or.inr hx

/-- **What two processes keep, one after the other**, their sequence keeps. -/
theorem bind {p : Process σ α} {f : α → Process σ β} (hp : p.Keeps D C me)
    (hf : ∀ a, (f a).Keeps D C me) : (p >>= f).Keeps D C me := by
  refine fun x hx => Follows.bind ((hp x hx).mono fun r y h => ?_)
  cases r with
  | ok a =>
    have hxy : C.rel x y := h.resolve_left (by simp)
    exact (hf a y (C.right hxy)).mono (fun r z hz => hz.imp id (C.trans hxy))
  | error c => exact h.imp (fun hc => by cases hc; rfl) id

/-- What follows a process that keeps a conduct starts where the process has ended, unless it
crashed. -/
theorem follows {p : Process σ α} {f : α → Process σ β} {post : Except Crash β → τ → Prop} {x : τ}
    (hp : p.Keeps D C me) (hx : C.rel x x) (hf : ∀ a y, C.rel x y → (f a).Follows D me post y)
    (hcrash : ∀ c y, c = .tooDeep ∨ C.rel x y → post (.error c) y) :
    (p >>= f).Follows D me post x := by
  refine Follows.bind ((hp x hx).mono fun r y h => ?_)
  cases r with
  | ok a => exact hf a y (h.resolve_left (by simp))
  | error c => exact hcrash c y (h.imp (fun hc => by cases hc; rfl) id)

/-- **What an attempt keeps**: the code in it, and each way of going on, where nothing need be
kept after nesting too deep. -/
theorem attempt {p : Process σ α} {k : Except Crash α → Process σ β} (hp : p.Keeps D C me)
    (hok : ∀ a, (k (.ok a)).Keeps D C me) (hpanic : ∀ q, (k (.error (.panicked q))).Keeps D C me)
    (hdeep : (k (.error .tooDeep)).Doomed D me) : (p.attempt >>= k).Keeps D C me := by
  refine fun x hx => Follows.attempt ((hp x hx).mono fun r y h => ?_)
  have goOn : ∀ q : Process σ β, C.rel x y → q.Keeps D C me →
      q.Follows D me (fun r z => r = .error .tooDeep ∨ C.rel x z) y :=
    fun q hxy hq => (hq y (C.right hxy)).mono (fun r z hz => hz.imp id (C.trans hxy))
  match r with
  | .ok a => exact goOn _ (h.resolve_left (by simp)) (hok a)
  | .error (.panicked q) => exact goOn _ (h.resolve_left (by simp)) (hpanic q)
  | .error .tooDeep => exact (hdeep y).mono (fun r z hz => Or.inl hz)

end Keeps

namespace Settles

/-- Settling is keeping, without a panic. -/
theorem keeps {p : Process σ α} (hp : p.Settles D C me) : p.Keeps D C me :=
  fun x hx => (hp x hx).mono (fun _ _ h => h.imp id And.right)

theorem pure (a : α) : (pure a : Process σ α).Settles D C me :=
  fun _ hx => Or.inr ⟨⟨a, rfl⟩, hx⟩

/-- What follows a process that settles starts where the process has ended. -/
theorem follows {p : Process σ α} {f : α → Process σ β} {post : Except Crash β → τ → Prop}
    {x : τ} (hp : p.Settles D C me) (hx : C.rel x x)
    (hf : ∀ a y, C.rel x y → (f a).Follows D me post y) (hdeep : ∀ y, post (.error .tooDeep) y) :
    (p >>= f).Follows D me post x := by
  refine Follows.bind ((hp x hx).mono fun r y h => ?_)
  obtain rfl | ⟨⟨a, rfl⟩, hxy⟩ := h
  · exact hdeep y
  · exact hf a y hxy

/-- Processes that settle do so one after the other. -/
theorem bind {p : Process σ α} {f : α → Process σ β} (hp : p.Settles D C me)
    (hf : ∀ a, (f a).Settles D C me) : (p >>= f).Settles D C me :=
  fun _ hx => hp.follows hx
    (fun a y hxy => (hf a y (C.right hxy)).mono
      (fun _ _ hz => hz.imp id (And.imp id (C.trans hxy))))
    (fun _ => Or.inl rfl)

/-- A crash that was stopped leaves the stake that it found, wherever that is
compared from. -/
theorem attempt_from {p : Process σ α} {k : Except Crash α → Process σ β} {x z : τ}
    (hp : p.Follows D me (fun r y => r = .error .tooDeep ∨ C.rel z y) x)
    (hok : ∀ a, (k (.ok a)).Settles D C me)
    (hpanic : ∀ q, (k (.error (.panicked q))).Settles D C me)
    (hdeep : (k (.error .tooDeep)).Doomed D me) :
    (p.attempt >>= k).Follows D me
      (fun r y => r = .error .tooDeep ∨ (∃ a, r = .ok a) ∧ C.rel z y) x := by
  refine Follows.attempt (hp.mono fun r y h => ?_)
  have goOn : ∀ q : Process σ β, C.rel z y → q.Settles D C me →
      q.Follows D me (fun r z' => r = .error .tooDeep ∨ (∃ a, r = .ok a) ∧ C.rel z z') y :=
    fun q hzy hq => (hq y (C.right hzy)).mono
      (fun _ _ hz => hz.imp id (And.imp id (C.trans hzy)))
  match r with
  | .ok a => exact goOn _ (h.resolve_left (by simp)) (hok a)
  | .error (.panicked q) => exact goOn _ (h.resolve_left (by simp)) (hpanic q)
  | .error .tooDeep => exact (hdeep y).mono (fun r z hz => Or.inl hz)

end Settles

end Process

end HostBridge
