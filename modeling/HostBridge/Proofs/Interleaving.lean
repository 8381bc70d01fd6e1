import HostBridge.Evaluation
import Mathlib.Logic.Function.Basic

/-!
# Runs and interleavings

A course may be watched while it runs. `Course.Reaches` says to which point a
course comes that runs alone, and `Threads.Reaches` to which point threads come
whose sections interleave over one state, in any order the state is ready for.
Both look only at runs whose states satisfy a given condition, which is how a
statement bounds what happens in a run as a whole.

A process that runs alone may come to its end (`Process.Ends`), and a sequence
does so part by part. On the way to its end a run comes to the processes that it
is made of, one after the other (`Course.Meets`).

Code that a thread runs from its start is native code, the host's own included
(`NativeCode.course`).

## Why both

The two ways of running are the same for one thread, and a statement about all
interleavings is in particular one about a run alone. What differs is the use
that can be made of a hypothesis. A run that is alone is **determined**: from
`Ends` one learns which sections were entered and in which state each was found.
Among others nothing of the kind is known, and all there is to hold on to is
what every section keeps.

No fairness is assumed. That a thread reaches its end among others is never a
hypothesis on the order in which they have their turns; where it matters it is
proved of the courses, or stated as what happens if the turn comes.
-/

namespace HostBridge

variable {σ α β : Type}

namespace Course

/-! ## What a run comes to

By taking one section after the other, in states that satisfy a condition. -/

/-- **The points of a run.** `Reaches P p s q s'` says that `p`, started at
`s`, comes to the point where `q` is still to do at `s'`, over states that all
satisfy `P`. -/
inductive Reaches (P : σ → Prop) (p : Course σ α) (s : σ) : Course σ α → σ → Prop
  /-- The start. -/
  | here (hs : P s) : Reaches P p s p s
  /-- After one more section. -/
  | enter {ready : σ → Bool} {effect : σ → σ} {next : σ → Course σ α} {s' : σ}
      (h : Reaches P p s (step ready effect next) s') (hr : ready s' = true)
      (hs : P (effect s')) : Reaches P p s (next s') (effect s')

/-- The last point of a run is one of those the condition speaks of. -/
theorem Reaches.within {P : σ → Prop} {p q : Course σ α} {s s' : σ} (h : Reaches P p s q s') :
    P s' := by
  induction h with
  | here hs => exact hs
  | enter h hr hs ih => exact hs

/-- The first point of a run is one of those the condition speaks of. -/
theorem Reaches.start {P : σ → Prop} {p q : Course σ α} {s s' : σ} (h : Reaches P p s q s') :
    P s := by
  induction h with
  | here hs => exact hs
  | enter h hr hs ih => exact ih

/-- A run over states that satisfy a condition is one over states that satisfy less. -/
theorem Reaches.mono {P P' : σ → Prop} (hP : ∀ s, P s → P' s) {p q : Course σ α} {s s' : σ}
    (h : Reaches P p s q s') : Reaches P' p s q s' := by
  induction h with
  | here hs => exact .here (hP _ hs)
  | enter h hr hs ih => exact .enter ih hr (hP _ hs)

/-- **Runs may be put together** where one ends and the other begins. -/
theorem Reaches.trans {P : σ → Prop} {p q : Course σ α} {r : Course σ α} {s s' s'' : σ}
    (h : Reaches P p s q s') (h' : Reaches P q s' r s'') : Reaches P p s r s'' := by
  induction h' with
  | here hs => exact h
  | enter h' hr hs ih => exact .enter ih hr hs

/-- A point of a course is one of the course with something after it. -/
theorem Reaches.after {P : σ → Prop} {p q : Course σ α} {s s' : σ} (h : Reaches P p s q s')
    (k : Except Crash α → Course σ β) : Reaches P (p.after k) s (q.after k) s' := by
  induction h with
  | here hs => exact .here hs
  | enter h hr hs ih => exact .enter ih hr hs

/-- What holds at all points of a run may be looked for in their states. -/
theorem Reaches.of_forall {P : σ → Prop} {p q : Course σ α} {s s' : σ}
    (hP : ∀ q s', Reaches (fun _ => True) p s q s' → P s')
    (h : Reaches (fun _ => True) p s q s') : Reaches P p s q s' := by
  induction h with
  | here hs => exact .here (hP _ _ (.here hs))
  | enter h hr hs ih => exact .enter ih hr (hP _ _ (.enter h hr hs))

/-- A course that is played as far as it goes comes to where that is. -/
theorem reaches_advance (p : Course σ α) (s : σ) :
    Reaches (fun _ => True) p s (p.advance s).1 (p.advance s).2 := by
  induction p generalizing s with
  | done a => exact .here trivial
  | crash c => exact .here trivial
  | step ready effect next ih =>
    unfold advance
    split
    · next hr =>
      have hfirst : Reaches (fun _ => True) (step ready effect next) s (next s) (effect s) :=
        .enter (.here trivial) hr trivial
      exact hfirst.trans (ih s (effect s))
    · exact .here trivial

/-- **Plays so many sections** of a course, if it has them and the state is ready. -/
def play (P : σ → Prop) [DecidablePred P] : Nat → Course σ α → σ → Option (Course σ α × σ)
  | 0, p, s => some (p, s)
  | n + 1, step ready effect next, s =>
    if ready s = true ∧ P (effect s) then play P n (next s) (effect s) else none
  | _ + 1, _, _ => none

/-- **A run may be gone on with by evaluation**: what is played from a point that is reached, is
reached. -/
theorem Reaches.play {P : σ → Prop} [DecidablePred P] {p q : Course σ α} {s s' : σ}
    (h : Reaches P p s q s') {n : Nat} {v : Course σ α × σ} (hv : q.play P n s' = some v) :
    Reaches P p s v.1 v.2 := by
  induction n generalizing q s' with
  | zero =>
    cases hv
    exact h
  | succ n ih =>
    cases q with
    | step ready effect next =>
      unfold Course.play at hv
      by_cases hr : ready s' = true ∧ P (effect s')
      · rw [if_pos hr] at hv
        exact ih (h.enter hr.1 hr.2) hv
      · rw [if_neg hr] at hv
        cases hv
    | _ => cases hv

/-- **A condition holds at all points of a run.** -/
def Always (P : σ → Prop) : Course σ α → σ → Prop
  | done _, s => P s
  | crash _, s => P s
  | step ready effect next, s => P s ∧ (ready s = true → (next s).Always P (effect s))

instance decidableAlways (P : σ → Prop) [DecidablePred P] :
    (p : Course σ α) → (s : σ) → Decidable (p.Always P s)
  | done _, s => inferInstanceAs (Decidable (P s))
  | crash _, s => inferInstanceAs (Decidable (P s))
  | step ready effect next, s =>
    have := decidableAlways P (next s) (effect s)
    inferInstanceAs (Decidable (P s ∧ (ready s = true → (next s).Always P (effect s))))

theorem Always.here {P : σ → Prop} {p : Course σ α} {s : σ} (h : p.Always P s) : P s := by
  cases p with
  | step ready effect next => exact h.1
  | _ => exact h

/-- A condition that holds at all points of a run still does from any of them on. -/
theorem Reaches.always {P : σ → Prop} {p q : Course σ α} {s s' : σ}
    (h : Reaches (fun _ => True) p s q s') (hp : p.Always P s) : q.Always P s' := by
  induction h with
  | here hs => exact hp
  | enter h hr hs ih => exact ih.2 hr

/-- A condition holds at all points of a run if it holds wherever the run comes to. -/
theorem always_of_reaches {P : σ → Prop} {p : Course σ α} {s : σ}
    (h : ∀ q s', Reaches (fun _ => True) p s q s' → P s') : p.Always P s := by
  induction p generalizing s with
  | done a => exact h _ _ (.here trivial)
  | crash c => exact h _ _ (.here trivial)
  | step ready effect next ih =>
    refine ⟨h _ _ (.here trivial), fun hr => ih s fun q s' hq => h q s' ?_⟩
    exact Reaches.trans (.enter (.here trivial) hr trivial) hq

/-- Whether a course is at its end, and has a result. -/
def isDone : Course σ α → Bool
  | done _ => true
  | _ => false

end Course

/-! ## Runs that end

For each way of putting processes together there are two lemmas. One goes
forward, from the ends of the parts to the end of the whole, and serves to show
that something happens. The other (`of_…`) goes backward, from the end of the
whole to what its parts must have done, and serves to use that something has
happened. -/

namespace Process

/-- **A process ends**, run alone from a state: with a result or a crash, at another
state. -/
def Ends (p : Process σ α) (s : σ) (e : Except Crash α) (s' : σ) : Prop :=
  p.advance s = (Course.finish e, s')

namespace Ends

variable {p : Process σ α} {f : α → Process σ β} {k : Except Crash α → Process σ β}
  {s s' s'' : σ} {a : α} {e : Except Crash α} {e' : Except Crash β}

theorem pure (a : α) (s : σ) : (pure a : Process σ α).Ends s (.ok a) s := rfl

/-- **A sequence ends** where its second part does, begun where the first ended. -/
theorem bind (h : p.Ends s (.ok a) s') (h' : (f a).Ends s' e' s'') : (p >>= f).Ends s e' s'' := by
  unfold Ends at *
  rw [advance_bind, h]
  exact h'

/-- A crash ends a sequence. -/
theorem bind_crash {c : Crash} (h : p.Ends s (.error c) s') : (p >>= f).Ends s (.error c) s' := by
  unfold Ends at *
  rw [advance_bind, h]
  rfl

/-- What follows an attempt is told the end that the attempt came to, a crash included. -/
theorem attempt (h : p.Ends s e s') (h' : (k e).Ends s' e' s'') :
    (p.attempt >>= k).Ends s e' s'' := by
  have hp : p.attempt.Ends s (.ok e) s' := by
    unfold Ends advance at *
    rw [course_attempt, Course.advance_after, h]
    cases e <;> rfl
  exact hp.bind h'

/-- A section that is ready is entered, and over. -/
theorem exchangeWhen {ready : σ → Bool} {f : σ → α × σ} (hr : ready s = true) :
    (Process.exchangeWhen ready f).Ends s (.ok (f s).1) (f s).2 := by
  unfold Ends
  rw [advance, course_exchangeWhen, Course.advance, if_pos hr]
  rfl

theorem exchange (f : σ → α × σ) (s : σ) : (Process.exchange f).Ends s (.ok (f s).1) (f s).2 :=
  exchangeWhen rfl

theorem ask (f : σ → α) (s : σ) : (Process.ask f).Ends s (.ok (f s)) s := rfl

theorem of_ask {f : σ → α} (h : f s = a) : (Process.ask f).Ends s (.ok a) s := h ▸ ask f s

theorem change (f : σ → σ) (s : σ) : (Process.change f).Ends s (.ok ()) (f s) := rfl

theorem await {ready : σ → Bool} (hr : ready s = true) :
    (Process.await ready).Ends s (.ok ()) s := by
  unfold Ends
  rw [advance, course_await, Course.advance, if_pos hr]
  rfl

theorem onBridgeWhen {w : World} {ready : Bridge → Bool} {f : Bridge → α × Bridge}
    {events : α → List Event} {b : Bridge} (hr : ready w.bridge = true)
    (hf : f w.bridge = (a, b)) :
    (Run.onBridgeWhen ready f events).Ends w (.ok a) (w.onBridge b (events a)) := by
  have h : (Run.onBridgeWhen ready f events).Ends w (.ok (f w.bridge).1)
      (w.onBridge (f w.bridge).2 (events (f w.bridge).1)) := .exchangeWhen hr
  rwa [hf] at h

/-- A run that was played to a result has ended. -/
theorem of_isDone (h : (p.advance s).1.isDone = true) : ∃ a s', p.Ends s (.ok a) s' := by
  unfold Ends
  generalize p.advance s = v at h ⊢
  obtain ⟨q, s'⟩ := v
  cases q with
  | done a => exact ⟨a, s', rfl⟩
  | _ => cases h

/-- A section that is over was ready. -/
theorem ready {r : σ → Bool} {f : σ → α × σ} (h : (Process.exchangeWhen r f).Ends s e s') :
    r s = true := by
  by_contra hr
  unfold Ends at h
  rw [advance, course_exchangeWhen, Course.advance, if_neg hr] at h
  cases e <;> cases h

theorem of_await {r : σ → Bool} {e : Except Crash Unit}
    (h : (Process.await r).Ends s e s') : r s = true :=
  ready (f := fun s => ((), s)) h

/-- A sequence has ended with its second part, or crashed in its first. -/
theorem of_bind (h : (p >>= f).Ends s e' s'') :
    (∃ a s', p.Ends s (.ok a) s' ∧ (f a).Ends s' e' s'') ∨
      ∃ c, e' = .error c ∧ p.Ends s (.error c) s'' := by
  unfold Ends at h ⊢
  rw [advance_bind] at h
  generalize p.advance s = v at h ⊢
  obtain ⟨q, s'⟩ := v
  cases q with
  | done a => exact .inl ⟨a, s', rfl, h⟩
  | crash c =>
    refine .inr ⟨c, ?_⟩
    cases e' <;> cases h
    exact ⟨rfl, rfl⟩
  | step ready effect next => cases e' <;> cases h

/-- A sequence with a result has come from its first part to its second. -/
theorem of_bind_ok {b : β} (h : (p >>= f).Ends s (.ok b) s'') :
    ∃ a s', p.Ends s (.ok a) s' ∧ (f a).Ends s' (.ok b) s'' :=
  h.of_bind.resolve_right (by simp)

/-- An attempt has ended as the process it is an attempt of did. -/
theorem of_attempt (h : p.attempt.Ends s (.ok e) s') : p.Ends s e s' := by
  unfold Ends advance at *
  rw [course_attempt, Course.advance_after] at h
  generalize p.course.advance s = v at h ⊢
  obtain ⟨q, s''⟩ := v
  cases q <;> cases h <;> rfl

/-- What follows an attempt starts where the attempt has ended, whatever the end is. -/
theorem of_attempt_bind {k : Except Crash α → Process σ β} (h : (p.attempt >>= k).Ends s e' s'') :
    ∃ e s', p.Ends s e s' ∧ (k e).Ends s' e' s'' := by
  unfold Ends advance at *
  rw [course_bind, course_attempt, Course.after_after, Course.advance_after] at h
  generalize p.course.advance s = v at h ⊢
  obtain ⟨q, s'⟩ := v
  cases q with
  | done a => exact ⟨.ok a, s', rfl, h⟩
  | crash c => exact ⟨.error c, s', rfl, h⟩
  | step ready effect next => cases e' <;> cases h

/-- **The rest of a sequence**: a run alone is determined, so what is left is to be done where
its beginning ended. -/
theorem rest (h : (p >>= f).Ends s e' s'') (hp : p.Ends s (.ok a) s') :
    (f a).Ends s' e' s'' := by
  unfold Ends at *
  rwa [advance_bind, hp] at h

/-- The end of a run is one of its points. -/
theorem reaches (h : p.Ends s e s') :
    p.course.Reaches (fun _ => True) s (Course.finish e) s' := by
  have := p.course.reaches_advance s
  unfold Ends advance at h
  rwa [h] at this

end Ends

end Process

namespace Course

/-! ## Processes on the way

A run comes to a process if that is what is left to be done, before whatever follows it. -/

/-- **A run comes to a process**: it is what the run is going to do next. -/
def Meets (P : σ → Prop) (p : Course σ α) (s : σ) (m : Process σ β) (s' : σ) : Prop :=
  ∃ k, p.Reaches P s (m.course.after k) s'

namespace Meets

variable {γ : Type} {P : σ → Prop} {p : Course σ α} {m : Process σ β} {f : β → Process σ γ}
  {s s' s'' : σ} {b : β}

theorem start (m : Process σ β) {s : σ} (hs : P s) : m.course.Meets P s m s :=
  ⟨finish, by
    rw [after_finish]
    exact .here hs⟩

/-- What a process comes to, a run comes to that has come to the process. -/
theorem reaches {q : Course σ β} (h : p.Meets P s m s') (hm : m.course.Reaches P s' q s'') :
    ∃ r, p.Reaches P s r s'' := by
  obtain ⟨k, hk⟩ := h
  exact ⟨_, hk.trans (hm.after k)⟩

/-- A run that comes to a sequence comes to its first part. -/
theorem first (h : p.Meets P s (m >>= f) s') : p.Meets P s m s' := by
  obtain ⟨k, hk⟩ := h
  rw [Process.course_bind, after_after] at hk
  exact ⟨_, hk⟩

/-- A run that comes to an attempt comes to the process in it. -/
theorem attempt (h : p.Meets P s m.attempt s') : p.Meets P s m s' := by
  obtain ⟨k, hk⟩ := h
  rw [Process.course_attempt, after_after] at hk
  exact ⟨_, hk⟩

/-- Where the first part of a sequence has ended, the second is next. -/
theorem next (h : p.Meets (fun _ => True) s (m >>= f) s') (hm : m.Ends s' (.ok b) s'') :
    p.Meets (fun _ => True) s (f b) s'' := by
  obtain ⟨k, hk⟩ := h
  rw [Process.course_bind, after_after] at hk
  exact ⟨k, hk.trans (hm.reaches.after _)⟩

end Meets

end Course

/-! ## Several threads

Any number of courses over one state. In each step one thread enters its next section, if the
state is ready for it, and nothing is said of which. -/

/-- **Threads over one state**: the state, and what each thread has still to
do. -/
structure Threads (σ α : Type) where
  /-- The state. -/
  state : σ
  /-- What the threads have still to do. -/
  todo : ThreadId → Course σ α

/-- **The points of an interleaving.** One thread after the other, in any order,
enters the section that it has come to. -/
inductive Threads.Reaches (P : σ → Prop) (t : Threads σ α) : Threads σ α → Prop
  /-- The start. -/
  | here (hs : P t.state) : Reaches P t t
  /-- After one more section of some thread. -/
  | enter {u : Threads σ α} {me : ThreadId} {ready : σ → Bool} {effect : σ → σ}
      {next : σ → Course σ α} (h : Reaches P t u) (hu : u.todo me = .step ready effect next)
      (hr : ready u.state = true) (hs : P (effect u.state)) :
      Reaches P t ⟨effect u.state, Function.update u.todo me (next u.state)⟩

/-- The last point of an interleaving is one of those the condition speaks of. -/
theorem Threads.Reaches.within {P : σ → Prop} {t u : Threads σ α} (h : Reaches P t u) :
    P u.state := by
  induction h with
  | here hs => exact hs
  | enter h hu hr hs ih => exact hs

theorem Threads.Reaches.mono {P P' : σ → Prop} (hP : ∀ s, P s → P' s) {t u : Threads σ α}
    (h : Reaches P t u) : Reaches P' t u := by
  induction h with
  | here hs => exact .here (hP _ hs)
  | enter h hu hr hs ih => exact .enter ih hu hr (hP _ hs)

/-- What holds at all points on the way may be looked for in their states. -/
theorem Threads.Reaches.along {P Q : σ → Prop} {t u : Threads σ α} (h : Reaches P t u)
    (hQ : ∀ v, Reaches P t v → Reaches P v u → Q v.state) :
    Reaches (fun s => P s ∧ Q s) t u := by
  induction h with
  | here hs => exact .here ⟨hs, hQ t (.here hs) (.here hs)⟩
  | enter h hu hr hs ih =>
    have hlast := hQ _ (.enter h hu hr hs) (.here hs)
    exact .enter (ih fun v hv hv' => hQ v hv (.enter hv' hu hr hs)) hu hr ⟨hs, hlast⟩

/-- **Plays threads in an order**, as far as the state is ready for it. -/
def Threads.play (P : σ → Prop) [DecidablePred P] :
    List ThreadId → Threads σ α → Option (Threads σ α)
  | [], t => some t
  | me :: rest, t =>
    match t.todo me with
    | .step ready effect next =>
      if ready t.state = true ∧ P (effect t.state) then
        play P rest ⟨effect t.state, Function.update t.todo me (next t.state)⟩
      else none
    | _ => none

/-- **An interleaving may be gone on with by evaluation**, in any order of the threads. -/
theorem Threads.Reaches.play {P : σ → Prop} [DecidablePred P] {t u v : Threads σ α}
    {order : List ThreadId} (h : Reaches P t u) (hv : u.play P order = some v) :
    Reaches P t v := by
  induction order generalizing u with
  | nil => exact Option.some.inj hv ▸ h
  | cons me rest ih =>
    unfold Threads.play at hv
    split at hv
    · next ready effect next hu =>
      by_cases hr : ready u.state = true ∧ P (effect u.state)
      · rw [if_pos hr] at hv
        exact ih (h.enter hu hr.1 hr.2) hv
      · rw [if_neg hr] at hv
        cases hv
    · cases hv

/-- The course of native code on a thread, with so many levels of code inside
code. -/
def NativeCode.course (code : NativeCode α) (n : Nat) (me : ThreadId) : Course World α :=
  (Run.runNative (Runner.nested n) me code).course

/-- **Threads that run native code** from a state on. -/
def World.threads (w : World) (n : Nat) (code : ThreadId → NativeCode α) : Threads World α :=
  ⟨w, fun me => (code me).course n me⟩

end HostBridge
