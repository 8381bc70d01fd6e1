import HostBridge.Proofs.Interleaving

/-!
# One thread among others

An interleaving says what all threads did, one section after the other. Most
questions about a call are asked from the side of one thread: what may have
changed between two of its sections, and what does the call see of it? This
module watches an interleaving from there.

The thread goes through a course, section by section, and before each further
section the other threads may go ahead as far as they like (`Threads.Passes`).
A process that a thread performs among others (`Threads.Performs`) comes apart
like the process itself: a sequence into its parts, and a section into the state
it was entered at and what the others did next. So a proof about a call among
others is read off the text of the call, and only at the joints something has to
be known about the rest of the world.

The points that the thread comes by are those of the interleaving, one after the
other (`l` below), so that a statement may speak of a moment during a call.

## What can be said of a course beforehand

* A course that **only looks** (`Course.Looks`) waits for nothing and changes
  nothing. It comes to its end wherever it is begun, and the state is as it was.
* A course that **goes through** (`Course.Flows`) may change what it likes, but
  none of its sections waits at a good state. While the states it meets are good
  it comes to its end, alone or among others.
* Of any other course one can say where it passes by, and how it ended if it
  did. That it ends at all is then a matter of what the other threads do.
-/

namespace HostBridge

variable {σ α β γ : Type}

/-! ## Courses that only look

A question to the bridge, or a check of arguments, is a course of this kind. It
may be put anywhere in a proof about one thread, since nothing that is known of
the state is lost over it. -/

namespace Course

/-- **A course only looks**: no section of it waits or changes anything. Its ends are of a
kind. -/
def Looks (ok : Except Crash α → Prop) : Course σ α → Prop
  | done a => ok (.ok a)
  | crash c => ok (.error c)
  | step ready effect next => (∀ s, ready s = true ∧ effect s = s) ∧ ∀ s, (next s).Looks ok

namespace Looks

variable {ok : Except Crash α → Prop} {p : Course σ α}

/-- What is known of the ends of a course may be weakened. -/
theorem mono {ok' : Except Crash α → Prop} (h : ∀ r, ok r → ok' r) (hp : p.Looks ok) :
    p.Looks ok' := by
  induction p with
  | done a => exact h _ hp
  | crash c => exact h _ hp
  | step ready effect next ih => exact ⟨hp.1, fun s => ih s (hp.2 s)⟩

/-- A course that only looks, and does so again whatever its end, only looks. -/
theorem after {ok : Except Crash β → Prop} {k : Except Crash α → Course σ β}
    (hp : p.Looks (fun r => (k r).Looks ok)) : (p.after k).Looks ok := by
  induction p with
  | done a => exact hp
  | crash c => exact hp
  | step ready effect next ih => exact ⟨hp.1, fun s => ih s (hp.2 s)⟩

/-- **Looking comes to an end**, and has changed nothing. -/
theorem advance (hp : p.Looks ok) (s : σ) : ∃ e, p.advance s = (finish e, s) ∧ ok e := by
  induction p with
  | done a => exact ⟨.ok a, rfl, hp⟩
  | crash c => exact ⟨.error c, rfl, hp⟩
  | step ready effect next ih =>
    obtain ⟨hr, he⟩ := hp.1 s
    rw [Course.advance, if_pos hr, he]
    exact ih s (hp.2 s)

end Looks

end Course

/-! ## Courses that go through

To wait is to find a section not ready. Which sections may be found so depends
on the state, so the notion carries a set of good states, and a course goes
through if it is ready wherever those states lead it. The states are good for a
reason that lies elsewhere, mostly an invariant of the interleaving. -/

namespace Course

/-- **A course goes through** from a state, over states that are all good: none of its
sections waits there. Its ends are of a kind. -/
def Flows (good : σ → Prop) (ok : Except Crash α → Prop) : Course σ α → σ → Prop
  | done a, _ => ok (.ok a)
  | crash c, _ => ok (.error c)
  | step ready _ next, s => ready s = true ∧ ∀ s', good s' → (next s).Flows good ok s'

namespace Flows

variable {good : σ → Prop} {ok : Except Crash α → Prop} {p : Course σ α} {s : σ}

/-- A course that goes through may be said to do so with less known of its ends. -/
theorem mono {ok' : Except Crash α → Prop} (h : ∀ r, ok r → ok' r) (hp : p.Flows good ok s) :
    p.Flows good ok' s := by
  induction p generalizing s with
  | done a => exact h _ hp
  | crash c => exact h _ hp
  | step ready effect next ih => exact ⟨hp.1, fun s' hs' => ih s (hp.2 s' hs')⟩

/-- **Going through one course after the other.** What comes second has to go through from every
good state, since others may have their turn in between. -/
theorem after {ok : Except Crash β → Prop} {k : Except Crash α → Course σ β} (hs : good s)
    (hp : p.Flows good (fun r => ∀ s', good s' → (k r).Flows good ok s') s) :
    (p.after k).Flows good ok s := by
  induction p generalizing s with
  | done a => exact hp s hs
  | crash c => exact hp s hs
  | step ready effect next ih => exact ⟨hp.1, fun s' hs' => ih s hs' (hp.2 s' hs')⟩

/-- A course that goes through comes to its end alone, if it finds good states only. -/
theorem advance (hp : p.Flows good ok s) (ha : p.Always good s) :
    ∃ e s', p.advance s = (finish e, s') ∧ ok e := by
  induction p generalizing s with
  | done a => exact ⟨.ok a, s, rfl, hp⟩
  | crash c => exact ⟨.error c, s, rfl, hp⟩
  | step ready effect next ih =>
    rw [Course.advance, if_pos hp.1]
    have hnext := ha.2 hp.1
    exact ih s (hp.2 _ hnext.here) hnext

end Flows

end Course

namespace Process

variable {good : σ → Prop} {A : β → Prop} {B : γ → Prop} {p : Process σ β}
  {f : β → Process σ γ} {s : σ}

/-- **A process goes through** from a state, and has a result of a kind. -/
def FlowsAt (good : σ → Prop) (A : β → Prop) (p : Process σ β) (s : σ) : Prop :=
  p.course.Flows good (fun r => ∃ b, r = .ok b ∧ A b) s

/-- **A process goes through** from every good state, and has a result of a kind. -/
def Flows (good : σ → Prop) (A : β → Prop) (p : Process σ β) : Prop :=
  ∀ s, good s → p.FlowsAt good A s

/-- A process goes through if its beginning does from here, and its rest from wherever that
leads. -/
theorem FlowsAt.bind (hs : good s) (hp : p.FlowsAt good A s)
    (hf : ∀ b, A b → (f b).Flows good B) : (p >>= f).FlowsAt good B s := by
  unfold FlowsAt
  rw [course_bind]
  refine Course.Flows.after hs (Course.Flows.mono ?_ hp)
  rintro _ ⟨b, rfl, hb⟩
  exact hf b hb

/-- The attempt of a process that goes through meets no crash. -/
theorem FlowsAt.attempt {k : Except Crash β → Process σ γ} (hs : good s)
    (hp : p.FlowsAt good A s) (hk : ∀ b, A b → (k (.ok b)).Flows good B) :
    (p.attempt >>= k).FlowsAt good B s := by
  unfold FlowsAt
  rw [course_bind, course_attempt, Course.after_after]
  refine Course.Flows.after hs (Course.Flows.mono ?_ hp)
  rintro _ ⟨b, rfl, hb⟩
  exact hk b hb

theorem flowsAt_ask {f : σ → β} (h : A (f s)) : (ask f).FlowsAt good A s :=
  ⟨rfl, fun _ _ => ⟨f s, rfl, h⟩⟩

namespace Flows

/-- **A sequence goes through** if its parts do, the second for every result of the first. -/
theorem bind (hp : p.Flows good A) (hf : ∀ b, A b → (f b).Flows good B) :
    (p >>= f).Flows good B :=
  fun s hs => (hp s hs).bind hs hf

theorem attempt {k : Except Crash β → Process σ γ} (hp : p.Flows good A)
    (hk : ∀ b, A b → (k (.ok b)).Flows good B) : (p.attempt >>= k).Flows good B :=
  fun s hs => (hp s hs).attempt hs hk

theorem pure {b : β} (h : A b) : (pure b : Process σ β).Flows good A := fun _ _ => ⟨b, rfl, h⟩

/-- A section goes through if every good state is ready for it and has a good reply. -/
theorem exchangeWhen {ready : σ → Bool} {f : σ → β × σ}
    (h : ∀ s, good s → ready s = true ∧ A (f s).1) :
    (Process.exchangeWhen ready f).Flows good A :=
  fun s hs => ⟨(h s hs).1, fun _ _ => ⟨(f s).1, rfl, (h s hs).2⟩⟩

theorem exchange {f : σ → β × σ} (h : ∀ s, good s → A (f s).1) :
    (Process.exchange f).Flows good A := exchangeWhen (fun s hs => ⟨rfl, h s hs⟩)

theorem ask {f : σ → β} (h : ∀ s, good s → A (f s)) : (Process.ask f).Flows good A :=
  fun s hs => flowsAt_ask (h s hs)

theorem change (f : σ → σ) : (Process.change f).Flows good (fun _ => True) :=
  fun _ _ => ⟨rfl, fun _ _ => ⟨(), rfl, trivial⟩⟩

end Flows

end Process

namespace Process

variable {p : Process σ β} {f : β → Process σ γ} {ok : Except Crash γ → Prop}

/-- A sequence of two processes that only look, only looks. -/
theorem looks_bind (hp : p.course.Looks (fun r => ∃ b, r = .ok b))
    (hf : ∀ b, (f b).course.Looks ok) : (p >>= f).course.Looks ok := by
  rw [course_bind]
  refine Course.Looks.after (hp.mono ?_)
  rintro _ ⟨b, rfl⟩
  exact hf b

theorem looks_ask (f : σ → β) : (ask f).course.Looks (fun r => ∃ b, r = .ok b) :=
  ⟨fun _ => ⟨rfl, rfl⟩, fun s => ⟨f s, rfl⟩⟩

theorem looks_pure {b : β} {ok : Except Crash β → Prop} (h : ok (.ok b)) :
    (pure b : Process σ β).course.Looks ok := h

end Process

/-! ## Passages

Between two sections of the thread lies what the others did (`Others`), as a
list of the points they came by. A passage is the thread's own sections with
such lists between them, and it ends right after what the others did behind its
last section: so two passages in a row meet at one point, and the lists are
simply joined. -/

namespace Threads

/-- The threads after the section that one of them enters, with what the thread is
to do next. -/
def entered (t : Threads σ α) (me : ThreadId) (effect : σ → σ) (p : Course σ α) : Threads σ α :=
  ⟨effect t.state, Function.update t.todo me p⟩

/-- **The others go ahead**: from one point of an interleaving to another, by sections
of other threads than `me`. The points in between are listed, the first one first. -/
inductive Others (me : ThreadId) : Threads σ α → List (Threads σ α) → Threads σ α → Prop
  /-- Nothing happens. -/
  | here {t : Threads σ α} : Others me t [] t
  /-- Another thread enters a section, and the others go on. -/
  | enter {t u : Threads σ α} {l : List (Threads σ α)} {you : ThreadId} {ready : σ → Bool}
      {effect : σ → σ} {next : σ → Course σ α} (hyou : you ≠ me)
      (ht : t.todo you = .step ready effect next) (hr : ready t.state = true)
      (h : Others me (t.entered you effect (next t.state)) l u) : Others me t (t :: l) u

/-- **A thread goes through a course**, with `k` to do after it, from one point of an
interleaving to another, where `q` is left of the course. It enters the first section at
once, and before each further one the others may go ahead. -/
inductive PassesBefore (me : ThreadId) (k : Except Crash β → Course σ α) :
    Course σ β → Threads σ α → List (Threads σ α) → Course σ β → Threads σ α → Prop
  /-- Nothing was entered. -/
  | here {p : Course σ β} {t : Threads σ α} : PassesBefore me k p t [] p t
  /-- The thread enters a section, the others go ahead, and the thread goes on. -/
  | enter {t t' u : Threads σ α} {l l' : List (Threads σ α)} {ready : σ → Bool}
      {effect : σ → σ} {next : σ → Course σ β} {q : Course σ β} (hr : ready t.state = true)
      (ho : Others me (t.entered me effect ((next t.state).after k)) l t')
      (h : PassesBefore me k (next t.state) t' l' q u) :
      PassesBefore me k (.step ready effect next) t (t :: (l ++ l')) q u

/-- **A thread goes through a course** that it has come to, from one point of an
interleaving to another, by the points listed. -/
def Passes (t : Threads σ α) (me : ThreadId) (p : Course σ β) (l : List (Threads σ α))
    (q : Course σ β) (u : Threads σ α) : Prop :=
  ∃ k, t.todo me = p.after k ∧ PassesBefore me k p t l q u

/-- **A thread performs a process** that it has come to, from one point of an
interleaving to another, and ends it with a result or a crash. -/
def Performs (t : Threads σ α) (me : ThreadId) (p : Process σ β) (l : List (Threads σ α))
    (e : Except Crash β) (u : Threads σ α) : Prop :=
  t.Passes me p.course l (.finish e) u

variable {me you : ThreadId} {t t' u v : Threads σ α} {l : List (Threads σ α)}

@[simp] theorem entered_todo_self (effect : σ → σ) (p : Course σ α) :
    (t.entered me effect p).todo me = p := Function.update_self ..

/-- A section of another thread leaves a thread where it was in its own course. -/
theorem entered_todo_of_ne (hyou : you ≠ me) (effect : σ → σ) (p : Course σ α) :
    (t.entered you effect p).todo me = t.todo me := Function.update_of_ne hyou.symm ..

/-- What is reached from a point that is reached is reached. -/
theorem Reaches.trans {P : σ → Prop} (h : t.Reaches P u) (h' : u.Reaches P v) :
    t.Reaches P v := by
  induction h' with
  | here hs => exact h
  | enter h' hu hr hs ih => exact .enter ih hu hr hs

/-! ## What others do -/

/-- **Others leave a thread where it is**: only their own courses go on. -/
theorem Others.todo (h : Others me t l u) : u.todo me = t.todo me := by
  induction h with
  | here => rfl
  | enter hyou ht hr h ih => rw [ih, entered_todo_of_ne hyou]

/-- The points that others come by are points of the interleaving. -/
theorem Others.reaches {start : Threads σ α} (h : Others me t l u)
    (ht : start.Reaches (fun _ => True) t) :
    (∀ v ∈ l, start.Reaches (fun _ => True) v) ∧ start.Reaches (fun _ => True) u := by
  induction h with
  | here => exact ⟨by simp, ht⟩
  | enter hyou hstep hr h ih =>
    obtain ⟨hl, hu⟩ := ih (ht.enter hstep hr trivial)
    exact ⟨List.forall_mem_cons.2 ⟨ht, hl⟩, hu⟩

/-- From the points that others come by, they come to the last one. -/
theorem Others.reaches_end (h : Others me t l u) : ∀ v ∈ l, v.Reaches (fun _ => True) u := by
  induction h with
  | here => simp
  | enter hyou hstep hr h ih =>
    have hall := Others.enter hyou hstep hr h
    exact List.forall_mem_cons.2 ⟨(hall.reaches (.here trivial)).2, ih⟩

/-- What the others did may be continued by one more section of theirs. -/
theorem Others.snoc {ready : σ → Bool} {effect : σ → σ} {next : σ → Course σ α}
    (h : Others me t l u) (hyou : you ≠ me) (hu : u.todo you = .step ready effect next)
    (hr : ready u.state = true) :
    Others me t (l ++ [u]) (u.entered you effect (next u.state)) := by
  induction h with
  | here => exact .enter hyou hu hr .here
  | enter hyou' ht hr' h ih => exact .enter hyou' ht hr' (ih hu hr)

/-! ## Points on the way

The points of a passage are points of the interleaving, and what is left of the
course at its end is what the thread has still to do there. The lemmas on
`PassesBefore` are by induction on the passage, one case for a passage that has
not begun and one for its first section. -/

namespace PassesBefore

variable {k : Except Crash β → Course σ α} {p q : Course σ β}

/-- **At the end of a passage** the thread has the rest of the course still to do, and after it
what it had to do before. -/
theorem todo (h : PassesBefore me k p t l q u) (ht : t.todo me = p.after k) :
    u.todo me = q.after k := by
  induction h with
  | here => exact ht
  | enter hr ho h ih => exact ih (by rw [ho.todo, entered_todo_self])

/-- The points of a passage are points of the interleaving, wherever that started. -/
theorem reaches {start : Threads σ α} (h : PassesBefore me k p t l q u)
    (ht : t.todo me = p.after k) (hs : start.Reaches (fun _ => True) t) :
    (∀ v ∈ l, start.Reaches (fun _ => True) v) ∧ start.Reaches (fun _ => True) u := by
  induction h with
  | here => exact ⟨by simp, hs⟩
  | enter hr ho h ih =>
    obtain ⟨hl, ht'⟩ := ho.reaches (hs.enter ht hr trivial)
    obtain ⟨hl', hu⟩ := ih (by rw [ho.todo, entered_todo_self]) ht'
    refine ⟨List.forall_mem_cons.2 ⟨hs, fun v hv => ?_⟩, hu⟩
    exact (List.mem_append.1 hv).elim (hl v) (hl' v)

theorem reaches_end (h : PassesBefore me k p t l q u) (ht : t.todo me = p.after k) :
    ∀ v ∈ l, v.Reaches (fun _ => True) u := by
  induction h with
  | here => simp
  | enter hr ho h ih =>
    have hnext := ho.todo.trans (entered_todo_self ..)
    have hu := (h.reaches hnext (.here trivial)).2
    have hstart := (ho.reaches (.enter (.here trivial) ht hr trivial)).2
    refine List.forall_mem_cons.2 ⟨hstart.trans hu, fun v hv => ?_⟩
    exact (List.mem_append.1 hv).elim (fun hv => (ho.reaches_end v hv).trans hu) (ih hnext v)

/-- **Going through one course after the other** is going through the first and, from its
end, through the second. -/
theorem after {p : Course σ γ} {j : Except Crash γ → Course σ β}
    (h : PassesBefore me k (p.after j) t l q u) :
    (∃ q', q = q'.after j ∧ PassesBefore me (fun r => (j r).after k) p t l q' u) ∨
      ∃ r v l₁ l₂, l = l₁ ++ l₂ ∧
        PassesBefore me (fun r => (j r).after k) p t l₁ (.finish r) v ∧
        PassesBefore me k (j r) v l₂ q u := by
  induction p generalizing t l with
  | done a => exact .inr ⟨.ok a, t, [], l, rfl, .here, h⟩
  | crash c => exact .inr ⟨.error c, t, [], l, rfl, .here, h⟩
  | step ready effect next ih =>
    cases h with
    | here => exact .inl ⟨.step ready effect next, rfl, .here⟩
    | enter hr ho h =>
      rw [Course.after_after] at ho
      obtain ⟨q', hq, hp⟩ | ⟨r, v, l₁, l₂, rfl, hp, hj⟩ := ih _ h
      · exact .inl ⟨q', hq, .enter hr ho hp⟩
      · exact .inr ⟨r, v, _, l₂, by simp, .enter hr ho hp, hj⟩

/-- What others do at the end of a passage belongs to it, unless it has not begun. -/
theorem snoc {ready : σ → Bool} {effect : σ → σ} {next : σ → Course σ α}
    (h : PassesBefore me k p t l q u) (hyou : you ≠ me)
    (hu : u.todo you = .step ready effect next) (hr : ready u.state = true) :
    (l = [] ∧ t = u ∧ p = q) ∨
      ∃ l', l' ≠ [] ∧ PassesBefore me k p t l' q (u.entered you effect (next u.state)) := by
  induction h with
  | here => exact .inl ⟨rfl, rfl, rfl⟩
  | enter hr' ho h ih =>
    obtain ⟨-, rfl, rfl⟩ | ⟨l', -, h'⟩ := ih hu hr
    · exact .inr ⟨_, List.cons_ne_nil _ _, .enter hr' (ho.snoc hyou hu hr) .here⟩
    · exact .inr ⟨_, List.cons_ne_nil _ _, .enter hr' ho h'⟩

theorem mem_head {p q : Course σ β} (h : PassesBefore me k p t l q u) : t ∈ l ++ [u] := by
  cases h <;> simp

/-- Whatever others do, a thread that goes through does so as long as the states are good. -/
theorem flows {good : σ → Prop} {ok : Except Crash β → Prop} (h : PassesBefore me k p t l q u)
    (hgood : ∀ v ∈ l ++ [u], good v.state) (hp : p.Flows good ok t.state) :
    q.Flows good ok u.state := by
  induction h with
  | here => exact hp
  | enter hr ho h ih =>
    refine ih (fun v hv => hgood v (by simp_all)) (hp.2 _ (hgood _ ?_))
    have := h.mem_head
    simp_all

/-- Whatever others do, a thread that only looks goes on with looking. -/
theorem looks {ok : Except Crash β → Prop} (h : PassesBefore me k p t l q u) (hp : p.Looks ok) :
    q.Looks ok := by
  induction h with
  | here => exact hp
  | enter hr ho h ih => exact ih (hp.2 _)

end PassesBefore

/-- **The points that a thread comes by** are points of the interleaving. -/
theorem Passes.reaches {p q : Course σ β} {start : Threads σ α} (h : t.Passes me p l q u)
    (hs : start.Reaches (fun _ => True) t) :
    (∀ v ∈ l, start.Reaches (fun _ => True) v) ∧ start.Reaches (fun _ => True) u := by
  obtain ⟨k, ht, h⟩ := h
  exact h.reaches ht hs

/-- From the points that a thread comes by, it comes to the last one. -/
theorem Passes.reaches_end {p q : Course σ β} (h : t.Passes me p l q u) :
    ∀ v ∈ l, v.Reaches (fun _ => True) u := by
  obtain ⟨k, ht, h⟩ := h
  exact h.reaches_end ht

/-! ## Threads that go on alone

To show that something can happen it is enough that one thread does it while the
others stand still. A run of one thread is a passage in which nobody else has a
turn, so what is computed for it by evaluation is a fact about interleavings. -/

/-- **A thread may go on alone.** The others are where they were. -/
theorem reaches_alone {P : σ → Prop} {p q : Course σ α} {s : σ} (h : p.Reaches P t.state q s)
    (ht : t.todo me = p) : ∃ u, t.Reaches P u ∧ u.state = s ∧ u.todo me = q ∧
      ∀ you, you ≠ me → u.todo you = t.todo you := by
  induction h with
  | here hs => exact ⟨t, .here hs, rfl, ht, fun _ _ => rfl⟩
  | enter h hr hs ih =>
    obtain ⟨u, hu, rfl, htodo, hothers⟩ := ih
    refine ⟨_, hu.enter htodo hr hs, rfl, Function.update_self .., fun you hyou => ?_⟩
    exact (Function.update_of_ne hyou ..).trans (hothers you hyou)

theorem passesBefore_alone {c : Course σ β} {k : Except Crash β → Course σ α} {e : Except Crash β}
    {s : σ} (h : c.advance t.state = (Course.finish e, s)) :
    ∃ l u, PassesBefore me k c t l (.finish e) u ∧ u.state = s := by
  induction c generalizing t with
  | done a =>
    obtain ⟨he, rfl⟩ := Prod.mk.inj h
    exact ⟨[], t, by rw [← he]; exact .here, rfl⟩
  | crash a =>
    obtain ⟨he, rfl⟩ := Prod.mk.inj h
    exact ⟨[], t, by rw [← he]; exact .here, rfl⟩
  | step ready effect next ih =>
    rw [Course.advance] at h
    split at h
    · next hr =>
      obtain ⟨l, u, hp, hu⟩ := ih t.state (t := t.entered me effect ((next t.state).after k)) h
      exact ⟨_, u, .enter hr .here hp, hu⟩
    · cases e <;> cases h

/-- **What a process does alone can happen among others**: the others need not do anything
meanwhile. -/
theorem performs_alone {p : Process σ β} {k : Except Crash β → Course σ α} {e : Except Crash β}
    {s : σ} (ht : t.todo me = p.course.after k) (h : p.Ends t.state e s) :
    ∃ l u, t.Performs me p l e u ∧ u.state = s := by
  obtain ⟨l, u, hp, hu⟩ := passesBefore_alone (c := p.course) h
  exact ⟨l, u, ⟨k, ht, hp⟩, hu⟩

/-! ## How a process comes apart

One lemma for each way in which a process is put together: a result, a crash, a
sequence, an attempt, a section. They are what a proof about an operation among
other threads consists of, applied in the order of the operation's own text. -/

/-- A passage through one course after the other has a point where the first has ended. -/
theorem Passes.after {p : Course σ γ} {j : Except Crash γ → Course σ β} {e : Except Crash β}
    (h : t.Passes me (p.after j) l (.finish e) u) :
    ∃ r v l₁ l₂, l = l₁ ++ l₂ ∧ t.Passes me p l₁ (.finish r) v ∧
      v.Passes me (j r) l₂ (.finish e) u := by
  obtain ⟨k, ht, h⟩ := h
  rw [Course.after_after] at ht
  obtain ⟨q', hq, hp⟩ | ⟨r, v, l₁, l₂, hl, hp, hj⟩ := h.after
  · have hu := hp.todo ht
    cases q' with
    | step ready effect next => cases e <;> cases hq
    | done a => exact ⟨.ok a, u, l, [], by simp, ⟨_, ht, hp⟩, k, hu, by rw [hq]; exact .here⟩
    | crash c =>
      exact ⟨.error c, u, l, [], by simp, ⟨_, ht, hp⟩, k, hu, by rw [hq]; exact .here⟩
  · exact ⟨r, v, l₁, l₂, hl, ⟨_, ht, hp⟩, k, by rw [hp.todo ht, Course.finish_after], hj⟩

/-- Nothing is passed in a course that is at its end. -/
theorem Passes.finish {e d : Except Crash β} (h : t.Passes me (.finish e) l (.finish d) u) :
    e = d ∧ l = [] ∧ u = t := by
  obtain ⟨k, ht, h⟩ := h
  generalize hq : (Course.finish d : Course σ β) = q at h
  cases e <;> cases d <;> cases h <;> cases hq <;> exact ⟨rfl, rfl, rfl⟩

/-- **A thread that comes to a section** enters it where the state is ready. To another
thread this is something that others do. -/
theorem performs_exchangeWhen {ready : σ → Bool} {f : σ → β × σ} {k : Except Crash β → Course σ α}
    (ht : t.todo me = (Process.exchangeWhen ready f).course.after k)
    (hr : ready t.state = true) : ∃ u,
    t.Performs me (Process.exchangeWhen ready f) [t] (.ok (f t.state).1) u ∧
      u.state = (f t.state).2 ∧ ∀ you, you ≠ me → u.todo you = t.todo you ∧ Others you t [t] u :=
  ⟨t.entered me (fun s => (f s).2) (k (.ok (f t.state).1)), ⟨k, ht, .enter hr .here .here⟩, rfl,
    fun _ hyou => ⟨entered_todo_of_ne hyou.symm .., .enter hyou.symm ht hr .here⟩⟩

/-- What others do at the end of a passage belongs to it. -/
theorem Passes.others {p q : Course σ β} {l' : List (Threads σ α)} (h : t.Passes me p l q u)
    (hl : l ≠ []) (ho : Others me u l' v) : ∃ l'', l'' ≠ [] ∧ t.Passes me p l'' q v := by
  induction ho generalizing l with
  | here => exact ⟨l, hl, h⟩
  | enter hyou hu hr ho ih =>
    obtain ⟨k, ht, h⟩ := h
    obtain ⟨hl', -⟩ | ⟨l', hl', h'⟩ := h.snoc hyou hu hr
    · exact absurd hl' hl
    · exact ih ⟨k, ht, h'⟩ hl'

namespace Performs

variable {a : β} {e : Except Crash β}

/-! ### One lemma for each construct

Taken apart from the front: what a thread has performed is one part of the process, and then the
rest of it from where that part has ended. -/

theorem pure (h : t.Performs me (pure a) l e u) : e = .ok a ∧ l = [] ∧ u = t := by
  obtain ⟨rfl, hl, hu⟩ := Passes.finish (e := .ok a) h
  exact ⟨rfl, hl, hu⟩

theorem crash {c : Crash} (h : t.Performs me (Process.crash c) l e u) :
    e = .error c ∧ l = [] ∧ u = t := by
  obtain ⟨rfl, hl, hu⟩ := Passes.finish (e := .error c) h
  exact ⟨rfl, hl, hu⟩

/-- **A sequence that has a result** is performed part by part. -/
theorem bind {p : Process σ γ} {f : γ → Process σ β} (h : t.Performs me (p >>= f) l (.ok a) u) :
    ∃ c v l₁ l₂, l = l₁ ++ l₂ ∧ t.Performs me p l₁ (.ok c) v ∧
      v.Performs me (f c) l₂ (.ok a) u := by
  unfold Performs at h
  rw [Process.course_bind] at h
  obtain ⟨r, v, l₁, l₂, hl, hp, hf⟩ := h.after
  cases r with
  | ok c => exact ⟨c, v, l₁, l₂, hl, hp, hf⟩
  | error c => cases (Passes.finish (e := .error c) hf).1

/-- A sequence that crashed did so in its first part or in its second. -/
theorem bind_crash {p : Process σ γ} {f : γ → Process σ β} {c : Crash}
    (h : t.Performs me (p >>= f) l (.error c) u) :
    t.Performs me p l (.error c) u ∨ ∃ b v l₁ l₂, l = l₁ ++ l₂ ∧
      t.Performs me p l₁ (.ok b) v ∧ v.Performs me (f b) l₂ (.error c) u := by
  unfold Performs at h
  rw [Process.course_bind] at h
  obtain ⟨r, v, l₁, l₂, rfl, hp, hf⟩ := h.after
  cases r with
  | ok b => exact .inr ⟨b, v, l₁, l₂, rfl, hp, hf⟩
  | error d =>
    obtain ⟨hd, rfl, rfl⟩ := Passes.finish (e := .error d) (d := .error c) hf
    cases hd
    rw [List.append_nil]
    exact .inl hp

/-- An attempt that was performed had its process performed, whatever the end of that. -/
theorem attempt {p : Process σ γ} {f : Except Crash γ → Process σ β}
    (h : t.Performs me (p.attempt >>= f) l (.ok a) u) :
    ∃ r v l₁ l₂, l = l₁ ++ l₂ ∧ t.Performs me p l₁ r v ∧ v.Performs me (f r) l₂ (.ok a) u := by
  obtain ⟨r, v, l₁, l₂, hl, hp, hf⟩ := h.bind
  unfold Performs at hp
  rw [Process.course_attempt] at hp
  obtain ⟨r', v', l₁', l₁'', rfl, hp', hr⟩ := hp.after
  obtain ⟨h', rfl, rfl⟩ := Passes.finish (e := .ok r') (d := .ok r) hr
  cases h'
  exact ⟨r, v, l₁', l₂, by simpa using hl, hp', hf⟩

/-- **A section is entered at once**; what is seen after it, others may have done. -/
theorem exchangeWhen {ready : σ → Bool} {f : σ → β × σ}
    (h : t.Performs me (Process.exchangeWhen ready f) l e u) :
    ready t.state = true ∧ e = .ok (f t.state).1 ∧ ∃ l' t', l = t :: l' ∧
      t'.state = (f t.state).2 ∧ t.Reaches (fun _ => True) t' ∧ Others me t' l' u := by
  obtain ⟨k, ht, h⟩ := h
  rw [Process.course_exchangeWhen] at h ht
  generalize hq : (Course.finish e : Course σ β) = q at h
  cases h with
  | here => cases e <;> cases hq
  | enter hr ho h =>
    cases h with
    | here =>
      cases e <;> cases hq
      exact ⟨hr, rfl, _, _, by simp, rfl, .enter (.here trivial) ht hr trivial, ho⟩

/-- **What follows a section** goes on from its reply, whatever it ends with. -/
theorem exchangeWhen_bind {ready : σ → Bool} {f : σ → γ × σ} {k : γ → Process σ β}
    (h : t.Performs me (Process.exchangeWhen ready f >>= k) l e u) :
    ∃ v l₁ l₂, l = l₁ ++ l₂ ∧
      t.Performs me (Process.exchangeWhen ready f) l₁ (.ok (f t.state).1) v ∧
        v.Performs me (k (f t.state).1) l₂ e u := by
  cases e with
  | ok a =>
    obtain ⟨c, v, l₁, l₂, hl, hp, hk⟩ := h.bind
    obtain rfl := Except.ok.inj hp.exchangeWhen.2.1
    exact ⟨v, l₁, l₂, hl, hp, hk⟩
  | error c =>
    obtain hp | ⟨b, v, l₁, l₂, hl, hp, hk⟩ := h.bind_crash
    · cases hp.exchangeWhen.2.1
    · obtain rfl := Except.ok.inj hp.exchangeWhen.2.1
      exact ⟨v, l₁, l₂, hl, hp, hk⟩

/-- **A change is made at once**; what is seen after it, others may have done. -/
theorem change {f : σ → σ} {e : Except Crash Unit} (h : t.Performs me (Process.change f) l e u) :
    e = .ok () ∧ ∃ l' t', l = t :: l' ∧ t'.state = f t.state ∧
      t.Reaches (fun _ => True) t' ∧ Others me t' l' u :=
  have h' : t.Performs me (Process.exchangeWhen (fun _ => true) fun s => ((), f s)) l e u := h
  h'.exchangeWhen.2

theorem change_bind {f : σ → σ} {k : Unit → Process σ β}
    (h : t.Performs me (Process.change f >>= k) l e u) :
    ∃ v l₁ l₂, l = l₁ ++ l₂ ∧ t.Performs me (Process.change f) l₁ (.ok ()) v ∧
      v.Performs me (k ()) l₂ e u :=
  have h' : t.Performs me (Process.exchangeWhen (fun _ => true) (fun s => ((), f s)) >>= k) l e u :=
    h
  h'.exchangeWhen_bind

/-- **A question is answered of the state it finds**, which others may have changed by the time
the thread goes on. -/
theorem ask {f : σ → β} (h : t.Performs me (Process.ask f) l e u) :
    e = .ok (f t.state) ∧ ∃ l' t', l = t :: l' ∧ t'.state = t.state ∧
      t.Reaches (fun _ => True) t' ∧ Others me t' l' u :=
  (exchangeWhen (f := fun s => (f s, s)) h).2

theorem ask_bind {f : σ → γ} {k : γ → Process σ β}
    (h : t.Performs me (Process.ask f >>= k) l e u) :
    ∃ v l₁ l₂, l = l₁ ++ l₂ ∧ t.Performs me (Process.ask f) l₁ (.ok (f t.state)) v ∧
      v.Performs me (k (f t.state)) l₂ e u :=
  exchangeWhen_bind (f := fun s => (f s, s)) h

/-- What follows a wait goes on from a point after a state that was ready. -/
theorem await_bind {ready : σ → Bool} {k : Unit → Process σ β}
    (h : t.Performs me (Process.await ready >>= k) l e u) :
    ∃ v l₁ l₂, l = l₁ ++ l₂ ∧ t.Performs me (Process.await ready) l₁ (.ok ()) v ∧
      v.Performs me (k ()) l₂ e u :=
  exchangeWhen_bind (f := fun s => ((), s)) h

end Performs

end Threads

end HostBridge
