import HostBridge.Proofs.Interleaving

/-!
# Disciplines

A **discipline** is a way to reason about sections one at a time although other
threads run between them. Every thread owns something (`τ`), a **stake** in the
state, and an invariant relates the state to all stakes. A course follows the
discipline (`Course.Follows`) when each of its sections, entered at a state that
satisfies the invariant, keeps the invariant after a change of its own stake
alone. Threads that follow it keep the invariant in every interleaving
(`Threads.Reaches.keeps`), and so does a course that runs alone
(`Course.Reaches.keeps`).

A single course can take the whole state for its stake; following a discipline
is then the usual reasoning from one state to the next.

## Stakes

The invariant alone would not do. Between the two sections of an operation the
state says less than the thread knows: that a handle is being destroyed is in
its record, but not which of the threads destroys it. The stake of a thread is
where that knowledge is kept. A section of another thread may change the state
under it, and never the stake.

A discipline also has states that are **looked at** (`within`). They are where a
hypothesis on a whole run goes, such as that fewer handles are given out than
there are numbers for; nothing is claimed of what happens after the first state
outside. What a section leads to can be made a **demand** on its thread, and a
theorem about what every section does is read off the demands.
-/

namespace HostBridge

variable {σ τ α β γ : Type}

/-- **A discipline**: what has to hold of the state and of the stakes of the
threads, in which states, and what a thread must own to enter a section. -/
structure Discipline (σ τ : Type) where
  /-- The invariant. -/
  inv : σ → (ThreadId → τ) → Prop
  /-- The states that are looked at. -/
  within : σ → Prop
  /-- What a section that leads from one state to another demands of the stake of
  its thread. -/
  demand : σ → σ → τ → Prop

/-- **A course follows a discipline** on behalf of a thread, from a stake on:
every section keeps the invariant, and the end satisfies `post`. -/
def Course.Follows (D : Discipline σ τ) (me : ThreadId) (post : Except Crash α → τ → Prop) :
    Course σ α → τ → Prop
  | done a, x => post (.ok a) x
  | crash c, x => post (.error c) x
  | step ready effect next, x =>
    ∀ s own, D.inv s own → own me = x → D.within s → ready s = true → D.within (effect s) →
      D.demand s (effect s) x ∧
        ∃ y, D.inv (effect s) (Function.update own me y) ∧ (next s).Follows D me post y

namespace Course

variable {D : Discipline σ τ} {me : ThreadId}

/-- A course that follows may be said to end with less. -/
theorem Follows.mono {post post' : Except Crash α → τ → Prop}
    (h : ∀ r x, post r x → post' r x) {p : Course σ α} {x : τ} (hp : p.Follows D me post x) :
    p.Follows D me post' x := by
  induction p generalizing x with
  | done a => exact h _ _ hp
  | crash c => exact h _ _ hp
  | step ready effect next ih =>
    intro s own hinv hx hs hr hs'
    obtain ⟨hd, y, hy, hn⟩ := hp s own hinv hx hs hr hs'
    exact ⟨hd, y, hy, ih s hn⟩

/-- **Following with one course after the other** is following with the first,
at whose end the second follows. -/
theorem Follows.after {post : Except Crash β → τ → Prop} {p : Course σ α}
    {k : Except Crash α → Course σ β} {x : τ}
    (hp : p.Follows D me (fun r y => (k r).Follows D me post y) x) :
    (p.after k).Follows D me post x := by
  induction p generalizing x with
  | done a => exact hp
  | crash c => exact hp
  | step ready effect next ih =>
    intro s own hinv hx hs hr hs'
    obtain ⟨hd, y, hy, hn⟩ := hp s own hinv hx hs hr hs'
    exact ⟨hd, y, hy, ih s hn⟩

/-! ## What a run keeps

Both lemmas are by induction on the way that was come, and both give back that
the rest still follows, so that they can be used at a point in the middle. -/

/-- **A course that follows keeps the invariant** while it runs alone, and goes
on following from every point. -/
theorem Reaches.keeps {post : Except Crash α → τ → Prop} {p q : Course σ α} {s s' : σ}
    {own : ThreadId → τ} (h : Reaches D.within p s q s') (hinv : D.inv s own)
    (hp : p.Follows D me post (own me)) :
    ∃ y, D.inv s' (Function.update own me y) ∧ q.Follows D me post y := by
  induction h with
  | here hs => exact ⟨own me, by rwa [Function.update_eq_self], hp⟩
  | @enter ready effect next s₁ h hr hs ih =>
    -- the stakes of the others have not changed since the start
    obtain ⟨x, hx, hf⟩ := ih
    obtain ⟨-, y, hy, hn⟩ := hf s₁ _ hx (Function.update_self me x own) h.within hr hs
    rw [Function.update_idem] at hy
    exact ⟨y, hy, hn⟩

end Course

/-- **Threads that follow keep the invariant** in every interleaving, and go on
following from every point. -/
theorem Threads.Reaches.keeps {D : Discipline σ τ} {post : ThreadId → Except Crash α → τ → Prop}
    {t u : Threads σ α} (h : Reaches D.within t u) {own : ThreadId → τ} (hinv : D.inv t.state own)
    (ht : ∀ me, (t.todo me).Follows D me (post me) (own me)) :
    ∃ own', D.inv u.state own' ∧ ∀ me, (u.todo me).Follows D me (post me) (own' me) := by
  induction h with
  | here hs => exact ⟨own, hinv, ht⟩
  | @enter u me ready effect next h hu hr hs ih =>
    obtain ⟨own₁, hinv₁, hf⟩ := ih
    have hme := hf me
    rw [hu] at hme
    obtain ⟨-, y, hy, hn⟩ := hme u.state own₁ hinv₁ rfl h.within hr hs
    refine ⟨Function.update own₁ me y, hy, fun you => ?_⟩
    by_cases hyou : you = me
    · subst hyou
      simpa using hn
    · simpa [hyou] using hf you

end HostBridge
