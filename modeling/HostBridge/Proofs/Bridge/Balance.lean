import HostBridge.Proofs.Bridge.Holding

/-!
# What code leaves on a handle

Code that runs on a thread may call what it likes, and the calls that it makes may
call back; when it is done, the thread has the calls on every handle that it had
before, but for those that native code took up or ended on purpose and that the
host keeps for it (`Threads.Performs.balanced`). The other threads may have done
anything in the meantime.

The count is not kept section by section. It is what a thread owns of a handle that
code gives back, and what a thread owns settles how many of the entries in the
record are its own. So the statement is for the points where code runs
(`Threads.AtCode`): a thread that is in the middle of an operation of the bridge may
be about to change the count. Every thread of a host starts at such a point
(`World.Fresh.atCode`), and everything that leaves it where code may run leads to
another one (`Threads.AtCode.performs`), so that code which is entered on the way
is met at such a point as well.
-/

namespace HostBridge

variable {σ τ α β : Type} {me : ThreadId}

/-! ## One thread among others that follow

A discipline that all threads follow keeps its invariant. What is needed beyond that is where
one of them stands, and that is known as long as its own stake is: the others change theirs
and leave it alone. -/

/-- **The others follow a discipline**, while one thread is looked at by itself. -/
structure Threads.Attended (D : Discipline σ τ) (post : ThreadId → Except Crash α → τ → Prop)
    (t : Threads σ α) (me : ThreadId) (own : ThreadId → τ) : Prop where
  inv : D.inv t.state own
  others : ∀ you, you ≠ me → (t.todo you).Follows D you (post you) (own you)

namespace Threads

variable {D : Discipline σ τ} {post : ThreadId → Except Crash α → τ → Prop}
  {post' : Except Crash β → τ → Prop} {t u : Threads σ α} {l : List (Threads σ α)}
  {own : ThreadId → τ}

/-- What the others do leaves a thread what it owns. -/
theorem Others.attended (ho : Others me t l u) (ht : t.Attended D post me own)
    (hin : ∀ v, t.Reaches (fun _ => True) v → v.Reaches (fun _ => True) u → D.within v.state) :
    ∃ own', u.Attended D post me own' ∧ own' me = own me := by
  induction ho generalizing own with
  | here => exact ⟨own, ht, rfl⟩
  | @enter t u l you ready effect next hyou hstep hr ho ih =>
    have hfirst : t.Reaches (fun _ => True) (t.entered you effect (next t.state)) :=
      .enter (.here trivial) hstep hr trivial
    have hlast := (ho.reaches (.here trivial)).2
    have hfollows := ht.others you hyou
    rw [hstep] at hfollows
    obtain ⟨-, y, hy, hnext⟩ := hfollows t.state own ht.inv rfl
      (hin t (.here trivial) (hfirst.trans hlast)) hr (hin _ hfirst hlast)
    have hattended : (t.entered you effect (next t.state)).Attended D post me
        (Function.update own you y) := by
      refine ⟨hy, fun other hother => ?_⟩
      by_cases hsame : other = you
      · subst hsame
        rw [entered_todo_self, Function.update_self]
        exact hnext
      · rw [entered_todo_of_ne (Ne.symm hsame), Function.update_of_ne hsame]
        exact ht.others other hother
    obtain ⟨own', hown', hme⟩ := ih hattended fun v hv hvu => hin v (hfirst.trans hv) hvu
    exact ⟨own', hown', hme.trans (Function.update_of_ne hyou.symm ..)⟩

/-- **A thread that follows goes on following**, whatever the others do that follow
too. -/
theorem PassesBefore.attended {k : Except Crash β → Course σ α} {p q : Course σ β}
    (h : PassesBefore me k p t l q u) (htodo : t.todo me = p.after k)
    (ht : t.Attended D post me own) (hp : p.Follows D me post' (own me))
    (hin : ∀ v, t.Reaches (fun _ => True) v → v.Reaches (fun _ => True) u → D.within v.state) :
    ∃ own', u.Attended D post me own' ∧ q.Follows D me post' (own' me) := by
  induction h generalizing own with
  | here => exact ⟨own, ht, hp⟩
  | @enter t t' u l l' ready effect next q hr ho h ih =>
    have hfirst : t.Reaches (fun _ => True) (t.entered me effect ((next t.state).after k)) :=
      .enter (.here trivial) htodo hr trivial
    have hothers := (ho.reaches (.here trivial)).2
    have htodo' : t'.todo me = (next t.state).after k := by rw [ho.todo, entered_todo_self]
    have hlast := (h.reaches htodo' (.here trivial)).2
    obtain ⟨-, y, hy, hnext⟩ := hp t.state own ht.inv rfl
      (hin t (.here trivial) ((hfirst.trans hothers).trans hlast)) hr
      (hin _ hfirst (hothers.trans hlast))
    have hattended : (t.entered me effect ((next t.state).after k)).Attended D post me
        (Function.update own me y) := by
      refine ⟨hy, fun other hother => ?_⟩
      rw [entered_todo_of_ne (Ne.symm hother), Function.update_of_ne hother]
      exact ht.others other hother
    obtain ⟨own', hown', hme⟩ := ho.attended hattended
      fun v hv hvt => hin v (hfirst.trans hv) (hvt.trans hlast)
    rw [Function.update_self] at hme
    exact ih htodo' hown' (hme ▸ hnext)
      fun v hv hvu => hin v ((hfirst.trans hothers).trans hv) hvu

/-- A process that follows is performed to an end that it may have. -/
theorem Performs.attended {p : Process σ β} {e : Except Crash β} (h : t.Performs me p l e u)
    (ht : t.Attended D post me own) (hp : p.Follows D me post' (own me))
    (hin : ∀ v, t.Reaches (fun _ => True) v → v.Reaches (fun _ => True) u → D.within v.state) :
    ∃ own', u.Attended D post me own' ∧ post' e (own' me) := by
  obtain ⟨k, htodo, h⟩ := h
  obtain ⟨own', hown', hend⟩ := h.attended htodo ht hp hin
  cases e with
  | ok b => exact ⟨own', hown', hend⟩
  | error c => exact ⟨own', hown', hend⟩

end Threads

/-! ## Where code runs

At such a point the stake of the thread is what it has to end, and no handle is in the middle
of being constructed or destroyed by it in a way that others could come upon. -/

/-- The threads with a call on a handle, one entry a call. -/
def World.inFlight (w : World) (h : Handle) : List ThreadId :=
  ((w.bridge.records.get? h).map Record.inFlight).getD []

/-- What a thread owns is given back when its code is done. -/
def Stakes.returned (_ : ThreadId) (r : Except Crash α) (y : Stakes) : Prop :=
  r = .error .tooDeep ∨ Stakes.givenBack.rel (fun _ => {}) y

/-- **A thread of a host has come to where code runs**: everything is accounted
for, and what the thread owns is nothing that code could see half done. -/
structure Threads.AtCode (start : Threads World α) (me : ThreadId) (t : Threads World α) :
    Prop where
  reached : start.Reaches (fun _ => True) t
  stakes : ∃ own, t.Attended World.bridging Stakes.returned me own ∧ (own me).Presentable

/-- Where code may run before and after. -/
def Stakes.presented : Conduct Stakes where
  rel := fun x y => x.Presentable ∧ y.Presentable
  trans := fun h h' => ⟨h.1, h'.2⟩
  right := fun h => ⟨h.2, h.2⟩

theorem Process.Keeps.presented {p : Run β} (hp : p.Keeps World.bridging Stakes.givenBack me) :
    p.Keeps World.bridging Stakes.presented me := by
  refine fun x hx => (hp x ⟨hx.1, rfl⟩).mono fun r y h => h.imp id ?_
  rintro ⟨hx, rfl⟩
  exact ⟨hx, hx⟩

section

variable {w : World} {n : Nat} {code : ThreadId → NativeCode α} {t u : Threads World α}
  {l : List (Threads World α)}

/-- Every thread of a host starts with code. -/
theorem World.Fresh.atCode (hw : w.Fresh) (n : Nat) (code : ThreadId → NativeCode α)
    (me : ThreadId) : (w.threads n code).AtCode me (w.threads n code) := by
  have hpresentable : Stakes.Presentable (fun _ => {}) := fun _ => ⟨by simp, by simp, by simp⟩
  refine ⟨.here trivial, _, ⟨hw.accounted, fun you _ => ?_⟩, hpresentable⟩
  exact (bridged you).runNative ((bridged you).keeps_nested n) (code you) (Program.asks_true _) _
    ⟨hpresentable, rfl⟩

namespace Threads.AtCode

/-- While the handles have not run out, no point on the way is out of bounds. -/
theorem within (ht : (w.threads n code).AtCode me t) (hb : u.state.constructions < 2 ^ 64)
    (v : Threads World α) (hv : t.Reaches (fun _ => True) v)
    (hvu : v.Reaches (fun _ => True) u) :
    v.state.constructions < 2 ^ 64 :=
  Nat.lt_of_le_of_lt ((ht.reached.trans hv).constructions_le hvu) hb

/-- **What leaves a thread where code may run leads it to where code runs.** -/
theorem performs {p : Run β} {b : β} (ht : (w.threads n code).AtCode me t)
    (hp : p.Keeps World.bridging Stakes.presented me) (h : t.Performs me p l (.ok b) u)
    (hb : u.state.constructions < 2 ^ 64) : (w.threads n code).AtCode me u := by
  obtain ⟨own, hattended, hown⟩ := ht.stakes
  obtain ⟨own', hattended', hown'⟩ := h.attended hattended (hp _ ⟨hown, hown⟩) (ht.within hb)
  exact ⟨ht.reached.trans (h.reaches (.here trivial)).2, own', hattended',
    (hown'.resolve_left (by simp)).2⟩

/-- **Code leaves on every handle the calls that the thread had on it**, but for
those that were taken up or ended to be kept. -/
theorem balanced {p : Run β} {b : β} (ht : (w.threads n code).AtCode me t)
    (hp : p.Keeps World.bridging Stakes.givenBack me) (h : t.Performs me p l (.ok b) u)
    (hb : u.state.constructions < 2 ^ 64) (g : Handle) :
    (u.state.inFlight g).count me + t.state.kept.count (me, g)
      = (t.state.inFlight g).count me + u.state.kept.count (me, g) := by
  obtain ⟨own, hattended, hown⟩ := ht.stakes
  obtain ⟨own', hattended', hown'⟩ := h.attended hattended (hp _ ⟨hown, rfl⟩) (ht.within hb)
  have hsame : own me = own' me := (hown'.resolve_left (by simp)).2
  obtain ⟨φ, hφ⟩ := hattended.inv.standing g
  obtain ⟨φ', hφ'⟩ := hattended'.inv.standing g
  have hbefore : (t.state.inFlight g).count me = (own me g).calls + t.state.kept.count (me, g) :=
    hφ.tallies.calls me
  have hafter : (u.state.inFlight g).count me = (own' me g).calls + u.state.kept.count (me, g) :=
    hφ'.tallies.calls me
  rw [hbefore, hafter, hsame]
  omega

end Threads.AtCode

end

end HostBridge
