import HostBridge.Code.Program

/-!
# The course of a computation over a shared state

A `Course σ α` is a computation over a shared state as it may be watched from
outside, cut into **atomic sections**: each section waits until the state is
ready for it, changes the state in one go and decides from the state it found
how to go on. Run alone, a course is a function of the state (`advance`); run
beside others, its sections are what may interleave.

A course that is not done has crashed, for a panic that nobody stopped or
because code was nested too deeply, or is about to enter a section. One course
goes on where another ended (`after`), which is associative (`after_after`) and
has `finish` as its unit (`after_finish`).
-/

namespace HostBridge

/-- **Why a computation has no result.** -/
inductive Crash where
  /-- A panic that unwinds. -/
  | panicked (p : Panic)
  /-- Code called code more often than the run allows. -/
  | tooDeep
deriving DecidableEq, Repr

/-- **A computation in atomic sections over a state.** -/
inductive Course (σ α : Type) : Type where
  /-- The result. -/
  | done (a : α)
  /-- The end without a result. -/
  | crash (c : Crash)
  /-- A section: when it may be entered, what it does to the state, and what
  follows, given the state it found. -/
  | step (ready : σ → Bool) (effect : σ → σ) (next : σ → Course σ α)

namespace Course

variable {σ α β γ : Type}

/-- The end of a course, with its result or its crash. -/
def finish : Except Crash α → Course σ α
  | .ok a => done a
  | .error c => crash c

/-- **What follows the end of a course**, whatever the end is. -/
def after : Course σ α → (Except Crash α → Course σ β) → Course σ β
  | done a, k => k (.ok a)
  | crash c, k => k (.error c)
  | step ready effect next, k => step ready effect (fun s => (next s).after k)

@[simp] theorem after_finish (p : Course σ α) : p.after finish = p := by
  induction p with
  | done a => rfl
  | crash c => rfl
  | step ready effect next ih => simp [after, ih]

@[simp] theorem finish_after (r : Except Crash α) (k : Except Crash α → Course σ β) :
    (finish r : Course σ α).after k = k r := by
  cases r <;> rfl

theorem after_after (p : Course σ α) (k : Except Crash α → Course σ β)
    (l : Except Crash β → Course σ γ) : (p.after k).after l = p.after (fun r => (k r).after l) := by
  induction p with
  | done a => rfl
  | crash c => rfl
  | step ready effect next ih => simp [after, ih]

/-- **Runs a course as far as it goes**: to its end, or to a section that is not
ready. -/
def advance : Course σ α → σ → Course σ α × σ
  | done a, s => (done a, s)
  | crash c, s => (crash c, s)
  | step ready effect next, s =>
    if ready s then (next s).advance (effect s) else (step ready effect next, s)

@[simp] theorem advance_done (a : α) (s : σ) : (done a).advance s = (done a, s) := rfl

@[simp] theorem advance_crash (c : Crash) (s : σ) :
    (crash c : Course σ α).advance s = (crash c, s) := rfl

/-- **Running one course after the other** is running the first and then, where
it ends, the second. -/
theorem advance_after (p : Course σ α) (k : Except Crash α → Course σ β) (s : σ) :
    (p.after k).advance s =
      match p.advance s with
      | (done a, s') => (k (.ok a)).advance s'
      | (crash c, s') => (k (.error c)).advance s'
      | (q, s') => (q.after k, s') := by
  induction p generalizing s with
  | done a => rfl
  | crash c => rfl
  | step ready effect next ih =>
    by_cases h : ready s
    · simp [after, advance, h, ih]
    · simp [after, advance, h]

end Course

end HostBridge
