import HostBridge.Course

/-!
# Processes over a shared state

A `Process σ α` is a computation over a shared state that is handed what comes
after it. Its meaning is its `course`, the tree of its atomic sections, and two
processes with one course are equal (`Process.ext_course`); being handed the
rest only makes long chains of nested code cheap to run, because no section is
passed upward through the code that waits for it.

Processes form a monad (`LawfulMonad`). A crash ends everything up to the next
`attempt`, which turns it into a result. Every operation is described by the
course it has: `course_pure`, `course_bind`, `course_attempt` and one lemma for
each kind of section.
-/

namespace HostBridge

/-- **A computation over a shared state.** -/
structure Process (σ α : Type) : Type 1 where
  /-- The course of the process and of what follows it. -/
  before : {β : Type} → (Except Crash α → Course σ β) → Course σ β
  /-- What follows has no say in the process itself. -/
  natural : ∀ {β : Type} (k : Except Crash α → Course σ β),
    before k = (before Course.finish).after k

namespace Process

variable {σ α β : Type}

/-- **The course of a process.** -/
def course (p : Process σ α) : Course σ α := p.before Course.finish

theorem before_eq (p : Process σ α) (k : Except Crash α → Course σ β) :
    p.before k = p.course.after k := p.natural k

/-- Processes of one course are equal. -/
theorem ext_course {p q : Process σ α} (h : p.course = q.course) : p = q := by
  have hb : @before σ α p = @before σ α q := by
    funext β k
    rw [before_eq, before_eq, h]
  cases p
  cases q
  cases hb
  rfl

/-- The process of a course. -/
def ofCourse (p : Course σ α) : Process σ α := ⟨p.after, fun k => by rw [Course.after_finish]⟩

@[simp] theorem course_ofCourse (p : Course σ α) : (ofCourse p).course = p := p.after_finish

@[simp] theorem ofCourse_course (p : Process σ α) : ofCourse p.course = p :=
  ext_course (course_ofCourse p.course)

/-! ## Results, crashes and sequences

A process is given two ways to go on, one from its result and one from its crash, and takes one of
them at its end. -/

/-- What comes after a result; a crash goes on as it is. -/
def orCrash (f : α → Course σ β) : Except Crash α → Course σ β
  | .ok a => f a
  | .error c => .crash c

/-- What is handed to the first of two processes: the second, unless the first
crashed. -/
def proceed {γ : Type} (f : α → Process σ β) (k : Except Crash β → Course σ γ) :
    Except Crash α → Course σ γ
  | .ok a => (f a).before k
  | .error c => k (.error c)

/-- A process with a result. -/
def result (a : α) : Process σ α := ⟨fun k => k (.ok a), fun _ => rfl⟩

/-- **A process that crashes.** -/
def crash (c : Crash) : Process σ α := ⟨fun k => k (.error c), fun _ => rfl⟩

theorem proceed_after {γ : Type} (f : α → Process σ β) (k : Except Crash β → Course σ γ)
    (r : Except Crash α) : (proceed f Course.finish r).after k = proceed f k r := by
  cases r with
  | ok a => exact ((f a).natural k).symm
  | error c => rfl

/-- **One process after the other.** -/
def bind (p : Process σ α) (f : α → Process σ β) : Process σ β :=
  ⟨fun k => p.before (proceed f k), fun k => by
    rw [p.natural, p.natural (proceed f Course.finish), Course.after_after]
    exact congrArg _ (funext fun r => (proceed_after f k r).symm)⟩

instance : Monad (Process σ) where
  pure := result
  bind := bind

/-- **The process with its crash as a result.** -/
def attempt (p : Process σ α) : Process σ (Except Crash α) :=
  ⟨fun k => p.before (fun r => k (.ok r)), fun k => by
    rw [p.natural, p.natural (fun r => Course.finish (.ok r)), Course.after_after]
    rfl⟩

@[simp] theorem course_pure (a : α) : (pure a : Process σ α).course = .done a := rfl

@[simp] theorem course_crash (c : Crash) : (crash c : Process σ α).course = .crash c := rfl

@[simp] theorem course_bind (p : Process σ α) (f : α → Process σ β) :
    (p >>= f).course = p.course.after (orCrash (fun a => (f a).course)) := by
  refine (p.natural _).trans (congrArg _ (funext fun r => ?_))
  cases r <;> rfl

@[simp] theorem course_attempt (p : Process σ α) :
    p.attempt.course = p.course.after (fun r => .done r) := p.natural _

instance : LawfulMonad (Process σ) := LawfulMonad.mk' _
  (fun p => ext_course <| by
    refine (course_bind p (fun a => pure (id a))).trans ?_
    refine Eq.trans (congrArg _ (funext fun r => ?_)) p.course.after_finish
    cases r <;> rfl)
  (fun _ _ => rfl)
  (fun p f g => ext_course <| by
    simp only [course_bind, Course.after_after]
    refine congrArg _ (funext fun r => ?_)
    cases r <;> simp [orCrash, Course.after])

/-! ## Sections

One section each, with a reply that is read off the state that it finds. -/

/-- **A section with a reply** that waits until the state is ready. -/
def exchangeWhen (ready : σ → Bool) (f : σ → α × σ) : Process σ α :=
  ⟨fun k => .step ready (fun s => (f s).2) (fun s => k (.ok (f s).1)), fun _ => rfl⟩

/-- A section with a reply. -/
def exchange (f : σ → α × σ) : Process σ α := exchangeWhen (fun _ => true) f

/-- Something the state says. -/
def ask (f : σ → α) : Process σ α :=
  ⟨fun k => .step (fun _ => true) id (fun s => k (.ok (f s))), fun _ => rfl⟩

/-- A section without a reply. -/
def change (f : σ → σ) : Process σ Unit :=
  ⟨fun k => .step (fun _ => true) f (fun _ => k (.ok ())), fun _ => rfl⟩

/-- Waits until the state is ready. -/
def await (ready : σ → Bool) : Process σ Unit :=
  ⟨fun k => .step ready id (fun _ => k (.ok ())), fun _ => rfl⟩

@[simp] theorem course_exchangeWhen (ready : σ → Bool) (f : σ → α × σ) :
    (exchangeWhen ready f).course =
      .step ready (fun s => (f s).2) (fun s => .done (f s).1) := rfl

@[simp] theorem course_exchange (f : σ → α × σ) :
    (exchange f).course = .step (fun _ => true) (fun s => (f s).2) (fun s => .done (f s).1) := rfl

@[simp] theorem course_ask (f : σ → α) :
    (ask f).course = .step (fun _ => true) id (fun s => .done (f s)) := rfl

@[simp] theorem course_change (f : σ → σ) :
    (change f).course = .step (fun _ => true) f (fun _ => .done ()) := rfl

@[simp] theorem course_await (ready : σ → Bool) :
    (await ready : Process σ Unit).course = .step ready id (fun _ => .done ()) := rfl

/-! ## Running -/

/-- **Runs a process as far as it goes**: to its end, or to a section that is
not ready. -/
def advance (p : Process σ α) (s : σ) : Course σ α × σ := p.course.advance s

/-- **Running a sequence** is running its first part and then, where it is
done, its second. -/
theorem advance_bind (p : Process σ α) (f : α → Process σ β) (s : σ) :
    (p >>= f).advance s =
      match p.advance s with
      | (.done a, s') => (f a).advance s'
      | (.crash c, s') => (.crash c, s')
      | (q, s') => (q.after (orCrash (fun a => (f a).course)), s') := by
  simp only [advance, course_bind, Course.advance_after]
  rfl

theorem advance_ask_bind (f : σ → α) (k : α → Process σ β) (s : σ) :
    (ask f >>= k).advance s = (k (f s)).advance s := by
  rw [advance_bind]
  rfl

end Process

end HostBridge
