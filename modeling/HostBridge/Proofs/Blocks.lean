import HostBridge.Proofs.Evaluation

/-!
# Blocks

Managed code that performs an operation is inside of blocks: more code follows it, and it may
be the body of `try … finally` or of `try … catch`, any of these inside of another. `Blocks`
says which blocks these are, and `Blocks.plug` puts code inside of them.

What an exception does to them is a matter of the code alone, and holds as an equation of
programs. Where nothing catches it, what is left of the code is the last parts of all blocks,
the innermost first and each of them once, and then the exception again (`Blocks.plug_error`).
Where there is a handler, what is left is the last parts of the blocks inside of it, and then
the handler, inside of the blocks around it (`Blocks.plug_caught`).

How far code has come in a frame is told by the replies that it was given (`Run.GoesOn`).

Code is a program, which is a tree of operations and has no blocks in it: `try … finally` is a
function from programs to programs. So there is nothing in a program to say where in which block
it is, and the blocks are a structure of their own beside it. What connects the two is that the
program which performs an operation inside of blocks is the plugged one.
-/

namespace HostBridge

variable {α β γ : Type}

/-- One program after the other, unless the first one ended with an error. -/
def Program.onward {I : Interface} {ε : Type} (body : Program I (Except ε α))
    (f : α → Program I (Except ε β)) : Program I (Except ε β) := do
  match ← body with
  | .ok a => f a
  | .error e => return .error e

/-- **The blocks that code is inside of**, the innermost first: the code has a result in `α`,
and all of it together has one in `γ`. -/
inductive Blocks (γ : Type) : Type → Type 1
  /-- The code is inside of no block. -/
  | none : Blocks γ γ
  /-- More code follows, unless there was an exception. -/
  | andThen {α β : Type} (f : α → ManagedCode (Except ManagedException β))
    (outer : Blocks γ β) : Blocks γ α
  /-- `try … finally`. -/
  | tryFinally {α : Type} (last : ManagedCode Unit) (outer : Blocks γ α) : Blocks γ α
  /-- `try … catch`. -/
  | tryCatch {α : Type}
    (handler : ManagedException → ManagedCode (Except ManagedException α))
    (outer : Blocks γ α) : Blocks γ α

namespace Blocks

/-- **The code inside of its blocks.** -/
def plug {α : Type} : Blocks γ α → ManagedCode (Except ManagedException α) →
    ManagedCode (Except ManagedException γ)
  | none, p => p
  | andThen f outer, p => outer.plug (p.onward f)
  | tryFinally last outer, p => outer.plug (p.ending last)
  | tryCatch handler outer, p => outer.plug (p.catching handler)

/-- Blocks around blocks. -/
def append {α : Type} : Blocks β α → Blocks γ β → Blocks γ α
  | none, c => c
  | andThen f outer, c => andThen f (outer.append c)
  | tryFinally last outer, c => tryFinally last (outer.append c)
  | tryCatch handler outer, c => tryCatch handler (outer.append c)

/-- **No block catches an exception.** -/
def Uncaught {α : Type} : Blocks γ α → Prop
  | none => True
  | andThen _ outer => outer.Uncaught
  | tryFinally _ outer => outer.Uncaught
  | tryCatch _ _ => False

/-- **The last parts** of the blocks, the innermost first. -/
def lasts {α : Type} : Blocks γ α → List (ManagedCode Unit)
  | none => []
  | andThen _ outer => outer.lasts
  | tryFinally last outer => last :: outer.lasts
  | tryCatch _ outer => outer.lasts

/-! ## What an exception does to blocks

By recursion on the blocks, from the inside out. -/

/-- Blocks see of the code inside of them what it ends with. -/
theorem plug_eq_bind (b : Blocks γ α) (p : ManagedCode (Except ManagedException α)) :
    b.plug p = p >>= fun r => b.plug (.done r) := by
  induction b with
  | none => exact (Program.bind_done_eq p).symm
  | andThen f outer ih =>
    refine (ih _).trans ((bind_assoc ..).trans (congrArg _ (funext fun r => ?_)))
    exact (ih _).symm
  | tryFinally last outer ih =>
    refine (ih _).trans ((bind_assoc ..).trans (congrArg _ (funext fun r => ?_)))
    exact (ih _).symm
  | tryCatch handler outer ih =>
    refine (ih _).trans ((bind_assoc ..).trans (congrArg _ (funext fun r => ?_)))
    exact (ih _).symm

/-- Blocks see of code that is followed by more what follows it. -/
theorem plug_bind (b : Blocks γ α) (p : ManagedCode β)
    (f : β → ManagedCode (Except ManagedException α)) :
    b.plug (p >>= f) = p >>= fun r => b.plug (f r) := by
  rw [plug_eq_bind, bind_assoc]
  exact congrArg _ (funext fun r => (b.plug_eq_bind (f r)).symm)

/-- Blocks inside of blocks are plugged one after the other. -/
theorem plug_append (b : Blocks β α) (c : Blocks γ β)
    (p : ManagedCode (Except ManagedException α)) : (b.append c).plug p = c.plug (b.plug p) := by
  induction b with
  | none => rfl
  | andThen f outer ih => exact ih _
  | tryFinally last outer ih => exact ih _
  | tryCatch handler outer ih => exact ih _

/-- **An exception that nothing catches** leaves the last parts of all blocks to run, and goes
on. -/
theorem plug_error {b : Blocks γ α} (hb : b.Uncaught) (e : ManagedException) :
    b.plug (.done (.error e)) = b.lasts.forM id >>= fun _ => .done (.error e) := by
  induction b with
  | none => rfl
  | andThen f outer ih => exact ih hb
  | tryFinally last outer ih =>
    calc outer.plug (last >>= fun _ => .done (.error e))
        = last >>= fun _ => outer.plug (.done (.error e)) := outer.plug_bind last _
      _ = last >>= fun _ => (outer.lasts.forM id >>= fun _ => .done (.error e)) := by rw [ih hb]
      _ = (last :: outer.lasts).forM id >>= fun _ => .done (.error e) := (bind_assoc ..).symm
  | tryCatch handler outer => exact hb.elim

/-- **An exception that a block catches** leaves the last parts of the blocks inside of it to
run, and then the handler. -/
theorem plug_caught {b : Blocks β α} (hb : b.Uncaught)
    (handler : ManagedException → ManagedCode (Except ManagedException β)) (outer : Blocks γ β)
    (e : ManagedException) :
    (b.append (.tryCatch handler outer)).plug (.done (.error e)) =
      b.lasts.forM id >>= fun _ => outer.plug (handler e) := by
  have hcaught : Program.catching (b.lasts.forM id >>= fun _ => .done (.error e)) handler =
      b.lasts.forM id >>= fun _ => handler e := bind_assoc ..
  rw [plug_append, plug_error hb, plug, hcaught, plug_bind]

end Blocks

/-! ## How far code has come

A relation between two programs of a frame, and between the states at which they go on. -/

/-- **Code has come in a frame** from one state to another: it was replied to, and went on. -/
inductive Run.GoesOn (run : Runner) (me : ThreadId) (x : Context) {γ : Type} :
    World → ManagedCode γ → World → ManagedCode γ → Prop
  /-- It has not moved. -/
  | here (w : World) (p : ManagedCode γ) : GoesOn run me x w p w p
  /-- An operation was replied to. -/
  | reply {w v w' : World} {op : ManagedOp} {r : op.Reply}
    {next : op.Reply → ManagedCode γ} {p : ManagedCode γ}
    (hr : (Run.managedReply run me x op).Ends w (.ok r) v)
    (rest : GoesOn run me x v (next r) w' p) : GoesOn run me x w (.perform op next) w' p

namespace Run.GoesOn

variable {run : Runner} {me : ThreadId} {x : Context} {w v w' : World} {p q r : ManagedCode γ}

theorem trans (h : GoesOn run me x w p v q) (h' : GoesOn run me x v q w' r) :
    GoesOn run me x w p w' r := by
  induction h with
  | here => exact h'
  | reply hr rest ih => exact .reply hr (ih h')

/-- Code ends as what it has come to does. -/
theorem ends {e : Except Crash γ} (h : GoesOn run me x w p v q)
    (hq : (Run.runManaged run me x q).Ends v e w') : (Run.runManaged run me x p).Ends w e w' := by
  induction h with
  | here => exact hq
  | reply hr rest ih => exact hr.bind (ih hq)

/-- Code that has ended has come to what follows it. -/
theorem of_ends {code : ManagedCode β} {b : β}
    (h : (Run.runManaged run me x code).Ends w (.ok b) w') (f : β → ManagedCode γ) :
    GoesOn run me x w (code >>= f) w' (f b) := by
  induction code generalizing w with
  | done a =>
    cases h
    exact .here _ _
  | panic p => cases h
  | perform op next ih =>
    obtain ⟨reply, v, hreply, h⟩ := Process.Ends.of_bind_ok h
    exact .reply hreply (ih reply h)

end Run.GoesOn

namespace Blocks

variable {run : Runner} {me : ThreadId} {x : Context} {w v w' : World} {e : ManagedException}
  {p : ManagedCode (Except ManagedException α)}

/-- **An exception leaves blocks** that do not catch it, when their last parts have run. -/
theorem ends_error {b : Blocks γ α} (hb : b.Uncaught)
    (hp : (Run.runManaged run me x p).Ends w (.ok (.error e)) v)
    (hlasts : (Run.runManaged run me x (b.lasts.forM id)).Ends v (.ok ()) w') :
    (Run.runManaged run me x (b.plug p)).Ends w (.ok (.error e)) w' := by
  rw [plug_eq_bind, Run.runManaged_bind]
  refine hp.bind ?_
  rw [plug_error hb, Run.runManaged_bind]
  exact hlasts.bind (.pure _ _)

/-- **A handler gets the exception** when the last parts of the blocks inside of it have run. -/
theorem goesOn_handler {b : Blocks β α} (hb : b.Uncaught)
    (hp : (Run.runManaged run me x p).Ends w (.ok (.error e)) v)
    (hlasts : (Run.runManaged run me x (b.lasts.forM id)).Ends v (.ok ()) w')
    (handler : ManagedException → ManagedCode (Except ManagedException β))
    (outer : Blocks γ β) :
    Run.GoesOn run me x w ((b.append (.tryCatch handler outer)).plug p) w'
      (outer.plug (handler e)) := by
  rw [plug_eq_bind]
  refine (Run.GoesOn.of_ends hp _).trans ?_
  rw [plug_caught hb]
  exact .of_ends hlasts _

end Blocks

end HostBridge
