/-!
# Programs over an interface

Code that the bridge runs, native or managed, is a `Program`: a tree that
either is done, panics, or asks its surroundings to perform an operation and
goes on with the reply. An `Interface` lists the operations and the type of
each reply. Programs form a monad (`LawfulMonad`), so they are written in `do`
notation, and every property of them is proved by induction on the tree.

The code of a host is not known to the bridge, and statements about the bridge
are about all of it. A program is a way to have all code at hand as data: what
it may do is in its interface, and how it makes up its mind, from the replies it
was given, is a function.
-/

namespace HostBridge

/-- **What a panic carries**: a text, or something that is no text. -/
inductive Panic where
  | text (message : String)
  | other
deriving DecidableEq, Repr, Inhabited

/-- The message of a panic. -/
def Panic.message : Panic → String
  | .text message => message
  | .other => "non-string panic payload"

/-- **The operations that code may ask for**, and the reply to each. -/
structure Interface where
  /-- The operations. -/
  Op : Type
  /-- The type of the reply to an operation. -/
  Reply : Op → Type

/-- **Code over an interface.** -/
inductive Program (I : Interface) (α : Type) : Type where
  /-- The result. -/
  | done (a : α)
  /-- The code panics and has no result. -/
  | panic (p : Panic)
  /-- An operation, and the code that follows its reply. -/
  | perform (op : I.Op) (next : I.Reply op → Program I α)

namespace Program

variable {I : Interface} {α β : Type}

/-- One program after the other. -/
def bind : Program I α → (α → Program I β) → Program I β
  | done a, f => f a
  | panic p, _ => panic p
  | perform op next, f => perform op (fun r => (next r).bind f)

instance : Monad (Program I) where
  pure := done
  bind := bind

/-- The program that performs one operation and returns the reply. -/
def op (o : I.Op) : Program I (I.Reply o) := perform o done

@[simp] theorem done_bind (a : α) (f : α → Program I β) : (done a : Program I α) >>= f = f a := rfl

@[simp] theorem panic_bind (p : Panic) (f : α → Program I β) :
    (panic p : Program I α) >>= f = panic p := rfl

@[simp] theorem perform_bind (o : I.Op) (next : I.Reply o → Program I α) (f : α → Program I β) :
    perform o next >>= f = perform o (fun r => next r >>= f) := rfl

theorem bind_done_eq (p : Program I α) : p >>= done = p := by
  induction p with
  | done a => rfl
  | panic q => rfl
  | perform o next ih => simp [ih]

instance : LawfulMonad (Program I) := LawfulMonad.mk' _
  (fun p => bind_done_eq p)
  (fun _ _ => rfl)
  (fun p f g => by
    induction p with
    | done a => rfl
    | panic q => rfl
    | perform o next ih => simp [ih])

/-- **`try … catch`**: the handler sees the error the body ended with. -/
def catching {ε : Type} (body : Program I (Except ε α))
    (handler : ε → Program I (Except ε α)) : Program I (Except ε α) := do
  match ← body with
  | .ok a => return .ok a
  | .error e => handler e

/-- **`try … finally`**: the last part runs whether the body ended well or
not, and the outcome of the body is kept. -/
def ending {ε : Type} (body : Program I (Except ε α)) (last : Program I Unit) :
    Program I (Except ε α) := do
  let result ← body
  last
  return result

end Program

end HostBridge
