import HostBridge.Code.Managed
import HostBridge.Table

/-!
# Managed code of a session

A session writes the bodies of its methods, constructors and finalizers as
lists of statements over variables. This module gives the lists their meaning
as a `MethodBody`. Variables start out unset in every call and keep what they
were given when an exception is caught or a last part runs; a `return` inside a
nested list returns from the body.
-/

namespace HostBridge

/-- **An expression.** -/
inductive Expression where
  /-- A value. -/
  | value (v : ManagedValue)
  /-- A variable; an unset one is `void`. -/
  | var (x : String)
  /-- An argument. -/
  | arg (i : Nat)
  /-- An argument of type `int`. -/
  | argInt (i : Nat)
  /-- An argument of type `float`. -/
  | argFloat (i : Nat)
  /-- An argument of type `string`. -/
  | argString (i : Nat)
  /-- An argument of type `object`. -/
  | argObject (i : Nat)
  /-- The receiver. -/
  | this
  /-- The name of the frame. -/
  | frame

/-- **A statement.** The first `String` of most of them is the variable they
set. -/
inductive Statement where
  /-- Sets a variable. -/
  | set (x : String) (e : Expression)
  /-- Writes a line to the log. -/
  | log (e : Expression)
  /-- Writes a line to the journal. -/
  | note (e : Expression)
  /-- Returns from the body. -/
  | ret (e : Expression)
  /-- Makes an object. -/
  | new (x typeName : String)
  /-- Calls a native member of an object. -/
  | callExtern (x : String) (receiver : Expression) (name : String) (args : List Expression)
  /-- Calls a native member of a type. -/
  | callStaticExtern (x typeName name : String) (args : List Expression)
  /-- Calls a method of an object. -/
  | call (x : String) (receiver : Expression) (name : String) (args : List Expression)
  /-- Calls a method of a type. -/
  | callStatic (x typeName name : String) (args : List Expression)
  /-- Releases the native side of an object. -/
  | dispose (x : String) (e : Expression)
  /-- Throws an exception. -/
  | throw (typeName : String) (e : Expression)
  /-- Runs statements and, if they throw, others that see the exception. -/
  | tryCatch (body : List Statement) (x : String) (handler : List Statement)
  /-- Throws a caught exception again. -/
  | rethrow (x : String)
  /-- Runs statements and then others, whatever the first ones did. -/
  | tryFinally (body last : List Statement)
  /-- Panics. -/
  | panic (message : String)
  /-- Adds ints, or joins texts. -/
  | add (x : String) (a b : Expression)
  /-- Runs statements if an int is positive, others if not. -/
  | ifPositive (e : Expression) (yes no : List Statement)
  /-- Collects garbage. -/
  | collect (x : String)
  /-- Counts the objects on the heap. -/
  | objectCount (x : String)

namespace Statement

/-- **The variables of a call**, and the exceptions it caught. -/
structure Variables where
  /-- The values. -/
  values : Table String ManagedValue := .empty
  /-- The exceptions, by the variable they were caught in. -/
  caught : Table String ManagedException := .empty

namespace Variables

/-- The value of a variable. -/
def get (s : Variables) (x : String) : ManagedValue := (s.values.get? x).getD .void

/-- Sets a variable. -/
def set (s : Variables) (x : String) (v : ManagedValue) : Variables :=
  { s with values := s.values.insert x v }

/-- **Shows an exception to a handler**: its message, its type and the frames it
left. -/
def present (s : Variables) (x : String) (e : ManagedException) : Variables :=
  let s' := ((s.set x (.string e.message)).set (x ++ ".type") (.string e.typeName)).set
    (x ++ ".trace") (.string (" < ".intercalate e.trace))
  { s' with caught := s'.caught.insert x e }

end Variables

/-- **The value of an expression.** -/
def eval (a : Activation) (s : Variables) : Expression → Except ManagedException ManagedValue
  | .value v => .ok v
  | .var x => .ok (s.get x)
  | .arg i => a.arg i
  | .argInt i => (a.int i).map .int32
  | .argFloat i => (a.float i).map .float32
  | .argString i => (a.string i).map .string
  | .argObject i => (a.object i).map .object
  | .this => a.this.map .object
  | .frame => .ok (.string a.frame)

/-- The type of the exception for an operand that is no object. -/
def notAnObject : String := "Driver.NotAnObject"

/-- The object an expression names. -/
def evalObject (a : Activation) (s : Variables) (e : Expression) :
    Except ManagedException ObjectId :=
  match eval a s e with
  | .ok (.object o) => .ok o
  | .ok v => .error ⟨notAnObject, v.render, []⟩
  | .error e => .error e

/-- The values of expressions, left to right. -/
def evalAll (a : Activation) (s : Variables) (es : List Expression) :
    Except ManagedException (List ManagedValue) := es.mapM (eval a s)

/-- An object and the values of expressions, left to right. -/
def evalCall (a : Activation) (s : Variables) (receiver : Expression) (args : List Expression) :
    Except ManagedException (ObjectId × List ManagedValue) := do
  let o ← evalObject a s receiver
  let vs ← evalAll a s args
  return (o, vs)

/-- The sum of two ints, wrapping around; the joined texts of anything else. -/
def sum : ManagedValue → ManagedValue → ManagedValue
  | .int32 x, .int32 y => .int32 (x + y)
  | v, w => .string (v.render ++ w.render)

/-- Whether a value is an int above zero. -/
def isPositive : ManagedValue → Bool
  | .int32 x => 0 < x
  | _ => false

/-- A number as an int. -/
def int (n : Nat) : ManagedValue := .int32 (Int32.ofNat n)

/-- **How statements ended**: with the variables after them, and with an
exception, with a value that is returned, or with neither. -/
abbrev Ending := Variables × Except ManagedException (Option ManagedValue)

/-- Code of statements. -/
abbrev Code := ManagedCode Ending

/-- Goes on to the next statement. -/
def next (s : Variables) : Code := return (s, .ok none)

/-- Ends with an exception. -/
def failing (s : Variables) (e : ManagedException) : Code := return (s, .error e)

/-- Goes on with something that may have failed. -/
def given {α : Type} (s : Variables) (x : Except ManagedException α) (f : α → Code) : Code :=
  match x with
  | .ok v => f v
  | .error e => failing s e

/-- Makes a call and keeps its result in a variable. -/
def calling (s : Variables) (x : String)
    (code : ManagedCode (Except ManagedException ManagedValue)) : Code := do
  let result ← code
  given s result (fun v => next (s.set x v))

mutual

/-- **The code of one statement.** -/
def code (a : Activation) (s : Variables) : Statement → Code
  | .set x e => given s (eval a s e) fun v => next (s.set x v)
  | .log e => given s (eval a s e) fun v => do
    let _ ← ManagedCode.op (.log v.render)
    next s
  | .note e => given s (eval a s e) fun v => do
    let _ ← ManagedCode.op (.note v.render)
    next s
  | .ret e => given s (eval a s e) fun v => return (s, .ok (some v))
  | .new x typeName => do
    let result ← ManagedCode.op (.newObject typeName)
    given s result fun o => next (s.set x (.object o))
  | .callExtern x receiver name args => given s (evalCall a s receiver args) fun (o, vs) =>
    calling s x (ManagedCode.op (.callExtern o name vs))
  | .callStaticExtern x typeName name args => given s (evalAll a s args) fun vs =>
    calling s x (ManagedCode.op (.callStaticExtern typeName name vs))
  | .call x receiver name args => given s (evalCall a s receiver args) fun (o, vs) =>
    calling s x (ManagedCode.op (.call o name vs))
  | .callStatic x typeName name args => given s (evalAll a s args) fun vs =>
    calling s x (ManagedCode.op (.callStatic typeName name vs))
  | .dispose x e => given s (evalObject a s e) fun o => do
    let done ← ManagedCode.op (.dispose o)
    next (s.set x (.bool done))
  | .throw typeName e => given s (eval a s e) fun v => failing s ⟨typeName, v.render, []⟩
  | .tryCatch body x handler => do
    match ← codeAll a s body with
    | (s', .ok v) => return (s', .ok v)
    | (s', .error e) => codeAll a (s'.present x e) handler
  | .rethrow x =>
    match s.caught.get? x with
    | some e => failing s e
    | none => next s
  | .tryFinally body last => do
    let (s', result) ← codeAll a s body
    let (s'', _) ← codeAll a s' last
    return (s'', result)
  | .panic message => .panic (.text message)
  | .add x e₁ e₂ => given s (eval a s e₁) fun v => given s (eval a s e₂) fun w =>
    next (s.set x (sum v w))
  | .ifPositive e yes no => given s (eval a s e) fun v =>
    if isPositive v then codeAll a s yes else codeAll a s no
  | .collect x => do
    let n ← ManagedCode.op .collect
    next (s.set x (int n))
  | .objectCount x => do
    let n ← ManagedCode.op .objectCount
    next (s.set x (int n))

/-- **The code of a list of statements.** -/
def codeAll (a : Activation) (s : Variables) : List Statement → Code
  | [] => next s
  | c :: rest => do
    match ← code a s c with
    | (s', .ok none) => codeAll a s' rest
    | ending => return ending

end

/-- **The body that statements write.** -/
def body (statements : List Statement) : MethodBody := fun a => do
  let (_, result) ← codeAll a {} statements
  return result.map (fun v => v.getD .void)

end Statement

end HostBridge
