import HostBridge.Code.Managed
import HostBridge.Member
import HostBridge.ScriptError

/-!
# Classes and assemblies

A class has managed methods and declares members that native code implements.
A method is selected by name and number of parameters, an extern declaration by
name, kind and the values at the call site; of several that match, the first
declared is taken. An assembly is an image of classes in which no class
declares the same native member twice.

A class is known by its full name, the name with the scope in front. What a name
in code stands for is not a matter of the class but of where the name is looked
up: among the classes of an image, in a domain, or inside of a class, which
knows itself by either name.
-/

namespace HostBridge

/-- **A managed method.** -/
structure Method where
  /-- The name. -/
  name : String
  /-- Declared types. -/
  signature : Signature
  /-- Static or instance. -/
  kind : MemberKind
  /-- The code. -/
  body : MethodBody

/-- **A declaration of a natively implemented member.** The owning type is the
class that declares it. -/
structure Extern where
  /-- The name. -/
  name : String
  /-- Declared types. -/
  signature : Signature
  /-- Static or instance. -/
  kind : MemberKind
deriving DecidableEq, Repr

/-- **A class.** -/
structure Class where
  /-- The namespace, empty for none. -/
  scope : String
  /-- The simple name. -/
  name : String
  /-- Managed methods, in declaration order. -/
  methods : List Method := []
  /-- Extern declarations, in declaration order. -/
  externs : List Extern := []
  /-- The constructor, if there is one. -/
  constructor : Option MethodBody := none
  /-- The finalizer, if there is one. -/
  finalizer : Option MethodBody := none

namespace Class

/-- The name with the namespace in front. -/
def fullName (c : Class) : String :=
  if c.scope = "" then c.name else c.scope ++ "." ++ c.name

/-- Whether a name is the simple or the full name of the class. -/
def isNamed (c : Class) (name : String) : Bool := c.name = name || c.fullName = name

/-- The member that an extern declaration of the class stands for. -/
def externMember (c : Class) (e : Extern) : Member := ⟨c.fullName, e.name, e.signature, e.kind⟩

/-- The members the class expects native code to implement. -/
def externMembers (c : Class) : List Member := c.externs.map c.externMember

/-- **The method of a name and number of parameters.** -/
def findMethod? (c : Class) (name : String) (arity : Nat) : Option Method :=
  c.methods.find? (fun m => m.name = name && m.signature.arity = arity)

/-- Whether values can be passed to parameters. -/
def accepts : List Tag → List ManagedValue → Bool
  | [], [] => true
  | t :: ts, v :: vs => v.fits t && accepts ts vs
  | _, _ => false

/-- **The extern declaration for a call site.** -/
def findExtern? (c : Class) (name : String) (kind : MemberKind) (args : List ManagedValue) :
    Option Member :=
  c.externMembers.find?
    (fun m => m.name = name && m.kind = kind && accepts m.signature.params args)

/-- The name of the frame in which the constructor runs. -/
def constructorFrame (c : Class) : String := c.fullName ++ "::.ctor"

/-- The name of the frame in which the finalizer runs. -/
def finalizerFrame (c : Class) : String := c.fullName ++ "::Finalize"

end Class

/-- The first member whose key appeared earlier in the list, given the keys
seen so far. -/
def firstRepeated? (seen : List Member.Key) : List Member → Option Member
  | [] => none
  | m :: rest => if seen.contains m.key then some m else firstRepeated? (m.key :: seen) rest

/-- **An assembly image.** -/
structure Image where
  /-- The name. -/
  name : String
  /-- The classes, in declaration order. -/
  classes : List Class

namespace Image

/-- **Builds an image**, unless a class declares the same native member
twice. -/
def build (name : String) (classes : List Class) : Except ScriptError Image :=
  match classes.findSome? (fun c => firstRepeated? [] c.externMembers) with
  | some m => .error (.ambiguousExtern m.render)
  | none => .ok ⟨name, classes⟩

/-- Every extern declaration of the image. -/
def externs (i : Image) : List Member := i.classes.flatMap Class.externMembers

/-- **A class by its simple or full name**, the first declared that matches. -/
def getClass (i : Image) (name : String) : Except ScriptError Class :=
  match i.classes.find? (fun c => c.isNamed name) with
  | some c => .ok c
  | none => .error (.classNotFound (name ++ " in " ++ i.name))

end Image

end HostBridge
