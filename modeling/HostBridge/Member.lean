import HostBridge.Tag

/-!
# Members

A managed type declares members that native code implements. A `Member` names
one: the owning type, the member's name, its signature, and whether it is
called with a receiver. Its `Key` leaves the return type out, so two members
that differ in nothing else cannot both be bound.
-/

namespace HostBridge

/-- **Parameter and return types**, in declaration order. -/
structure Signature where
  /-- The parameter types. -/
  params : List Tag
  /-- The return type. -/
  ret : Tag
deriving DecidableEq, Repr, Inhabited

namespace Signature

/-- The signature without parameters and result. -/
def nullary : Signature := ⟨[], .void⟩

/-- The number of parameters. -/
def arity (s : Signature) : Nat := s.params.length

/-- The text of a signature, such as `(int, string) -> void`. -/
def render (s : Signature) : String :=
  "(" ++ ", ".intercalate (s.params.map Tag.managedName) ++ ") -> " ++ s.ret.managedName

end Signature

/-- Whether a member is called with a receiver. -/
inductive MemberKind where
  | static
  | perInstance
deriving DecidableEq, Repr, Inhabited

/-- The name of a kind in documents. -/
def MemberKind.dataName : MemberKind → String
  | .static => "Static"
  | .perInstance => "Instance"

/-- **A member of a managed type that native code implements.** -/
structure Member where
  /-- Full name of the owning type. -/
  typeName : String
  /-- Name of the member. -/
  name : String
  /-- Declared types. -/
  signature : Signature
  /-- Static or instance. -/
  kind : MemberKind
deriving DecidableEq, Repr, Inhabited

namespace Member

/-- **What identifies a binding**: all of a member but its return type. -/
structure Key where
  /-- Full name of the owning type. -/
  typeName : String
  /-- Name of the member. -/
  name : String
  /-- The parameter types. -/
  params : List Tag
  /-- Static or instance. -/
  kind : MemberKind
deriving DecidableEq, Repr, Inhabited

/-- The key of a member. -/
def key (m : Member) : Key := ⟨m.typeName, m.name, m.signature.params, m.kind⟩

/-- `Namespace.Type::Member`. -/
def qualifiedName (m : Member) : String := m.typeName ++ "::" ++ m.name

/-- The text of a member: its qualified name and its signature. -/
def render (m : Member) : String := m.qualifiedName ++ m.signature.render

/-- Whether the member is called with a receiver. -/
def isInstance (m : Member) : Bool := m.kind = .perInstance

/-- The types a native implementation takes: the receiver's handle first, for
an instance member, then the declared parameters. -/
def nativeParams (m : Member) : List Tag :=
  if m.isInstance then .object :: m.signature.params else m.signature.params

end Member

end HostBridge
