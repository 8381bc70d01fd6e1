/-!
# Type tags

Every value that crosses between native and managed code carries a `Tag`: its
exact type, width and signedness included, so that a mismatch is caught and
never converted silently. A tag has two spellings: the managed one, used in
signatures and messages (`int`), and the data name under which it is written
to documents (`Int32`). A document may use either.
-/

namespace HostBridge

/-- **The exact type of a boundary value.** -/
inductive Tag where
  | int32
  | int64
  | uint32
  | uint64
  | float32
  | float64
  | bool
  | string
  | object
  | void
deriving DecidableEq, Repr, Inhabited

namespace Tag

/-- Every tag, in declaration order. -/
def all : List Tag :=
  [int32, int64, uint32, uint64, float32, float64, bool, string, object, void]

/-- The name of the tag as managed code spells it. -/
def managedName : Tag → String
  | int32 => "int"
  | int64 => "long"
  | uint32 => "uint"
  | uint64 => "ulong"
  | float32 => "float"
  | float64 => "double"
  | bool => "bool"
  | string => "string"
  | object => "object"
  | void => "void"

/-- The name of the tag in documents. -/
def dataName : Tag → String
  | int32 => "Int32"
  | int64 => "Int64"
  | uint32 => "UInt32"
  | uint64 => "UInt64"
  | float32 => "Float32"
  | float64 => "Float64"
  | bool => "Bool"
  | string => "String"
  | object => "Object"
  | void => "Void"

/-- The tag with a given managed name. -/
def ofManagedName? (name : String) : Option Tag :=
  all.find? (fun t => t.managedName = name)

/-- The tag with a given data name. -/
def ofDataName? (name : String) : Option Tag :=
  all.find? (fun t => t.dataName = name)

/-- The tag with a given name of either spelling. -/
def ofName? (name : String) : Option Tag :=
  all.find? (fun t => t.dataName = name || t.managedName = name)

theorem mem_all (t : Tag) : t ∈ all := by cases t <;> decide

end Tag

end HostBridge
