import HostBridge.BridgeError
import HostBridge.Json.Printer
import HostBridge.Json.Reader
import HostBridge.Member

/-!
# Tags, values, members and exceptions as documents

For every kind of data a `toJson` that writes it and an `ofJson?` that reads
it. Reading accepts more than writing produces: both spellings of a tag,
records as arrays, fields in any order, defaults for what is missing.

A boundary value is written with its type beside it, as in
`{"type":"Int32","value":5}`; the value of the type `Void` may be left out.
-/

namespace HostBridge

/-! ## Tags -/

namespace Tag

/-- A tag is written by its data name. -/
def toJson (t : Tag) : Json := .text t.dataName

/-- A tag of either spelling. -/
def ofJson? (j : Json) : Option Tag := Json.readName? j >>= ofName?

end Tag

/-! ## Boundary values -/

namespace BoundaryValue

/-- The contents of a value; a floating-point number has none that is written
here. -/
def contents : BoundaryValue → Option Json
  | int32 v => some (.int v.toInt)
  | int64 v => some (.int v.toInt)
  | uint32 v => some (.nat v.toNat)
  | uint64 v => some (.nat v.toNat)
  | float32 _ => none
  | float64 _ => none
  | bool v => some (.bool v)
  | string v => some (.text v)
  | object h => some (.nat h.number.toNat)
  | void => none

/-- Whether the value is a floating-point number. -/
def isFloat : BoundaryValue → Bool
  | float32 _ | float64 _ => true
  | _ => false

/-- **The document of a value** that is no floating-point number. -/
def toJson? (v : BoundaryValue) : Option Json :=
  if v.isFloat then none
  else some (.record (("type", v.tag.toJson) :: (v.contents.map (fun j => ("value", j))).toList))

/-- The value of a type with given contents. -/
def ofContents? (j : Json) : Tag → Option BoundaryValue
  | .int32 => (Json.readIntIn? Int32.minValue.toInt Int32.maxValue.toInt j).map
      (fun i => int32 (.ofInt i))
  | .int64 => (Json.readIntIn? Int64.minValue.toInt Int64.maxValue.toInt j).map
      (fun i => int64 (.ofInt i))
  | .uint32 => (Json.readIntIn? 0 (UInt32.size - 1) j).map (fun i => uint32 (.ofNat i.toNat))
  | .uint64 => (Json.readWord? j).map uint64
  | .float32 => (Json.readSingle? j).map float32
  | .float64 => (Json.readDouble? j).map float64
  | .bool => (Json.readBool? j).map bool
  | .string => (Json.readText? j).map string
  | .object => (Json.readWord? j).map (fun w => object ⟨w⟩)
  | .void => match j with | .null => some void | _ => none

/-- The tag of a value in its document, by its data name only. -/
def tagOfJson? (j : Json) : Option Tag := Json.readName? j >>= Tag.ofDataName?

/-- **The value a document stands for**: a record of type and value in either
order, or an array of the two. An array has the name of the type as it is, never
in a record of its own. -/
def ofJson? : Json → Option BoundaryValue
  | .object fields =>
    match Json.readRecord? [["type"], ["value"]] (.object fields) with
    | some [some t, some j] => tagOfJson? t >>= ofContents? j
    | some [some t, none] => if tagOfJson? t = some .void then some void else none
    | _ => none
  | .array [t, j] => Json.readText? t >>= Tag.ofDataName? >>= ofContents? j
  | _ => none

end BoundaryValue

/-! ## Members -/

namespace Signature

/-- The document of a signature. -/
def toJson (s : Signature) : Json :=
  .record [("params", .array (s.params.map Tag.toJson)), ("ret", s.ret.toJson)]

/-- The signature a document stands for. -/
def ofJson? (j : Json) : Option Signature :=
  match Json.readRecord? [["params"], ["ret"]] j with
  | some [params, ret] => do
    let params ← Json.required? (Json.readList? Tag.ofJson?) params
    let ret ← Json.required? Tag.ofJson? ret
    return ⟨params, ret⟩
  | _ => none

end Signature

namespace MemberKind

/-- The document of a kind. -/
def toJson (k : MemberKind) : Json := .text k.dataName

/-- The kind a document stands for. -/
def ofJson? (j : Json) : Option MemberKind := do
  let name ← Json.readName? j
  [MemberKind.static, .perInstance].find? (fun k => k.dataName = name)

end MemberKind

namespace Member

/-- The document of a member. -/
def toJson (m : Member) : Json :=
  .record [("type_name", .text m.typeName), ("member", .text m.name),
    ("signature", m.signature.toJson), ("kind", m.kind.toJson)]

/-- The member a document stands for; without a kind it is static. -/
def ofJson? (j : Json) : Option Member :=
  match Json.readRecord? [["type_name"], ["member"], ["signature"], ["kind"]] j with
  | some [typeName, name, signature, kind] => do
    let typeName ← Json.required? Json.readText? typeName
    let name ← Json.required? Json.readText? name
    let signature ← Json.required? Signature.ofJson? signature
    let kind ← Json.optional? MemberKind.ofJson? .static kind
    return ⟨typeName, name, signature, kind⟩
  | _ => none

end Member

/-! ## Exceptions -/

namespace ManagedException

/-- The document of an exception. -/
def toJson (e : ManagedException) : Json :=
  .record [("type_name", .text e.typeName), ("message", .text e.message),
    ("trace", .array (e.trace.map .text))]

/-- The exception a document stands for; without a trace it has none. -/
def ofJson? (j : Json) : Option ManagedException :=
  match Json.readRecord? [["type_name"], ["message"], ["trace"]] j with
  | some [typeName, message, trace] => do
    let typeName ← Json.required? Json.readText? typeName
    let message ← Json.required? Json.readText? message
    let trace ← Json.optional? (Json.readList? Json.readText?) [] trace
    return ⟨typeName, message, trace⟩
  | _ => none

end ManagedException

end HostBridge
