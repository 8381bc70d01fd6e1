import HostBridge.Json.Printer
import HostBridge.Json.Reader

/-!
# Reports

The outcome of a self-test: one result per scenario, the number of objects
that the collection at shutdown freed, and the journal. A report is written as
an indented document and reads back as itself.
-/

namespace HostBridge

/-- **The result of one scenario.** -/
structure ScenarioResult where
  /-- Name of the scenario. -/
  name : String
  /-- Whether it passed. -/
  passed : Bool
  /-- What was seen. -/
  detail : String
deriving DecidableEq, Repr, Inhabited

/-- **The outcome of a self-test.** -/
structure Report where
  /-- Name of the domain. -/
  domain : String
  /-- Name of the assembly. -/
  assembly : String
  /-- The results, in the order of the run. -/
  scenarios : List ScenarioResult
  /-- Objects freed by the collection at shutdown. -/
  collected : UInt64 := 0
  /-- The journal of the run. -/
  journal : List String := []
deriving DecidableEq, Repr, Inhabited

namespace ScenarioResult

/-- The document of a result. -/
def toJson (s : ScenarioResult) : Json :=
  .record [("name", .text s.name), ("passed", .bool s.passed), ("detail", .text s.detail)]

/-- The result a document stands for. -/
def ofJson? (j : Json) : Option ScenarioResult :=
  match Json.readRecord? [["name"], ["passed"], ["detail"]] j with
  | some [name, passed, detail] => do
    let name ← Json.required? Json.readText? name
    let passed ← Json.required? Json.readBool? passed
    let detail ← Json.required? Json.readText? detail
    return ⟨name, passed, detail⟩
  | _ => none

end ScenarioResult

namespace Report

/-- Whether every scenario passed. -/
def passed (r : Report) : Bool := r.scenarios.all ScenarioResult.passed

/-- The scenarios that failed. -/
def failures (r : Report) : List ScenarioResult := r.scenarios.filter (fun s => !s.passed)

/-- The report of a run before its shutdown. -/
def fresh (r : Report) : Report := { domain := r.domain, assembly := r.assembly,
                                     scenarios := r.scenarios }

/-- The document of a report. -/
def toJson (r : Report) : Json :=
  .record [("domain", .text r.domain), ("assembly", .text r.assembly),
    ("scenarios", .array (r.scenarios.map ScenarioResult.toJson)),
    ("collected", .nat r.collected.toNat), ("journal", .array (r.journal.map .text))]

/-- **The report a document stands for**; a document of a run before its
shutdown lacks the last two fields. -/
def ofJson? (j : Json) : Option Report :=
  match Json.readRecord?
      [["domain"], ["assembly"], ["scenarios"], ["collected"], ["journal"]] j with
  | some [domain, assembly, scenarios, collected, journal] => do
    let domain ← Json.required? Json.readText? domain
    let assembly ← Json.required? Json.readText? assembly
    let scenarios ← Json.required? (Json.readList? ScenarioResult.ofJson?) scenarios
    let collected ← Json.optional? Json.readWord? 0 collected
    let journal ← Json.optional? (Json.readList? Json.readText?) [] journal
    return ⟨domain, assembly, scenarios, collected, journal⟩
  | _ => none

/-- **The text of a report.** -/
def write (r : Report) : String := r.toJson.indented

/-- The report a text stands for. -/
def read? (s : String) : Option Report := Json.parse? s >>= ofJson?

end Report

end HostBridge
