import HostBridge.Host.Files
import HostBridge.Json.Printer
import HostBridge.Json.Reader

/-!
# Configuration

Settings of the managed runtime and of the host. Every field and every section
has a default; a configuration file may leave out what it does not want to
change. Loading a configuration that does not exist writes the defaults there.

A field may go by more than one name, of which one is written and all are read.
What is written is therefore always read back, and what was read need not be
what would be written.
-/

namespace HostBridge

/-- **Settings of the managed domain.** -/
structure DomainConfig where
  /-- Name of the domain. -/
  domain : String := "bridge_d"
  /-- How many managed bodies may be nested. -/
  maxCallDepth : UInt64 := 256
  /-- Whether the host collects garbage before it exits. -/
  collectOnShutdown : Bool := true
deriving DecidableEq, Repr, Inhabited

/-- **Settings of the host.** -/
structure HostConfig where
  /-- The assembly that is loaded and tested. -/
  assembly : String := "BridgeTests"
  /-- Where plugins are looked for. -/
  pluginsDir : String := "plugins/native"
  /-- Whether a failed scenario fails the program. -/
  abortOnManagedFault : Bool := false
deriving DecidableEq, Repr, Inhabited

/-- **A configuration.** -/
structure Config where
  /-- Settings of the domain. -/
  runtime : DomainConfig := {}
  /-- Settings of the host. -/
  host : HostConfig := {}
deriving DecidableEq, Repr, Inhabited

namespace DomainConfig

/-- The document of the settings. -/
def toJson (c : DomainConfig) : Json :=
  .record [("domain", .text c.domain), ("max_call_depth", .nat c.maxCallDepth.toNat),
    ("collect_on_shutdown", .bool c.collectOnShutdown)]

/-- The settings a document stands for. -/
def ofJson? (j : Json) : Option DomainConfig :=
  match Json.readRecord? [["domain"], ["max_call_depth"], ["collect_on_shutdown"]] j with
  | some [domain, depth, collect] => do
    let standard : DomainConfig := {}
    let domain ← Json.optional? Json.readText? standard.domain domain
    let depth ← Json.optional? Json.readWord? standard.maxCallDepth depth
    let collect ← Json.optional? Json.readBool? standard.collectOnShutdown collect
    return ⟨domain, depth, collect⟩
  | _ => none

end DomainConfig

namespace HostConfig

/-- The document of the settings. -/
def toJson (c : HostConfig) : Json :=
  .record [("assembly", .text c.assembly), ("native_plugins_dir", .text c.pluginsDir),
    ("abort_on_managed_fault", .bool c.abortOnManagedFault)]

/-- The settings a document stands for; the plugin directory goes by two
names. -/
def ofJson? (j : Json) : Option HostConfig :=
  match Json.readRecord?
      [["assembly"], ["native_plugins_dir", "plugins_dir"], ["abort_on_managed_fault"]] j with
  | some [assembly, dir, abort] => do
    let standard : HostConfig := {}
    let assembly ← Json.optional? Json.readText? standard.assembly assembly
    let dir ← Json.optional? Json.readText? standard.pluginsDir dir
    let abort ← Json.optional? Json.readBool? standard.abortOnManagedFault abort
    return ⟨assembly, dir, abort⟩
  | _ => none

end HostConfig

namespace Config

/-- The document of a configuration. -/
def toJson (c : Config) : Json :=
  .record [("runtime", c.runtime.toJson), ("host", c.host.toJson)]

/-- The configuration a document stands for. -/
def ofJson? (j : Json) : Option Config :=
  match Json.readRecord? [["runtime"], ["host"]] j with
  | some [runtime, host] => do
    let runtime ← Json.optional? DomainConfig.ofJson? {} runtime
    let host ← Json.optional? HostConfig.ofJson? {} host
    return ⟨runtime, host⟩
  | _ => none

/-- The configuration a text stands for. -/
def read? (s : String) : Option Config := Json.parse? s >>= ofJson?

/-- **Loads a configuration**, if the file can be read, writing the defaults
first where there is no file. -/
def load? (path : String) : FileProgram (Option Config) := do
  let found : Bool ← FileProgram.op (.exists path)
  if found then
    let text : Option String ← FileProgram.op (.read path)
    return text >>= read?
  else
    let standard : Config := {}
    let written : Bool ← FileProgram.op (.write path standard.toJson.indented)
    return if written then some standard else none

end Config

end HostBridge
