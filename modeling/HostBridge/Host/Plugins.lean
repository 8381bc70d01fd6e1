import HostBridge.Host.EchoModule
import HostBridge.Host.Files
import HostBridge.Host.ModuleLogger

/-!
# Plugins

Native modules in a directory: every file with the extension of a shared
library is tried, and what is no module is skipped. A missing directory is
made. Modules are initialized one after the other and then register their
bindings; the first binding that is refused ends that.

What a library does when it is loaded cannot be told from its bytes. A library
stands for one of the modules that are linked into the program, by name, and any
other file with the extension is one that is no module.
-/

namespace HostBridge

/-- **A native module** that contributes bindings. -/
structure BindingModule where
  /-- The name of the module. -/
  name : String
  /-- What it says when it is initialized. -/
  greeting : String
  /-- What it adds to the registry. -/
  additions : List Registry.Addition
  /-- What it says when it has registered them. -/
  registered : String
  /-- What it says when it is unloaded. -/
  farewell : String

/-- The echo module. -/
def echoModule : BindingModule :=
  ⟨EchoModule.name, EchoModule.greeting, EchoModule.additions, EchoModule.registered,
    EchoModule.farewell⟩

/-- **A module in use**, with the logger it was initialized with. -/
structure LoadedModule where
  /-- Name of the file it came from. -/
  file : String
  /-- The module. -/
  module : BindingModule
  /-- Its logger, once it is initialized. -/
  logger : Option ModuleLogger

namespace LoadedModule

/-- Something the module says. -/
def speak (m : LoadedModule) (level : LogLevel) (message : String) : List Event :=
  match m.logger with
  | some l => [l.hostLine level message]
  | none => []

/-- **Registers the module's bindings.** It speaks only if all are accepted. -/
def register (m : LoadedModule) (r : Registry) : Except BridgeError Unit × Registry × List Event :=
  match r.addAll m.module.additions with
  | (.ok (), r') => (.ok (), r', m.speak .debug m.module.registered)
  | (.error e, r') => (.error e, r', [])

/-- What the module says when it is initialized. -/
def initialized (m : LoadedModule) : List Event := m.speak .info m.module.greeting

/-- What the module says when it is unloaded. -/
def unloaded (m : LoadedModule) : List Event := m.speak .info m.module.farewell

end LoadedModule

namespace Plugins

/-- **The extension of a file name**: what stands after its last point. A point
in front alone starts a name and no extension. -/
def extension? (name : String) : Option String :=
  if name = ".." then none
  else
    let after := (name.toList.reverse.takeWhile (· ≠ '.')).reverse
    let before := (name.toList.reverse.dropWhile (· ≠ '.')).reverse
    if before.length ≤ 1 then none else some (String.ofList after)

/-- Whether a file is taken for a plugin. -/
def isPlugin (name : String) : Bool :=
  match extension? name with
  | some e => e = "dll" || e = "so" || e = "dylib"
  | none => false

/-- The modules that are linked into the program. -/
def linked : List BindingModule := [echoModule]

/-- **The module behind a library**, if the file is one: a library names a linked
module in angle brackets. -/
def module? (contents : String) : Option BindingModule :=
  linked.find? (fun m => contents = "<" ++ m.name ++ ">")

/-- A path below a directory. An absolute path stays as it is. -/
def join (dir path : String) : String :=
  if path.startsWith "/" then path
  else if dir.endsWith "/" then dir ++ path
  else dir ++ "/" ++ path

/-- **The directory plugins are looked for in**: the configured one, or the one
of that name next to the working directory if only that exists. -/
def directory (configured : String) : FileProgram String := do
  let here : Bool ← FileProgram.op (.exists configured)
  if here then return configured
  let beside := join ".." configured
  let there : Bool ← FileProgram.op (.exists beside)
  return if there then beside else configured

/-- The modules among the files of a directory. -/
def loadFiles (dir : String) : List String → FileProgram (List LoadedModule)
  | [] => return []
  | name :: rest => do
    let found : Option BindingModule ←
      if isPlugin name then do
        let text : Option String ← FileProgram.op (.read (join dir name))
        pure (text >>= module?)
      else pure none
    let others ← loadFiles dir rest
    return match found with
      | some m => ⟨name, m, none⟩ :: others
      | none => others

/-- **Loads the modules of a directory**, if it can be read or made. -/
def load? (dir : String) : FileProgram (Option (List LoadedModule)) := do
  let found : Bool ← FileProgram.op (.exists dir)
  if found then
    let names : Option (List String) ← FileProgram.op (.list dir)
    match names with
    | some names => return some (← loadFiles dir names)
    | none => return none
  else
    let made : Bool ← FileProgram.op (.makeDirs dir)
    return if made then some [] else none

/-- The modules with their loggers. -/
def equip (modules : List LoadedModule) : List LoadedModule :=
  modules.map (fun m => { m with logger := some ⟨"bridge_d::plugins::" ++ m.file⟩ })

/-- **Registers the bindings of modules** up to the first that is refused; with
what the modules said. -/
def registerAll : List LoadedModule → Registry →
    Except BridgeError Unit × Registry × List Event
  | [], r => (.ok (), r, [])
  | m :: rest, r =>
    match m.register r with
    | (.error e, r', said) => (.error e, r', said)
    | (.ok (), r', said) =>
      let (outcome, r'', more) := registerAll rest r'
      (outcome, r'', said ++ more)

/-- **The life of modules**: all are initialized, then they register their
bindings, and in the end all are unloaded. -/
def serve (modules : List LoadedModule) (r : Registry) :
    Except BridgeError Unit × Registry × List Event :=
  let ready := equip modules
  let (outcome, r', said) := registerAll ready r
  (outcome, r', ready.flatMap LoadedModule.initialized ++ said
    ++ ready.flatMap LoadedModule.unloaded)

end Plugins

end HostBridge
