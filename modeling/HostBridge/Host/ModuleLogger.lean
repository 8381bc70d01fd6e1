import HostBridge.Text.Quoted
import HostBridge.World

/-!
# Loggers of modules

A native module writes to the host's log through a logger that carries the
module's name. A NUL inside a message is written as an escape; a NUL inside the
name cannot be handed over, and the line is dropped with a warning.
-/

namespace HostBridge

/-- **The logger of a module.** -/
structure ModuleLogger where
  /-- Name of the module. -/
  name : String
deriving DecidableEq, Repr

namespace ModuleLogger

/-- A message without NUL. -/
def escapeNul (message : String) : String :=
  String.ofList (message.toList.flatMap (fun c => if c = '\x00' then ['\\', '0'] else [c]))

/-- The warning about a dropped line. -/
def dropped (l : ModuleLogger) : String :=
  "Dropping log line from " ++ Text.quoted l.name ++ ": interior NUL"

/-- **The message that is handed over**, or the warning instead of it. -/
def handOver (l : ModuleLogger) (message : String) : Except String String :=
  if l.name.toList.contains '\x00' then .error l.dropped else .ok (escapeNul message)

/-- The line in the host's log. -/
def hostLine (l : ModuleLogger) (level : LogLevel) (message : String) : Event :=
  match l.handOver message with
  | .ok text => .log level text
  | .error warning => .log .warn warning

end ModuleLogger

end HostBridge
