import HostBridge.Registry

/-!
# The process-wide registry

A process installs its registry once. Asking for it before, or installing
another after, is an error.
-/

namespace HostBridge

/-- **The registry of a process**, once it is installed. -/
structure Host where
  /-- The registry. -/
  registry : Option Registry := none

namespace Host

/-- **Installs the registry.** -/
def install (h : Host) (r : Registry) : Except BridgeError Registry × Host :=
  match h.registry with
  | some _ => (.error (.hostInit "Already initialized"), h)
  | none => (.ok r, ⟨some r⟩)

/-- **Builds a registry and installs it.** If a binding is refused, nothing is
installed. -/
def start (h : Host) (additions : List Registry.Addition) : Except BridgeError Registry × Host :=
  match Registry.empty.addAll additions with
  | (.ok (), r) => h.install r
  | (.error e, _) => (.error e, h)

/-- **The installed registry.** -/
def get (h : Host) : Except BridgeError Registry :=
  match h.registry with
  | some r => .ok r
  | none => .error (.hostInit "Not initialized")

end Host

end HostBridge
