/-!
# Lifecycle of a bridged instance

An instance with a native resource walks from unconstructed through
constructing, live and destructing to destroyed. Calls are admitted only while
it is live.
-/

namespace HostBridge

/-- **Where an instance is on its way.** -/
inductive Lifecycle where
  | unconstructed
  | constructing
  | live
  | destructing
  | destroyed
deriving DecidableEq, Repr, Inhabited

/-- The name of a state in messages. -/
def Lifecycle.name : Lifecycle → String
  | .unconstructed => "Unconstructed"
  | .constructing => "Constructing"
  | .live => "Live"
  | .destructing => "Destructing"
  | .destroyed => "Destroyed"

/-- The state with a given name. -/
def Lifecycle.ofName? (name : String) : Option Lifecycle :=
  [unconstructed, constructing, live, destructing, destroyed].find? (fun s => s.name = name)

end HostBridge
