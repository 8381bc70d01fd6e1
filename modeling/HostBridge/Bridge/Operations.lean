import HostBridge.Runner

/-!
# Operations on bridged instances

Construction, calls and destruction, put together from the atomic sections of
`Bridge.Basic`. A construction hook runs after its record is announced and
before the instance is live. A destruction by a thread that is inside a call
on the instance is left to the end of the last call; any other waits until no
call is running and then runs the hook itself.

Looking a handle up and doing something with its record are two sections here,
as the tables and the records have locks of their own. Another thread may come
in between, so an operation that has found a handle listed cannot rely on it any
more when it comes to the record, and it asks the record again.
-/

namespace HostBridge.Run

/-- The state of an instance. -/
def stateOf (o : ObjectId) : Run Lifecycle := do
  match ← askBridge (·.find? o) with
  | some h => askBridge (·.lifecycleAt h)
  | none => return .unconstructed

/-- The handle of a live instance. -/
def handleOf (o : ObjectId) : Run (Except BridgeError Handle) := do
  match ← askBridge (·.find? o) with
  | some h => askBridge (·.openHandle o h)
  | none => return .error (Bridge.notLive o .unconstructed)

/-- The instance behind a live handle. -/
def objectOf (h : Handle) : Run (Except BridgeError ObjectId) := askBridge (·.objectOf h)

/-- What an attempt to change a resource tells the history. -/
def useEvents (h : Handle) (kind : ResourceKind) (update : kind.Carrier → kind.Carrier) :
    Except BridgeError kind.Carrier → List Event
  | .ok _ => [.used h kind update]
  | .error _ => []

theorem eq_of_mem_useEvents {h : Handle} {kind : ResourceKind}
    {update : kind.Carrier → kind.Carrier} {r : Except BridgeError kind.Carrier} {e : Event}
    (he : e ∈ useEvents h kind update r) : e = .used h kind update := by
  cases r with
  | ok v => exact List.mem_singleton.1 he
  | error e => cases he

/-- Changes the resource behind a live handle. -/
def useResource (h : Handle) (kind : ResourceKind) (update : kind.Carrier → kind.Carrier) :
    Run (Except BridgeError kind.Carrier) := do
  match ← askBridge (·.listed? h) with
  | some _ => onBridge (·.useResource h kind update) (useEvents h kind update)
  | none => return .error (.useAfterRelease h)

/-- Drops the record of a destroyed instance. -/
def forget (o : ObjectId) : Run Unit := changeBridge (·.forget o)

/-- What an announcement tells the history. -/
def announcementEvents (h : Handle) : Except Lifecycle Unit → List Event
  | .ok () => []
  | .error _ => [.discarded h]

theorem eq_of_mem_announcementEvents {h : Handle} {r : Except Lifecycle Unit} {e : Event}
    (he : e ∈ announcementEvents h r) : e = .discarded h := by
  cases r with
  | ok u => cases he
  | error s => exact List.mem_singleton.1 he

/-- **Attaches a native resource to an instance.** If the hook fails, the
instance is unconstructed again and the handle was never live. -/
def attach (run : Runner) (me : ThreadId) (o : ObjectId) (typeName : String) (hooks : Hooks) :
    Run (Except BridgeError Handle) := do
  let member := typeName ++ "::.ctor"
  let h ← onBridge Bridge.reserve (fun h => [.issued h])
  match ← onBridge (·.announce o typeName hooks h) (announcementEvents h) with
  | .error state => return .error (.invalidState member state)
  | .ok () =>
    let built ← catchNative member id do
      record (.construction h)
      run.native me (hooks.construct h)
    match built with
    | .ok resource =>
      changeBridge (·.equip h resource) [.constructed h, .equipped h resource]
      changeBridge (·.list h)
      changeBridge (·.setLifecycle h .live)
      return .ok h
    | .error fault =>
      changeBridge (·.withdraw o)
      changeBridge (·.setLifecycle h .unconstructed) [.discarded h]
      log .warn
        ("Construction of " ++ typeName ++ " " ++ o.render ++ " failed: " ++ fault.message)
      return .error (.nativeFault member fault)

/-- **Ends a destruction that is under way**: the handle dies, then the hook
gets the resource. -/
def finishDestroy (run : Runner) (me : ThreadId) (h : Handle) : Run Unit := do
  changeBridge (·.unlist h)
  let resource ← onBridge (·.takeResource h)
  match resource, ← askBridge (·.records.get? h) with
  | some resource, some r =>
    let ended ← catchNative (r.typeName ++ "::.dtor") id do
      record (.destruction h resource)
      run.native me (r.hooks.destroy h resource)
      return Except.ok ()
    match ended with
    | .ok () => pure ()
    | .error fault =>
      log .error ("Destruction hook of " ++ h.render ++ " faulted: " ++ fault.message)
  | _, _ => pure ()
  changeBridge (·.setLifecycle h .destroyed)

/-- What a request for destruction tells the history. -/
def verdictEvents (h : Handle) : Bridge.Verdict → List Event
  | .refused => []
  | .deferred | .accepted => [.condemned h]

/-- **Destroys what is behind a handle.** Answers whether this very request ran
the hook. -/
def destroyRecord (run : Runner) (me : ThreadId) (h : Handle) : Run Bool := do
  match ← onBridgeWhen (·.isSettled h) (·.condemn me h) (verdictEvents h) with
  | .refused => return false
  | .deferred => return false
  | .accepted =>
    Process.await (fun w => w.bridge.isIdle h)
    finishDestroy run me h
    return true

/-- Destroys the native side of an instance. -/
def destroy (run : Runner) (me : ThreadId) (o : ObjectId) : Run Bool := do
  match ← askBridge (·.find? o) with
  | some h => destroyRecord run me h
  | none => return false

/-- Releases a live handle. -/
def release (run : Runner) (me : ThreadId) (h : Handle) : Run Bool := do
  match ← askBridge (·.listed? h) with
  | some _ => destroyRecord run me h
  | none => return false

/-- What a request for admission tells the history. -/
def admissionEvents (me : ThreadId) (h : Handle) : Except Lifecycle Unit → List Event
  | .ok () => [.admitted h me]
  | .error _ => []

/-- **Admits a call on an instance**, answering its handle. Every admitted call
is ended by `leave`. -/
def enter (me : ThreadId) (o : ObjectId) (m : Member) : Run (Except BridgeError Handle) := do
  match ← askBridge (·.find? o) with
  | none => return .error (.invalidState m.render .unconstructed)
  | some h =>
    match ← onBridge (·.admitCall me h) (admissionEvents me h) with
    | .ok () => return .ok h
    | .error state => return .error (.invalidState m.render state)

/-- **Ends a call**, and destroys the instance if that was left to its last
call. -/
def leave (run : Runner) (me : ThreadId) (h : Handle) : Run Unit := do
  if ← onBridge (·.dismiss me h) (fun _ => [.dismissed h me]) then finishDestroy run me h

/-! ## Calls that native code keeps running

A call need not be an implementation that runs. Native code may be admitted to an instance and
end the call when it is done with it, on the thread that it was admitted on. -/

/-- **Admits a call that native code keeps running** until it ends it. -/
def beginCall (me : ThreadId) (o : ObjectId) (m : Member) : Run (Except BridgeError Handle) := do
  match ← enter me o m with
  | .error e => return .error e
  | .ok h =>
    keepCall me h
    return .ok h

/-- Ends a call that native code keeps running on this thread, and answers
whether there was one. -/
def endCall (run : Runner) (me : ThreadId) (h : Handle) : Run Bool := do
  if ← takeCall me h then
    leave run me h
    return true
  else return false

end HostBridge.Run
