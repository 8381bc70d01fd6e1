import HostBridge.Proofs.SelfTest.Objects

/-!
# The methods of the test object

Native code calls a method of the test object through a thunk. Binding it, converting what
crosses the boundary, checking the types and the frame that the body gets are the same for all
of them: what a method itself contributes is its declaration and the way its body leads from
scene to scene (`Does`). It is called in one of two ways, expected to return
(`Leads.callWell`) or to throw (`Leads.callBadly`).

A call through a thunk has the same four layers for every method, and there is one lemma for each
of them: the method of the class, the call by its full name, the thunk with its conversions, and
the expectation of the scenario. A method is added by saying what its body does.
-/

namespace HostBridge.SelfTest

variable {m made : Nat} {run : Runner} {me : ThreadId} {s s' : Scene} {t : ObjectId} {name : String}
  {params : List Tag} {ret : Tag} {args : Tag.Args params} {xs : List ManagedValue}
  {locals : List ObjectId} {result : Except ManagedException ManagedValue} {e : ManagedException}

/-- The name of the frame in which a method of the test class runs. -/
def testFrame (name : String) : String := testClass.fullName ++ "::" ++ name

/-- **A method of the test object takes a scene to another** when it is called with these
arguments, whatever frame it runs in, and comes to this result. -/
structure Does (run : Runner) (me : ThreadId) (t : ObjectId) (name : String) (sig : Signature)
    (xs : List ManagedValue) (s : Scene) (result : Except ManagedException ManagedValue)
    (s' : Scene) (method : Method) (locals : List ObjectId) : Prop where
  found : testClass.findMethod? name xs.length = some method
  signature : method.signature = sig
  kind : method.kind = .perInstance
  checked : Run.checkArguments (testFrame name) sig xs = .ok ()
  body : ∀ f, Leads (run.managed me ⟨testClass, f, 0, ⟨testFrame name, some t, xs⟩⟩
      (method.body ⟨testFrame name, some t, xs⟩))
    (s.enter ⟨f, testFrame name, some t, []⟩) result
    (s'.enter ⟨f, testFrame name, some t, locals⟩)

namespace Leads

variable {method : Method} {v : ManagedValue} {b : BoundaryValue}

theorem runMethod (h : Does run me t name ⟨params, ret⟩ xs s result s' method locals)
    (hfits : ∀ v, result = .ok v → v.fits ret = true) :
    Leads (Run.runMethod run me testClass name (some t) xs 0) s
      (result.mapError (·.pushFrame (testFrame name))) s' := by
  have hfilter : (testClass.findMethod? name xs.length).filter (Run.takes · (some t)) =
      some method := by
    rw [h.found, Option.filter_some, if_pos]
    simp [Run.takes, h.kind]
  have hchecked : Run.checkArguments (testClass.fullName ++ "::" ++ name) ⟨params, ret⟩ xs =
      .ok () := h.checked
  unfold Run.runMethod
  simp only [hfilter, h.signature, hchecked]
  refine .bind (.runBody locals Nat.zero_lt_two h.body) ?_
  cases result with
  | error e => exact .pure _ _
  | ok v =>
    have hv := hfits v rfl
    simp only [Except.mapError, hv, if_true]
    exact .pure _ _

/-- A thunk for a method of the test object is bound. -/
theorem thunk_eq {d : Domain} (hd : d.Shows s.setting) (hs : s.setting.loaded = true)
    (hfound : testClass.findMethod? name params.length = some method)
    (hsignature : method.signature = ⟨params, ret⟩) (hkind : method.kind = .perInstance) :
    Instance.thunk ⟨testClass, t⟩ d name params ret =
      .ok ⟨⟨testClass.fullName, name, params.length⟩, some t⟩ := by
  have hclass : d.findClass? testClass.fullName = some testClass :=
    hd.findClass?_fullName hs (by simp [classes])
  simp [Instance.thunk, Instance.getMethod, Thunk.bind, Run.methodSignature?, hfound, hclass,
    hsignature, hkind, Except.mapError]

/-- A method of the test object is called from native code. -/
theorem callManaged {r : Except ManagedException BoundaryValue} (args : Tag.Args params)
    (h : Does run me t name ⟨params, ret⟩ xs s result s' method locals)
    (hs : s.setting.loaded = true)
    (hargs : ∀ u, Leads (Run.unmarshalAll (Tag.boundaryArgs params args)) u (.ok xs) u)
    (hfits : ∀ v, result = .ok v → v.fits ret = true)
    (hr : ∀ u, Leads (match result.mapError (·.pushFrame (testFrame name)) with
      | .error e => return .error e
      | .ok v => Run.marshal v) u r u) :
    Leads (Run.callManaged run me ⟨testClass.fullName, name, params.length⟩ (some t)
      (Tag.boundaryArgs params args)) s r s' := by
  have hclass : ∀ d : Domain, d.Shows s.setting →
      d.findClass? testClass.fullName = some testClass :=
    fun d hd => hd.findClass?_fullName hs (by simp [classes])
  exact .bind (.askDomain hclass) (.bind (hargs _) (.bind (.runMethod h hfits) (hr _)))

/-- A thunk for a method of the test object is bound and called. -/
theorem callMethod {r : Except BridgeError ret.Native}
    (h : Does run me t name ⟨params, ret⟩ xs s result s' method locals)
    (hs : s.setting.loaded = true) (hlength : xs.length = params.length)
    (hcall : Leads (Thunk.call ⟨⟨testClass.fullName, name, params.length⟩, some t⟩ run me args)
      s r s') :
    Leads (callMethod run me ⟨testClass, t⟩ name params ret args) s (.ok r) s' := by
  refine .bind_of fun w hw => ⟨_, w, s, .ask _ w, hw, ?_⟩
  rw [id, thunk_eq hw.domain hs (hlength ▸ h.found) h.signature h.kind]
  exact .bind hcall (.pure _ _)

/-- **A method of the test object that returns** is called, and what it returns comes
back. -/
theorem callWell {y : ret.Native}
    (h : Does run me t name ⟨params, ret⟩ xs s (.ok v) s' method locals)
    (hs : s.setting.loaded = true) (hlength : xs.length = params.length)
    (hargs : ∀ u, Leads (Run.unmarshalAll (Tag.boundaryArgs params args)) u (.ok xs) u)
    (hfits : v.fits ret = true) (hv : ∀ u, Leads (Run.marshal v) u (.ok b) u)
    (hy : b.toNative ret = .ok y) :
    Leads (callWell run me ⟨testClass, t⟩ name params ret args).run s (.ok y) s' := by
  have hmanaged := callManaged args h hs hargs (fun _ he => Except.ok.inj he ▸ hfits) hv
  have hcall : Leads (Thunk.call ⟨⟨testClass.fullName, name, params.length⟩, some t⟩ run me args)
      s (.ok y) s' := by
    refine .bind (.managedBoundary_ok _ hmanaged) ?_
    simp only [hy, Except.mapError]
    exact .pure _ _
  exact .except_bind (.except_lift (.callMethod h hs hlength hcall))
    (.except_bind (.pure _ _) (.pure _ _))

/-- **A method of the test object that throws** is called, and its exception is the one that
is expected. -/
theorem callBadly (h : Does run me t name ⟨params, .void⟩ xs s (.error e) s' method locals)
    (args : Tag.Args params) (hs : s.setting.loaded = true) (hlength : xs.length = params.length)
    (hargs : ∀ u, Leads (Run.unmarshalAll (Tag.boundaryArgs params args)) u (.ok xs) u) :
    Leads (callBadly run me ⟨testClass, t⟩ name params args e.typeName e.message).run s
      (.ok (testFrame name ++ " raised " ++ e.render)) s' := by
  have hmanaged := callManaged args h hs hargs nofun (fun _ => .pure _ _)
  let thunk : Thunk params .void := ⟨⟨testClass.fullName, name, params.length⟩, some t⟩
  have hcall : Leads (thunk.call run me args) s
      (.error (.managedFault (testFrame name) (e.pushFrame (testFrame name)))) s' :=
    .bind (.managedBoundary_error _ hmanaged) (.pure _ _)
  refine .except_bind (.except_lift (.callMethod h hs hlength hcall))
    (.except_bind (.pure _ _) ?_)
  exact .except_bind (.ensure (decide_eq_true rfl))
    (.except_bind (.ensure (decide_eq_true rfl)) (.pure _ _))

end Leads

/-! ## The methods

Each with what it returns or throws, and with the lines that it writes. -/

/-- The line that a call of `Mix` writes to the journal. -/
def mixLine (x : UInt32) (y : Int32) (z : UInt32) : String :=
  "Mix(" ++ FloatStyle.managed.render .single x.toNat ++ ", " ++ toString y.toInt ++ ", "
    ++ FloatStyle.managed.render .single z.toNat ++ ")"

namespace Scene.Resting

variable (h : s.Resting t made)

include h

theorem method : Leads (callWell (.nested (m + 2)) me ⟨testClass, t⟩ "Method" [] .void ()).run s
    (.ok ()) s := by
  have does : Does (.nested (m + 2)) me t "Method" ⟨[], .void⟩ [] s (.ok .void) s _ [] :=
    ⟨rfl, rfl, rfl, rfl, fun _ => .body_bind (.body_perform (.log _ _)) (.pure _ _)⟩
  exact .callWell does h.loaded rfl (fun _ => .pure _ _) rfl (fun _ => .pure _ _) rfl

theorem methodWithParameter (value : Int32) :
    Leads (callWell (.nested (m + 2)) me ⟨testClass, t⟩ "MethodWithParameter" [.int32] .void
      (value, ())).run s (.ok ()) s := by
  have does : Does (.nested (m + 2)) me t "MethodWithParameter" ⟨[.int32], .void⟩ [.int32 value] s
      (.ok .void) s _ [] :=
    ⟨rfl, rfl, rfl, rfl, fun _ => .body_bind (.pure _ _)
      (.body_bind (.body_perform (.log _ _)) (.pure _ _))⟩
  exact .callWell does h.loaded rfl (fun _ => .pure _ _) rfl (fun _ => .pure _ _) rfl

/-- The native side adds, as long as the sum is an `int`. -/
theorem methodWithReturnValue {value : Int32}
    (hvalue : value.toInt + 1337 ≤ Int32.maxValue.toInt) :
    Leads (callWell (.nested (m + 2)) me ⟨testClass, t⟩ "MethodWithParameterAndReturnValue"
      [.int32] .int32 (value, ())).run s (.ok (Int32.ofInt (value.toInt + 1337))) s := by
  have hnative : ∀ u, Leads (Run.runNative (.nested m) me (addLeet.run [.int32 value])) u
      (.ok (.int32 (Int32.ofInt (value.toInt + 1337)))) u := by
    intro u
    have hrun : addLeet.run [.int32 value] =
        .done (.ok (.int32 (Int32.ofInt (value.toInt + 1337)))) := by
      change Program.bind (if value.toInt + 1337 ≤ Int32.maxValue.toInt then _ else _) _ = _
      rw [if_pos hvalue]
      rfl
    rw [hrun]
    exact .pure _ _
  have does : Does (.nested (m + 2)) me t "MethodWithParameterAndReturnValue" ⟨[.int32], .int32⟩
      [.int32 value] s (.ok (.int32 (Int32.ofInt (value.toInt + 1337)))) s _ [] :=
    ⟨rfl, rfl, rfl, rfl, fun _ => .body_bind (.pure _ _)
      (.callStatic (mathMember "AddLeet" [.int32] .int32) addLeet h.loaded rfl
        (fun _ => .pure _ _) rfl rfl (hnative _) rfl (fun _ => .pure _ _))⟩
  exact .callWell does h.loaded rfl (fun _ => .pure _ _) rfl (fun _ => .pure _ _) rfl

theorem methodWithParameters (x : UInt32) (y : Int32) (z : UInt32) :
    Leads (callWell (.nested (m + 2)) me ⟨testClass, t⟩ "MethodWithParameters"
      [.float32, .int32, .float32] .void (x, y, z, ())).run s (.ok ())
      { s with journal := mixLine x y z :: s.journal } := by
  have hnative : ∀ u : Scene, Leads (Run.runNative (.nested m) me
      (mix.run [.float32 x, .int32 y, .float32 z])) u (.ok .void)
      { u with journal := mixLine x y z :: u.journal } :=
    fun u => .bind (.note (mixLine x y z)) (.pure _ _)
  have does : Does (.nested (m + 2)) me t "MethodWithParameters"
      ⟨[.float32, .int32, .float32], .void⟩ [.float32 x, .int32 y, .float32 z] s (.ok .void)
      { s with journal := mixLine x y z :: s.journal } _ [] :=
    ⟨rfl, rfl, rfl, rfl, fun _ => .body_bind (.pure _ _) (.body_bind (.pure _ _)
      (.body_bind (.pure _ _) (.callStatic (mathMember "Mix" [.float32, .int32, .float32] .void) mix
        h.loaded rfl (fun _ => .pure _ _) rfl rfl (hnative _) rfl (fun _ => .pure _ _))))⟩
  exact .callWell does h.loaded rfl (fun _ => .pure _ _) rfl (fun _ => .pure _ _) rfl

theorem methodWithStringReturnValue :
    Leads (callWell (.nested (m + 2)) me ⟨testClass, t⟩ "MethodWithStringReturnValue" [] .string
      ()).run s (.ok "Hello from C#!") s := by
  have does : Does (.nested (m + 2)) me t "MethodWithStringReturnValue" ⟨[], .string⟩ [] s
      (.ok (.string "Hello from C#!")) s _ [] :=
    ⟨rfl, rfl, rfl, rfl, fun _ => .pure _ _⟩
  exact .callWell does h.loaded rfl (fun _ => .pure _ _) rfl (fun _ => .pure _ _) rfl

theorem exceptionMethod :
    ∃ detail, Leads (callBadly (.nested (m + 2)) me ⟨testClass, t⟩ "ExceptionMethod" [] ()
      ManagedException.plain "Hello!").run s (.ok detail) s := by
  have does : Does (.nested (m + 2)) me t "ExceptionMethod" ⟨[], .void⟩ [] s
      (.error ⟨ManagedException.plain, "Hello!", []⟩) s _ [] :=
    ⟨rfl, rfl, rfl, rfl, fun _ => .pure _ _⟩
  have hcall := Leads.callBadly does () h.loaded rfl (fun _ => .pure _ _)
  exact ⟨_, hcall⟩

variable (hfew : made + 1 < 2 ^ 64)

include hfew

theorem echoString (value : String) :
    Leads (callWell (.nested (m + 2)) me ⟨testClass, t⟩ "EchoString" [.string] .string
      (value, ())).run s (.ok value) (s.make 1) := by
  have does : Does (.nested (m + 2)) me t "EchoString" ⟨[.string], .string⟩ [.string value] s
      (.ok (.string value)) (s.make 1) _ _ :=
    ⟨rfl, rfl, rfl, rfl, fun _ => .body_bind (.pure _ _)
      (.body_bind (.make h hfew) (.callEcho value))⟩
  exact .callWell does h.loaded rfl (fun _ => .pure _ _) rfl (fun _ => .pure _ _) rfl

/-- What the native side fails with is raised, after the last part of the method has run. -/
theorem nativeExceptionMethod (message : String) :
    ∃ detail, Leads (callBadly (.nested (m + 2)) me ⟨testClass, t⟩ "NativeExceptionMethod"
      [.string] (message, ()) BridgeError.nativeException message).run s (.ok detail) s.make := by
  have does : Does (.nested (m + 2)) me t "NativeExceptionMethod" ⟨[.string], .void⟩
      [.string message] s (.error (failException message)) s.make _ _ :=
    ⟨rfl, rfl, rfl, rfl, fun _ => .body_bind (.pure _ _) (.body_bind (.make h hfew)
      (.managed_bind (.callFail message) (.managed_bind (.managed_op (.log _ _)) (.pure _ _))))⟩
  have hcall := Leads.callBadly does (message, ()) h.loaded rfl (fun _ => .pure _ _)
  exact ⟨_, hcall⟩

theorem catchNativeException (message : String) :
    Leads (callWell (.nested (m + 2)) me ⟨testClass, t⟩ "CatchNativeException" [.string] .string
      (message, ())).run s (.ok message) s.make := by
  have does : Does (.nested (m + 2)) me t "CatchNativeException" ⟨[.string], .string⟩
      [.string message] s (.ok (.string message)) s.make _ _ :=
    ⟨rfl, rfl, rfl, rfl, fun _ => .body_bind (.pure _ _) (.body_bind (.make h hfew)
      (.managed_bind (.body_throws (.callFail message)) (.pure _ _)))⟩
  exact .callWell does h.loaded rfl (fun _ => .pure _ _) rfl (fun _ => .pure _ _) rfl

/-- The native side has counted both calls. -/
theorem useMyObject (value : String) :
    Leads (callWell (.nested (m + 2)) me ⟨testClass, t⟩ "UseMyObject" [.string] .int32
      (value, ())).run s (.ok 2)
      (s.make 2 (.replicate 2 ("DoStuff was called with: " ++ value))) := by
  have does : Does (.nested (m + 2)) me t "UseMyObject" ⟨[.string], .int32⟩ [.string value] s
      (.ok (.int32 2)) (s.make 2 (.replicate 2 ("DoStuff was called with: " ++ value))) _ _ :=
    ⟨rfl, rfl, rfl, rfl, fun _ => .body_bind (.pure _ _) (.body_bind (.make h hfew)
      (.body_bind (.callDoStuff value) (.body_bind (.callDoStuff value) .callCallCount)))⟩
  exact .callWell does h.loaded rfl (fun _ => .pure _ _) rfl (fun _ => .pure _ _) rfl

theorem createMyObject :
    Leads (callWell (.nested (m + 2)) me ⟨testClass, t⟩ "CreateMyObject" [] .void ()).run s
      (.ok ()) s.make := by
  have does : Does (.nested (m + 2)) me t "CreateMyObject" ⟨[], .void⟩ [] s (.ok .void) s.make
      _ _ :=
    ⟨rfl, rfl, rfl, rfl, fun _ => .body_bind (.make h hfew) (.pure _ _)⟩
  exact .callWell does h.loaded rfl (fun _ => .pure _ _) rfl (fun _ => .pure _ _) rfl

end Scene.Resting

end HostBridge.SelfTest
