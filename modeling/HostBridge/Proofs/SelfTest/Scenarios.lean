import HostBridge.Proofs.SelfTest.Methods
import HostBridge.Proofs.SelfTest.Sweep

/-!
# The scenarios of the self-test

Every scenario calls a method of the test object and looks at the result or at the journal.
Five of them leave an object with a counter behind; the last one collects, and finds as many
deletions in the journal as there were creations. The journal is not empty when a run begins
after another one, so that this needs the two to have been equally many before
(`scenarios_pass`).
-/

namespace HostBridge.SelfTest

variable {m made : Nat} {me : ThreadId} {s s' s'' : Scene} {t : ObjectId}
  {name detail : String} {scenario : Scenario} {rest : List (String × Scenario)}

/-! ## Scenarios that pass

A list of scenarios passes if each of them does from the scene that the one before has left. -/

theorem Leads.result (name : String) (h : Leads scenario.run s (.ok detail) s') :
    Leads (result name scenario) s ⟨name, true, detail⟩ s' :=
  .bind h (.pure _ _)

/-- **Scenarios pass** one after the other, and take a scene to another. -/
def Passes (l : List (String × Scenario)) (s s' : Scene) : Prop :=
  ∃ rs, Leads (results l) s rs s' ∧ rs.map ScenarioResult.name = l.map Prod.fst ∧
    ∀ r ∈ rs, r.passed = true

namespace Passes

theorem nil (s : Scene) : Passes [] s s := ⟨[], .pure _ _, rfl, nofun⟩

theorem cons (h : ∃ detail, Leads scenario.run s (.ok detail) s') (hrest : Passes rest s' s'') :
    Passes ((name, scenario) :: rest) s s'' := by
  obtain ⟨detail, h⟩ := h
  obtain ⟨rs, hrs, hnames, hpassed⟩ := hrest
  exact ⟨⟨name, true, detail⟩ :: rs, .bind (.result name h) (.bind hrs (.pure _ _)),
    congrArg (name :: ·) hnames, List.forall_mem_cons.2 ⟨rfl, hpassed⟩⟩

end Passes

theorem Leads.journalCount (line : String) :
    Leads (journalCount line).run s (.ok (s.journal.count line)) s :=
  .except_lift (.ask fun w hw => by rw [hw.journal])

/-! ## The scenarios on the test object

One after the other, with the objects that they leave behind. -/

/-- The scene with a line more in the journal. -/
def Scene.note (s : Scene) (line : String) : Scene := { s with journal := line :: s.journal }

theorem Scene.Resting.note (h : s.Resting t made) (line : String) :
    (s.note line).Resting t made := { h with }

/-- The line that a call of `Mix` leaves. -/
def mixed : String := "Mix(1.5, 2, 3.25)"

/-- The line that a call of `DoStuff` leaves. -/
def didStuff : String := "DoStuff was called with: Hello from C#!"

theorem mixLine_eq : mixLine 0x3FC00000 2 0x40500000 = mixed := by decide +kernel

/-- The scene before the last scenario. -/
def Scene.used (s : Scene) : Scene :=
  ((((s.note mixed).make 1).make).make).make 2 [didStuff, didStuff]

theorem Scene.Resting.used (h : s.Resting t 0) : s.used.Resting t 4 :=
  ((((h.note mixed).make (by decide) 1 []).make (by decide) 0 []).make (by decide) 0 []).make
    (by decide) 2 [didStuff, didStuff]

theorem Scene.Resting.used_make (h : s.Resting t 0) : s.used.make.Resting t 5 :=
  h.used.make (by decide) 0 []

theorem Scene.Resting.mix (h : s.Resting t made) :
    Leads (callWell (.nested (m + 2)) me ⟨testClass, t⟩ "MethodWithParameters"
      [.float32, .int32, .float32] .void
      ((0x3FC00000 : UInt32), (2 : Int32), (0x40500000 : UInt32), ())).run s (.ok ())
      (s.note mixed) := by
  have hnote : s.note mixed = { s with journal := mixLine 0x3FC00000 2 0x40500000 :: s.journal } :=
    mixLine_eq ▸ rfl
  rw [hnote]
  exact h.methodWithParameters _ _ _

/-- What is done after a collection is done on the scene that it leaves, whatever it says it
has freed. -/
theorem Scene.Resting.collect_bind {β : Type} (h : s.Resting t made)
    {f : Nat → ExceptT String Run β} {r : Except String β}
    (hf : ∀ n, Leads (f n).run (s.collected t) r s') :
    Leads (ExceptT.lift (Run.collect (.nested (m + 2)) me) >>= f).run s r s' := by
  rw [ExceptT.run_bind_lift]
  refine .bind_of fun w hw => ?_
  obtain ⟨n, w', hends, hw'⟩ := collect_ends h hw
  exact ⟨n, w', _, hends, hw', hf n⟩

theorem Leads.liveCount :
    Leads (Run.askBridge Bridge.liveCount) s s.counters.length s :=
  .askBridge fun b hb => by
    rw [Bridge.liveCount, hb.handles, List.length_map]

/-- The lines that a run of the self-test adds to the journal, the latest first. -/
def runLines : List String :=
  List.replicate 5 "MyObject deleted." ++ ["MyObject created.", didStuff, didStuff] ++
    List.replicate 4 "MyObject created." ++ [mixed]

theorem count_created_runLines : runLines.count "MyObject created." = 5 := by decide

theorem count_deleted_runLines : runLines.count "MyObject deleted." = 5 := by decide

/-- The scene after the last scenario. -/
def Scene.tested (s : Scene) (t : ObjectId) : Scene := (s.used.make).collected t

theorem Scene.journal_tested (hnone : s.counters = []) (t : ObjectId) :
    (s.tested t).journal = runLines ++ s.journal := by
  simp [tested, collected, used, make, note, hnone, runLines, List.replicate_succ]

/-- **The scenarios on the test object pass.** -/
theorem scenarios_pass (h : s.Resting t 0) (hnone : s.counters = [])
    (hbalanced : s.journal.count "MyObject created." = s.journal.count "MyObject deleted.") :
    Passes (scenarios (.nested (m + 2)) me ⟨testClass, t⟩) s (s.tested t) := by
  have h₁ := h.note mixed
  have h₂ := h₁.make (by decide) 1 []
  have h₃ := h₂.make (by decide) 0 []
  have h₄ := h₃.make (by decide) 0 []
  have h₅ := h.used
  unfold scenarios
  refine .cons ⟨_, .except_bind (.pure _ _) (.except_bind (.pure _ _) (.except_bind (.pure _ _)
    (.pure _ _)))⟩ ?_
  refine .cons ⟨_, .except_bind h.method (.pure _ _)⟩ ?_
  refine .cons ⟨_, .except_bind (h.methodWithParameter _) (.pure _ _)⟩ ?_
  refine .cons ⟨_, .except_bind (h.methodWithReturnValue (by decide))
    (.except_bind (.ensure (by decide)) (.pure _ _))⟩ ?_
  refine .cons ⟨_, .except_bind h.mix (.except_bind (.journalCount _)
    (.except_bind (.ensure ?_) (.pure _ _)))⟩ ?_
  · simp [Scene.note, mixed]
  refine .cons ⟨_, .except_bind h₁.methodWithStringReturnValue
    (.except_bind (.ensure (decide_eq_true rfl)) (.pure _ _))⟩ ?_
  refine .cons ⟨_, .except_bind (h₁.echoString (by decide) _)
    (.except_bind (.ensure (decide_eq_true rfl)) (.pure _ _))⟩ ?_
  refine .cons h₂.exceptionMethod ?_
  refine .cons (h₂.nativeExceptionMethod (by decide) _) ?_
  refine .cons ⟨_, .except_bind (h₃.catchNativeException (by decide) _)
    (.except_bind (.ensure (decide_eq_true rfl)) (.pure _ _))⟩ ?_
  refine .cons ⟨_, .except_bind (h₄.useMyObject (by decide) _) (.except_bind (.ensure (by decide))
    (.except_bind (.journalCount _) (.except_bind (.ensure ?_) (.pure _ _))))⟩ ?_
  · simp [Scene.make, List.replicate_succ]
  have hjournal : ((s.used.make).collected t).journal = runLines ++ s.journal :=
    Scene.journal_tested hnone t
  obtain ⟨n, hn⟩ : ∃ n, n = 5 + s.journal.count "MyObject deleted." := ⟨_, rfl⟩
  have hcreated : ((s.used.make).collected t).journal.count "MyObject created." = n := by
    rw [hjournal, List.count_append, count_created_runLines, hbalanced, hn]
  have hdeleted : ((s.used.make).collected t).journal.count "MyObject deleted." = n := by
    rw [hjournal, List.count_append, count_deleted_runLines, hn]
  refine .cons ⟨toString n ++ " created, " ++ toString n ++ " deleted",
    .except_bind (h₅.createMyObject (by decide)) (h.used_make.collect_bind fun _ => ?_)⟩ (.nil _)
  refine .except_bind (.journalCount _) (.except_bind (.journalCount _) ?_)
  rw [hcreated, hdeleted]
  refine .except_bind (.ensure (decide_eq_true (by omega)))
    (.except_bind (.ensure (decide_eq_true rfl)) ?_)
  exact .except_bind (.except_lift .liveCount) (.except_bind (.ensure rfl) (.pure _ _))

end HostBridge.SelfTest
