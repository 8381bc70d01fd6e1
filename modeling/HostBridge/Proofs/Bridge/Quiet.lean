import HostBridge.Proofs.Evaluation

/-!
# What the bridge has no part in

What code does to the managed domain, and what it writes to the journal and to the
log, is **quiet** for a discipline that speaks of bridged instances (`World.Quiet`).
If such a discipline bears with quiet changes, all code keeps a conduct as soon as
the operations of the bridge do (`Discipline.Lenient.upheld`). Where it does not bear with
every construction, that of an object has to be looked at besides
(`Discipline.Lenient.upheld_of_newObject`).

So a statement about handles and calls is proved without a word about roots, frames and
classes. Every operation of the domain is gone through here, once and with its
sections counted as quiet, and a discipline of the bridge gets them all from one
fact about itself.

Lines in the journal are the exception. They are quiet, but they are written by
code and where code runs, and some disciplines demand something of a thread there.
-/

namespace HostBridge

/-- **A change that the bridge has no part in**: of the domain, and of the
history by events that happened to no handle. -/
structure World.Quiet (w w' : World) : Prop where
  registry : w'.registry = w.registry
  bridge : w'.bridge = w.bridge
  kept : w'.kept = w.kept
  history : ∃ events, w'.history = events ++ w.history ∧ ∀ e ∈ events, e.handle? = none

theorem World.quiet_refl (w : World) : w.Quiet w := ⟨rfl, rfl, rfl, [], rfl, by simp⟩

/-- **A change of the domain is quiet**, with whatever it tells of objects. -/
theorem World.quiet_onDomain (w : World) (d : Domain) {events : List Event}
    (h : ∀ e ∈ events, e.handle? = none) : w.Quiet (w.onDomain d events) :=
  ⟨rfl, rfl, rfl, events, rfl, h⟩

/-- A line that tells of no handle is quiet. -/
theorem World.quiet_record (w : World) {e : Event} (h : e.handle? = none) :
    w.Quiet (w.record e) :=
  ⟨rfl, rfl, rfl, [e], rfl, by simpa using h⟩

/-- Whether a section that leads from one state to another writes a line to the
journal. -/
def World.Notes (w w' : World) : Prop := ∃ line, w'.history = .note line :: w.history

variable {τ α β : Type}

/-- **A lenient discipline** bears with quiet changes, and demands nothing of them where
code may start. What it demands of them elsewhere it demands of lines in the
journal. -/
structure Discipline.Lenient (D : Discipline World τ) (C : Conduct τ) : Prop where
  quiet : ∀ {w w' own}, D.inv w own → w.Quiet w' → D.inv w' own
  demand : ∀ {w w' x}, C.rel x x → w.Quiet w' → D.demand w w' x
  silent : ∀ {w w' x}, ¬w.Notes w' → w.Quiet w' → D.demand w w' x

/-- The manners of code that keeps one conduct, native or managed. Native code may be
restricted in what it asks for. -/
def Discipline.manners (D : Discipline World τ) (C : Conduct τ)
    (asks : NativeOp → Prop := fun _ => True) : Manners τ where
  discipline := D
  native := C
  managed := fun _ => C
  asks := asks

namespace Discipline.Lenient

variable {D : Discipline World τ} {C : Conduct τ} {asks : NativeOp → Prop} {me : ThreadId}
  {run : Runner} (hD : D.Lenient C)

include hD

/-! ## Quiet sections

The stake of the thread stays what it is, and the invariant holds after the section
because the discipline bears with it. -/

/-- A question is quiet. -/
theorem ask (f : World → α) : (Process.ask f).Keeps D C me := by
  intro x hx
  rw [← bind_pure (Process.ask f)]
  exact Process.Follows.ask (fun s => hD.demand hx s.quiet_refl)
    (fun s own hinv hme hs => Or.inr hx)

/-- A quiet section keeps the conduct. -/
theorem exchange {f : World → α × World} (h : ∀ w : World, w.Quiet (f w).2) :
    (Process.exchange f).Keeps D C me := by
  intro x hx
  rw [← bind_pure (Process.exchange f)]
  refine Process.Follows.exchange (fun w own hinv hme hs hs' =>
    ⟨hD.demand hx (h w), x, ?_, Or.inr hx⟩)
  subst hme
  rw [Function.update_eq_self]
  exact hD.quiet hinv (h w)

/-- A quiet change settles it: there is nothing in it that could panic. -/
theorem change_settles {f : World → World} (h : ∀ w : World, w.Quiet (f w)) :
    (Process.change f).Settles D C me := by
  intro x hx
  rw [← bind_pure (Process.change f)]
  refine Process.Follows.change (fun w own hinv hme hs hs' =>
    ⟨hD.demand hx (h w), x, ?_, Or.inr ⟨⟨(), rfl⟩, hx⟩⟩)
  subst hme
  rw [Function.update_eq_self]
  exact hD.quiet hinv (h w)

theorem record {e : Event} (h : e.handle? = none) : (Run.record e).Keeps D C me :=
  (hD.change_settles (fun w => w.quiet_record h)).keeps

theorem log_settles (level : LogLevel) (text : String) :
    (Run.log level text).Settles D C me :=
  hD.change_settles (fun w => w.quiet_record rfl)

theorem log (level : LogLevel) (text : String) : (Run.log level text).Keeps D C me :=
  (hD.log_settles level text).keeps

theorem askBridge (f : Bridge → α) : (Run.askBridge f).Keeps D C me := hD.ask _

theorem askDomain (f : Domain → α) : (Run.askDomain f).Keeps D C me := hD.ask _

/-- **A section of the domain keeps the conduct**, whatever it does there. -/
theorem changeDomain (f : Domain → Domain) {events : List Event}
    (h : ∀ e ∈ events, e.handle? = none) : (Run.changeDomain f events).Keeps D C me :=
  (hD.change_settles (fun w => w.quiet_onDomain _ h)).keeps

theorem onDomain (f : Domain → α × Domain) {events : α → List Event}
    (h : ∀ a, ∀ e ∈ events a, e.handle? = none) : (Run.onDomain f events).Keeps D C me :=
  hD.exchange (fun w => w.quiet_onDomain _ (h _))

/-- Leaving a frame or an allocation because of a crash, on the way to the end of
a run that was nested too deeply. -/
theorem doomed_changeDomain (f : Domain → Domain) {events : List Event}
    (h : ∀ e ∈ events, e.handle? = none ∧ ∀ line, e ≠ .note line) :
    (Run.changeDomain f events >>= fun _ => (Process.crash .tooDeep : Run β)).Doomed D me := by
  intro x
  refine Process.Follows.change (fun w own hinv hme hs hs' => ?_)
  have hquiet : w.Quiet (w.onDomain (f w.domain) events) :=
    w.quiet_onDomain _ (fun e he => (h e he).1)
  refine ⟨hD.silent ?_ hquiet, x, ?_, rfl⟩
  · rintro ⟨line, hl⟩
    have hh : events ++ w.history = .note line :: w.history := hl
    have he : events = [.note line] := List.append_cancel_right (hh.trans rfl)
    exact (h (.note line) (by simp [he])).2 line rfl
  · subst hme
    rw [Function.update_eq_self]
    exact hD.quiet hinv hquiet

/-- Guarded native code settles the conduct, if the code keeps it. -/
theorem catchNative {ε : Type} (member : String) (ofFault : NativeFault → ε)
    {code : Run (Except ε α)} (h : code.Keeps D C me) :
    (catchNative member ofFault code).Settles D C me :=
  .catchNative hD.log_settles member ofFault h

/-! ## The operations of the domain

Each goes by the text of the operation. Where code is entered the conduct is that
of the runner, which is the hypothesis of the nesting. -/

theorem releaseLocals (f : FrameId) (n : Nat) : (Run.releaseLocals f n).Keeps D C me := by
  induction n with
  | zero => exact .pure _
  | succ n ih => exact .bind (hD.changeDomain _ (by simp)) (fun _ => ih)

theorem keeping (x : Context) (result : Except ManagedException ManagedValue) :
    (Run.keeping x result).Keeps D C me := by
  cases result with
  | error e => exact .pure _
  | ok v => exact .bind (hD.changeDomain _ (by simp)) (fun _ => .pure _)

/-- Loading an assembly looks the members up, and is quiet. -/
theorem loadAssembly (name : String) : (Run.loadAssembly name).Keeps D C me := by
  refine .bind (hD.askDomain _) (fun i? => ?_)
  cases i? with
  | none => exact .pure _
  | some i =>
    refine .bind (hD.ask _) (fun r => ?_)
    split
    · exact .pure _
    · exact .bind (hD.changeDomain _ (by simp)) (fun _ => .pure _)

section Running

variable (hM : (D.manners C asks).Bridged me) (hrun : run.Keeps (D.manners C asks) me)

include hrun

/-- **A managed body keeps the conduct**: opening the frame and closing it is quiet, on every
way out. -/
theorem runBody (c : Class) (name : String) (body : MethodBody) (receiver : Option ObjectId)
    (args : List ManagedValue) (depth : Nat) :
    (Run.runBody run me c name body receiver args depth).Keeps D C me := by
  refine .bind (hD.askDomain _) (fun limit => ?_)
  split
  · exact .pure _
  refine .bind (hD.onDomain _ (by simp)) (fun f => .bind (hD.record rfl) (fun _ => ?_))
  refine .attempt (hrun.managed _ _) (fun result => ?_) (fun q => ?_) ?_
  · exact .bind (hD.askDomain _) (fun locals => .bind (hD.releaseLocals f _)
      (fun _ => .bind (hD.changeDomain _ (by simp)) (fun _ => .pure _)))
  · exact .bind (hD.changeDomain _ (by simp [Event.handle?])) (fun _ => .crash _)
  · exact hD.doomed_changeDomain _ (by simp [Event.handle?])

/-- The end of a construction keeps the conduct, whether the constructor returns, throws or
panics. -/
theorem runConstructor (c : Class) (o : ObjectId) (depth : Nat) :
    (Run.runConstructor run me c o depth).Keeps D C me := by
  unfold Run.runConstructor
  split
  · exact .pure _
  refine .attempt (hD.runBody hrun _ _ _ _ _ _) (fun r => ?_) (fun q => ?_) ?_
  · cases r with
    | error e => exact .bind (hD.changeDomain _ (by simp)) (fun _ => .pure _)
    | ok v => exact .pure _
  · exact .bind (hD.changeDomain _ (by simp)) (fun _ => .crash _)
  · exact hD.doomed_changeDomain _ (by simp)

/-- **The making of an object keeps the conduct** if its construction on the bridge does. -/
theorem newObject (hconstruct : ∀ typeName o, (Run.construct run me typeName o).Keeps D C me)
    (c : Class) (depth : Nat) : (Run.newObject run me c depth).Keeps D C me := by
  refine .bind (hD.onDomain _ (by simp [Event.handle?])) (fun o => ?_)
  refine .bind (hconstruct _ _) (fun r => ?_)
  cases r with
  | error e => exact .bind (hD.changeDomain _ (by simp)) (fun _ => .pure _)
  | ok h => exact hD.runConstructor hrun _ _ _

include hM

theorem reclaim (o : ObjectId) (c : Class) : (Run.reclaim run me o c).Keeps D C me := by
  refine .bind (.bind (hD.record rfl) (fun _ => ?_)) (fun _ => .bind (hD.record rfl) (fun _ =>
    .bind (hM.destroy hrun o) (fun _ => .bind (hM.forget o)
      (fun _ => hD.changeDomain _ (by simp [Event.handle?])))))
  split
  · exact .pure _
  · refine .bind (hD.runBody hrun _ _ _ _ _ _) (fun r => ?_)
    cases r with
    | ok v => exact .pure _
    | error e => exact hD.log _ _

/-- **A collection keeps the conduct**, object by object. -/
theorem reclaimAll (l : List (ObjectId × Class)) : (Run.reclaimAll run me l).Keeps D C me := by
  induction l with
  | nil => exact .pure _
  | cons e rest ih => exact .bind (hD.reclaim hM hrun e.1 e.2) (fun _ => ih)

theorem collectOnRequest : (Run.collectOnRequest run me).Keeps D C me :=
  .bind (.bind (hD.onDomain _ (by simp)) (fun l => .bind (hD.reclaimAll hM hrun l)
    (fun _ => .pure _))) (fun _ => .bind (hD.record rfl) (fun _ => .pure _))

omit hrun hM

variable (hnew : ∀ c depth, (Run.newObject run me c depth).Keeps D C me)

include hnew

/-- An object that native code makes is held by it, which is quiet. -/
theorem newInstance (c : Class) : (Run.newInstance run me c).Keeps D C me := by
  refine .bind (hnew c 0) (fun r => ?_)
  cases r with
  | error e => exact .pure _
  | ok o => exact .bind (hD.changeDomain _ (by simp)) (fun _ => .pure _)

theorem managedNewObject (x : Context) (typeName : String) :
    (Run.managedReply run me x (.newObject typeName)).Keeps D C me := by
  refine .bind (hD.askDomain _) (fun r => ?_)
  cases r with
  | error e => exact .pure _
  | ok c =>
    refine .bind (hnew c _) (fun r => ?_)
    cases r with
    | error e => exact .pure _
    | ok o => exact .bind (hD.changeDomain _ (by simp)) (fun _ => .pure _)

end Running

/-- **Manners are up to the bridge** where the domain has no part in them, and up to the
construction of objects. -/
theorem upheld_of_newObject (hM : (D.manners C asks).Bridged me)
    (hnew : ∀ {run : Runner}, run.Keeps (D.manners C asks) me →
      ∀ c depth, (Run.newObject run me c depth).Keeps D C me) :
    (D.manners C asks).Upheld me where
  toBridged := hM
  widen := fun _ hp => hp
  runBody := fun hrun => hD.runBody hrun
  newObject := fun hrun => hD.managedNewObject (hnew hrun)
  keeping := hD.keeping
  collect := fun hrun => hD.collectOnRequest hM hrun
  newInstance := fun hrun => hD.newInstance (hnew hrun)
  dropInstance := fun _ => hD.onDomain _ (by simp)
  provide := fun _ => hD.changeDomain _ (by simp)
  load := hD.loadAssembly

/-- Native code may construct what it likes. -/
theorem upheld (hM : (D.manners C).Bridged me) : (D.manners C).Upheld me :=
  hD.upheld_of_newObject hM fun hrun =>
    hD.newObject hrun fun typeName o => hM.construct hrun typeName o trivial

end Discipline.Lenient

end HostBridge
