import HostBridge.Proofs.Domain.Lasting
import HostBridge.Proofs.Domain.Roots
import HostBridge.Proofs.Passage
import HostBridge.Proofs.Sections

/-!
# The class of an object

Objects are numbered upward, and their numbers are not used again until they run out. So an
object is of one class for good, whatever is loaded, disposed of or collected meanwhile, and
on whatever thread: where it is on the heap, it is of that class (`World.Serial.class_eq`),
and once it has come off the heap, it does not come back (`Domain.Later.classOf?`).

The class of an object is a copy of what the class was when the object was made. An assembly
that brings another class of that name changes the table and not the heap, so it is the object
and not its class name that tells which code belongs to it.

The relation `Domain.Later` is what one domain has to do with the same domain later on. It says
nothing of numbers that were not given out yet, since an object of such a number may come with
any class; it is preserved by each section, and holds between any two points of a run.
-/

namespace HostBridge

variable {w w' : World} {d d' d'' : Domain} {me : ThreadId} {o : ObjectId} {c : Class} {n : Nat}
  {α : Type} {code : ThreadId → NativeCode α} {t u : Threads World α}

/-- **A domain later on.** Objects have come and gone, but of those that had been numbered none
has come back, and none has another class. -/
structure Domain.Later (d d' : Domain) : Prop where
  lastObject : d.lastObject.toNat ≤ d'.lastObject.toNat
  classOf? : ∀ o c, o.number.toNat ≤ d.lastObject.toNat →
    d'.classOf? o = some c → d.classOf? o = some c

namespace Domain.Later

theorem refl (d : Domain) : d.Later d := ⟨Nat.le_refl _, fun _ _ _ => id⟩

theorem trans (h : d.Later d') (h' : d'.Later d'') : d.Later d'' :=
  ⟨Nat.le_trans h.lastObject h'.lastObject, fun o c ho hc =>
    h.classOf? o c ho (h'.classOf? o c (Nat.le_trans ho h.lastObject) hc)⟩

/-- **What has come off the heap does not come back.** -/
theorem gone (h : d.Later d') (ho : o.number.toNat ≤ d.lastObject.toNat)
    (hd : d.heap.get? o = none) : d'.heap.get? o = none := by
  have hnone : d.classOf? o = none := by rw [Domain.classOf?, hd, Option.map_none]
  by_contra hn
  obtain ⟨x, hx⟩ := Option.ne_none_iff_exists'.1 hn
  have hsome : d'.classOf? o = some x.cls := by rw [Domain.classOf?, hx, Option.map_some]
  cases hnone.symm.trans (h.classOf? o x.cls ho hsome)

end Domain.Later

/-! ## Numbers that were given out

A number that is on the heap was given out, and the numbers given out are those up to the last. -/

/-- **Objects are numbered upward**: no number was given out but to an object that was put on
the heap, and what is on the heap has such a number. -/
structure World.Serial (w : World) : Prop where
  allocations : w.domain.lastObject.toNat ≤ w.allocations
  heap : ∀ o c, w.domain.classOf? o = some c → o.number.toNat ≤ w.domain.lastObject.toNat

namespace World.Serial

/-- A section in which no object comes. -/
theorem keep (hw : w.Serial) (hl : w'.domain.lastObject = w.domain.lastObject)
    (hc : ∀ o c, w'.domain.classOf? o = some c → w.domain.classOf? o = some c)
    (hh : w.history <:+ w'.history) : w'.Serial ∧ w.domain.Later w'.domain := by
  refine ⟨⟨?_, fun o c ho => ?_⟩, ⟨?_, fun o c _ => hc o c⟩⟩
  · rw [hl]
    exact hw.allocations.trans hh.sublist.countP_le
  · rw [hl]
    exact hw.heap o c (hc o c ho)
  · rw [hl]

/-- **An object that is put on the heap** has a number of its own. -/
theorem allocate (hw : w.Serial) (c : Class)
    (hb : (w.onDomain (w.domain.allocate c).2 [.allocated (w.domain.allocate c).1]).Numerable) :
    (w.onDomain (w.domain.allocate c).2 [.allocated (w.domain.allocate c).1]).Serial ∧
      w.domain.Later (w.domain.allocate c).2 := by
  have hcount : (w.onDomain (w.domain.allocate c).2
      [.allocated (w.domain.allocate c).1]).allocations = w.allocations + 1 :=
    List.countP_cons_of_pos rfl
  have hlast : (w.domain.allocate c).2.lastObject.toNat = w.domain.lastObject.toNat + 1 := by
    have := hw.allocations
    rw [World.Numerable, hcount] at hb
    exact (UInt64.toNat_add ..).trans (Nat.mod_eq_of_lt (by simp; omega))
  have hclass : ∀ o, (w.domain.allocate c).2.classOf? o =
      if o = w.domain.nextObject then some c else w.domain.classOf? o := by
    intro o
    unfold Domain.classOf?
    rw [Domain.get?_allocate]
    split <;> rfl
  refine ⟨⟨?_, fun o c' ho => ?_⟩, ⟨?_, fun o c' ho hc' => ?_⟩⟩
  · rw [hcount]
    exact hlast.le.trans (Nat.succ_le_succ hw.allocations)
  · show o.number.toNat ≤ (w.domain.allocate c).2.lastObject.toNat
    rw [World.onDomain, hclass] at ho
    split at ho
    · next he =>
      subst he
      exact Nat.le_refl _
    · rw [hlast]
      exact Nat.le_succ_of_le (hw.heap o c' ho)
  · rw [hlast]
    exact Nat.le_succ _
  · rw [hclass, if_neg] at hc'
    · exact hc'
    · rintro rfl
      have : w.domain.nextObject.number.toNat = w.domain.lastObject.toNat + 1 := hlast
      omega

/-- **What one section of a thread can do to the objects.** -/
theorem section_later (hw : w.Serial) (hs : w.Section me w') (hb : w'.Numerable) :
    w'.Serial ∧ w.domain.Later w'.domain := by
  have hh := hs.suffix
  cases hs with
  | allocate c => exact hw.allocate c hb
  | inDomain d events hd => exact hw.keep hd.lastObject hd.classOf? hh
  | _ => exact hw.keep rfl (fun _ _ => id) hh

/-- **Objects are numbered upward** in every interleaving. -/
theorem of_reaches (hw : w.Serial) (ht : (w.threads n code).Reaches World.Numerable t) :
    t.state.Serial := by
  induction ht with
  | here hs => exact hw
  | enter h hu hr hs ih =>
    obtain ⟨-, hsec⟩ := World.section_of_reaches (h.mono fun _ _ => trivial) hu hr
    exact (ih.section_later hsec hs).1

/-- **A domain is later on what it has become.** -/
theorem later (hw : w.Serial) (ht : (w.threads n code).Reaches World.Numerable t)
    (hu : t.Reaches World.Numerable u) : t.state.domain.Later u.state.domain := by
  induction hu with
  | here hs => exact .refl _
  | enter h hu hr hs ih =>
    have hreach := ht.trans h
    obtain ⟨-, hsec⟩ := World.section_of_reaches (hreach.mono fun _ _ => trivial) hu hr
    exact ih.trans ((hw.of_reaches hreach).section_later hsec hs).2

/-- **A domain is later on what a process has made of it** that was run alone, whatever it came
to. -/
theorem later_of_ends {β : Type} {p : Run β} {e : Except Crash β} (hw : w.Serial)
    (hp : World.Sectioned w.registry me p) (h : p.Ends w e w') (hb : w'.Numerable) :
    w'.Serial ∧ w.domain.Later w'.domain := by
  -- the history only grows, so numbers had not run out at any section on the way
  refine (World.Sectioned.keeps_ends (I := fun v => v.Numerable →
    v.Serial ∧ w.domain.Later v.domain) hp h (fun _ => ⟨hw, .refl _⟩) ?_).2 hb
  intro v v' hs ih hb
  obtain ⟨hv, hlater⟩ := ih (Nat.lt_of_le_of_lt hs.suffix.sublist.countP_le hb)
  obtain ⟨hv', hlater'⟩ := hv.section_later hs hb
  exact ⟨hv', hlater.trans hlater'⟩

/-- **An object is of one class for good**: where it is on the heap later on, it is of the class
that it was of before. -/
theorem class_eq {c' : Class} (hw : w.Serial)
    (ht : (w.threads n code).Reaches World.Numerable t) (hu : t.Reaches World.Numerable u)
    (hc : t.state.domain.classOf? o = some c) (hc' : u.state.domain.classOf? o = some c') :
    c' = c := by
  have ho := (hw.of_reaches ht).heap o c hc
  exact Option.some.inj (((hw.later ht hu).classOf? o c' ho hc').symm.trans hc)

end World.Serial

/-- In books that are in order, objects are numbered upward. -/
theorem World.Census.serial (hw : w.Census) : w.Serial where
  allocations := hw.numbered.le
  heap := fun o c hc => by
    rw [hw.numbered]
    refine hw.heap o fun hn => ?_
    rw [Domain.classOf?, hn] at hc
    cases hc

/-- A domain in which nothing has happened yet has given out no number. -/
theorem Domain.Opened.serial (hd : w.domain.Opened) : w.Serial where
  allocations := by
    rw [hd.lastObject]
    exact Nat.zero_le _
  heap := fun o c hc => by
    unfold Domain.classOf? at hc
    rw [hd.heap] at hc
    cases hc

end HostBridge
