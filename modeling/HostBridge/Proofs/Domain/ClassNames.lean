import Mathlib.Data.List.Nodup
import HostBridge.Proofs.Passage
import HostBridge.Proofs.Sections
import HostBridge.Thunk

/-!
# What class names stand for

A class is found by its full name, and otherwise by its simple name if no other class has
that one. So a domain knows more names than it has classes, and an assembly that brings
classes of full names that were not there before may still have its say in what an old name
stands for: a name that was good for one class by being its simple name only may become the
simple name of two, or the full name of another.

This is all that can happen. A name that was found keeps its class exactly if it is the
full name of that class, or if no class that the assembly brought is called so
(`loading_keeps_names`); and with the class it keeps what everybody finds by it, be it native
code that binds a thunk or managed code of any class.

## What a lookup depends on

The simple name of a class is looked for among all classes of the domain, and an assembly can
bring any number of them. Still a name that was found fares in one of two ways. If it is the full
name of its class, or if nothing that came is called so, it keeps the class
(`Domain.findClass?_addClasses`). Otherwise it stands for the class that has it for its full name
now, if there is one, and is not found if there is none
(`Domain.findClass?_addClasses_of_isNamed`).

What is found by a name is more than a class, but all of it goes through the class: methods to
bind, constructors and static members that code of some class names. Domains that find the same
class by a name therefore answer alike (`Domain.AnswersAlike`).
-/

namespace HostBridge

variable {α : Type}

namespace Domain

variable {d d' : Domain} {i : Image} {name : String} {c : Class}

/-! ## Finding a class

The two ways of being found, and the shape of the table that makes the first one work: a class
stands under its own full name. -/

/-- **A class is found** by its full name, or, where nothing has that full name, by its simple
name if it is the only one. -/
theorem findClass?_eq_some_iff : d.findClass? name = some c ↔
    d.classes.get? name = some c ∨ d.classes.get? name = none ∧ c.name = name ∧
      ∃ k, d.classes.get? k = some c ∧
        ∀ k' c', d.classes.get? k' = some c' → c'.name = name → k' = k := by
  have hvalues : d.classes.values.filter (fun c => c.name = name) =
      (d.classes.toList.filter (fun e => e.2.name = name)).map Prod.snd := by
    rw [Table.values, List.filter_map]
    rfl
  have hnodup : (d.classes.toList.filter (fun e => e.2.name = name)).Nodup :=
    (List.Nodup.of_map _ d.classes.nodup_toList).filter _
  unfold findClass?
  cases hfull : d.classes.get? name with
  | some x => simp
  | none =>
    simp only [reduceCtorEq, false_or, true_and, hvalues]
    constructor
    · intro h
      split at h
      · next x hx =>
        obtain rfl := Option.some.inj h
        obtain ⟨⟨k, x⟩, he, rfl⟩ := List.map_eq_singleton_iff.1 hx
        have hmem : ∀ e, e ∈ d.classes.toList ∧ e.2.name = name ↔ e = (k, x) := by
          intro e
          rw [← List.mem_singleton (b := (k, x)), ← he, List.mem_filter, decide_eq_true_iff]
        obtain ⟨hk, hname⟩ := (hmem (k, x)).2 rfl
        exact ⟨hname, k, Table.mem_toList.1 hk, fun k' c' hk' hc' =>
          congrArg Prod.fst ((hmem (k', c')).1 ⟨Table.mem_toList.2 hk', hc'⟩)⟩
      · cases h
    · rintro ⟨hname, k, hk, honly⟩
      have hfilter : d.classes.toList.filter (fun e => e.2.name = name) = [(k, c)] := by
        refine List.perm_singleton.1 ((List.perm_ext_iff_of_nodup hnodup (by simp)).2 fun e => ?_)
        rw [List.mem_filter, decide_eq_true_iff, List.mem_singleton]
        refine ⟨fun he => ?_, fun he => he ▸ ⟨Table.mem_toList.2 hk, hname⟩⟩
        have hk' := Table.mem_toList.1 he.1
        obtain rfl := honly _ _ hk' he.2
        exact Prod.ext rfl (Option.some.inj (hk'.symm.trans hk))
      rw [hfilter]
      rfl

/-- **Classes are kept by their full names.** -/
def Indexed (d : Domain) : Prop := ∀ name c, d.classes.get? name = some c → c.fullName = name

/-- A class that is found is loaded under its full name. -/
theorem Indexed.get?_fullName (hd : d.Indexed) (hc : d.findClass? name = some c) :
    d.classes.get? c.fullName = some c := by
  obtain hc | ⟨-, -, k, hk, -⟩ := findClass?_eq_some_iff.1 hc
  · rwa [hd name c hc]
  · rwa [hd k c hk]

/-- A class that is found is found by its full name. -/
theorem Indexed.findClass?_fullName (hd : d.Indexed) (hc : d.findClass? name = some c) :
    d.findClass? c.fullName = some c :=
  findClass?_eq_some_iff.2 (.inl (hd.get?_fullName hc))

/-! ## Classes that an assembly brings

They are put into the table one by one, and a later one takes the place of an earlier one of
its full name. -/

/-- What classes are there after an assembly was taken over: those that it brings, and all
whose full names it does not use. -/
theorem get?_addClasses_cases (h : (d.addClasses i).classes.get? name = some c) :
    c ∈ i.classes ∧ c.fullName = name ∨ d.classes.get? name = some c := by
  have hfold : ∀ (l : List Class) (t : Table String Class),
      (l.foldl (fun t c => t.insert c.fullName c) t).get? name = some c →
        c ∈ l ∧ c.fullName = name ∨ t.get? name = some c := by
    intro l
    induction l with
    | nil => exact fun t ht => .inr ht
    | cons a l ih =>
      intro t ht
      obtain ⟨hl, hname⟩ | ht := ih _ ht
      · exact .inl ⟨List.mem_cons_of_mem a hl, hname⟩
      · rw [Table.get?_insert] at ht
        split at ht
        · next hname =>
          cases ht
          exact .inl ⟨List.mem_cons_self, hname.symm⟩
        · exact .inr ht
  exact hfold i.classes d.classes h

/-- A full name that the assembly does not use stands for what it stood for. -/
theorem get?_addClasses_of_unused (h : ∀ x ∈ i.classes, x.fullName ≠ name) :
    (d.addClasses i).classes.get? name = d.classes.get? name := by
  have hfold : ∀ (l : List Class) (t : Table String Class), (∀ x ∈ l, x.fullName ≠ name) →
      (l.foldl (fun t c => t.insert c.fullName c) t).get? name = t.get? name := by
    intro l
    induction l with
    | nil => exact fun t _ => rfl
    | cons a l ih =>
      intro t hl
      obtain ⟨ha, hl⟩ := List.forall_mem_cons.1 hl
      rw [List.foldl_cons, ih _ hl, Table.get?_insert, if_neg ha.symm]
  exact hfold i.classes d.classes h

theorem Indexed.addClasses (hd : d.Indexed) (i : Image) : (d.addClasses i).Indexed := by
  intro name c hc
  obtain ⟨-, hname⟩ | hc := get?_addClasses_cases hc
  · exact hname
  · exact hd name c hc

/-- **A class that the domain found by a name is found by it still** if that is its full name,
or if no class that the assembly brought is called so. -/
theorem findClass?_addClasses (hd : d.Indexed)
    (hnew : ∀ x ∈ i.classes, d.classes.get? x.fullName = none) (hc : d.findClass? name = some c)
    (h : c.fullName = name ∨ ∀ x ∈ i.classes,
      (d.addClasses i).classes.get? x.fullName = some x → x.isNamed name = false) :
    (d.addClasses i).findClass? name = some c := by
  have old : ∀ {k x}, d.classes.get? k = some x → (d.addClasses i).classes.get? k = some x := by
    intro k x hk
    rw [get?_addClasses_of_unused, hk]
    rintro y hy rfl
    cases (hnew y hy).symm.trans hk
  have full : d.classes.get? name = some c → (d.addClasses i).findClass? name = some c :=
    fun hfull => findClass?_eq_some_iff.2 (.inl (old hfull))
  obtain hfull | ⟨hnone, hname, k, hk, honly⟩ := findClass?_eq_some_iff.1 hc
  · exact full hfull
  obtain hfull | hother := h
  · obtain rfl := hfull.symm.trans (hd k c hk)
    exact full hk
  -- what is called so after the assembly was loaded was there before
  have before : ∀ k' c', (d.addClasses i).classes.get? k' = some c' → c'.isNamed name = true →
      d.classes.get? k' = some c' := by
    intro k' c' hk' hc'
    obtain ⟨hi, rfl⟩ | hk' := get?_addClasses_cases hk'
    · rw [hother c' hi hk'] at hc'
      cases hc'
    · exact hk'
  refine findClass?_eq_some_iff.2 (.inr ⟨?_, hname, k, old hk, fun k' c' hk' hc' =>
    honly k' c' (before k' c' hk' (by simp [Class.isNamed, hc'])) hc'⟩)
  cases hfull : (d.addClasses i).classes.get? name with
  | none => rfl
  | some x =>
    have hx := (hd.addClasses i) name x hfull
    cases hnone.symm.trans (before name x hfull (by simp [Class.isNamed, hx]))

/-- **A simple name that a class of the assembly has as well** stands for the class of that full
name from then on, and if there is none, for no class. -/
theorem findClass?_addClasses_of_isNamed (hd : d.Indexed)
    (hnew : ∀ x ∈ i.classes, d.classes.get? x.fullName = none) (hc : d.findClass? name = some c)
    (hname : c.fullName ≠ name) {x : Class} (hi : x ∈ i.classes)
    (hx : (d.addClasses i).classes.get? x.fullName = some x) (hcalled : x.isNamed name = true) :
    (d.addClasses i).findClass? name = (d.addClasses i).classes.get? name ∧
      (d.addClasses i).findClass? name ≠ some c := by
  have hnamed : (d.addClasses i).classes.get? name ≠ some c :=
    fun h => hname ((hd.addClasses i) name c h)
  suffices h : (d.addClasses i).findClass? name = (d.addClasses i).classes.get? name from
    ⟨h, h ▸ hnamed⟩
  cases hfull : (d.addClasses i).classes.get? name with
  | some y => exact findClass?_eq_some_iff.2 (.inl hfull)
  | none =>
    -- two classes have the simple name: the one that was found, and the one of the assembly
    refine Option.eq_none_iff_forall_ne_some.2 fun y hy => ?_
    obtain h | ⟨-, -, k, -, honly⟩ := findClass?_eq_some_iff.1 hy
    · cases hfull.symm.trans h
    have hsimple : x.name = name := by
      by_contra hne
      obtain rfl : x.fullName = name := by simpa [Class.isNamed, hne] using hcalled
      cases hfull.symm.trans hx
    obtain h | ⟨-, hcname, k', hk', -⟩ := findClass?_eq_some_iff.1 hc
    · exact hname (hd name c h)
    have hold : (d.addClasses i).classes.get? k' = some c := by
      rw [get?_addClasses_of_unused, hk']
      rintro z hz rfl
      cases (hnew z hz).symm.trans hk'
    have hsame : k' = x.fullName :=
      (honly k' c hold hcname).trans (honly x.fullName x hx hsimple).symm
    rw [hsame, hnew x hi] at hk'
    cases hk'

/-! ## Everybody who asks

Native code binds thunks by names, and managed code names classes in its bodies. -/

/-- **Two domains answer alike when asked for a name**: both find the same class, or none; code of
any class finds the same by it; and native code binds the same thunks. -/
structure AnswersAlike (d d' : Domain) (name : String) : Prop where
  findClass? : d'.findClass? name = d.findClass? name
  classNamed : ∀ inside, d'.classNamed inside name = d.classNamed inside name
  ofStatic : ∀ method params ret,
    Thunk.ofStatic d' name method params ret = Thunk.ofStatic d name method params ret

/-- A thunk is bound by what its class says. -/
theorem bind_congr {m : MethodRef} (h : d'.findClass? m.typeName = d.findClass? m.typeName) :
    Thunk.bind d' m = Thunk.bind d m := by
  funext receiver params ret
  unfold Thunk.bind Run.methodSignature?
  rw [h]

/-- Who finds the same class by a name and by its full name answers alike. -/
theorem AnswersAlike.of_findClass? (hc : d.findClass? name = some c)
    (hc' : d'.findClass? name = some c)
    (hfull : d'.findClass? c.fullName = d.findClass? c.fullName) : d.AnswersAlike d' name where
  findClass? := hc'.trans hc.symm
  classNamed := fun inside => by
    unfold Domain.classNamed
    rw [hc, hc']
  ofStatic := fun method params ret => by
    unfold Thunk.ofStatic
    rw [hc, hc']
    simp only [bind_congr (m := ⟨c.fullName, method, params.length⟩) hfull]

end Domain

/-! ## Loading in a run

In a run that begins without classes the table is in shape wherever assemblies are loaded. -/

namespace World

variable {w w' : World} {me : ThreadId} {i : Image}

/-- Classes are only ever put under their full names. -/
theorem Section.indexed (hs : w.Section me w') (hw : w.domain.Indexed) : w'.domain.Indexed := by
  cases hs with
  | load i hi => exact hw.addClasses i
  | inDomain d events hd =>
    intro name c hc
    exact hw name c (hd.classes ▸ hc)
  | _ => exact hw

theorem indexed_of_reaches {n : Nat} {code : ThreadId → NativeCode α} {t : Threads World α}
    (hw : w.domain.classes = .empty) (ht : (w.threads n code).Reaches (fun _ => True) t) :
    t.state.domain.Indexed := by
  refine (keeps_of_sections (I := fun v => v.domain.Indexed) (fun name c hc => ?_)
    (fun _ _ _ _ hs => hs.indexed) ht).2
  rw [hw] at hc
  cases hc

end World

/-- An assembly that was loaded has been taken over. -/
theorem Process.Ends.loadAssembly {w w' : World} {assembly : String} {i : Image}
    (h : (Run.loadAssembly assembly).Ends w (.ok (.ok i)) w') :
    w'.domain = w.domain.addClasses i := by
  have look : (Run.askDomain (·.image? assembly)).Ends w (.ok (w.domain.image? assembly)) w :=
    .ask _ w
  replace h := h.rest look
  cases hi : w.domain.image? assembly with
  | none =>
    rw [hi] at h
    cases h
  | some x =>
    rw [hi] at h
    have consult : (Process.ask World.registry).Ends w (.ok w.registry) w := .ask _ w
    replace h := h.rest consult
    split at h
    · cases h
    · cases h
      rfl

/-- **Loading keeps what names stand for**, as far as the names are full, at every point of every
interleaving from the start of a host on. Let an assembly be loaded none of whose classes has
a full name that the domain knew, and let a name have been good for a class:
* if the name is the full name of that class, or if no class that the assembly brought has it for
  its simple or its full name, the domain answers as before when it is asked for the name;
* otherwise the name stands for the class that the assembly brought under it as its full name,
  and if there is none, for no class;
* a class that has the name for its own stands for itself as before, when its code asks. -/
theorem loading_keeps_names {w : World} (hw : w.domain.classes = .empty) {n : Nat}
    {code : ThreadId → NativeCode α} {t : Threads World α}
    (ht : (w.threads n code).Reaches (fun _ => True) t) {assembly : String} {i : Image}
    {w' : World} (hl : (Run.loadAssembly assembly).Ends t.state (.ok (.ok i)) w')
    (hnew : ∀ x ∈ i.classes, t.state.domain.classes.get? x.fullName = none) {name : String}
    {c : Class} (hc : t.state.domain.findClass? name = some c) :
    (c.fullName = name ∨ (∀ x ∈ i.classes, w'.domain.classes.get? x.fullName = some x →
        x.isNamed name = false) → t.state.domain.AnswersAlike w'.domain name) ∧
    (c.fullName ≠ name → ∀ x ∈ i.classes, w'.domain.classes.get? x.fullName = some x →
      x.isNamed name = true → w'.domain.findClass? name = w'.domain.classes.get? name ∧
        w'.domain.findClass? name ≠ some c) ∧
    ∀ inside, inside.isNamed name = true →
      w'.domain.classNamed inside name = t.state.domain.classNamed inside name := by
  have hd := World.indexed_of_reaches hw ht
  rw [hl.loadAssembly]
  refine ⟨fun h => ?_, fun hname x hi hx hcalled => ?_, fun inside hself => ?_⟩
  · have hfull := hd.findClass?_fullName hc
    exact .of_findClass? hc (Domain.findClass?_addClasses hd hnew hc h)
      ((Domain.findClass?_addClasses hd hnew hfull (.inl rfl)).trans hfull.symm)
  · exact Domain.findClass?_addClasses_of_isNamed hd hnew hc hname hi hx hcalled
  · unfold Domain.classNamed
    rw [if_pos hself, if_pos hself]

/-! ## A simple name that changes hands

An assembly that brings a class of a full name never seen before takes the name from a class
that had it for its simple name. -/

/-- A class that is found by its simple name. -/
def gear : Class where
  scope := "A"
  name := "Gear"

/-- A class that has the same name for its full name. -/
def bareGear : Class where
  scope := ""
  name := "Gear"

/-- A class of another name. -/
def lever : Class where
  scope := "B"
  name := "Lever"

/-- A host at its start. -/
def gearHost : World := .start .empty .empty "host" 8

/-- The host provides an assembly for each class and loads the first. -/
def gearing : NativeCode Unit :=
  .perform (.provide ⟨"A", [gear]⟩) fun _ => .perform (.provide ⟨"B", [lever]⟩) fun _ =>
    .perform (.provide ⟨"C", [bareGear]⟩) fun _ => .perform (.load "A") fun _ => .done ()

/-- Where it is loaded. -/
def geared : World := ((gearing.course 0 mainThread).advance gearHost).2

theorem geared_reached :
    ∃ t, (gearHost.threads 0 fun _ => gearing).Reaches (fun _ => True) t ∧ t.state = geared := by
  obtain ⟨t, ht, hstate, -⟩ := (gearHost.threads 0 fun _ => gearing).reaches_alone
    ((gearing.course 0 mainThread).reaches_advance gearHost) rfl
  exact ⟨t, ht, hstate⟩

/-- An assembly of another class leaves the simple name to its class. -/
theorem loading_keeps_names_geared : ∃ (t : Threads World Unit) (w : World),
    (gearHost.threads 0 fun _ => gearing).Reaches (fun _ => True) t ∧
      (Run.loadAssembly "B").Ends t.state (.ok (.ok ⟨"B", [lever]⟩)) w ∧
      t.state.domain.AnswersAlike w.domain "Gear" ∧ w.domain.findClass? "Gear" = some gear := by
  obtain ⟨t, ht, hstate⟩ := geared_reached
  have hload : (Run.loadAssembly "B").Ends t.state (.ok (.ok ⟨"B", [lever]⟩))
      ((Run.loadAssembly "B").advance geared).2 := by
    rw [hstate]
    rfl
  have hfound : t.state.domain.findClass? "Gear" = some gear := hstate ▸ rfl
  have hnew : ∀ x ∈ [lever], t.state.domain.classes.get? x.fullName = none := by
    rw [List.forall_mem_singleton, hstate]
    rfl
  have halike := (loading_keeps_names rfl ht hload hnew hfound).1
    (.inr (List.forall_mem_singleton.2 fun _ => rfl))
  exact ⟨t, _, ht, hload, halike, halike.findClass?.trans hfound⟩

/-- **A simple name that was good for one class comes to stand for another** when an assembly is
loaded that has nothing to do with the first: its class has the name for its full name. -/
theorem simple_names_change_hands : ¬∀ (w : World) (n : Nat) (code : ThreadId → NativeCode Unit)
    (t : Threads World Unit) (assembly : String) (i : Image) (w' : World),
    w.domain.classes = .empty → (w.threads n code).Reaches (fun _ => True) t →
      (Run.loadAssembly assembly).Ends t.state (.ok (.ok i)) w' →
      (∀ x ∈ i.classes, t.state.domain.classes.get? x.fullName = none) →
      ∀ name c, t.state.domain.findClass? name = some c →
        w'.domain.findClass? name = some c := by
  intro hkeeps
  obtain ⟨t, ht, hstate⟩ := geared_reached
  have hload : (Run.loadAssembly "C").Ends t.state (.ok (.ok ⟨"C", [bareGear]⟩))
      ((Run.loadAssembly "C").advance geared).2 := by
    rw [hstate]
    rfl
  have hnew : ∀ x ∈ [bareGear], t.state.domain.classes.get? x.fullName = none := by
    rw [List.forall_mem_singleton, hstate]
    rfl
  have hkept := hkeeps gearHost 0 (fun _ => gearing) t "C" _ _ rfl ht hload hnew "Gear" gear
    (hstate ▸ rfl)
  have hother : ((Run.loadAssembly "C").advance geared).2.domain.findClass? "Gear" =
      some bareGear := rfl
  exact absurd (congrArg (Option.map Class.scope) (hkept.symm.trans hother)) (by decide)

end HostBridge
