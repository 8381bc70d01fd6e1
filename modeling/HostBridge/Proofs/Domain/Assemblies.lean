import HostBridge.Proofs.Domain.Overloads

/-!
# What an assembly is built of, and what is found in it

An assembly is built of classes, unless one of them declares a native member twice. Two
declarations of a class clash when they have the same name, the same parameters and the same
kind; what they return does not count. Building fails exactly if two declarations of a class
clash, and it names the first one that clashes with an earlier one, in the order of the classes
and of their declarations (`Image.build_eq_error_iff`). A static member and a member of
instances may share name and parameters.

Once the assembly is loaded, its classes are looked up in two places. The domain goes by full
names first; the assembly takes the first class it declares that is called so, by its simple or
by its full name. Simple and full names are not told apart there. Asked for the full name of a
class of the assembly, the domain always finds a class of that full name, and the assembly does
so unless the class is **hidden**: before every class of that full name, it declares one that has
the name for its simple name only (`full_names_found`).

## Which clash is reported

The error names one declaration, and a class may have several clashes. The check goes through
the declarations in order and keeps the keys that it has seen, so it stops at the first
declaration whose key occurs before it (`Class.FirstClash`), and not at the earlier of the two
that clash. That is the induction of `Class.firstRepeated?_eq_some_iff`, which is stated for any
list of keys seen already. Each class is checked by itself, so that declarations of two classes
never clash.
-/

namespace HostBridge

/-! ## Building an assembly

Declarations are compared by the keys of the members that they declare. -/

/-- **Two extern declarations clash**: nothing tells them apart but what they return. -/
def Extern.Clashes (e e' : Extern) : Prop :=
  e.name = e'.name ∧ e.signature.params = e'.signature.params ∧ e.kind = e'.kind

namespace Class

variable {c : Class} {e e' : Extern} {m : Member}

/-- Two declarations of a class have the same key exactly if they clash. -/
theorem key_externMember_eq_iff :
    (c.externMember e).key = (c.externMember e').key ↔ e.Clashes e' := by
  simp [externMember, Member.key, Extern.Clashes]

/-- **A declaration is the first that clashes** with an earlier one of its class. -/
def FirstClash (c : Class) (e : Extern) : Prop :=
  ∃ before after, c.externs = before ++ e :: after ∧ (∃ x ∈ before, x.Clashes e) ∧
    before.Pairwise fun x y => ¬x.Clashes y

theorem distinct_iff : c.Distinct ↔ c.externs.Pairwise fun x y => ¬x.Clashes y := by
  unfold Distinct externMembers
  rw [List.map_map, List.Nodup, List.pairwise_map]
  simp only [Function.comp_apply, ne_eq, key_externMember_eq_iff]

/-- A check that was passed up to a member has seen the keys of all before it. -/
theorem firstRepeated?_eq_some_iff {seen : List Member.Key} {l : List Member} :
    firstRepeated? seen l = some m ↔ ∃ before after, l = before ++ m :: after ∧
      m.key ∈ before.map Member.key ++ seen ∧ (before.map Member.key).Nodup ∧
      ∀ k ∈ before.map Member.key, k ∉ seen := by
  induction l generalizing seen with
  | nil => simp [firstRepeated?]
  | cons x l ih =>
    by_cases hx : x.key ∈ seen
    · -- the first member repeats a key: a longer beginning would hold that key too
      have hfirst : firstRepeated? seen (x :: l) = some x := by simp [firstRepeated?, hx]
      rw [hfirst]
      constructor
      · rintro h
        obtain rfl := Option.some.inj h
        exact ⟨[], l, rfl, hx, List.nodup_nil, by simp⟩
      · rintro ⟨_ | ⟨y, before⟩, after, hl, -, -, hnew⟩
        · exact congrArg some (List.cons.inj hl).1
        · obtain rfl := (List.cons.inj hl).1
          exact absurd hx (hnew _ List.mem_cons_self)
    · have hrest : firstRepeated? seen (x :: l) = firstRepeated? (x.key :: seen) l := by
        simp [firstRepeated?, hx]
      rw [hrest, ih]
      constructor
      · rintro ⟨before, after, rfl, hm, hnodup, hnew⟩
        refine ⟨x :: before, after, rfl, ?_, List.nodup_cons.2 ⟨fun hk => ?_, hnodup⟩, ?_⟩
        · simpa [or_left_comm] using hm
        · exact hnew _ hk List.mem_cons_self
        · exact List.forall_mem_cons.2
            ⟨hx, fun k hk hs => hnew k hk (List.mem_cons_of_mem _ hs)⟩
      · rintro ⟨_ | ⟨y, before⟩, after, hl, hm, hnodup, hnew⟩
        · obtain rfl := (List.cons.inj hl).1
          exact absurd hm hx
        · obtain ⟨rfl, rfl⟩ := List.cons.inj hl
          obtain ⟨hy, hnodup⟩ := List.nodup_cons.1 hnodup
          refine ⟨before, after, rfl, ?_, hnodup, fun k hk hs => ?_⟩
          · simpa [or_left_comm] using hm
          · obtain rfl | hs := List.mem_cons.1 hs
            · exact hy hk
            · exact hnew k (List.mem_cons_of_mem _ hk) hs

/-- **What the check of a class names** is its first declaration that clashes. -/
theorem firstRepeated?_externMembers_eq_some_iff :
    firstRepeated? [] c.externMembers = some m ↔
      ∃ e, c.FirstClash e ∧ m = c.externMember e := by
  have distinct : ∀ l : List Extern, ((l.map c.externMember).map Member.key).Nodup ↔
      l.Pairwise fun x y => ¬x.Clashes y := fun l =>
    distinct_iff (c := { c with externs := l })
  rw [firstRepeated?_eq_some_iff]
  constructor
  · rintro ⟨before, after, hl, hm, hnodup, -⟩
    obtain ⟨l, l', hc, rfl, hafter⟩ := List.map_eq_append_iff.1 hl
    obtain ⟨e, l', rfl, rfl, -⟩ := List.map_eq_cons_iff.1 hafter
    rw [List.append_nil, List.map_map] at hm
    obtain ⟨x, hx, hkey⟩ := List.mem_map.1 hm
    exact ⟨e, ⟨l, l', hc, ⟨x, hx, key_externMember_eq_iff.1 hkey⟩, (distinct l).1 hnodup⟩, rfl⟩
  · rintro ⟨e, ⟨l, l', hc, ⟨x, hx, hclash⟩, hl⟩, rfl⟩
    refine ⟨l.map c.externMember, l'.map c.externMember, ?_, ?_, (distinct l).2 hl, by simp⟩
    · rw [externMembers, hc, List.map_append, List.map_cons]
    · rw [List.append_nil, List.map_map]
      exact List.mem_map.2 ⟨x, hx, key_externMember_eq_iff.2 hclash⟩

theorem firstRepeated?_externMembers_eq_none_iff :
    firstRepeated? [] c.externMembers = none ↔ c.Distinct := by
  refine ⟨fun h => (nodup_of_firstRepeated? h).1, fun hc => ?_⟩
  refine Option.eq_none_iff_forall_ne_some.2 fun m hm => ?_
  obtain ⟨e, ⟨before, after, he, ⟨x, hx, hclash⟩, -⟩, -⟩ :=
    firstRepeated?_externMembers_eq_some_iff.1 hm
  have hpairs := distinct_iff.1 hc
  rw [he] at hpairs
  exact (List.pairwise_append.1 hpairs).2.2 x hx e List.mem_cons_self hclash

end Class

namespace Image

variable {i : Image} {name : String} {classes : List Class}

/-- **Building fails for a clash only**, and names the first one: of the first class that has
one, the first declaration that clashes with an earlier one of the class. -/
theorem build_eq_error_iff {x : ScriptError} : build name classes = .error x ↔
    ∃ before c after e, classes = before ++ c :: after ∧
      (∀ b ∈ before, b.externs.Pairwise fun x y => ¬x.Clashes y) ∧ c.FirstClash e ∧
      x = .ambiguousExtern (c.externMember e).render := by
  unfold build
  constructor
  · intro h
    split at h
    · next m hm =>
      cases h
      obtain ⟨before, c, after, rfl, hc, hbefore⟩ := List.findSome?_eq_some_iff.1 hm
      obtain ⟨e, he, rfl⟩ := Class.firstRepeated?_externMembers_eq_some_iff.1 hc
      exact ⟨before, c, after, e, rfl, fun b hb => Class.distinct_iff.1
        (Class.firstRepeated?_externMembers_eq_none_iff.1 (hbefore b hb)), he, rfl⟩
    · cases h
  · rintro ⟨before, c, after, e, rfl, hbefore, he, rfl⟩
    have hfound : (before ++ c :: after).findSome? (fun c => firstRepeated? [] c.externMembers) =
        some (c.externMember e) := by
      refine List.findSome?_eq_some_iff.2 ⟨before, c, after, rfl,
        Class.firstRepeated?_externMembers_eq_some_iff.2 ⟨e, he, rfl⟩, fun b hb => ?_⟩
      exact Class.firstRepeated?_externMembers_eq_none_iff.2 (Class.distinct_iff.2 (hbefore b hb))
    rw [hfound]

/-- **An assembly is built as declared** where no two declarations of a class clash. -/
theorem build_eq_ok_iff : build name classes = .ok i ↔
    i = ⟨name, classes⟩ ∧ ∀ c ∈ classes, c.externs.Pairwise fun x y => ¬x.Clashes y := by
  have checked : (∀ c ∈ classes, c.externs.Pairwise fun x y => ¬x.Clashes y) ↔
      classes.findSome? (fun c => firstRepeated? [] c.externMembers) = none := by
    simp only [List.findSome?_eq_none_iff, Class.firstRepeated?_externMembers_eq_none_iff,
      Class.distinct_iff]
  unfold build
  rw [checked]
  cases classes.findSome? (fun c => firstRepeated? [] c.externMembers) with
  | some m => simp
  | none => simp [eq_comm]

/-- The two kinds of members are told apart. -/
example : (build "A" [{ scope := "", name := "Dial", externs :=
    [⟨"Turn", ⟨[.int32], .void⟩, .static⟩, ⟨"Turn", ⟨[.int32], .void⟩, .perInstance⟩] }]).isOk =
      true := rfl

/-! ## Looking a class up

First in the assembly alone, then in the domain that took it over. -/

/-- **An assembly answers with the first class that is called so.** -/
theorem getClass_eq_ok_iff {c : Class} : i.getClass name = .ok c ↔
    ∃ before after, i.classes = before ++ c :: after ∧ c.isNamed name = true ∧
      ∀ b ∈ before, b.isNamed name = false := by
  unfold getClass
  have hfind : i.classes.find? (fun c => c.isNamed name) = some c ↔ _ :=
    List.find?_eq_some_iff_append
  cases hc : i.classes.find? (fun c => c.isNamed name) with
  | none =>
    rw [hc] at hfind
    simp only [reduceCtorEq, false_iff, not_and, not_exists] at hfind ⊢
    rintro before after hl hnamed hbefore
    exact hfind hnamed before after hl (by simpa using hbefore)
  | some x =>
    rw [hc] at hfind
    rw [Except.ok.injEq, ← Option.some.injEq, hfind]
    constructor
    · rintro ⟨hnamed, before, after, hl, hbefore⟩
      exact ⟨before, after, hl, hnamed, by simpa using hbefore⟩
    · rintro ⟨before, after, hl, hnamed, hbefore⟩
      exact ⟨hnamed, before, after, hl, by simpa using hbefore⟩

/-- **A class is hidden by its full name**: before every class of that full name, the assembly
declares one that has the name for its simple name and another full name. -/
def Hidden (i : Image) (name : String) : Prop :=
  ∃ before y after, i.classes = before ++ y :: after ∧ y.name = name ∧ y.fullName ≠ name ∧
    ∀ b ∈ before, b.fullName ≠ name

theorem exists_getClass {c : Class} (hc : c ∈ i.classes) (hname : c.isNamed name = true) :
    ∃ x, i.getClass name = .ok x := by
  obtain ⟨x, hx⟩ := Option.isSome_iff_exists.1
    (List.find?_isSome.2 ⟨c, hc, hname⟩ : (i.classes.find? fun c => c.isNamed name).isSome)
  exact ⟨x, by rw [getClass, hx]⟩

/-- What an assembly finds has another full name exactly if what was looked for is hidden. -/
theorem fullName_getClass_ne_iff {x : Class} (hx : i.getClass name = .ok x) :
    x.fullName ≠ name ↔ i.Hidden name := by
  obtain ⟨before, after, hl, hnamed, hbefore⟩ := getClass_eq_ok_iff.1 hx
  have hfull : ∀ b ∈ before, b.fullName ≠ name := fun b hb hname => by
    have := hbefore b hb
    simp [Class.isNamed, hname] at this
  constructor
  · intro hne
    exact ⟨before, x, after, hl, by simpa [Class.isNamed, hne] using hnamed, hne, hfull⟩
  · rintro ⟨before', y, after', hl', hy, hne, hbefore'⟩ hname
    -- the class that hides comes first, or the one that was found does
    obtain ⟨l, hb, ha⟩ | ⟨l, hb, ha⟩ := List.append_eq_append_iff.1 (hl.symm.trans hl')
    · cases l with
      | nil =>
        obtain rfl := (List.cons.inj ha).1
        exact hne hname
      | cons z l =>
        obtain rfl := (List.cons.inj ha).1
        exact hbefore' x (hb ▸ by simp) hname
    · cases l with
      | nil =>
        obtain rfl := (List.cons.inj ha).1
        exact hne hname
      | cons z l =>
        obtain rfl := (List.cons.inj ha).1
        have := hbefore y (hb ▸ by simp)
        simp [Class.isNamed, hy] at this

end Image

namespace Domain

variable {d : Domain} {i : Image} {y : Class} {before after : List Class}

/-- **Of several classes of a full name, the domain keeps the last.** -/
theorem get?_addClasses_of_last (hi : i.classes = before ++ y :: after)
    (hlast : ∀ z ∈ after, z.fullName ≠ y.fullName) :
    (d.addClasses i).classes.get? y.fullName = some y := by
  obtain ⟨d', hd'⟩ : ∃ d' : Domain, d' = { d with
      classes := (d.addClasses ⟨i.name, before⟩).classes.insert y.fullName y } := ⟨_, rfl⟩
  have hsplit : (d.addClasses i).classes = (d'.addClasses ⟨i.name, after⟩).classes := by
    unfold addClasses
    rw [hi, List.foldl_append, hd']
    rfl
  rw [hsplit, get?_addClasses_of_unused hlast, hd', Table.get?_insert, if_pos rfl]

end Domain

/-- **Full names are found**, in every domain that has just loaded an assembly. Asked for the
full name of a class of the assembly,
* the domain answers with a class of that full name, the last that the assembly declares;
* the assembly answers as well, with the first class it declares that is called so, and this is
  a class of that full name unless the assembly hides it. -/
theorem full_names_found {w w' : World} {assembly : String} {i : Image}
    (hl : (Run.loadAssembly assembly).Ends w (.ok (.ok i)) w') {c : Class} (hc : c ∈ i.classes) :
    (∃ before y after, i.classes = before ++ y :: after ∧ y.fullName = c.fullName ∧
      (∀ z ∈ after, z.fullName ≠ c.fullName) ∧ w'.domain.findClass? c.fullName = some y) ∧
    ∃ before x after, i.classes = before ++ x :: after ∧ x.isNamed c.fullName = true ∧
      (∀ b ∈ before, b.isNamed c.fullName = false) ∧ i.getClass c.fullName = .ok x ∧
      (x.fullName = c.fullName ↔ ¬i.Hidden c.fullName) := by
  refine ⟨?_, ?_⟩
  · obtain ⟨y, hy⟩ : ∃ y, i.classes.reverse.find? (fun z => z.fullName = c.fullName) = some y :=
      Option.isSome_iff_exists.1 (List.find?_isSome.2 ⟨c, by simpa using hc, by simp⟩)
    obtain ⟨hname, after, before, hsplit, hafter⟩ := List.find?_eq_some_iff_append.1 hy
    have hname : y.fullName = c.fullName := of_decide_eq_true hname
    have hi : i.classes = before.reverse ++ y :: after.reverse := by
      rw [← List.reverse_reverse i.classes, hsplit]
      simp
    have hlast : ∀ z ∈ after.reverse, z.fullName ≠ c.fullName := by simpa using hafter
    have hfound := Domain.get?_addClasses_of_last (d := w.domain) hi (hname ▸ hlast)
    rw [hl.loadAssembly]
    exact ⟨_, y, _, hi, hname, hlast,
      Domain.findClass?_eq_some_iff.2 (.inl (hname ▸ hfound))⟩
  · obtain ⟨x, hx⟩ := Image.exists_getClass hc
      (show c.isNamed c.fullName = true by simp [Class.isNamed])
    obtain ⟨before, after, hi, hnamed, hbefore⟩ := Image.getClass_eq_ok_iff.1 hx
    exact ⟨before, x, after, hi, hnamed, hbefore, hx,
      not_iff_not.1 (by rw [not_not]; exact Image.fullName_getClass_ne_iff hx)⟩

/-- A class that has no namespace is hidden behind one of the same simple name. -/
example : (Image.mk "A" [⟨"Aeon", "Widget", [], [], none, none⟩,
    ⟨"", "Widget", [], [], none, none⟩]).Hidden "Widget" :=
  ⟨[], _, _, rfl, rfl, by decide, by simp⟩

end HostBridge
