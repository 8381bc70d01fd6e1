import HostBridge.Proofs.Json.Layouts
import HostBridge.Proofs.Json.Reading

/-!
# Objects that were edited by hand

A file that holds a record is edited: fields are taken out, moved about and
given the other name they go by, and fields are added that the reader has never
heard of. `Edited` says what such an object has in common with the one it was
made from, and `Edited.places` what the reader of the record finds in it: every
field that is left in its own place, and nothing in the places of the others.

The relation is between the two objects and not a list of changes, so that
nothing depends on how many changes were made and in which order. What may have
become of a field that is left is a parameter: for a plain field it is its name
alone (`Renamed`), for a field that is a record itself it is that record being
edited in turn.

A reader of records goes through the fields in the order in which they stand,
and puts each one into the place that its name belongs to. It refuses two
fields for one place. An edited object never has two, since each of its fields
that the reader knows comes from a field of its own, and those have places of
their own. That is the counting in `knownPlaces_edited`.
-/

namespace HostBridge.Json

/-- A field that was added: the reader knows no field of that name, and what it
holds is a text or an integer. -/
def IsAddition (spellings : List (List String)) (f : String × Json) : Prop :=
  (∀ names ∈ spellings, f.1 ∉ names) ∧ ((∃ s, f.2 = .text s) ∨ ∃ i, f.2 = .int i)

/-- A field under any of the names it goes by. -/
def Renamed (spellings : List (List String)) (f g : String × Json) : Prop :=
  g.2 = f.2 ∧ (g.1 = f.1 ∨ ∃ names ∈ spellings, f.1 ∈ names ∧ g.1 ∈ names)

/-- **An object and what editing made of it.** The fields that `keep` names are
left, each changed as `Changed` allows; others were added; the order is any. -/
def Edited (spellings : List (List String)) (keep : String → Bool)
    (Changed : String × Json → String × Json → Prop) (original edited : Json) : Prop :=
  ∃ (fields added all : List (String × Json)) (change : String × Json → String × Json),
    original = .record fields ∧ edited = .record all
      ∧ (∀ f ∈ fields, keep f.1 = true → Changed f (change f))
      ∧ (∀ f ∈ added, IsAddition spellings f)
      ∧ all.Perm ((fields.filter (fun f => keep f.1)).map change ++ added)

theorem record_injective : Function.Injective record := by
  intro fields fields' h
  have hpair : Function.Injective (fun f : String × Json => (some f.1, f.2)) := by
    intro f g hfg
    simpa [Prod.ext_iff] using hfg
  exact hpair.list_map (Json.object.inj h)

section

variable {spellings : List (List String)} {keep : String → Bool}
  {Changed : String × Json → String × Json → Prop} {original edited : Json}
  {fields : List (String × Json)}

/-! ## Places

Where the fields of an edited object go. -/

/-- A name that no field goes by has no place. -/
theorem IsAddition.fieldIndex? {f : String × Json} (h : IsAddition spellings f) :
    fieldIndex? spellings f.1 = none := by
  rw [Json.fieldIndex?, List.findIdx?_eq_none_iff]
  intro names hnames
  simpa using h.1 names hnames

/-- An edited object is well spelled when what its fields became is. -/
theorem Edited.wellSpelled (h : Edited spellings keep Changed (.record fields) edited)
    (hfields : ∀ f ∈ fields, ∀ g, Changed f g → g.2.WellSpelled) : edited.WellSpelled := by
  obtain ⟨fields', added, all, change, hrecord, rfl, hchange, hadded, hall⟩ := h
  obtain rfl := record_injective hrecord
  refine .record fun g hg => ?_
  rcases List.mem_append.mp (hall.mem_iff.mp hg) with hg | hg
  · obtain ⟨f, hf, rfl⟩ := List.mem_map.mp hg
    obtain ⟨hf, hkeep⟩ := List.mem_filter.mp hf
    exact hfields f hf _ (hchange f hf hkeep)
  · obtain ⟨-, ⟨s, hs⟩ | ⟨i, hi⟩⟩ := hadded g hg
    · exact hs ▸ .text s
    · exact hi ▸ .int i

/-- Another name does not change what is written. -/
theorem Edited.wellSpelled_renamed
    (h : Edited spellings keep (Renamed spellings) (.record fields) edited)
    (hfields : ∀ f ∈ fields, f.2.WellSpelled) : edited.WellSpelled :=
  h.wellSpelled fun f hf _ hg => hg.1 ▸ hfields f hf

/-- Fields that stand in the order of their places, each in its own. -/
theorem fieldIndex?_getElem (horder : fields.map (fun f => fieldIndex? spellings f.1)
    = (List.range spellings.length).map some) {i : Nat} (hi : i < fields.length) :
    fieldIndex? spellings fields[i].1 = some i := by
  have hlength : fields.length = spellings.length := by
    simpa using congrArg List.length horder
  have hget := congrArg (fun l => l[i]?) horder
  simpa [hi, hlength ▸ hi] using hget

theorem knownPlaces_nodup (horder : fields.map (fun f => fieldIndex? spellings f.1)
    = (List.range spellings.length).map some) : (knownPlaces spellings fields).Nodup := by
  have hrange : knownPlaces spellings fields = List.range spellings.length := by
    have hid := congrArg (List.filterMap id) horder
    simpa [knownPlaces, List.filterMap_map] using hid
  rw [hrange]
  exact List.nodup_range

/-- The places that have a field after editing are those of the fields that are left: a change
leaves a field in its place, and what was added has none. -/
theorem knownPlaces_edited {added all : List (String × Json)}
    {change : String × Json → String × Json}
    (hmoved : ∀ f ∈ fields, keep f.1 = true →
      fieldIndex? spellings (change f).1 = fieldIndex? spellings f.1)
    (hadded : ∀ f ∈ added, IsAddition spellings f)
    (hall : all.Perm ((fields.filter (fun f => keep f.1)).map change ++ added)) :
    (knownPlaces spellings all).Perm
      (knownPlaces spellings (fields.filter (fun f => keep f.1))) := by
  have hleft : knownPlaces spellings ((fields.filter (fun f => keep f.1)).map change)
      = knownPlaces spellings (fields.filter (fun f => keep f.1)) := by
    rw [knownPlaces, List.filterMap_map]
    refine List.filterMap_congr fun f hf => ?_
    obtain ⟨hf, hkeep⟩ := List.mem_filter.mp hf
    exact hmoved f hf hkeep
  have hunknown : knownPlaces spellings added = [] :=
    List.filterMap_eq_nil_iff.mpr fun f hf => (hadded f hf).fieldIndex?
  have hperm := hall.filterMap (fun f => fieldIndex? spellings f.1)
  rw [List.filterMap_append] at hperm
  change (knownPlaces spellings all).Perm
    (knownPlaces spellings ((fields.filter (fun f => keep f.1)).map change)
      ++ knownPlaces spellings added) at hperm
  rwa [hleft, hunknown, List.append_nil] at hperm

/-- **What the reader finds in an edited object.** The fields of the original
stand in the order of their places, and a change leaves a field in its place:
then every place of a field that is left has what the field became, and the
others are empty. -/
theorem Edited.places (h : Edited spellings keep Changed (.record fields) edited)
    (horder : fields.map (fun f => fieldIndex? spellings f.1)
      = (List.range spellings.length).map some)
    (hplace : ∀ f ∈ fields, ∀ g, Changed f g →
      fieldIndex? spellings g.1 = fieldIndex? spellings f.1) :
    ∃ places, readRecord? spellings edited = some places
      ∧ List.Forall₂ (fun f place => if keep f.1 then ∃ g, Changed f g ∧ place = some g.2
          else place = none) fields places := by
  obtain ⟨fields', added, all, change, hrecord, rfl, hchange, hadded, hall⟩ := h
  obtain rfl := record_injective hrecord
  have hlength : fields.length = spellings.length := by
    simpa using congrArg List.length horder
  have hmoved : ∀ f ∈ fields, keep f.1 = true →
      fieldIndex? spellings (change f).1 = fieldIndex? spellings f.1 :=
    fun f hf hkeep => hplace f hf _ (hchange f hf hkeep)
  have hknown := knownPlaces_edited hmoved hadded hall
  have hsub : (knownPlaces spellings (fields.filter (fun f => keep f.1))).Sublist
      (knownPlaces spellings fields) := List.filter_sublist.filterMap _
  have hnodup : (knownPlaces spellings all).Nodup :=
    hknown.nodup_iff.mpr (hsub.nodup (knownPlaces_nodup horder))
  obtain ⟨places, hplaces, hlength', hfilled, hempty⟩ := readRecord?_record hnodup
  refine ⟨places, hplaces, List.forall₂_iff_get.mpr ⟨hlength.trans hlength'.symm, ?_⟩⟩
  intro i hi hi'
  simp only [List.get_eq_getElem]
  split_ifs with hkeep
  · have hmem : fields[i] ∈ fields := List.getElem_mem hi
    have hall' : change fields[i] ∈ all :=
      hall.mem_iff.mpr (List.mem_append_left _
        (List.mem_map_of_mem (List.mem_filter.mpr ⟨hmem, hkeep⟩)))
    have hthere := hfilled _ hall' i
      ((hmoved _ hmem hkeep).trans (fieldIndex?_getElem horder hi))
    refine ⟨change fields[i], hchange _ hmem hkeep, ?_⟩
    simpa [hi'] using hthere
  · have hnot : i ∉ knownPlaces spellings all := by
      intro hin
      obtain ⟨f, hf, hfi⟩ := List.mem_filterMap.mp (hknown.mem_iff.mp hin)
      obtain ⟨hf, hkeepf⟩ := List.mem_filter.mp hf
      obtain ⟨k, hk, rfl⟩ := List.getElem_of_mem hf
      obtain rfl : k = i :=
        Option.some.inj ((fieldIndex?_getElem horder hk).symm.trans hfi)
      exact hkeep hkeepf
    have hthere := hempty i (hlength ▸ hi) hnot
    simpa [hi'] using hthere

end

/-! ## Reading -/

/-- What the reader finds in an object whose fields were renamed, if changed at
all. -/
theorem Edited.readRecord? {spellings : List (List String)} {keep : String → Bool}
    {fields : List (String × Json)} {edited : Json}
    (h : Edited spellings keep (Renamed spellings) (.record fields) edited)
    (horder : fields.map (fun f => fieldIndex? spellings f.1)
      = (List.range spellings.length).map some)
    (hnames : ∀ names ∈ spellings, ∀ name ∈ names, ∀ other ∈ names,
      fieldIndex? spellings name = fieldIndex? spellings other) :
    Json.readRecord? spellings edited
      = some (fields.map (fun f => if keep f.1 then some f.2 else none)) := by
  obtain ⟨places, hread, hplaces⟩ := h.places horder (by
    rintro f - g ⟨-, hname | ⟨names, hmem, hold, hnew⟩⟩
    · rw [hname]
    · exact hnames names hmem _ hnew _ hold)
  rw [hread]
  congr 1
  clear horder hnames h hread
  induction hplaces with
  | nil => rfl
  | @cons f place fields places hplace _ ih =>
    rw [List.map_cons, ih]
    congr 1
    split_ifs at hplace ⊢ with hkeep
    · obtain ⟨g, ⟨hvalue, -⟩, rfl⟩ := hplace
      rw [hvalue]
    · exact hplace

end HostBridge.Json
