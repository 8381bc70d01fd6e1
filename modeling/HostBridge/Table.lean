/-!
# Finite tables

A `Table κ α` maps finitely many keys to values and remembers the order in
which the keys were first inserted. Everything a table says is said by
`get?`: inserting, erasing, updating and mapping are described by what `get?`
answers afterwards (`get?_insert`, `get?_erase`, `get?_modify`, `get?_map`).

The key inserted last is found first, and nothing behind a key that was found
is looked at. Where a table is listed, the oldest key comes first.
-/

namespace HostBridge

/-- **A finite table**: keys with their values. -/
structure Table (κ α : Type) where
  /-- The key–value pairs, the key inserted last in front. -/
  entries : List (κ × α) := []
  /-- No key stands twice. -/
  nodup : (entries.map Prod.fst).Nodup := by exact List.nodup_nil

namespace Table

variable {κ α β : Type} [DecidableEq κ]

instance : Inhabited (Table κ α) := ⟨{}⟩

/-- The table without keys. -/
def empty : Table κ α := {}

/-- The value stored under a key. -/
def get? (t : Table κ α) (k : κ) : Option α :=
  (t.entries.find? (fun e => e.1 = k)).map Prod.snd

/-- Whether a key is present. -/
def contains (t : Table κ α) (k : κ) : Bool := (t.get? k).isSome

/-- The number of keys. -/
def size (t : Table κ α) : Nat := t.entries.length

/-- The keys with their values, the oldest key first. -/
def toList (t : Table κ α) : List (κ × α) := t.entries.reverse

/-- The keys, oldest first. -/
def keys (t : Table κ α) : List κ := t.toList.map Prod.fst

/-- The values, in the order of their keys. -/
def values (t : Table κ α) : List α := t.toList.map Prod.snd

/-- Applies `f` to every value. -/
def map (f : α → β) (t : Table κ α) : Table κ β where
  entries := t.entries.map (fun e => (e.1, f e.2))
  nodup := by simpa [Function.comp_def] using t.nodup

/-- Applies `f` to the value under `k` in a list of pairs. -/
def modifyEntry (k : κ) (f : α → α) : List (κ × α) → List (κ × α)
  | [] => []
  | e :: rest => if e.1 = k then (e.1, f e.2) :: rest else e :: modifyEntry k f rest

theorem map_fst_modifyEntry (k : κ) (f : α → α) (l : List (κ × α)) :
    (modifyEntry k f l).map Prod.fst = l.map Prod.fst := by
  induction l with
  | nil => rfl
  | cons e r ih => by_cases h : e.1 = k <;> simp [modifyEntry, h, ih]

/-- Applies `f` to the value under `k`, if there is one. -/
def modify (t : Table κ α) (k : κ) (f : α → α) : Table κ α where
  entries := modifyEntry k f t.entries
  nodup := map_fst_modifyEntry k f t.entries ▸ t.nodup

theorem not_mem_of_not_contains {t : Table κ α} {k : κ} (h : ¬t.contains k = true) :
    k ∉ t.entries.map Prod.fst := by
  simpa [contains, get?] using h

/-- Stores `v` under `k`. A key already present keeps its place. -/
def insert (t : Table κ α) (k : κ) (v : α) : Table κ α :=
  if h : t.contains k then t.modify k (fun _ => v)
  else ⟨(k, v) :: t.entries, List.nodup_cons.2 ⟨not_mem_of_not_contains h, t.nodup⟩⟩

/-- Removes a key. -/
def erase (t : Table κ α) (k : κ) : Table κ α where
  entries := t.entries.eraseP (fun e => e.1 = k)
  nodup := t.nodup.sublist (List.eraseP_sublist.map Prod.fst)

/-! ## What a table says -/

theorem mem_toList {t : Table κ α} {k : κ} {v : α} : (k, v) ∈ t.toList ↔ t.get? k = some v := by
  rcases t with ⟨l, hl⟩
  simp only [toList, get?, List.mem_reverse]
  induction l with
  | nil => simp
  | cons e r ih =>
    obtain ⟨he, hr⟩ := List.nodup_cons.1 hl
    by_cases hk : e.1 = k
    · subst hk
      have hn : (e.1, v) ∉ r := fun hm => he (List.mem_map.2 ⟨_, hm, rfl⟩)
      simp [hn, Prod.ext_iff, eq_comm]
    · have hne : (k, v) ≠ e := fun h => hk (h ▸ rfl)
      simp [hk, hne, ih hr]

omit [DecidableEq κ] in
theorem nodup_toList (t : Table κ α) : (t.toList.map Prod.fst).Nodup := by
  unfold toList
  rw [List.map_reverse]
  exact (List.reverse_perm _).nodup_iff.2 t.nodup

@[simp] theorem get?_empty (k : κ) : (empty : Table κ α).get? k = none := rfl

theorem get?_map (f : α → β) (t : Table κ α) (k : κ) : (t.map f).get? k = (t.get? k).map f := by
  simp [get?, map, List.find?_map, Function.comp_def]

theorem get?_modify (t : Table κ α) (k j : κ) (f : α → α) :
    (t.modify k f).get? j = if j = k then (t.get? j).map f else t.get? j := by
  rcases t with ⟨l, hl⟩
  simp only [get?, modify]
  clear hl
  induction l with
  | nil => simp [modifyEntry]
  | cons e r ih =>
    by_cases hk : e.1 = k
    · by_cases hj : j = k
      · simp [modifyEntry, hk, hj]
      · have hkj : k ≠ j := fun h => hj h.symm
        simp [modifyEntry, hk, hkj, hj]
    · by_cases hj : e.1 = j
      · have hjk : j ≠ k := fun h => hk (hj.trans h)
        simp [modifyEntry, hj, hjk]
      · simpa [modifyEntry, List.find?_cons, hk, hj] using ih

theorem get?_insert (t : Table κ α) (k j : κ) (v : α) :
    (t.insert k v).get? j = if j = k then some v else t.get? j := by
  unfold insert
  by_cases hc : t.contains k
  · rw [dif_pos hc, get?_modify]
    by_cases hj : j = k
    · subst hj
      obtain ⟨u, hu⟩ := Option.isSome_iff_exists.1 hc
      simp [hu]
    · simp [hj]
  · rw [dif_neg hc]
    by_cases hj : j = k
    · simp [get?, hj]
    · have hkj : k ≠ j := fun h => hj h.symm
      simp [get?, hj, hkj]

theorem get?_erase (t : Table κ α) (k j : κ) :
    (t.erase k).get? j = if j = k then none else t.get? j := by
  rcases t with ⟨l, hl⟩
  simp only [get?, erase]
  induction l with
  | nil => simp
  | cons e r ih =>
    obtain ⟨he, hr⟩ := List.nodup_cons.1 hl
    by_cases hk : e.1 = k
    · by_cases hj : j = k
      · have hn : ∀ x ∈ r, x.1 ≠ k := fun x hx h =>
          he (hk.trans h.symm ▸ List.mem_map_of_mem hx)
        simpa [List.eraseP_cons, hk, hj] using fun a b h => hn (a, b) h
      · have hkj : k ≠ j := fun h => hj h.symm
        simp [hk, hkj, hj]
    · by_cases hj : e.1 = j
      · have hjk : j ≠ k := fun h => hk (hj.trans h)
        simp [hj, hjk]
      · simpa [List.eraseP_cons, List.find?_cons, hk, hj] using ih hr

end Table

end HostBridge
