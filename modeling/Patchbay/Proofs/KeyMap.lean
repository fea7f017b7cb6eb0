import Patchbay.KeyMap

/-!
# Laws of maps and sets of keys

A map is read through `get?`: an entry is in the map when its value is found under its
key, and every operation changes what is found under the keys that it names and nothing
else. The keys of a set are in ascending order, so a greatest key is added at the end.
-/

namespace Patchbay

namespace KeyMap

variable {α β : Type} {map : KeyMap α} {key other : Key} {value : α}

/-- In an ascending list, the entry of a key is the only one. -/
theorem find?_of_mem {entries : List (Key × α)} (hasc : entries.Pairwise (·.1 < ·.1))
    {entry : Key × α} (h : entry ∈ entries) :
    entries.find? (·.1 == entry.1) = some entry := by
  induction entries with
  | nil => cases h
  | cons first rest ih =>
    obtain ⟨habove, hrest⟩ := List.pairwise_cons.1 hasc
    rcases List.mem_cons.1 h with rfl | hmem
    · exact List.find?_cons_of_pos (by simp)
    · have hlt := habove entry hmem
      have hne : first.1 ≠ entry.1 := fun he => Int32.lt_irrefl (he ▸ hlt)
      rw [List.find?_cons_of_neg (by simpa using hne)]
      exact ih hrest hmem

theorem get?_eq_some_iff : map.get? key = some value ↔ (key, value) ∈ map.entries := by
  unfold get?
  refine ⟨fun h => ?_, fun h => ?_⟩
  · obtain ⟨entry, hfind, rfl⟩ := Option.map_eq_some_iff.1 h
    have hkey := List.find?_some hfind
    have hkey : entry.1 = key := by simpa using hkey
    exact hkey ▸ List.mem_of_find?_eq_some hfind
  · rw [find?_of_mem map.ascending h]
    rfl

theorem contains_iff : map.contains key = true ↔ ∃ value, map.get? key = some value := by
  unfold contains
  rw [List.any_eq_true]
  simp only [get?_eq_some_iff]
  refine ⟨fun ⟨entry, hmem, hkey⟩ => ⟨entry.2, ?_⟩, fun ⟨value, hmem⟩ => ⟨_, hmem, by simp⟩⟩
  have hkey : entry.1 = key := by simpa using hkey
  exact hkey ▸ hmem

theorem get?_of_not_contains (h : map.contains key = false) : map.get? key = none := by
  rw [Option.eq_none_iff_forall_ne_some]
  intro value hvalue
  cases h.symm.trans (contains_iff.2 ⟨value, hvalue⟩)

theorem mem_keys : key ∈ map.keys ↔ map.contains key = true := by
  unfold keys
  rw [contains_iff, List.mem_map]
  simp only [get?_eq_some_iff]
  exact ⟨fun ⟨entry, hmem, he⟩ => ⟨entry.2, he ▸ hmem⟩, fun ⟨value, hmem⟩ => ⟨_, hmem, rfl⟩⟩

theorem keys_ascending (map : KeyMap α) : map.keys.Pairwise (· < ·) :=
  List.pairwise_map.2 map.ascending

theorem keys_nodup (map : KeyMap α) : map.keys.Nodup := by
  refine List.Pairwise.imp (fun hlt he => ?_) map.keys_ascending
  rw [he] at hlt
  exact Int32.lt_irrefl hlt

@[simp] theorem get?_empty : (∅ : KeyMap α).get? key = none :=
  rfl

theorem isEmpty_iff : map.isEmpty = true ↔ ∀ key, map.contains key = false := by
  obtain ⟨entries, hasc⟩ := map
  cases entries with
  | nil => exact ⟨fun _ _ => rfl, fun _ => rfl⟩
  | cons entry rest =>
    refine ⟨nofun, fun h => ?_⟩
    have hcontains : contains ⟨entry :: rest, hasc⟩ entry.1 = true := by simp [contains]
    rw [h] at hcontains
    cases hcontains

theorem ext_entries {other : KeyMap α} (h : map.entries = other.entries) : map = other := by
  cases map
  cases other
  cases h
  rfl

/-- Maps with the same entries are equal, since the order of their entries is fixed. -/
theorem ext_perm {other : KeyMap α} (h : map.entries.Perm other.entries) : map = other := by
  refine ext_entries (h.eq_of_pairwise ?_ map.ascending other.ascending)
  intro entry entry' _ _ hlt hgt
  exact absurd (Int32.lt_trans hlt hgt) Int32.lt_irrefl

/-- Maps in which the same is found are equal. -/
theorem ext_get? {other : KeyMap α} (h : ∀ key, map.get? key = other.get? key) : map = other := by
  have hnodup : ∀ map : KeyMap α, map.entries.Nodup := by
    intro map
    refine map.ascending.imp ?_
    intro entry entry' hlt he
    rw [he] at hlt
    exact Int32.lt_irrefl hlt
  have hmem : ∀ entry, entry ∈ map.entries ↔ entry ∈ other.entries := by
    intro entry
    rw [← get?_eq_some_iff, ← get?_eq_some_iff, h]
  exact ext_perm ((List.perm_ext_iff_of_nodup (hnodup map) (hnodup other)).2 hmem)

theorem keys_eq_nil (h : map.isEmpty = true) : map.keys = [] := by
  unfold keys
  rw [List.isEmpty_iff.1 h, List.map_nil]

theorem eq_empty_of_keys (h : map.keys = []) : map = ∅ :=
  ext_entries (List.map_eq_nil_iff.1 h)

/-! ## Insertion -/

theorem mem_place {entries : List (Key × α)} (hasc : entries.Pairwise (·.1 < ·.1))
    {entry : Key × α} :
    entry ∈ place key value entries ↔
      entry = (key, value) ∨ entry ∈ entries ∧ entry.1 ≠ key := by
  induction entries with
  | nil => simp [place]
  | cons first rest ih =>
    obtain ⟨habove, hrest⟩ := List.pairwise_cons.1 hasc
    have hlast : entry ∈ rest → first.1 < entry.1 := habove entry
    unfold place
    split
    · grind
    · split
      · grind
      · rw [List.mem_cons, ih hrest]
        grind

theorem get?_insert :
    (map.insert key value).get? other = if other = key then some value else map.get? other := by
  refine Option.ext fun found => ?_
  rw [get?_eq_some_iff]
  unfold insert
  rw [mem_place map.ascending]
  split
  · rename_i hkey
    simp [hkey, eq_comm]
  · rename_i hkey
    simp [hkey, get?_eq_some_iff]

theorem contains_insert :
    (map.insert key value).contains other = true ↔ other = key ∨ map.contains other = true := by
  rw [contains_iff, contains_iff]
  simp only [get?_insert]
  by_cases hkey : other = key <;> simp [hkey]

/-- A key above all others is added at the end. -/
theorem place_of_lt {entries : List (Key × α)} (h : ∀ entry ∈ entries, entry.1 < key) :
    place key value entries = entries ++ [(key, value)] := by
  induction entries with
  | nil => rfl
  | cons first rest ih =>
    have hfirst := h first List.mem_cons_self
    unfold place
    rw [if_neg (by grind), if_neg (by grind), ih fun entry hmem => h entry (.tail _ hmem)]
    rfl

theorem keys_insert_of_lt (h : ∀ old ∈ map.keys, old < key) :
    (map.insert key value).keys = map.keys ++ [key] := by
  show (place key value map.entries).map (·.1) = _
  rw [place_of_lt fun entry hmem => h entry.1 (List.mem_map_of_mem hmem), List.map_append]
  rfl

theorem perm_place {entries : List (Key × α)} (h : ∀ entry ∈ entries, entry.1 ≠ key) :
    (place key value entries).Perm ((key, value) :: entries) := by
  induction entries with
  | nil => exact .refl _
  | cons first rest ih =>
    have hne := h first List.mem_cons_self
    unfold place
    split
    · exact .refl _
    · rw [if_neg (Ne.symm hne)]
      have hrest := ih fun entry hmem => h entry (.tail _ hmem)
      exact (hrest.cons first).trans (.swap _ _ _)

/-- The entries of a map make it up again, in any order. -/
theorem ofList_of_perm {entries : List (Key × α)} (h : entries.Perm map.entries) :
    ofList entries = map := by
  -- the fold puts each entry beside those that it has put in before, which have other keys
  have hfold : ∀ (entries : List (Key × α)) (before : KeyMap α),
      ((before.entries ++ entries).map (·.1)).Nodup →
      (entries.foldl (fun map entry => map.insert entry.1 entry.2) before).entries.Perm
        (before.entries ++ entries) := by
    intro entries
    induction entries with
    | nil =>
      intro before _
      rw [List.append_nil]
      exact .refl _
    | cons entry rest ih =>
      intro before hnodup
      have hnew : ∀ old ∈ before.entries, old.1 ≠ entry.1 := by
        rw [List.map_append, List.nodup_append] at hnodup
        intro old hold
        exact hnodup.2.2 old.1 (List.mem_map_of_mem hold) entry.1 List.mem_cons_self
      have hplaced : ((before.insert entry.1 entry.2).entries ++ rest).Perm
          (before.entries ++ entry :: rest) :=
        ((perm_place hnew).append_right rest).trans List.perm_middle.symm
      rw [List.foldl_cons]
      exact (ih _ ((hplaced.map (·.1)).nodup_iff.2 hnodup)).trans hplaced
  have hnodup : (entries.map (·.1)).Nodup := by
    rw [(h.map (·.1)).nodup_iff]
    exact map.keys_nodup
  exact ext_perm ((hfold entries empty hnodup).trans h)

/-- A new key adds its value to the others. -/
theorem perm_values_insert (h : map.contains key = false) :
    (map.insert key value).values.Perm (value :: map.values) := by
  refine (perm_place fun entry hmem he => ?_).map (·.2)
  have hcontains : map.contains key = true :=
    contains_iff.2 ⟨entry.2, get?_eq_some_iff.2 (he ▸ hmem)⟩
  rw [h] at hcontains
  cases hcontains

/-! ## Removal -/

theorem values_erase_sublist : (map.erase key).values.Sublist map.values :=
  List.filter_sublist.map _

theorem get?_erase :
    (map.erase key).get? other = if other = key then none else map.get? other := by
  refine Option.ext fun found => ?_
  rw [get?_eq_some_iff]
  unfold erase
  rw [List.mem_filter]
  split
  · rename_i hkey
    simp [hkey]
  · rename_i hkey
    simp [hkey, get?_eq_some_iff]

/-- An entry with a new key that is put in and taken out leaves a map as it was. -/
theorem erase_insert (hnew : map.contains key = false) :
    (map.insert key value).erase key = map := by
  refine ext_get? fun other => ?_
  rw [get?_erase, get?_insert]
  by_cases hkey : other = key
  · rw [if_pos hkey, hkey, get?_of_not_contains hnew]
  · rw [if_neg hkey, if_neg hkey]

theorem contains_erase :
    (map.erase key).contains other = true ↔ other ≠ key ∧ map.contains other = true := by
  rw [contains_iff, contains_iff]
  simp only [get?_erase]
  by_cases hkey : other = key <;> simp [hkey]

theorem keys_erase : (map.erase key).keys = map.keys.filter (· != key) := by
  unfold keys erase
  rw [List.filter_map]
  rfl

/-- The first of the listed keys leaves the others when it is erased. -/
theorem perm_keys_erase {rest : List Key} (h : (key :: rest).Perm map.keys) :
    rest.Perm (map.erase key).keys := by
  rw [keys_erase, ← map.keys_nodup.erase_eq_filter]
  exact (List.cons_perm_iff_perm_erase.1 h).2

theorem get?_filterMap (f : α → Option β) :
    (map.filterMap f).get? key = (map.get? key).bind f := by
  refine Option.ext fun found => ?_
  rw [get?_eq_some_iff, Option.bind_eq_some_iff]
  unfold filterMap
  rw [List.mem_filterMap]
  simp only [get?_eq_some_iff]
  refine ⟨fun ⟨entry, hmem, himage⟩ => ?_, fun ⟨old, hmem, himage⟩ => ?_⟩
  · obtain ⟨image, hf, heq⟩ := Option.map_eq_some_iff.1 himage
    cases heq
    exact ⟨entry.2, hmem, hf⟩
  · exact ⟨(key, old), hmem, by simp [himage]⟩

end KeyMap

namespace KeySet

open KeyMap

variable {set : KeySet} {key other : Key}

theorem contains_add :
    contains (set.add key) other = true ↔ other = key ∨ contains set other = true :=
  contains_insert

theorem contains_ofList {keys : List Key} : contains (ofList keys) key = true ↔ key ∈ keys := by
  -- the fold adds to a set that already has some members
  have hfold : ∀ set : KeySet,
      contains ((keys.map (·, ())).foldl (fun map entry => map.insert entry.1 entry.2) set) key
        = true ↔ key ∈ keys ∨ contains set key = true := by
    induction keys with
    | nil => simp
    | cons first rest ih =>
      intro set
      show contains (List.foldl _ (set.add first) _) key = true ↔ _
      rw [ih, contains_add, List.mem_cons, or_left_comm, or_assoc]
  refine (hfold ∅).trans (or_iff_left ?_)
  rw [contains_iff]
  simp

/-- Sets with the same members are equal. -/
theorem ext_contains {other : KeySet}
    (h : ∀ key, contains set key = true ↔ contains other key = true) : set = other := by
  refine ext_get? fun key => Option.ext fun value => ?_
  cases value
  have hfound : ∀ set : KeySet, contains set key = true ↔ get? set key = some () :=
    fun _ => contains_iff.trans ⟨fun ⟨_, h⟩ => h, fun h => ⟨(), h⟩⟩
  rw [← hfound, ← hfound, h]

/-- The least member is a member, and there is one unless the set is empty. -/
theorem min?_eq_none_iff : set.min? = none ↔ ∀ key, contains set key = false := by
  unfold min?
  rw [List.head?_eq_none_iff, ← KeyMap.isEmpty_iff]
  unfold keys isEmpty
  rw [List.map_eq_nil_iff, List.isEmpty_iff]

end KeySet

end Patchbay
