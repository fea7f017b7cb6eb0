import Patchbay.Table

/-!
# Laws of tables

Look-ups in a table whose keys are distinct are membership, and replacing or removing an
entry affects no entry with another key.
-/

namespace Patchbay

namespace Table

variable {α : Type} [Keyed α] {table : List α} {entry : α} {key other : Key}

/-- The keys of the entries. -/
def keys (table : List α) : List Key :=
  table.map Keyed.key

@[simp] theorem keys_append (first second : List α) :
    keys (first ++ second) = keys first ++ keys second :=
  List.map_append

/-- A key that is not among others may follow them. -/
theorem nodup_concat {keys : List Key} (hnd : keys.Nodup) (hkey : key ∉ keys) :
    (keys ++ [key]).Nodup := by
  rw [List.nodup_append]
  refine ⟨hnd, by simp, ?_⟩
  intro old hold other hother he
  rw [List.mem_singleton] at hother
  rw [he, hother] at hold
  exact hkey hold

theorem mem_keys : key ∈ keys table ↔ ∃ entry ∈ table, Keyed.key entry = key :=
  List.mem_map

/-! ## Look-up -/

theorem key_of_find? (h : find? table key = some entry) : Keyed.key entry = key := by
  have hkey := List.find?_some h
  simpa using hkey

theorem mem_of_find? (h : find? table key = some entry) : entry ∈ table :=
  List.mem_of_find?_eq_some h

/-- When keys are distinct, an entry is found under its key. -/
theorem find?_of_mem (hnd : (keys table).Nodup) (h : entry ∈ table) :
    find? table (Keyed.key entry) = some entry := by
  induction table with
  | nil => cases h
  | cons first rest ih =>
    obtain ⟨hfirst, hrest⟩ := List.nodup_cons.1 hnd
    rcases List.mem_cons.1 h with rfl | hmem
    · exact List.find?_cons_of_pos (by simp)
    · have hne : Keyed.key first ≠ Keyed.key entry :=
        fun he => hfirst (he ▸ List.mem_map_of_mem hmem)
      unfold find?
      rw [List.find?_cons_of_neg (by simpa using hne)]
      exact ih hrest hmem

/-- What is found in a table is found in a longer one. -/
theorem find?_append {more : List α} (h : find? table key = some entry) :
    find? (table ++ more) key = some entry := by
  unfold find? at h ⊢
  rw [List.find?_append, h]
  rfl

theorem find?_eq_none : find? table key = none ↔ key ∉ keys table := by
  unfold find?
  rw [List.find?_eq_none, mem_keys]
  simp

theorem exists_find? : (∃ entry, find? table key = some entry) ↔ key ∈ keys table := by
  rw [← Option.ne_none_iff_exists', ne_eq, find?_eq_none, Decidable.not_not]

/-- An entry with a new key is found at the end. -/
theorem find?_concat (h : Keyed.key entry ∉ keys table) :
    find? (table ++ [entry]) (Keyed.key entry) = some entry := by
  have hnone := find?_eq_none.2 h
  unfold find? at hnone ⊢
  rw [List.find?_append, hnone]
  simp

/-- Tables with the same keys are equal when all that is in one is found in the other. -/
theorem eq_of_keys {other : List α} (hnd : (keys other).Nodup) (hkeys : keys table = keys other)
    (h : ∀ entry ∈ table, find? other (Keyed.key entry) = some entry) : table = other := by
  induction table generalizing other with
  | nil => exact (List.map_eq_nil_iff.1 hkeys.symm).symm
  | cons first rest ih =>
    cases other with
    | nil => cases hkeys
    | cons head tail =>
      obtain ⟨hfirst, hrest⟩ := List.cons.inj hkeys
      obtain ⟨hhead, htail⟩ := List.nodup_cons.1 hnd
      have hfound := h first List.mem_cons_self
      unfold find? at hfound
      rw [List.find?_cons_of_pos (by simpa using hfirst.symm)] at hfound
      cases hfound
      refine congrArg (first :: ·) (ih htail hrest fun entry hmem => ?_)
      -- no later entry has the key of the first
      have hne : Keyed.key first ≠ Keyed.key entry := by
        intro he
        have hkey : Keyed.key entry ∈ List.map Keyed.key rest := List.mem_map_of_mem hmem
        rw [hrest, ← he] at hkey
        exact hhead hkey
      have hfound := h entry (.tail _ hmem)
      unfold find? at hfound ⊢
      rw [List.find?_cons_of_neg (by simpa using hne)] at hfound
      exact hfound

theorem holds_iff : holds table key = true ↔ key ∈ keys table := by
  unfold holds
  rw [List.any_eq_true, mem_keys]
  simp

theorem mem_select {names : List Key} :
    entry ∈ select table names ↔ ∃ key ∈ names, find? table key = some entry :=
  List.mem_filterMap

theorem missing_eq_nil {names : List Key} :
    missing table names = [] ↔ ∀ key ∈ names, key ∈ keys table := by
  unfold missing
  rw [List.filter_eq_nil_iff]
  simp [holds_iff]

/-! ## Replacing an entry -/

@[simp] theorem keys_replace : keys (replace entry table) = keys table := by
  induction table with
  | nil => rfl
  | cons first rest ih =>
    unfold replace
    split
    · rename_i hkey
      show Keyed.key entry :: keys rest = Keyed.key first :: keys rest
      rw [hkey]
    · show Keyed.key first :: keys (replace entry rest) = Keyed.key first :: keys rest
      rw [ih]

/-- What is in a table after a replacement is the new entry or an old one. -/
theorem mem_of_mem_replace {old : α} (h : old ∈ replace entry table) :
    old = entry ∨ old ∈ table := by
  induction table with
  | nil => cases h
  | cons first rest ih =>
    unfold replace at h
    split at h
    · rcases List.mem_cons.1 h with rfl | hmem
      · exact .inl rfl
      · exact .inr (List.mem_cons_of_mem _ hmem)
    · rcases List.mem_cons.1 h with rfl | hmem
      · exact .inr List.mem_cons_self
      · exact (ih hmem).imp_right (List.mem_cons_of_mem _)

/-- When keys are distinct, the old entries that are left have other keys. -/
theorem mem_replace {old : α} (hnd : (keys table).Nodup) (h : Keyed.key entry ∈ keys table) :
    old ∈ replace entry table ↔ old = entry ∨ old ∈ table ∧ Keyed.key old ≠ Keyed.key entry := by
  induction table with
  | nil => cases h
  | cons first rest ih =>
    obtain ⟨hfirst, hrest⟩ := List.nodup_cons.1 hnd
    have hne : old ∈ rest → Keyed.key old ≠ Keyed.key first :=
      fun hold he => hfirst (he ▸ List.mem_map_of_mem hold)
    unfold replace
    split
    · rename_i hkey
      rw [List.mem_cons, List.mem_cons, ← hkey]
      grind
    · rename_i hkey
      have hmem : Keyed.key entry ∈ keys rest :=
        (List.mem_cons.1 h).resolve_left fun he => hkey he.symm
      rw [List.mem_cons, List.mem_cons, ih hrest hmem]
      grind

/-- A replacement goes unnoticed by a view that the new entry shares with the old one. -/
theorem map_replace {β : Type} {view : α → β} (hnd : (keys table).Nodup)
    (h : ∀ old, find? table (Keyed.key entry) = some old → view old = view entry) :
    (replace entry table).map view = table.map view := by
  induction table with
  | nil => rfl
  | cons first rest ih =>
    obtain ⟨_, hrest⟩ := List.nodup_cons.1 hnd
    unfold replace
    split
    · rename_i hkey
      have hview := h first (List.find?_cons_of_pos (by simpa using hkey))
      rw [List.map_cons, List.map_cons, hview]
    · rename_i hkey
      rw [List.map_cons, List.map_cons, ih hrest]
      intro old hold
      refine h old ?_
      unfold find? at hold ⊢
      rw [List.find?_cons_of_neg (by simpa using hkey)]
      exact hold

/-- When keys are distinct, a replacement changes the entry with the key and no other. -/
theorem replace_eq_map (hnd : (keys table).Nodup) :
    replace entry table =
      table.map fun old => if Keyed.key old = Keyed.key entry then entry else old := by
  induction table with
  | nil => rfl
  | cons first rest ih =>
    obtain ⟨hfirst, hrest⟩ := List.nodup_cons.1 hnd
    unfold replace
    by_cases hkey : Keyed.key first = Keyed.key entry
    · -- no later entry has the key
      have hkept : rest.map (fun old => if Keyed.key old = Keyed.key entry then entry else old) =
          rest := by
        rw [List.map_congr_left (g := id), List.map_id]
        intro old hold
        have hne : Keyed.key old ≠ Keyed.key entry := by
          intro he
          rw [hkey, ← he] at hfirst
          exact hfirst (List.mem_map_of_mem hold)
        rw [if_neg hne, id]
      rw [if_pos hkey, List.map_cons, if_pos hkey, hkept]
    · rw [if_neg hkey, List.map_cons, if_neg hkey, ih hrest]

/-! ## Removing an entry -/

theorem keys_remove : keys (remove table key) = (keys table).erase key := by
  unfold keys remove
  rw [List.erase_eq_eraseP', List.eraseP_map]
  rfl

theorem mem_of_mem_remove (h : entry ∈ remove table key) : entry ∈ table :=
  List.mem_of_mem_eraseP h

/-- When keys are distinct, all that is left of a table has other keys. -/
theorem mem_remove (hnd : (keys table).Nodup) :
    entry ∈ remove table key ↔ entry ∈ table ∧ Keyed.key entry ≠ key := by
  refine ⟨fun h => ⟨mem_of_mem_remove h, fun he => ?_⟩, fun ⟨hmem, hne⟩ => ?_⟩
  · have hkey := mem_keys.2 ⟨entry, h, he⟩
    rw [keys_remove] at hkey
    exact List.Nodup.not_mem_erase hnd hkey
  · exact (List.mem_eraseP_of_neg (by simpa using hne)).2 hmem

/-- When keys are distinct, what has another key is found as before. -/
theorem find?_remove (hnd : (keys table).Nodup) (h : find? table other = some entry)
    (hne : other ≠ key) : find? (remove table key) other = some entry := by
  have hother : Keyed.key entry = other := key_of_find? h
  have hrest : (keys (remove table key)).Nodup := by
    rw [keys_remove]
    exact hnd.erase key
  have hmem : entry ∈ remove table key :=
    (mem_remove hnd).2 ⟨mem_of_find? h, fun he => hne (hother.symm.trans he)⟩
  rw [← hother]
  exact find?_of_mem hrest hmem

/-- When keys are distinct, what is left are the entries with other keys. -/
theorem remove_eq_filter (hnd : (keys table).Nodup) :
    remove table key = table.filter (Keyed.key · != key) := by
  induction table with
  | nil => rfl
  | cons first rest ih =>
    obtain ⟨hfirst, hrest⟩ := List.nodup_cons.1 hnd
    unfold remove at ih ⊢
    by_cases hkey : Keyed.key first = key
    · -- no later entry has the key
      have hkept : rest.filter (Keyed.key · != key) = rest := by
        rw [List.filter_eq_self]
        intro entry hmem
        have hne : Keyed.key entry ≠ key := by
          intro he
          rw [hkey, ← he] at hfirst
          exact hfirst (List.mem_map_of_mem hmem)
        simpa using hne
      rw [List.eraseP_cons_of_pos (by simpa using hkey),
        List.filter_cons_of_neg (by simpa using hkey), hkept]
    · rw [List.eraseP_cons_of_neg (by simpa using hkey),
        List.filter_cons_of_pos (by simpa using hkey), ih hrest]

/-- An entry with a new key that is added and removed leaves a table as it was. -/
theorem remove_concat (hnew : Keyed.key entry ∉ keys table) :
    remove (table ++ [entry]) (Keyed.key entry) = table := by
  have hothers : ∀ old ∈ table, ¬ (Keyed.key old == Keyed.key entry) = true := by
    intro old hold he
    have hkey : Keyed.key old = Keyed.key entry := by simpa using he
    exact hnew (mem_keys.2 ⟨old, hold, hkey⟩)
  unfold remove
  rw [List.eraseP_append_right _ hothers]
  simp

/-- But for the order, to replace an entry is to remove it and to add the new one. -/
theorem replace_perm (h : Keyed.key entry ∈ keys table) :
    (replace entry table).Perm (remove table (Keyed.key entry) ++ [entry]) := by
  induction table with
  | nil => cases h
  | cons first rest ih =>
    unfold replace
    unfold remove at ih ⊢
    by_cases hkey : Keyed.key first = Keyed.key entry
    · rw [if_pos hkey, List.eraseP_cons_of_pos (by simpa using hkey)]
      exact (List.perm_append_singleton entry rest).symm
    · rw [if_neg hkey, List.eraseP_cons_of_neg (by simpa using hkey)]
      have hrest : Keyed.key entry ∈ keys rest :=
        (List.mem_cons.1 h).resolve_left fun he => hkey he.symm
      exact (ih hrest).cons first

/-! ## Counting -/

/-- When keys are distinct, what no two keys have in common holds of one entry at most. -/
theorem countP_le_one {p : α → Bool} (hnd : (keys table).Nodup)
    (h : ∀ entry ∈ table, ∀ other ∈ table, p entry = true → p other = true →
      Keyed.key entry = Keyed.key other) : table.countP p ≤ 1 := by
  induction table with
  | nil => exact Nat.zero_le 1
  | cons first rest ih =>
    obtain ⟨hfirst, hrest⟩ := List.nodup_cons.1 hnd
    by_cases hp : p first = true
    · have hzero : rest.countP p = 0 := by
        rw [List.countP_eq_zero]
        intro other hother hp'
        have hsame := h first List.mem_cons_self other (.tail _ hother) hp hp'
        exact hfirst (mem_keys.2 ⟨other, hother, hsame.symm⟩)
      have hone : (first :: rest).countP p = 1 := by
        rw [List.countP_cons_of_pos hp, hzero]
      exact Nat.le_of_eq hone
    · rw [List.countP_cons_of_neg hp]
      exact ih hrest fun entry hentry other hother =>
        h entry (.tail _ hentry) other (.tail _ hother)

end Table

end Patchbay
