import Patchbay.Key

/-!
# Fresh keys

A fresh key is greater than the last one, and the greatest key of a list bounds its
members. This is all that freshness needs.
-/

namespace Patchbay.Key

/-- A fresh key is the next number. -/
theorem toInt_of_next? {last key : Key} (h : last.next? = some key) :
    key.toInt = last.toInt + 1 := by
  unfold next? at h
  split at h
  · cases h
  · rename_i hmax
    cases h
    have hne : last.toInt ≠ Int32.maxValue.toInt := fun he => hmax (Int32.toInt_inj.1 he)
    have hle := Int32.toInt_le last
    have hge := Int32.le_toInt last
    have hvalue : Int32.maxValue.toInt = 2147483647 := by decide
    have hone : (1 : Int32).toInt = 1 := by decide
    rw [hvalue] at hne hle
    rw [Int32.toInt_add, hone, Int.bmod_eq_of_le (by omega) (by omega)]

/-- A fresh key is greater than every key up to the last one. -/
theorem lt_of_next? {last key : Key} (h : last.next? = some key) : last < key := by
  have hnext := toInt_of_next? h
  rw [Int32.lt_iff_toInt_lt]
  omega

/-- There is no fresh key exactly after the greatest of all. -/
theorem next?_eq_none {last : Key} : last.next? = none ↔ last = Int32.maxValue := by
  unfold next?
  split <;> simp_all

theorem isSome_next?_iff {last : Key} : last.next?.isSome = true ↔ last ≠ Int32.maxValue := by
  rw [Option.isSome_iff_ne_none, ne_eq, next?_eq_none]

/-- There is a fresh key after every number that leaves room for it. -/
theorem exists_next? {last : Key} (h : last.toInt < 2147483647) :
    ∃ key, last.next? = some key := by
  refine Option.ne_none_iff_exists'.1 fun hnone => ?_
  rw [next?_eq_none.1 hnone] at h
  exact absurd h (by decide)

instance : Std.LawfulOrderSup Key where
  max_le_iff a b c := by
    show (if a ≤ b then b else a) ≤ c ↔ a ≤ c ∧ b ≤ c
    split <;> grind

/-- The greatest key of a list bounds its members. -/
theorem le_last {key : Key} {keys : List Key} (h : key ∈ keys) : key ≤ last keys := by
  unfold last
  cases hmax : keys.max? with
  | none =>
    rw [List.max?_eq_none_iff] at hmax
    rw [hmax] at h
    cases h
  | some greatest => exact (List.max?_le_iff hmax).1 (Int32.le_refl _) key h

/-- The greatest key of all is the last of a list exactly when it is in the list. -/
theorem last_eq_maxValue {keys : List Key} :
    last keys = Int32.maxValue ↔ Int32.maxValue ∈ keys := by
  constructor
  · intro hlast
    unfold last at hlast
    cases hmax : keys.max? with
    | none =>
      rw [hmax] at hlast
      exact absurd hlast (by decide)
    | some greatest =>
      rw [hmax] at hlast
      cases hlast
      exact List.max?_mem hmax
  · intro hmem
    exact Int32.le_antisymm (Int32.le_maxValue _) (le_last hmem)

/-- There are no more positive keys than the greatest of them counts. -/
theorem length_le_last {keys : List Key} (hnd : keys.Nodup) (hpos : ∀ key ∈ keys, 0 < key) :
    (keys.length : Int) ≤ (last keys).toInt := by
  cases keys with
  | nil => simp [last]
  | cons first rest =>
    generalize hkeys : first :: rest = keys at *
    have hbounds : ∀ key ∈ keys, 1 ≤ key.toInt ∧ key.toInt ≤ (last keys).toInt := by
      intro key hmem
      have hlow := Int32.lt_iff_toInt_lt.1 (hpos key hmem)
      have hhigh := Int32.le_iff_toInt_le.1 (le_last hmem)
      have hzero : (0 : Int32).toInt = 0 := rfl
      omega
    -- the numbers of the keys are different, and all of them are counted from one
    have hnumbers : (keys.map fun key => key.toInt.toNat).Nodup := by
      refine List.pairwise_map.2 (List.Pairwise.imp_of_mem ?_ hnd)
      intro key other hkey hother hne he
      have hkey := hbounds key hkey
      have hother := hbounds other hother
      exact hne (Int32.toInt_inj.1 (by omega))
    have hrange : (keys.map fun key => key.toInt.toNat) ⊆
        List.range' 1 (last keys).toInt.toNat := by
      intro number hnumber
      obtain ⟨key, hmem, rfl⟩ := List.mem_map.1 hnumber
      have hkey := hbounds key hmem
      rw [List.mem_range'_1]
      omega
    have hlength := hnumbers.length_le_of_subset hrange
    rw [List.length_map, List.length_range'] at hlength
    have hfirst := hbounds first (by simp [← hkeys])
    omega

end Patchbay.Key
