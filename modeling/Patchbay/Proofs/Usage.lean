import Patchbay.Usage
import Patchbay.Proofs.KeyMap
import Patchbay.Proofs.Table

/-!
# Laws of the record of usage

The record is a relation between patches and keys (`Usage.Notes`). Registering a patch
adds its pairs to the relation, releasing one takes its pairs away. No key is kept without
patches (`Usage.Tight`), so a key is in use exactly when some patch is noted for it.
-/

namespace Patchbay

namespace Usage

variable {usage : Usage} {patch key other : Key}

/-- The record says that `patch` uses `key`. -/
def Notes (usage : Usage) (patch key : Key) : Prop :=
  KeyMap.contains (usage.patchesOf key) patch = true

/-- No key is kept without patches. -/
def Tight (usage : Usage) : Prop :=
  ∀ key patches, usage.byKey.get? key = some patches → ∃ patch, KeyMap.contains patches patch = true

theorem not_notes_empty : ¬ empty.Notes patch key :=
  nofun

theorem tight_empty : empty.Tight :=
  nofun

/-! ## Noting -/

theorem patchesOf_note :
    (note patch usage key).patchesOf other =
      if other = key then (usage.patchesOf key).add patch else usage.patchesOf other := by
  unfold patchesOf note
  rw [KeyMap.get?_insert]
  split <;> rfl

theorem notes_note {name : Key} :
    (note patch usage key).Notes name other ↔
      name = patch ∧ other = key ∨ usage.Notes name other := by
  unfold Notes
  rw [patchesOf_note]
  by_cases hkey : other = key
  · rw [if_pos hkey, KeySet.contains_add, hkey]
    simp
  · rw [if_neg hkey]
    simp [hkey]

theorem Tight.note (h : usage.Tight) : (note patch usage key).Tight := by
  intro other patches hget
  unfold Usage.note at hget
  rw [KeyMap.get?_insert] at hget
  by_cases hkey : other = key
  · rw [if_pos hkey] at hget
    cases hget
    exact ⟨patch, KeySet.contains_add.2 (.inl rfl)⟩
  · rw [if_neg hkey] at hget
    exact h other patches hget

/-! ## Registering -/

/-- A patch uses the configs that it names and that exist, and their ports. -/
theorem mem_keysOf {entry : Patch} {configs : List Config} :
    key ∈ keysOf entry configs ↔
      ∃ name ∈ entry.configs, ∃ config, Table.find? configs name = some config ∧
        (config.id = key ∨ config.portId = key) := by
  unfold keysOf
  simp only [List.mem_flatMap, Table.mem_select, List.mem_cons, List.not_mem_nil, or_false]
  refine ⟨fun ⟨config, ⟨name, hname, hfind⟩, hkey⟩ => ?_,
    fun ⟨name, hname, config, hfind, hkey⟩ => ?_⟩
  · exact ⟨name, hname, config, hfind, hkey.imp Eq.symm Eq.symm⟩
  · exact ⟨config, ⟨name, hname, hfind⟩, hkey.imp Eq.symm Eq.symm⟩

theorem notes_foldl_note {keys : List Key} {name : Key} :
    (keys.foldl (note patch) usage).Notes name other ↔
      name = patch ∧ other ∈ keys ∨ usage.Notes name other := by
  induction keys generalizing usage with
  | nil => simp
  | cons first rest ih =>
    rw [List.foldl_cons, ih, notes_note, List.mem_cons]
    constructor
    · rintro (⟨hname, hrest⟩ | ⟨hname, hfirst⟩ | hold)
      · exact .inl ⟨hname, .inr hrest⟩
      · exact .inl ⟨hname, .inl hfirst⟩
      · exact .inr hold
    · rintro (⟨hname, hfirst | hrest⟩ | hold)
      · exact .inr (.inl ⟨hname, hfirst⟩)
      · exact .inl ⟨hname, hrest⟩
      · exact .inr (.inr hold)

theorem notes_register {entry : Patch} {configs : List Config} :
    (usage.register entry configs).Notes patch key ↔
      patch = entry.id ∧ key ∈ keysOf entry configs ∨ usage.Notes patch key :=
  notes_foldl_note

theorem Tight.register (h : usage.Tight) (entry : Patch) (configs : List Config) :
    (usage.register entry configs).Tight := by
  unfold Usage.register
  generalize keysOf entry configs = keys
  induction keys generalizing usage with
  | nil => exact h
  | cons first rest ih => exact ih h.note

/-! ## Releasing -/

/-- Releasing a patch takes it out of every set, and drops the sets that become empty. -/
theorem get?_release :
    (usage.release patch).byKey.get? key =
      (usage.byKey.get? key).bind fun patches =>
        if (KeyMap.erase patches patch).isEmpty then none else some (KeyMap.erase patches patch) :=
  KeyMap.get?_filterMap _

theorem contains_patchesOf_release {name : Key} :
    KeyMap.contains ((usage.release patch).patchesOf key) name = true ↔
      name ≠ patch ∧ KeyMap.contains (usage.patchesOf key) name = true := by
  unfold patchesOf
  rw [get?_release]
  cases usage.byKey.get? key with
  | none => simp [KeyMap.contains_iff]
  | some patches =>
    rw [Option.bind_some, Option.getD_some]
    split
    · -- the set is dropped, and had no other member
      rename_i hempty
      have hnone := KeyMap.isEmpty_iff.1 hempty name
      simp only [Option.getD_none, KeyMap.contains_iff, KeyMap.get?_empty, reduceCtorEq,
        exists_false, false_iff]
      rw [← KeyMap.contains_iff, ← KeyMap.contains_erase, hnone]
      exact Bool.false_ne_true
    · exact KeyMap.contains_erase

theorem notes_release {name : Key} :
    (usage.release patch).Notes name key ↔ name ≠ patch ∧ usage.Notes name key :=
  contains_patchesOf_release

theorem Tight.release (usage : Usage) (patch : Key) : (usage.release patch).Tight := by
  intro key patches hget
  rw [get?_release] at hget
  obtain ⟨old, _, hold⟩ := Option.bind_eq_some_iff.1 hget
  split at hold
  · cases hold
  · rename_i hempty
    cases hold
    rw [KeyMap.isEmpty_iff] at hempty
    simpa using hempty

/-! ## Reading -/

theorem isUsed_iff (h : usage.Tight) : usage.isUsed key = true ↔ ∃ patch, usage.Notes patch key := by
  unfold isUsed Notes patchesOf
  rw [KeyMap.contains_iff]
  constructor
  · rintro ⟨patches, hget⟩
    rw [hget]
    exact h key patches hget
  · rintro ⟨patch, hpatch⟩
    cases hget : usage.byKey.get? key with
    | some patches => exact ⟨patches, rfl⟩
    | none =>
      rw [hget] at hpatch
      cases hpatch

theorem first?_eq_none_iff : usage.first? key = none ↔ ∀ patch, ¬ usage.Notes patch key := by
  unfold first? Notes
  rw [KeySet.min?_eq_none_iff]
  simp

/-! ## Renaming patches -/

/-- The record with every patch under another key. -/
def rename (usage : Usage) (name : Key → Key) : Usage :=
  ⟨usage.byKey.filterMap fun patches => some (KeySet.ofList (patches.keys.map name))⟩

theorem get?_rename (name : Key → Key) :
    (usage.rename name).byKey.get? key =
      (usage.byKey.get? key).map fun patches => KeySet.ofList (patches.keys.map name) := by
  rw [Option.map_eq_bind]
  exact KeyMap.get?_filterMap _

theorem notes_rename {name : Key → Key} :
    (usage.rename name).Notes patch key ↔ ∃ old, usage.Notes old key ∧ name old = patch := by
  unfold Notes patchesOf
  rw [get?_rename]
  cases usage.byKey.get? key with
  | none => simp [KeyMap.contains_iff]
  | some patches =>
    rw [Option.map_some, Option.getD_some, Option.getD_some, KeySet.contains_ofList, List.mem_map]
    simp only [KeyMap.mem_keys]

@[simp] theorem isUsed_rename {name : Key → Key} :
    (usage.rename name).isUsed key = usage.isUsed key := by
  unfold isUsed
  rw [Bool.eq_iff_iff, KeyMap.contains_iff, KeyMap.contains_iff]
  simp only [get?_rename]
  cases usage.byKey.get? key with
  | none => simp
  | some patches => simp

theorem Tight.rename (h : usage.Tight) (name : Key → Key) : (usage.rename name).Tight := by
  intro key patches hget
  rw [get?_rename] at hget
  obtain ⟨old, hold, rfl⟩ := Option.map_eq_some_iff.1 hget
  obtain ⟨patch, hpatch⟩ := h key old hold
  refine ⟨name patch, KeySet.contains_ofList.2 (List.mem_map_of_mem ?_)⟩
  exact KeyMap.mem_keys.2 hpatch

/-- A record without idle keys is determined by its pairs of patches and keys. -/
theorem Tight.ext {other : Usage} (h : usage.Tight) (hother : other.Tight)
    (hnotes : ∀ patch key, usage.Notes patch key ↔ other.Notes patch key) : usage = other := by
  have hpatches : ∀ key, usage.patchesOf key = other.patchesOf key :=
    fun key => KeySet.ext_contains fun patch => hnotes patch key
  have hget : ∀ {usage : Usage}, usage.Tight → ∀ key,
      usage.byKey.get? key = if (usage.patchesOf key).isEmpty then none
        else some (usage.patchesOf key) := by
    intro usage htight key
    unfold patchesOf
    cases hfound : usage.byKey.get? key with
    | none => rfl
    | some patches =>
      obtain ⟨patch, hpatch⟩ := htight key patches hfound
      rw [Option.getD_some, if_neg]
      intro hempty
      rw [KeyMap.isEmpty_iff.1 hempty patch] at hpatch
      cases hpatch
  have hbyKey : usage.byKey = other.byKey := by
    refine KeyMap.ext_get? fun key => ?_
    rw [hget h, hget hother, hpatches]
  exact congrArg Usage.mk hbyKey

end Usage

end Patchbay
