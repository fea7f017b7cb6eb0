import Patchbay.Proofs.Growth
import Patchbay.Proofs.Ledger

/-!
# Sound ledgers

A ledger is sound for a table of configs (`Ledger.Sound`) when its patches have distinct
keys, lists that are in order and the fields that follow from the limits, and when its
record of usage says neither more nor less than its patches. Admitting, updating and
removing patches keeps a ledger sound, and so does every change of configs that leaves
those of the patches at their places.
-/

namespace Patchbay

namespace Patch

variable {patch : Patch} {configs configs' : List Config} {key : Key}

/-- The patch connects a config that has the key `key` or belongs to the port `key`. -/
def Uses (configs : List Config) (patch : Patch) (key : Key) : Prop :=
  ∃ config ∈ configs, config.id ∈ patch.configs ∧ (config.id = key ∨ config.portId = key)

/-- When keys are distinct, what is registered for a patch is what it uses. -/
theorem mem_keysOf_iff_uses (hnd : (Table.keys configs).Nodup) :
    key ∈ Usage.keysOf patch configs ↔ patch.Uses configs key := by
  rw [Usage.mem_keysOf]
  constructor
  · rintro ⟨name, hname, config, hfind, hkey⟩
    have hid : config.id = name := Table.key_of_find? hfind
    exact ⟨config, Table.mem_of_find? hfind, hid ▸ hname, hkey⟩
  · rintro ⟨config, hmem, hname, hkey⟩
    exact ⟨config.id, hname, config, Table.find?_of_mem hnd hmem, hkey⟩

/-- The configs of `patch` have the same places in two tables. -/
def SamePlaces (configs configs' : List Config) (patch : Patch) : Prop :=
  ∀ place : Key × Key, place.1 ∈ patch.configs →
    (place ∈ configs.map Config.place ↔ place ∈ configs'.map Config.place)

theorem SamePlaces.of_eq (h : configs.map Config.place = configs'.map Config.place) :
    SamePlaces configs configs' patch := by
  intro place _
  rw [h]

/-- A config that the patch does not name may be added. -/
theorem SamePlaces.append {config : Config} (h : config.id ∉ patch.configs) :
    SamePlaces configs (configs ++ [config]) patch := by
  intro place hplace
  rw [List.map_append, List.mem_append]
  refine ⟨.inl, fun hmem => hmem.resolve_right fun hnew => ?_⟩
  rw [List.mem_singleton.1 hnew] at hplace
  exact h hplace

/-- A config that the patch does not name may be removed. -/
theorem SamePlaces.remove (h : key ∉ patch.configs) :
    SamePlaces configs (Table.remove configs key) patch := by
  intro place hplace
  have hmap : (Table.remove configs key).map Config.place =
      (configs.map Config.place).eraseP (·.1 == key) := by
    rw [List.eraseP_map]
    rfl
  have hne : place.1 ≠ key := fun he => h (he ▸ hplace)
  rw [hmap, List.mem_eraseP_of_neg (by simpa using hne)]

/-- What holds of some config that the patch names depends on places only. -/
theorem SamePlaces.exists_iff {p : Key × Key → Prop} (h : SamePlaces configs configs' patch)
    (hp : ∀ place, p place → place.1 ∈ patch.configs) :
    (∃ config ∈ configs, p config.place) ↔ ∃ config ∈ configs', p config.place := by
  have hplaces : ∀ configs : List Config, (∃ config ∈ configs, p config.place) ↔
      ∃ place ∈ configs.map Config.place, p place := by
    intro configs
    constructor
    · rintro ⟨config, hmem, hplace⟩
      exact ⟨config.place, List.mem_map_of_mem hmem, hplace⟩
    · rintro ⟨place, hmem, hplace⟩
      obtain ⟨config, hconfig, rfl⟩ := List.mem_map.1 hmem
      exact ⟨config, hconfig, hplace⟩
  rw [hplaces, hplaces]
  refine exists_congr fun place => ?_
  rw [and_congr_left_iff]
  intro hplace
  exact h place (hp place hplace)

theorem SamePlaces.uses_iff (h : SamePlaces configs configs' patch) :
    patch.Uses configs key ↔ patch.Uses configs' key := by
  have hnamed : ∀ place : Key × Key,
      place.1 ∈ patch.configs ∧ (place.1 = key ∨ place.2 = key) → place.1 ∈ patch.configs :=
    fun _ huses => huses.1
  exact h.exists_iff hnamed

/-- A patch has lists that are in order and the fields that follow from the limits. -/
structure Complete (configs : List Config) (limits : Limits) (patch : Patch) : Prop
    extends Listed configs patch where
  minBufferFrames : patch.minBufferFrames = limits.minBufferFrames
  latenciesMs : patch.latenciesMs = patch.sinks.map fun _ => limits.latencyMs

/-- A request whose lists are in order is completed, under any key. -/
theorem Listed.complete {request : Patch} (h : request.Listed configs) (limits : Limits) :
    (request.completed limits).Complete configs limits where
  toListed := ⟨h.sources_ne, h.sources_nodup, h.sinks_ne, h.sinks_nodup, h.sources_mem,
    h.sinks_mem⟩
  minBufferFrames := rfl
  latenciesMs := rfl

theorem Complete.withKey {limits : Limits} (h : patch.Complete configs limits) (key : Key) :
    { patch with id := key }.Complete configs limits where
  toListed := ⟨h.sources_ne, h.sources_nodup, h.sinks_ne, h.sinks_nodup, h.sources_mem,
    h.sinks_mem⟩
  minBufferFrames := h.minBufferFrames
  latenciesMs := h.latenciesMs

theorem Complete.configs_mem {limits : Limits} (h : patch.Complete configs limits) :
    ∀ key ∈ patch.configs, key ∈ Table.keys configs := by
  intro key hkey
  rcases List.mem_append.1 hkey with hkey | hkey
  · exact h.sources_mem key hkey
  · exact h.sinks_mem key hkey

/-- A config that the patch names has a counterpart at its place. -/
theorem SamePlaces.counterpart (h : SamePlaces configs configs' patch) {config : Config}
    (hmem : config ∈ configs) (hnamed : config.id ∈ patch.configs) :
    ∃ other ∈ configs', other.id = config.id ∧ other.portId = config.portId := by
  obtain ⟨other, hother, hplace⟩ :=
    List.mem_map.1 ((h config.place hnamed).1 (List.mem_map_of_mem hmem))
  exact ⟨other, hother, congrArg Prod.fst hplace, congrArg Prod.snd hplace⟩

/-- Configs at the same places have the same keys. -/
theorem SamePlaces.mem_keys (h : SamePlaces configs configs' patch) (hkey : key ∈ patch.configs)
    (hmem : key ∈ Table.keys configs) : key ∈ Table.keys configs' := by
  obtain ⟨config, hconfig, rfl⟩ := Table.mem_keys.1 hmem
  obtain ⟨other, hother, hid, _⟩ := h.counterpart hconfig hkey
  exact Table.mem_keys.2 ⟨other, hother, hid⟩

theorem Complete.samePlaces {limits : Limits} (h : patch.Complete configs limits)
    (hplaces : SamePlaces configs configs' patch) : patch.Complete configs' limits where
  toListed := ⟨h.sources_ne, h.sources_nodup, h.sinks_ne, h.sinks_nodup,
    fun key hkey => hplaces.mem_keys (List.mem_append_left _ hkey) (h.sources_mem key hkey),
    fun key hkey => hplaces.mem_keys (List.mem_append_right _ hkey) (h.sinks_mem key hkey)⟩
  minBufferFrames := h.minBufferFrames
  latenciesMs := h.latenciesMs

end Patch

namespace Ledger

/-- The patches have distinct keys up to the last one, lists that are in order and the
fields that follow from the limits, and the record of usage says what they use. -/
structure Sound (configs : List Config) (limits : Limits) (ledger : Ledger) : Prop where
  keys_nodup : (Table.keys ledger.patches).Nodup
  keys_last : ∀ key ∈ Table.keys ledger.patches, key ≤ ledger.lastKey
  complete : ∀ patch ∈ ledger.patches, patch.Complete configs limits
  notes : ∀ name key, ledger.usage.Notes name key ↔
    ∃ patch ∈ ledger.patches, patch.id = name ∧ patch.Uses configs key
  tight : ledger.usage.Tight

variable {configs : List Config} {routes : List Route} {limits : Limits}
  {ledger next : Ledger} {request patch : Patch}

theorem sound_empty (configs : List Config) (limits : Limits) : empty.Sound configs limits where
  keys_nodup := List.nodup_nil
  keys_last := nofun
  complete := nofun
  notes _ _ := ⟨fun h => absurd h Usage.not_notes_empty, nofun⟩
  tight := Usage.tight_empty

namespace Sound

/-- A sink or source is in use exactly when some patch uses it. -/
theorem isUsed_iff (h : ledger.Sound configs limits) {key : Key} :
    ledger.usage.isUsed key = true ↔ ∃ patch ∈ ledger.patches, patch.Uses configs key := by
  rw [Usage.isUsed_iff h.tight]
  simp only [h.notes]
  exact ⟨fun ⟨_, patch, hmem, _, huses⟩ => ⟨patch, hmem, huses⟩,
    fun ⟨patch, hmem, huses⟩ => ⟨_, patch, hmem, rfl, huses⟩⟩

/-- After the release of a patch, in use is what some other patch uses. -/
theorem isUsed_release_iff (h : ledger.Sound configs limits) {name key : Key} :
    (ledger.usage.release name).isUsed key = true ↔
      ∃ patch ∈ ledger.patches, patch.id ≠ name ∧ patch.Uses configs key := by
  rw [Usage.isUsed_iff (Usage.Tight.release _ _)]
  simp only [Usage.notes_release, h.notes]
  constructor
  · rintro ⟨other, hne, patch, hmem, rfl, huses⟩
    exact ⟨patch, hmem, hne, huses⟩
  · rintro ⟨patch, hmem, hne, huses⟩
    exact ⟨_, hne, patch, hmem, rfl, huses⟩

theorem using?_eq_none_iff (h : ledger.Sound configs limits) {key : Key} :
    ledger.using? key = none ↔ ∀ patch ∈ ledger.patches, ¬ patch.Uses configs key := by
  unfold using?
  rw [Usage.first?_eq_none_iff]
  simp only [h.notes]
  exact ⟨fun hnone patch hmem huses => hnone _ ⟨patch, hmem, rfl, huses⟩,
    fun hnone _ ⟨patch, hmem, _, huses⟩ => hnone patch hmem huses⟩

/-- Without patches nothing is on record. -/
theorem usage_eq_empty (h : ledger.Sound configs limits) (hpatches : ledger.patches = []) :
    ledger.usage = .empty := by
  have hunused : ∀ key, ledger.usage.byKey.contains key = false := by
    intro key
    refine Bool.eq_false_iff.2 fun hused => ?_
    obtain ⟨patch, hmem, _⟩ := h.isUsed_iff.1 hused
    rw [hpatches] at hmem
    cases hmem
  have hkeys : ledger.usage.byKey.keys = [] := by
    refine List.eq_nil_iff_forall_not_mem.2 fun key hmem => ?_
    have hused := KeyMap.mem_keys.1 hmem
    rw [hunused key] at hused
    cases hused
  exact congrArg Usage.mk (KeyMap.eq_empty_of_keys hkeys)

/-! ## Changes of patches -/

theorem enter (h : ledger.Sound configs limits) (hnd : (Table.keys configs).Nodup)
    (hpatch : patch.Complete configs limits) (hnew : patch.id ∉ Table.keys ledger.patches)
    {last : Key} (hlast : ledger.lastKey ≤ last) (hid : patch.id ≤ last) :
    (ledger.enter patch configs last).Sound configs limits := by
  have hkeys : Table.keys (ledger.enter patch configs last).patches =
      Table.keys ledger.patches ++ [patch.id] := Table.keys_append _ _
  constructor
  case keys_nodup =>
    rw [hkeys]
    exact Table.nodup_concat h.keys_nodup hnew
  case keys_last =>
    rw [hkeys, List.forall_mem_append, List.forall_mem_singleton]
    refine ⟨?_, hid⟩
    intro key hkey
    exact Int32.le_trans (h.keys_last key hkey) hlast
  case complete =>
    show ∀ other ∈ ledger.patches ++ [patch], other.Complete configs limits
    rw [List.forall_mem_append, List.forall_mem_singleton]
    exact ⟨h.complete, hpatch⟩
  case notes =>
    intro name key
    show (ledger.usage.register patch configs).Notes name key ↔
      ∃ other ∈ ledger.patches ++ [patch], other.id = name ∧ other.Uses configs key
    rw [Usage.notes_register, Patch.mem_keysOf_iff_uses hnd, h.notes]
    constructor
    · rintro (⟨rfl, huses⟩ | ⟨other, hother, hname, huses⟩)
      · exact ⟨patch, List.mem_concat_self, rfl, huses⟩
      · exact ⟨other, List.mem_append_left _ hother, hname, huses⟩
    · rintro ⟨other, hother, rfl, huses⟩
      rcases List.mem_append.1 hother with hother | hother
      · exact .inr ⟨other, hother, rfl, huses⟩
      · cases List.mem_singleton.1 hother
        exact .inl ⟨rfl, huses⟩
  case tight => exact h.tight.register patch configs

theorem update (h : ledger.Sound configs limits) (hnd : (Table.keys configs).Nodup)
    (hpatch : patch.Complete configs limits) (hold : patch.id ∈ Table.keys ledger.patches) :
    (ledger.update patch configs).Sound configs limits := by
  have hkeys : Table.keys (ledger.update patch configs).patches = Table.keys ledger.patches :=
    Table.keys_replace
  constructor
  case keys_nodup =>
    rw [hkeys]
    exact h.keys_nodup
  case keys_last =>
    rw [hkeys]
    exact h.keys_last
  case complete =>
    intro other hother
    rcases Table.mem_of_mem_replace hother with rfl | hother
    · exact hpatch
    · exact h.complete other hother
  case notes =>
    intro name key
    -- what was on record for the old entry has been released
    show ((ledger.usage.release patch.id).register patch configs).Notes name key ↔
      ∃ other ∈ Table.replace patch ledger.patches, other.id = name ∧ other.Uses configs key
    rw [Usage.notes_register, Usage.notes_release, Patch.mem_keysOf_iff_uses hnd, h.notes]
    simp only [Table.mem_replace h.keys_nodup hold]
    constructor
    · rintro (⟨rfl, huses⟩ | ⟨hne, other, hother, rfl, huses⟩)
      · exact ⟨patch, .inl rfl, rfl, huses⟩
      · exact ⟨other, .inr ⟨hother, hne⟩, rfl, huses⟩
    · rintro ⟨other, rfl | ⟨hother, hne⟩, rfl, huses⟩
      · exact .inl ⟨rfl, huses⟩
      · exact .inr ⟨hne, other, hother, rfl, huses⟩
  case tight => exact (Usage.Tight.release ledger.usage patch.id).register patch configs

/-- A fresh key is that of no patch. -/
theorem next_not_mem (h : ledger.Sound configs limits) {key : Key}
    (hkey : ledger.lastKey.next? = some key) : key ∉ Table.keys ledger.patches := by
  intro hmem
  exact Int32.not_le.2 (Key.lt_of_next? hkey) (h.keys_last key hmem)

/-- Setting a patch keeps a ledger sound. -/
theorem accept (h : ledger.Sound configs limits) (hnd : (Table.keys configs).Nodup)
    (haccept : ledger.accept request configs routes limits = .ok (patch, next)) :
    next.Sound configs limits := by
  obtain ⟨usable, husable, hcases⟩ := accept_eq_ok.1 haccept
  have hcomplete := (Patch.usableRoutes_eq_ok.1 husable).1.complete limits
  rcases hcases with ⟨_, _, key, hkey, rfl, rfl⟩ | ⟨_, hold, _, rfl, rfl⟩
  · have hle : ledger.lastKey ≤ key := Int32.le_of_lt (Key.lt_of_next? hkey)
    exact h.enter hnd (hcomplete.withKey key) (h.next_not_mem hkey) hle (Int32.le_refl key)
  · exact h.update hnd hcomplete hold

/-- Restoring a patch keeps a ledger sound. -/
theorem restore (h : ledger.Sound configs limits) (hnd : (Table.keys configs).Nodup)
    (hrestore : ledger.restore request configs routes limits = .ok (patch, next)) :
    next.Sound configs limits := by
  obtain ⟨_, hnew, usable, husable, _, rfl, rfl⟩ := restore_eq_ok.1 hrestore
  have hcomplete := (Patch.usableRoutes_eq_ok.1 husable).1.complete limits
  exact h.enter hnd hcomplete hnew Std.left_le_max Std.right_le_max

/-- Removing a patch keeps a ledger sound. -/
theorem reset (h : ledger.Sound configs limits) {key : Key} (hreset : ledger.reset key = .ok next) :
    next.Sound configs limits := by
  obtain ⟨_, rfl⟩ := reset_eq_ok.1 hreset
  constructor
  case keys_nodup =>
    show (Table.keys (Table.remove ledger.patches key)).Nodup
    rw [Table.keys_remove]
    exact h.keys_nodup.erase key
  case keys_last =>
    show ∀ name ∈ Table.keys (Table.remove ledger.patches key), name ≤ ledger.lastKey
    rw [Table.keys_remove]
    intro name hname
    exact h.keys_last name (List.mem_of_mem_erase hname)
  case complete =>
    intro other hother
    exact h.complete other (Table.mem_of_mem_remove hother)
  case notes =>
    intro name used
    show (ledger.usage.release key).Notes name used ↔
      ∃ other ∈ Table.remove ledger.patches key, other.id = name ∧ other.Uses configs used
    rw [Usage.notes_release, h.notes]
    simp only [Table.mem_remove h.keys_nodup]
    constructor
    · rintro ⟨hne, other, hother, rfl, huses⟩
      exact ⟨other, ⟨hother, hne⟩, rfl, huses⟩
    · rintro ⟨other, ⟨hother, hne⟩, rfl, huses⟩
      exact ⟨hne, other, hother, rfl, huses⟩
  case tight => exact Usage.Tight.release ledger.usage key

/-! ## Changes of configs -/

/-- A ledger stays sound as long as the configs of its patches stay at their places. -/
theorem samePlaces (h : ledger.Sound configs limits) {configs' : List Config}
    (hplaces : ∀ patch ∈ ledger.patches, Patch.SamePlaces configs configs' patch) :
    ledger.Sound configs' limits := by
  refine { h with
    complete := fun patch hmem => (h.complete patch hmem).samePlaces (hplaces patch hmem)
    notes := fun name key => ?_ }
  rw [h.notes]
  refine exists_congr fun patch => and_congr_right fun hmem => ?_
  rw [(hplaces patch hmem).uses_iff]

end Sound

end Ledger

end Patchbay
