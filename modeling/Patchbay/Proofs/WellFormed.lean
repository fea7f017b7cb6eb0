import Patchbay.Topology.Validation
import Patchbay.Proofs.Key
import Patchbay.Proofs.Table

/-!
# Well-formed topologies

What it means that the tables of a topology are in order (`Topology.WellFormed`,
`Topology.WellPatched`, `Topology.WellProfiled`), and that `Topology.validate` accepts exactly the
topologies whose tables are and that leave room for more keys (`Topology.validate_iff_valid`). Each
test of an entry is turned into its condition once (`portDefect?_eq_none`,
`configDefect?_eq_none`, `routeDefect?_eq_none`, `patchDefect?_eq_none`,
`profilesDefect?_eq_none`), and `firstDefect_nil_eq_none` carries it over to a whole table.
-/

namespace Patchbay.Topology

/-- The tables of ports, configs and routes are in order: keys are positive and distinct,
references lead to entries, and the key of a config is that of no port but its own. -/
structure WellFormed (topology : Topology) : Prop where
  ports_pos : ∀ port ∈ topology.ports, 0 < port.id
  ports_nodup : (Table.keys topology.ports).Nodup
  configs_pos : ∀ config ∈ topology.configs, 0 < config.id
  configs_nodup : (Table.keys topology.configs).Nodup
  config_port : ∀ config ∈ topology.configs, config.portId ∈ Table.keys topology.ports
  config_apart : ∀ config ∈ topology.configs,
    config.id ∈ Table.keys topology.ports → config.id = config.portId
  route_sources : ∀ route ∈ topology.routes, route.sources ≠ []
  route_sink : ∀ route ∈ topology.routes, route.sink ∈ Table.keys topology.ports
  route_source : ∀ route ∈ topology.routes,
    ∀ source ∈ route.sources, source ∈ Table.keys topology.ports

/-- The table of patches is in order: keys are positive and distinct, and every patch connects
configs that exist, from at least one source to at least one sink. -/
structure WellPatched (topology : Topology) : Prop where
  patches_pos : ∀ patch ∈ topology.patches, 0 < patch.id
  patches_nodup : (Table.keys topology.patches).Nodup
  patch_sources : ∀ patch ∈ topology.patches, patch.sources ≠ []
  patch_sinks : ∀ patch ∈ topology.patches, patch.sinks ≠ []
  patch_config : ∀ patch ∈ topology.patches,
    ∀ config ∈ patch.configs, config ∈ Table.keys topology.configs

/-- Devices with profiles of their own are made from device ports of the topology. -/
def WellProfiled (topology : Topology) : Prop :=
  ∀ template ∈ topology.connectedProfiles.keys,
    ∃ port ∈ topology.ports, port.id = template ∧ port.role.isDevice = true

/-! ## Tests of single entries -/

theorem portDefect?_eq_none {earlier : List Port} {port : Port} :
    portDefect? earlier port = none ↔ 0 < port.id ∧ port.id ∉ Table.keys earlier := by
  unfold portDefect?
  rw [← Table.holds_iff]
  by_cases hpos : port.id ≤ 0
  · simp [hpos, Int32.not_lt.2 hpos]
  · rw [if_neg hpos, Int32.not_le] at *
    simp [hpos]

theorem configDefect?_eq_none {ports : List Port} {earlier : List Config} {config : Config} :
    configDefect? ports earlier config = none ↔
      (0 < config.id ∧ config.portId ∈ Table.keys ports ∧
        (config.id ∈ Table.keys ports → config.id = config.portId)) ∧
      config.id ∉ Table.keys earlier := by
  have hearlier : (earlier.any fun other => other.id == config.id && other.id != other.portId) =
      true → Table.holds earlier config.id = true := by
    intro h
    obtain ⟨other, hmem, hother⟩ := List.any_eq_true.1 h
    rw [Bool.and_eq_true] at hother
    exact List.any_eq_true.2 ⟨other, hmem, hother.1⟩
  unfold configDefect? collides
  simp only [← Table.holds_iff]
  by_cases hpos : config.id ≤ 0
  · simp [hpos, Int32.not_lt.2 hpos]
  · rw [if_neg hpos, Int32.not_le] at *
    by_cases hport : Table.holds ports config.portId = true
    · by_cases hholds : Table.holds earlier config.id = true
      · simp only [hport, hholds, Bool.not_true, Bool.false_eq_true, if_false, if_true,
          not_true_eq_false, and_false, iff_false]
        split <;> simp
      · -- no earlier config has this key, with or without a port of its own
        have hany := Bool.eq_false_iff.2 (mt hearlier hholds)
        simp only [hany, hport, hholds, Bool.or_false]
        by_cases hown : config.id = config.portId <;> simp [hown, hpos, hport]
        rw [← hown]
        exact hpos
    · simp [hport]

theorem routeDefect?_eq_none {ports : List Port} {route : Route} :
    routeDefect? ports route = none ↔
      route.sources ≠ [] ∧ route.sink ∈ Table.keys ports ∧
        ∀ source ∈ route.sources, source ∈ Table.keys ports := by
  unfold routeDefect?
  simp only [← Table.holds_iff, ne_eq, ← List.isEmpty_iff]
  by_cases hempty : route.sources.isEmpty = true
  · simp [hempty]
  · by_cases hsink : Table.holds ports route.sink = true <;> simp [hempty, hsink]

theorem patchDefect?_eq_none {configs : List Config} {earlier : List Patch} {patch : Patch} :
    patchDefect? configs earlier patch = none ↔
      (0 < patch.id ∧ patch.sources ≠ [] ∧ patch.sinks ≠ [] ∧
        ∀ config ∈ patch.configs, config ∈ Table.keys configs) ∧
      patch.id ∉ Table.keys earlier := by
  unfold patchDefect?
  simp only [← Table.holds_iff, ne_eq, ← List.isEmpty_iff]
  by_cases hpos : patch.id ≤ 0
  · simp [hpos, Int32.not_lt.2 hpos]
  · have hlt := Int32.not_le.1 hpos
    by_cases hold : Table.holds earlier patch.id = true
    · simp [hold]
    · by_cases hsources : patch.sources.isEmpty = true
      · simp [hpos, hold, hsources]
      · by_cases hsinks : patch.sinks.isEmpty = true
        · simp [hpos, hold, hsinks]
        · simp [hpos, hold, hsources, hsinks, hlt]

/-- When keys are distinct, it does not matter that only the first port with a key is looked at. -/
theorem profilesDefect?_eq_none {ports : List Port} (hnd : (Table.keys ports).Nodup)
    {template : Key} :
    profilesDefect? ports template = none ↔
      ∃ port ∈ ports, port.id = template ∧ port.role.isDevice = true := by
  unfold profilesDefect?
  constructor
  · intro hnone
    cases hfind : Table.find? ports template with
    | none => simp [hfind] at hnone
    | some port =>
      have hdevice : port.role.isDevice = true := by simpa [hfind] using hnone
      exact ⟨port, Table.mem_of_find? hfind, Table.key_of_find? hfind, hdevice⟩
  · rintro ⟨port, hmem, rfl, hdevice⟩
    have hfind : Table.find? ports port.id = some port := Table.find?_of_mem hnd hmem
    simp [hfind, hdevice]

/-! ## Whole tables -/

/-- When the test of an entry asks for a key that no earlier entry has, a part of a table has no
defect when its keys are distinct, too. -/
theorem firstDefect_eq_none {α : Type} [Keyed α] {examine : List α → α → Option Defect}
    {good : α → Prop}
    (h : ∀ earlier entry,
      examine earlier entry = none ↔ good entry ∧ Keyed.key entry ∉ Table.keys earlier)
    {earlier entries : List α} :
    firstDefect examine earlier entries = none ↔
      (∀ entry ∈ entries, good entry) ∧ (Table.keys entries).Nodup ∧
        ∀ entry ∈ entries, Keyed.key entry ∉ Table.keys earlier := by
  induction entries generalizing earlier with
  | nil => simp [firstDefect, Table.keys]
  | cons first rest ih =>
    have hkeys : Table.keys (first :: rest) = Keyed.key first :: Table.keys rest := rfl
    have hlast : Table.keys [first] = [Keyed.key first] := rfl
    have hfresh : (∀ entry ∈ rest, Keyed.key entry ∉ Table.keys (earlier ++ [first])) ↔
        Keyed.key first ∉ Table.keys rest ∧
          ∀ entry ∈ rest, Keyed.key entry ∉ Table.keys earlier := by
      rw [Table.mem_keys, Table.keys_append, hlast]
      simp only [List.mem_append, List.mem_singleton, not_or, not_exists, not_and]
      exact ⟨fun hall => ⟨fun e he => (hall e he).2, fun e he => (hall e he).1⟩,
        fun hall e he => ⟨hall.2 e he, hall.1 e he⟩⟩
    unfold firstDefect
    rw [Option.or_eq_none_iff, h, ih, hfresh, hkeys, List.nodup_cons, List.forall_mem_cons,
      List.forall_mem_cons]
    exact ⟨fun ⟨⟨hg, hf⟩, hgs, hnd, hnew, hfs⟩ => ⟨⟨hg, hgs⟩, ⟨hnew, hnd⟩, hf, hfs⟩,
      fun ⟨⟨hg, hgs⟩, ⟨hnew, hnd⟩, hf, hfs⟩ => ⟨⟨hg, hf⟩, hgs, hnd, hnew, hfs⟩⟩

/-- A whole table has no defect when its entries are good and its keys distinct. -/
theorem firstDefect_nil_eq_none {α : Type} [Keyed α] {examine : List α → α → Option Defect}
    {good : α → Prop}
    (h : ∀ earlier entry,
      examine earlier entry = none ↔ good entry ∧ Keyed.key entry ∉ Table.keys earlier)
    {entries : List α} :
    firstDefect examine [] entries = none ↔
      (∀ entry ∈ entries, good entry) ∧ (Table.keys entries).Nodup := by
  rw [firstDefect_eq_none h]
  simp [Table.keys]

/-- A topology is accepted when its tables have no defect and each space of keys has room for
another one. -/
theorem validate_eq_ok {topology : Topology} :
    topology.validate = .ok () ↔
      topology.tableDefect? = none ∧ topology.lastPortKey.next?.isSome = true ∧
        topology.lastPatchKey.next?.isSome = true := by
  unfold validate nextPortKey nextPatchKey
  cases topology.tableDefect? with
  | some defect => exact ⟨nofun, nofun⟩
  | none =>
    cases topology.lastPortKey.next? with
    | none => exact ⟨nofun, nofun⟩
    | some _ =>
      cases topology.lastPatchKey.next? with
      | none => exact ⟨nofun, nofun⟩
      | some _ => exact ⟨fun _ => ⟨rfl, rfl, rfl⟩, fun _ => rfl⟩

/-- The tables have no defect exactly when they are in order. -/
theorem tableDefect?_eq_none {topology : Topology} :
    topology.tableDefect? = none ↔
      topology.WellFormed ∧ topology.WellPatched ∧ topology.WellProfiled ∧
        0 < topology.limits.minBufferFrames := by
  unfold tableDefect?
  simp only [Option.or_eq_none_iff, List.findSome?_eq_none_iff, ite_eq_right_iff, reduceCtorEq,
    imp_false, Int32.not_le]
  constructor
  · rintro ⟨hports, hconfigs, hroutes, hpatches, hprofiles, hbuffer⟩
    obtain ⟨hports_pos, hports_nodup⟩ :=
      (firstDefect_nil_eq_none fun _ _ => portDefect?_eq_none).1 hports
    obtain ⟨hconfig, hconfigs_nodup⟩ :=
      (firstDefect_nil_eq_none fun _ _ => configDefect?_eq_none).1 hconfigs
    obtain ⟨hpatch, hpatches_nodup⟩ :=
      (firstDefect_nil_eq_none fun _ _ => patchDefect?_eq_none).1 hpatches
    have hroute := fun route hmem => routeDefect?_eq_none.1 (hroutes route hmem)
    refine ⟨?_, ?_, fun template hmem => ?_, hbuffer⟩
    · exact
        { ports_pos := hports_pos
          ports_nodup := hports_nodup
          configs_pos := fun config hmem => (hconfig config hmem).1
          configs_nodup := hconfigs_nodup
          config_port := fun config hmem => (hconfig config hmem).2.1
          config_apart := fun config hmem => (hconfig config hmem).2.2
          route_sources := fun route hmem => (hroute route hmem).1
          route_sink := fun route hmem => (hroute route hmem).2.1
          route_source := fun route hmem => (hroute route hmem).2.2 }
    · exact
        { patches_pos := fun patch hmem => (hpatch patch hmem).1
          patches_nodup := hpatches_nodup
          patch_sources := fun patch hmem => (hpatch patch hmem).2.1
          patch_sinks := fun patch hmem => (hpatch patch hmem).2.2.1
          patch_config := fun patch hmem => (hpatch patch hmem).2.2.2 }
    · exact (profilesDefect?_eq_none hports_nodup).1 (hprofiles template hmem)
  · rintro ⟨hformed, hpatched, hprofiled, hbuffer⟩
    refine ⟨?_, ?_, fun route hmem => ?_, ?_, fun template hmem => ?_, hbuffer⟩
    · exact (firstDefect_nil_eq_none fun _ _ => portDefect?_eq_none).2
        ⟨hformed.ports_pos, hformed.ports_nodup⟩
    · refine (firstDefect_nil_eq_none fun _ _ => configDefect?_eq_none).2
        ⟨fun config hmem => ?_, hformed.configs_nodup⟩
      exact ⟨hformed.configs_pos config hmem, hformed.config_port config hmem,
        hformed.config_apart config hmem⟩
    · exact routeDefect?_eq_none.2 ⟨hformed.route_sources route hmem,
        hformed.route_sink route hmem, hformed.route_source route hmem⟩
    · refine (firstDefect_nil_eq_none fun _ _ => patchDefect?_eq_none).2
        ⟨fun patch hmem => ?_, hpatched.patches_nodup⟩
      exact ⟨hpatched.patches_pos patch hmem, hpatched.patch_sources patch hmem,
        hpatched.patch_sinks patch hmem, hpatched.patch_config patch hmem⟩
    · exact (profilesDefect?_eq_none hformed.ports_nodup).2 (hprofiled template hmem)

/-- The tables of a topology that is accepted are in order. -/
theorem wellFormed_of_validate {topology : Topology} (h : topology.validate = .ok ()) :
    topology.WellFormed :=
  (tableDefect?_eq_none.1 (validate_eq_ok.1 h).1).1

/-! ## Initial patches -/

/-- The initial patches of a topology that is accepted have positive and distinct keys. -/
theorem patches_of_validate {topology : Topology} (h : topology.validate = .ok ()) :
    (∀ patch ∈ topology.patches, 0 < patch.id) ∧ (Table.keys topology.patches).Nodup := by
  obtain ⟨_, hpatched, _⟩ := tableDefect?_eq_none.1 (validate_eq_ok.1 h).1
  exact ⟨hpatched.patches_pos, hpatched.patches_nodup⟩

/-- The space of patch keys has room for more keys than there are initial patches. -/
theorem length_patches_of_validate {topology : Topology} (h : topology.validate = .ok ()) :
    (topology.patches.length : Int) < 2147483647 := by
  obtain ⟨hpos, hnodup⟩ := patches_of_validate h
  have hkeys : ∀ key ∈ Table.keys topology.patches, 0 < key := by
    intro key hkey
    obtain ⟨patch, hmem, rfl⟩ := Table.mem_keys.1 hkey
    exact hpos patch hmem
  have hlength : (topology.patches.length : Int) ≤ topology.lastPatchKey.toInt := by
    have hlast := Key.length_le_last hnodup hkeys
    unfold Table.keys at hlast
    rw [List.length_map] at hlast
    exact hlast
  obtain ⟨key, hkey⟩ := Option.isSome_iff_exists.1 (validate_eq_ok.1 h).2.2
  have hnext := Key.toInt_of_next? hkey
  have hmax := Int32.toInt_le key
  have hvalue : Int32.maxValue.toInt = 2147483647 := rfl
  omega

/-- What is accepted with initial patches is accepted without them. -/
theorem validate_withoutPatches {topology : Topology} (h : topology.validate = .ok ()) :
    { topology with patches := [] }.validate = .ok () := by
  obtain ⟨hnone, hport, _⟩ := validate_eq_ok.1 h
  unfold tableDefect? at hnone
  simp only [Option.or_eq_none_iff] at hnone
  obtain ⟨hports, hconfigs, hroutes, _, hrest⟩ := hnone
  refine validate_eq_ok.2 ⟨?_, hport, rfl⟩
  unfold tableDefect?
  simp only [Option.or_eq_none_iff]
  exact ⟨hports, hconfigs, hroutes, rfl, hrest⟩

/-! ## The last key -/

theorem port_le_last {topology : Topology} {key : Key} (h : key ∈ Table.keys topology.ports) :
    key ≤ topology.lastPortKey :=
  Int32.le_trans (Key.le_last h) Std.left_le_max

theorem config_le_last {topology : Topology} {key : Key}
    (h : key ∈ Table.keys topology.configs) : key ≤ topology.lastPortKey :=
  Int32.le_trans (Key.le_last h) Std.right_le_max

theorem WellFormed.port_pos {topology : Topology} (h : topology.WellFormed) {key : Key}
    (hkey : key ∈ Table.keys topology.ports) : 0 < key := by
  obtain ⟨port, hport, rfl⟩ := Table.mem_keys.1 hkey
  exact h.ports_pos port hport

theorem WellFormed.lastPortKey_nonneg {topology : Topology} (h : topology.WellFormed) :
    0 ≤ topology.lastPortKey := by
  have hlength := Key.length_le_last h.ports_nodup fun _ => h.port_pos
  have hlast : 0 ≤ Key.last (Table.keys topology.ports) := by
    rw [Int32.le_iff_toInt_le]
    exact Int.le_trans (Int.natCast_nonneg _) hlength
  exact Int32.le_trans hlast Std.left_le_max

/-! ## Acceptance -/

/-- A space of keys has room after the ports and configs exactly when none of them has the greatest
key of all. -/
theorem isSome_next?_lastPortKey {topology : Topology} :
    topology.lastPortKey.next?.isSome = true ↔
      Int32.maxValue ∉ Table.keys topology.ports ∧
        Int32.maxValue ∉ Table.keys topology.configs := by
  rw [Key.isSome_next?_iff]
  constructor
  · intro hroom
    constructor
    · intro hmem
      exact hroom (Int32.le_antisymm (Int32.le_maxValue _) (port_le_last hmem))
    · intro hmem
      exact hroom (Int32.le_antisymm (Int32.le_maxValue _) (config_le_last hmem))
  · rintro ⟨hports, hconfigs⟩ hlast
    have heither : topology.lastPortKey = Key.last (Table.keys topology.ports) ∨
        topology.lastPortKey = Key.last (Table.keys topology.configs) := Std.max_eq_or
    rcases heither with hmax | hmax
    · exact hports (Key.last_eq_maxValue.1 (hmax.symm.trans hlast))
    · exact hconfigs (Key.last_eq_maxValue.1 (hmax.symm.trans hlast))

/-- The tables of a topology are in order, the least buffer is not empty, and no entry has the
greatest key of all, so that there are keys for more of them. -/
structure Valid (topology : Topology) : Prop extends
    topology.WellFormed, topology.WellPatched where
  profiled : topology.WellProfiled
  buffer_pos : 0 < topology.limits.minBufferFrames
  port_room : ∀ port ∈ topology.ports, port.id ≠ Int32.maxValue
  config_room : ∀ config ∈ topology.configs, config.id ≠ Int32.maxValue
  patch_room : ∀ patch ∈ topology.patches, patch.id ≠ Int32.maxValue

/-- **Exactly the valid topologies are accepted.** -/
theorem validate_iff_valid (topology : Topology) : topology.validate = .ok () ↔ topology.Valid := by
  have hroom : ∀ {α : Type} [Keyed α] {table : List α},
      Int32.maxValue ∉ Table.keys table ↔ ∀ entry ∈ table, Keyed.key entry ≠ Int32.maxValue := by
    intro α _ table
    rw [Table.mem_keys, not_exists]
    simp only [not_and, ne_eq]
  rw [validate_eq_ok, tableDefect?_eq_none, isSome_next?_lastPortKey, Key.isSome_next?_iff]
  unfold lastPatchKey
  rw [ne_eq, Key.last_eq_maxValue]
  constructor
  · rintro ⟨⟨hformed, hpatched, hprofiled, hbuffer⟩, ⟨hports, hconfigs⟩, hpatches⟩
    exact
      { hformed, hpatched with
        profiled := hprofiled
        buffer_pos := hbuffer
        port_room := hroom.1 hports
        config_room := hroom.1 hconfigs
        patch_room := hroom.1 hpatches }
  · intro h
    exact ⟨⟨h.toWellFormed, h.toWellPatched, h.profiled, h.buffer_pos⟩,
      ⟨hroom.2 h.port_room, hroom.2 h.config_room⟩, hroom.2 h.patch_room⟩

end Patchbay.Topology
