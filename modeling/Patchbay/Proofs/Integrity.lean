import Patchbay.Proofs.SoundBay

/-!
# Referential integrity

The tables of a bay refer to each other by keys only. In every bay that a run reaches no
reference dangles (`Bay.Intact`), and no request removes a config that a patch names or on
which a stream is open.
-/

namespace Patchbay

namespace Bay

/-- No reference from one table to another dangles, and patches are complete. -/
structure Intact (limits : Limits) (bay : Bay) : Prop where
  config_port : ∀ config ∈ bay.graph.configs, config.portId ∈ Table.keys bay.graph.ports
  route_sink : ∀ route ∈ bay.graph.routes, route.sink ∈ Table.keys bay.graph.ports
  route_sources : ∀ route ∈ bay.graph.routes, route.sources ≠ []
  route_source : ∀ route ∈ bay.graph.routes, ∀ source ∈ route.sources,
    source ∈ Table.keys bay.graph.ports
  patch_sources : ∀ patch ∈ bay.ledger.patches, patch.sources ≠ [] ∧ patch.sources.Nodup ∧
    ∀ key ∈ patch.sources, key ∈ Table.keys bay.graph.configs
  patch_sinks : ∀ patch ∈ bay.ledger.patches, patch.sinks ≠ [] ∧ patch.sinks.Nodup ∧
    ∀ key ∈ patch.sinks, key ∈ Table.keys bay.graph.configs
  patch_latencies : ∀ patch ∈ bay.ledger.patches,
    patch.latenciesMs.length = patch.sinks.length ∧
      ∀ latency ∈ patch.latenciesMs, latency = limits.latencyMs
  patch_buffer : ∀ patch ∈ bay.ledger.patches, patch.minBufferFrames = limits.minBufferFrames
  stream_config : ∀ config ∈ bay.streams.keys, config ∈ Table.keys bay.graph.configs
  connected_device : ∀ key ∈ bay.graph.connected.keys, ∃ port ∈ bay.graph.ports,
    port.id = key ∧ port.role.isDevice = true

/-- A patch names the config, or a stream is open on it. -/
def Occupies (bay : Bay) (config : Key) : Prop :=
  (∃ patch ∈ bay.ledger.patches, config ∈ patch.configs) ∨ bay.hasStream config = true

variable {topology : Topology} {query : ProfileQuery} {bay next : Bay} {request : Request}
  {answer : Answer}

/-- A sound bay is intact. -/
theorem Sound.intact (hwf : topology.WellFormed) (h : bay.Sound topology) :
    bay.Intact topology.limits := by
  have hplaces : ∀ config ∈ bay.graph.configs, config.place ∈ bay.graph.places :=
    fun _ hmem => List.mem_map_of_mem hmem
  refine
    { config_port := fun config hmem => h.graph.place_port _ (hplaces config hmem)
      route_sink := h.graph.wired.sink
      route_sources := fun route hmem => ?_
      route_source := h.graph.wired.source
      patch_sources := fun patch hmem => ?_
      patch_sinks := fun patch hmem => ?_
      patch_latencies := fun patch hmem => ?_
      patch_buffer := fun patch hmem => ?_
      stream_config := fun config hmem => h.stream config (KeyMap.mem_keys.1 hmem)
      connected_device := fun key hmem => ?_ }
  · obtain ⟨source, hsource, _⟩ := h.graph.wired.anchor route hmem
    exact List.ne_nil_of_mem hsource
  · have hcomplete := h.ledger.complete patch hmem
    exact ⟨hcomplete.sources_ne, hcomplete.sources_nodup, hcomplete.sources_mem⟩
  · have hcomplete := h.ledger.complete patch hmem
    exact ⟨hcomplete.sinks_ne, hcomplete.sinks_nodup, hcomplete.sinks_mem⟩
  · rw [(h.ledger.complete patch hmem).latenciesMs, List.length_map, h.limits]
    refine ⟨rfl, fun latency hlatency => ?_⟩
    obtain ⟨_, _, rfl⟩ := List.mem_map.1 hlatency
    rfl
  · rw [(h.ledger.complete patch hmem).minBufferFrames, h.limits]
  · obtain ⟨port, hport, hdevice⟩ := h.graph.connected_device hwf hmem
    exact ⟨port, Table.mem_of_find? hport, Table.key_of_find? hport, hdevice⟩

/-- An occupied config outlives every effect. -/
theorem Effect.config_of_occupies (hwf : topology.WellFormed) (h : bay.Sound topology)
    (he : Effect bay request answer next) {config : Key} (hoccupied : bay.Occupies config) :
    config ∈ Table.keys next.graph.configs := by
  rcases hoccupied with ⟨patch, hpatch, hnamed⟩ | hstream
  · have hmem := (h.ledger.complete patch hpatch).configs_mem config hnamed
    exact (he.samePlaces hwf h patch hpatch).mem_keys hnamed hmem
  · exact he.config_of_stream hwf h hstream

/-- An occupied config outlives every request, granted or not. -/
theorem step_config_of_occupies (hwf : topology.WellFormed) (h : bay.Sound topology)
    (request : Request) {config : Key} (hoccupied : bay.Occupies config) :
    config ∈ Table.keys (bay.step request).2.graph.configs := by
  refine step_induction ?_ fun _ _ he => he.config_of_occupies hwf h hoccupied
  rcases hoccupied with ⟨patch, hpatch, hnamed⟩ | hstream
  · exact (h.ledger.complete patch hpatch).configs_mem config hnamed
  · exact h.stream config hstream

/-- **No reference dangles.** Whatever is requested of the bay of an accepted topology, the
bay that is reached is intact, and its next request, too, leaves every occupied config. -/
theorem run_intact (h : ofTopology? topology query = .ok bay) (requests : List Request) :
    (bay.run requests).2.Intact topology.limits ∧
      ∀ request config, (bay.run requests).2.Occupies config →
        config ∈ Table.keys ((bay.run requests).2.step request).2.graph.configs := by
  have hreach : Reachable topology query (bay.run requests).2 := (Reachable.start h).run requests
  have hsound := hreach.sound
  exact ⟨hsound.intact hreach.wellFormed,
    fun request _ => step_config_of_occupies hreach.wellFormed hsound request⟩

/-- A USB output gets connected and patched, with a stream on the patch. Then the configs
and the port are asked to go while they are in use. -/
def usbSession : List Request :=
  let stereo (port : Key) (bits : UInt32) : Config :=
    { Config.blank with
      portId := port, sampleRate := some 48000, layout := some .stereo
      format := some (.pcm .int16), flags := some ⟨.output, bits⟩ }
  let usbOutput : Port :=
    { id := Topology.BuiltIn.usbOutput, name := "USB Out", profiles := []
      flags := ⟨.output, 0⟩, role := .device ⟨⟨.outDevice, "usb"⟩, .none⟩ 0
      extraDescriptors := [] }
  [ .setDebug .simulated, .connect usbOutput, .setConfig (stereo 3 2), .setConfig (stereo 8 0),
    .setPatch (.request [9] [10]), .openOutput 9 960 ⟨[]⟩ none, .resetConfig 9, .disconnect 8 ]

theorem usbSession_intact :
    ofTopology? .builtIn .unavailable = .ok (builtIn .unavailable) ∧
      ((builtIn .unavailable).run usbSession).2.Intact .standard ∧
      ((builtIn .unavailable).run usbSession).2.Occupies 10 ∧
      10 ∈ Table.keys
        (((builtIn .unavailable).run usbSession).2.step (.resetConfig 10)).2.graph.configs := by
  have hstart : ofTopology? .builtIn .unavailable = .ok (builtIn .unavailable) := rfl
  have hoccupied : ((builtIn .unavailable).run usbSession).2.Occupies 10 := .inl (by decide)
  obtain ⟨hintact, hkept⟩ := run_intact hstart usbSession
  exact ⟨hstart, hintact, hoccupied, hkept _ _ hoccupied⟩

/-! ## The record of usage -/

/-- **The record of usage is exact.** In a reachable bay a patch is on record for a key
exactly when the table of patches has it and it connects a config with that key or of that
port. No key is kept without patches. -/
theorem usage_exact (h : Reachable topology query bay) :
    (∀ key name, (bay.ledger.usage.patchesOf key).contains name = true ↔
      ∃ patch ∈ bay.ledger.patches, patch.id = name ∧ patch.Uses bay.graph.configs key) ∧
    (∀ key patches, bay.ledger.usage.byKey.get? key = some patches →
      patches.isEmpty = false) ∧
    ∀ key, bay.ledger.usage.isUsed key = true ↔
      ∃ patch ∈ bay.ledger.patches, patch.Uses bay.graph.configs key := by
  have hledger := h.sound.ledger
  refine ⟨fun key name => hledger.notes name key, fun key patches hget => ?_,
    fun key => hledger.isUsed_iff⟩
  obtain ⟨patch, hpatch⟩ := hledger.tight key patches hget
  rw [Bool.eq_false_iff]
  intro hempty
  rw [KeyMap.isEmpty_iff.1 hempty patch] at hpatch
  cases hpatch

theorem usbSession_usage_exact :
    Reachable .builtIn .unavailable ((builtIn .unavailable).run usbSession).2 ∧
      ((builtIn .unavailable).run usbSession).2.ledger.usage.isUsed 8 = true ∧
      ∃ patch ∈ ((builtIn .unavailable).run usbSession).2.ledger.patches,
        patch.Uses ((builtIn .unavailable).run usbSession).2.graph.configs 8 := by
  have hstart : ofTopology? .builtIn .unavailable = .ok (builtIn .unavailable) := rfl
  have hreach := (Reachable.start hstart).run usbSession
  have hused : ((builtIn .unavailable).run usbSession).2.ledger.usage.isUsed 8 = true := by decide
  exact ⟨hreach, hused, ((usage_exact hreach).2.2 8).1 hused⟩

end Bay

end Patchbay
