import Patchbay.Proofs.PatchAdmission
import Patchbay.Proofs.Teardown

/-!
# When a config can be reset

A stream that is open on a config holds it, and so does a patch that connects it. A config that is
held cannot be reset. One that is not held can, with one exception: the record of usage files a
patch under the keys of its configs and under those of their ports, and the config of an attached
device may share the key of its port. Such a config cannot be reset either while a patch connects
another config of the port, although nothing holds it (`Bay.not_reset_iff_unheld`).

`Bay.config_reset_exact` gives the exact condition, the class of the fault otherwise, and the table
of configs after a reset.
-/

namespace Patchbay

namespace Patch

variable {configs : List Config} {patch : Patch} {key : Key}

/-- To use the key of a config is to connect the config, or another one of the port that has the
same key. -/
theorem uses_iff_of_mem (hmem : key ∈ Table.keys configs) :
    patch.Uses configs key ↔ key ∈ patch.configs ∨ patch.UsesPort configs key := by
  constructor
  · rintro ⟨config, hconfig, hnamed, rfl | hport⟩
    · left
      exact hnamed
    · right
      exact ⟨config, hconfig, hnamed, hport⟩
  · rintro (hnamed | ⟨config, hconfig, hnamed, hport⟩)
    · obtain ⟨config, hconfig, hid⟩ := Table.mem_keys.1 hmem
      have hid : config.id = key := hid
      exact ⟨config, hconfig, hid ▸ hnamed, .inl hid⟩
    · exact ⟨config, hconfig, hnamed, .inr hport⟩

end Patch

namespace Graph

variable {topology : Topology} {graph : Graph} {config : Key}

/-- A config of the topology goes back to its initial state where it stands. -/
theorem Grown.resetConfigs_of_initial (h : graph.Grown topology) {initial : Config}
    (hinitial : Table.find? topology.configs config = some initial) :
    graph.resetConfigs config =
      graph.configs.map fun old => if old.id = config then initial else old := by
  have hid : initial.id = config := Table.key_of_find? hinitial
  unfold resetConfigs
  rw [h.initial, hinitial, ← hid]
  exact Table.replace_eq_map h.configs_nodup

/-- Any other config goes. -/
theorem Grown.resetConfigs_of_new (h : graph.Grown topology)
    (hnew : config ∉ Table.keys topology.configs) :
    graph.resetConfigs config = graph.configs.filter (·.id != config) := by
  unfold resetConfigs
  rw [h.initial, Table.find?_eq_none.2 hnew]
  exact Table.remove_eq_filter h.configs_nodup

end Graph

namespace Bay

/-- A stream is open on the config, or a patch connects it. -/
def Holds (bay : Bay) (config : Key) : Prop :=
  bay.hasStream config = true ∨ ∃ patch ∈ bay.ledger.patches, config ∈ patch.configs

/-- A patch connects a config of the port. -/
def PatchedAt (bay : Bay) (port : Key) : Prop :=
  ∃ patch ∈ bay.ledger.patches, patch.UsesPort bay.graph.configs port

instance (bay : Bay) (config : Key) : Decidable (bay.Holds config) :=
  inferInstanceAs (Decidable (_ ∨ _))

instance (bay : Bay) (port : Key) : Decidable (bay.PatchedAt port) :=
  inferInstanceAs (Decidable (∃ patch ∈ bay.ledger.patches, _))

variable {topology : Topology} {query : ProfileQuery} {bay : Bay} {config patch : Key}

/-! ## The checks of a reset -/

theorem respond_resetConfig_unknown (hunknown : config ∉ Table.keys bay.graph.configs) :
    bay.respond (.resetConfig config) = .error (.configNotFound config) := by
  simp only [respond, bind_eq_error, require_eq_error, Table.holds_iff]
  exact .inl ⟨hunknown, trivial⟩

theorem respond_resetConfig_streaming (hmem : config ∈ Table.keys bay.graph.configs)
    (hstream : bay.hasStream config = true) :
    bay.respond (.resetConfig config) = .error (.configHasOpenStream config) := by
  simp only [respond, bind_eq_error, require_eq_error, require_eq_ok, Table.holds_iff]
  exact .inr ⟨(), hmem, .inl ⟨by simp [hstream], trivial⟩⟩

theorem respond_resetConfig_patched (hmem : config ∈ Table.keys bay.graph.configs)
    (hclosed : bay.hasStream config = false) (husing : bay.ledger.using? config = some patch) :
    bay.respond (.resetConfig config) = .error (.configPatched config patch) := by
  simp only [respond, bind_eq_error, require_eq_ok, Table.holds_iff]
  refine .inr ⟨(), hmem, .inr ⟨(), by simp [hclosed], ?_⟩⟩
  rw [husing]
  rfl

/-- The ledger finds no patch under the key of a config exactly when no patch connects the config
or another one of the port that has the same key. -/
theorem Sound.using?_eq_none_iff (h : bay.Sound topology)
    (hmem : config ∈ Table.keys bay.graph.configs) :
    bay.ledger.using? config = none ↔
      (¬ ∃ patch ∈ bay.ledger.patches, config ∈ patch.configs) ∧ ¬ bay.PatchedAt config := by
  rw [h.ledger.using?_eq_none_iff]
  simp only [Patch.uses_iff_of_mem hmem, not_or]
  constructor
  · intro hunused
    exact ⟨fun ⟨patch, hpatch, hnamed⟩ => (hunused patch hpatch).1 hnamed,
      fun ⟨patch, hpatch, huses⟩ => (hunused patch hpatch).2 huses⟩
  · rintro ⟨hnamed, huses⟩ patch hpatch
    exact ⟨fun hmem => hnamed ⟨patch, hpatch, hmem⟩, fun hport => huses ⟨patch, hpatch, hport⟩⟩

/-- The three outcomes of a reset. -/
theorem Sound.resetConfig_cases (h : bay.Sound topology) (config : Key) :
    (config ∉ Table.keys bay.graph.configs ∧
        ∃ fault, bay.step (.resetConfig config) = (.error fault, bay) ∧
          fault.kind = .invalidArgument) ∨
      ((config ∈ Table.keys bay.graph.configs ∧ (bay.Holds config ∨ bay.PatchedAt config)) ∧
        ∃ fault, bay.step (.resetConfig config) = (.error fault, bay) ∧
          fault.kind = .illegalState) ∨
      ((config ∈ Table.keys bay.graph.configs ∧ ¬ bay.Holds config ∧ ¬ bay.PatchedAt config) ∧
        bay.step (.resetConfig config) =
          (.ok .done, bay.withConfigs (bay.graph.resetConfigs config))) := by
  by_cases hmem : config ∈ Table.keys bay.graph.configs
  · right
    by_cases hstream : bay.hasStream config = true
    · left
      refine ⟨⟨hmem, .inl (.inl hstream)⟩, .configHasOpenStream config, step_of_error ?_, rfl⟩
      exact respond_resetConfig_streaming hmem hstream
    · have hclosed : bay.hasStream config = false := Bool.eq_false_iff.2 hstream
      have hunused := h.using?_eq_none_iff hmem
      cases husing : bay.ledger.using? config with
      | some patch =>
        left
        refine ⟨⟨hmem, ?_⟩, .configPatched config patch, step_of_error ?_, rfl⟩
        · -- otherwise no patch would be found
          apply Classical.byContradiction
          intro hneither
          rw [not_or] at hneither
          have hnone := hunused.2 ⟨fun hnamed => hneither.1 (.inr hnamed), hneither.2⟩
          rw [husing] at hnone
          cases hnone
        · exact respond_resetConfig_patched hmem hclosed husing
      | none =>
        right
        obtain ⟨hnamed, hport⟩ := hunused.1 husing
        refine ⟨⟨hmem, ?_, hport⟩, ?_⟩
        · rintro (hopen | hpatched)
          · exact hstream hopen
          · exact hnamed hpatched
        · apply step_of_respond
          exact respond_resetConfig (Table.holds_iff.2 hmem) hclosed husing
  · left
    refine ⟨hmem, .configNotFound config, step_of_error ?_, rfl⟩
    exact respond_resetConfig_unknown hmem

/-- A reset is granted exactly to a config that exists, is not held, and has not the key of a port
that is patched. -/
theorem Sound.isOk_resetConfig_iff (h : bay.Sound topology) :
    (bay.step (.resetConfig config)).1.isOk = true ↔
      config ∈ Table.keys bay.graph.configs ∧ ¬ bay.Holds config ∧ ¬ bay.PatchedAt config := by
  rcases h.resetConfig_cases config with ⟨hunknown, fault, hstep, _⟩ |
    ⟨⟨_, hheld⟩, fault, hstep, _⟩ | ⟨hfree, hstep⟩
  · rw [hstep]
    exact iff_of_false nofun fun hfree => hunknown hfree.1
  · rw [hstep]
    refine iff_of_false nofun fun hfree => ?_
    exact hheld.elim hfree.2.1 hfree.2.2
  · rw [hstep]
    exact iff_of_true rfl hfree

/-- **A config can be reset when it is free.** In a reachable bay, a reset gets a fault of the
request when the config does not exist, and a fault of the state when the config is held or has the
key of a port that is patched. Otherwise it is granted: a config of the topology goes back to its
initial state where it stands, any other config goes, and nothing else changes. So a reset is
granted exactly to the configs that exist and are not held, unless a config that is not held has
the key of a port that is patched. -/
theorem config_reset_exact (h : Reachable topology query bay) (config : Key) :
    ((∃ fault, bay.step (.resetConfig config) = (.error fault, bay) ∧
        fault.kind = .invalidArgument) ↔ config ∉ Table.keys bay.graph.configs) ∧
    ((∃ fault, bay.step (.resetConfig config) = (.error fault, bay) ∧
        fault.kind = .illegalState) ↔
      config ∈ Table.keys bay.graph.configs ∧ (bay.Holds config ∨ bay.PatchedAt config)) ∧
    (config ∈ Table.keys bay.graph.configs → ¬ bay.Holds config → ¬ bay.PatchedAt config →
      (∀ initial, Table.find? topology.configs config = some initial →
        bay.step (.resetConfig config) = (.ok .done,
          bay.withConfigs (bay.graph.configs.map fun old =>
            if old.id = config then initial else old))) ∧
      (config ∉ Table.keys topology.configs →
        bay.step (.resetConfig config) = (.ok .done,
          bay.withConfigs (bay.graph.configs.filter (·.id != config))))) ∧
    (((bay.step (.resetConfig config)).1.isOk = true ↔
        config ∈ Table.keys bay.graph.configs ∧ ¬ bay.Holds config) ↔
      ¬ (config ∈ Table.keys bay.graph.configs ∧ ¬ bay.Holds config ∧ bay.PatchedAt config)) := by
  have hsound := h.sound
  have hcases := hsound.resetConfig_cases config
  refine ⟨⟨?_, fun hunknown => ?_⟩, ⟨?_, fun hheld => ?_⟩, fun hmem hunheld hport => ?_, ?_⟩
  · intro hfault
    rcases hcases with ⟨hunknown, _⟩ | ⟨_, hother⟩ | ⟨_, hstep⟩
    · exact hunknown
    · cases kind_unique hfault hother
    · exact absurd hfault (not_refused hstep)
  · rcases hcases with ⟨_, hfault⟩ | ⟨hheld, _⟩ | ⟨hfree, _⟩
    · exact hfault
    · exact absurd hheld.1 hunknown
    · exact absurd hfree.1 hunknown
  · intro hfault
    rcases hcases with ⟨_, hother⟩ | ⟨hheld, _⟩ | ⟨_, hstep⟩
    · cases kind_unique hfault hother
    · exact hheld
    · exact absurd hfault (not_refused hstep)
  · rcases hcases with ⟨hunknown, _⟩ | ⟨_, hfault⟩ | ⟨hfree, _⟩
    · exact absurd hheld.1 hunknown
    · exact hfault
    · exact absurd hheld.2 (not_or.2 hfree.2)
  · rcases hcases with ⟨hunknown, _⟩ | ⟨hheld, _⟩ | ⟨_, hstep⟩
    · exact absurd hmem hunknown
    · exact absurd hheld.2 (not_or.2 ⟨hunheld, hport⟩)
    · refine ⟨fun initial hinitial => ?_, fun hnew => ?_⟩
      · rw [hstep, hsound.graph.resetConfigs_of_initial hinitial]
      · rw [hstep, hsound.graph.resetConfigs_of_new hnew]
  · rw [hsound.isOk_resetConfig_iff]
    constructor
    · rintro hiff ⟨hmem, hunheld, hport⟩
      exact (hiff.2 ⟨hmem, hunheld⟩).2.2 hport
    · intro hfree
      constructor
      · rintro ⟨hmem, hunheld, _⟩
        exact ⟨hmem, hunheld⟩
      · rintro ⟨hmem, hunheld⟩
        exact ⟨hmem, hunheld, fun hport => hfree ⟨hmem, hunheld, hport⟩⟩

/-- A config on the speaker and two for ordinary output, the first of them patched to the speaker,
and another sample rate for the config of the microphone. -/
def speakerPair : List Request :=
  [ .playPcm 1 0 .stereo, .playPcm 3 2 .stereo, .playPcm 3 2 .stereo,
    .setPatch (.request [9] [8]),
    .setConfig { Config.blank with id := 2, sampleRate := some 16000 } ]

/-- The patched config is held, the other one for ordinary output goes, and that of the microphone
gets its first sample rate back. -/
theorem speakerPair_resets :
    ∃ bay, bay = ((builtIn .unavailable).run speakerPair).2 ∧
      Reachable .builtIn .unavailable bay ∧
      (∃ fault, bay.step (.resetConfig 11) = (.error fault, bay) ∧
        fault.kind = .invalidArgument) ∧
      (∃ fault, bay.step (.resetConfig 8) = (.error fault, bay) ∧ fault.kind = .illegalState) ∧
      bay.step (.resetConfig 10) =
        (.ok .done, bay.withConfigs (bay.graph.configs.filter (·.id != 10))) ∧
      (∃ initial, Table.find? Topology.builtIn.configs 2 = some initial ∧
        initial ∉ bay.graph.configs ∧
        bay.step (.resetConfig 2) = (.ok .done, bay.withConfigs (bay.graph.configs.map fun old =>
          if old.id = 2 then initial else old))) ∧
      ((bay.step (.resetConfig 10)).1.isOk = true ↔
        10 ∈ Table.keys bay.graph.configs ∧ ¬ bay.Holds 10) := by
  have hstart : ofTopology? .builtIn .unavailable = .ok (builtIn .unavailable) := rfl
  have hreach := (Reachable.start hstart).run speakerPair
  refine ⟨_, rfl, hreach, ?_, ?_, ?_, ?_, ?_⟩
  · obtain ⟨hunknown, _⟩ := config_reset_exact hreach 11
    exact hunknown.2 (by decide)
  · obtain ⟨_, hheld, _⟩ := config_reset_exact hreach 8
    exact hheld.2 (by decide)
  · obtain ⟨_, _, hgranted, _⟩ := config_reset_exact hreach 10
    exact (hgranted (by decide) (by decide) (by decide)).2 (by decide)
  · obtain ⟨_, _, hgranted, _⟩ := config_reset_exact hreach 2
    refine ⟨_, rfl, by decide, ?_⟩
    exact (hgranted (by decide) (by decide) (by decide)).1 _ rfl
  · obtain ⟨_, _, _, hexact⟩ := config_reset_exact hreach 10
    exact hexact.2 (by decide)

/-- Not every config that nothing holds can be reset: the first config of the speaker shares its
key with the speaker, to which a patch connects another config. -/
theorem not_reset_iff_unheld :
    ¬ ∀ topology query bay, Reachable topology query bay → ∀ config,
      ((bay.step (.resetConfig config)).1.isOk = true ↔
        config ∈ Table.keys bay.graph.configs ∧ ¬ bay.Holds config) := by
  intro h
  have hstart : ofTopology? .builtIn .unavailable = .ok (builtIn .unavailable) := rfl
  have hreach := (Reachable.start hstart).run speakerPair
  have hexact := h _ _ _ hreach 1
  have hrefused : (((builtIn .unavailable).run speakerPair).2.step (.resetConfig 1)).1.isOk = false := by
    decide
  have hgranted := hexact.2 (by decide)
  rw [hrefused] at hgranted
  cases hgranted

end Bay

end Patchbay
