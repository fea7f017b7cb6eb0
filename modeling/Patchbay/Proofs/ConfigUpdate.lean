import Patchbay.Proofs.ConfigCreation

/-!
# What becomes of an update of a config

An update names a config by its key and any of its fields, and is laid over the config as it is.
Its layout and its sample rate are checked against the profile for the format that it settles with,
which may be the one that the config has had before (`Config.formatOn`). That one need not be
supported any more, and then the update is refused (`Bay.Unsettled`). Otherwise it is made exactly
if all that it names is supported, and it stays within the config. `Bay.config_update_exact` says
this, and that an update that is sent again changes nothing: what it has left behind settles with
the same format.
-/

namespace Patchbay

namespace Config

variable {port : Port} {profile : Profile} {request current : Config}

/-- The format that an update settles with: the one that it names, if the port has a profile for
it, and that of the config otherwise. -/
def formatOn (port : Port) (request current : Config) : Option Format :=
  if (request.format.bind port.profile?).isSome then request.format else current.format

/-- All that the update names is supported: its flags are those of the port, the port has a profile
for its format, and layout and sample rate belong to the given profile. -/
structure Accepted (port : Port) (profile : Profile) (request : Config) : Prop extends
    request.Offered port profile where
  format : ∀ format ∈ request.format, (port.profile? format).isSome = true

/-- The port has a profile for a format if one of its profiles has that format. -/
theorem accepted_iff :
    request.Accepted port profile ↔ request.Offered port profile ∧
      ∀ format ∈ request.format, ∃ other ∈ port.profiles, other.format = format := by
  simp only [← Port.isSome_profile?_iff]
  exact ⟨fun h => ⟨h.toOffered, h.format⟩, fun ⟨hoffered, hformat⟩ => ⟨hoffered, hformat⟩⟩

theorem formatOn_eq_settled :
    request.formatOn port current = settled request.format port.supports current.format := by
  unfold formatOn settled
  cases request.format with
  | none => rfl
  | some format =>
    rw [Option.bind_some, Option.filter_some]
    unfold Port.supports
    split <;> rfl

/-- The format of an accepted update is taken, if it names one. -/
theorem Accepted.formatOn_eq (h : request.Accepted port profile) :
    request.formatOn port current = request.format.or current.format := by
  rw [formatOn_eq_settled]
  apply settled_of_all
  rw [Option.all_eq_true]
  exact h.format

/-- An update lays nothing more over a config that it has been laid over. -/
theorem laidOver_laidOver :
    request.laidOver (request.laidOver current) = request.laidOver current := by
  unfold laidOver
  simp only [← Option.or_assoc, Option.or_self]

/-- The config that an accepted update leaves behind settles with the same format. -/
theorem Accepted.formatOn_laidOver (h : request.Accepted port profile) :
    request.formatOn port (request.laidOver current) = request.formatOn port current := by
  rw [h.formatOn_eq, h.formatOn_eq]
  exact congrArg Config.format laidOver_laidOver

end Config

namespace Port

variable {port : Port} {profile : Profile} {request current : Config}

/-- A suggestion is valid exactly if the request is accepted. -/
theorem suggestOver_valid_iff (current : Config) :
    (port.suggestOver request current profile).valid = true ↔ request.Accepted port profile := by
  unfold suggestOver
  simp only [Bool.and_eq_true, Option.all_eq_true, decide_eq_true_eq, List.contains_iff_mem]
  constructor
  · rintro ⟨⟨⟨hflags, hformat⟩, hlayout⟩, hrate⟩
    exact ⟨⟨hflags, hlayout, hrate⟩, hformat⟩
  · rintro ⟨⟨hflags, hlayout, hrate⟩, hformat⟩
    exact ⟨⟨⟨hflags, hformat⟩, hlayout⟩, hrate⟩

/-- What is accepted is laid over the config. -/
theorem suggestOver_config (h : request.Accepted port profile) :
    (port.suggestOver request current profile).config = request.laidOver current := by
  have hformat : request.format.all port.supports = true := by
    rw [Option.all_eq_true]
    exact h.format
  have hlayout : request.layout.all (profile.layouts.contains ·) = true := by
    simp only [Option.all_eq_true, List.contains_iff_mem]
    exact h.layout
  have hrate : request.sampleRate.all (profile.sampleRates.contains ·) = true := by
    simp only [Option.all_eq_true, List.contains_iff_mem]
    exact h.sampleRate
  unfold suggestOver
  rw [settled_of_all hformat, settled_of_all hlayout, settled_of_all hrate]
  rfl

/-- An update is answered with a suggestion when the format that it settles with has a profile. -/
theorem suggest_current
    (hprofile : (request.formatOn port current).bind port.profile? = some profile) :
    port.suggest request (some current) = .ok (port.suggestOver request current profile) := by
  rw [Config.formatOn_eq_settled] at hprofile
  exact suggest_eq_ok.2 ⟨current, profile, rfl, hprofile, rfl⟩

/-- Otherwise it is refused. -/
theorem suggest_current_error (hnone : (request.formatOn port current).bind port.profile? = none) :
    port.suggest request (some current) =
      .error (.formatUnsupported port.id (request.formatOn port current)) := by
  rw [Config.formatOn_eq_settled] at hnone ⊢
  show (present _ _ >>= _) = _
  rw [hnone]
  rfl

end Port

namespace Bay

/-- There is nothing to update: the config does not exist, or the format that the update settles
with is unset or has no profile on the port of the config. -/
inductive Unsettled (bay : Bay) (request : Config) : Prop
  | configMissing : request.id ∉ Table.keys bay.graph.configs → Unsettled bay request
  | formatUnset {config : Config} {port : Port} :
      Table.find? bay.graph.configs request.id = some config →
      Table.find? bay.graph.ports config.portId = some port →
      request.formatOn port config = none → Unsettled bay request
  | formatUnsupported {config : Config} {port : Port} {format : Format} :
      Table.find? bay.graph.configs request.id = some config →
      Table.find? bay.graph.ports config.portId = some port →
      request.formatOn port config = some format → port.profile? format = none →
      Unsettled bay request

/-- The bay after an update: the config that the request names has it laid over, and all others are
as they were. -/
def updated (bay : Bay) (request : Config) : Bay :=
  bay.withConfigs (bay.graph.configs.map fun config =>
    if config.id = request.id then request.laidOver config else config)

variable {topology : Topology} {query : ProfileQuery} {bay : Bay} {request config : Config}
  {port : Port} {profile : Profile}

/-- A replacement by the config with the update laid over it makes the bay that the update leads
to. -/
theorem withConfigs_replace (hnodup : (Table.keys bay.graph.configs).Nodup)
    (hconfig : Table.find? bay.graph.configs request.id = some config) :
    bay.withConfigs (Table.replace (request.laidOver config) bay.graph.configs) =
      bay.updated request := by
  unfold updated
  rw [Table.replace_eq_map hnodup]
  refine congrArg bay.withConfigs (List.map_congr_left fun other hother => ?_)
  have hid : config.id = request.id := Table.key_of_find? hconfig
  show (if other.id = config.id then request.laidOver config else other) = _
  rw [hid]
  by_cases hkey : other.id = request.id
  · -- the keys are distinct, so this is the config that has been found
    have hfound : Table.find? bay.graph.configs other.id = some other :=
      Table.find?_of_mem hnodup hother
    rw [hkey, hconfig] at hfound
    cases hfound
    rfl
  · rw [if_neg hkey, if_neg hkey]

theorem unsettled_iff (hconfig : Table.find? bay.graph.configs request.id = some config)
    (hport : Table.find? bay.graph.ports config.portId = some port) :
    bay.Unsettled request ↔ (request.formatOn port config).bind port.profile? = none := by
  constructor
  · intro hunsettled
    cases hunsettled with
    | configMissing hmissing => exact absurd (Table.exists_find?.1 ⟨config, hconfig⟩) hmissing
    | formatUnset hconfig' hport' hunset =>
      cases hconfig.symm.trans hconfig'
      cases hport.symm.trans hport'
      rw [hunset]
      rfl
    | formatUnsupported hconfig' hport' hformat hnone =>
      cases hconfig.symm.trans hconfig'
      cases hport.symm.trans hport'
      rw [hformat]
      exact hnone
  · intro hnone
    cases hformat : request.formatOn port config with
    | none => exact .formatUnset hconfig hport hformat
    | some format =>
      rw [hformat] at hnone
      exact .formatUnsupported hconfig hport hformat hnone

/-- An update that is not refused has a config, its port and a profile to be checked against. -/
theorem exists_profile_of_settled (h : Reachable topology query bay)
    (hsettled : ¬ bay.Unsettled request) :
    ∃ config port profile, Table.find? bay.graph.configs request.id = some config ∧
      Table.find? bay.graph.ports config.portId = some port ∧
      (request.formatOn port config).bind port.profile? = some profile := by
  cases hconfig : Table.find? bay.graph.configs request.id with
  | none => exact absurd (.configMissing (Table.find?_eq_none.1 hconfig)) hsettled
  | some config =>
    obtain ⟨port, hport⟩ := h.sound.graph.exists_port hconfig
    rw [unsettled_iff hconfig hport, ← ne_eq, Option.ne_none_iff_exists'] at hsettled
    obtain ⟨profile, hprofile⟩ := hsettled
    exact ⟨config, port, profile, rfl, hport, hprofile⟩

/-! ## Requests for an update -/

/-- An update of a config that does not exist is refused. -/
theorem step_update_missing (hid : request.id ≠ 0)
    (hmissing : request.id ∉ Table.keys bay.graph.configs) :
    bay.step (.setConfig request) = (.error (.noSuchConfig request.id), bay) := by
  have hcurrent : bay.requestedConfig request = .error (.noSuchConfig request.id) := by
    unfold requestedConfig
    rw [if_neg hid, Table.find?_eq_none.2 hmissing]
    rfl
  apply step_of_error
  exact bind_eq_error.2 (.inl hcurrent)

section Outcomes

variable (hid : request.id ≠ 0) (hconfig : Table.find? bay.graph.configs request.id = some config)
  (hne : config.portId ≠ 0) (hport : Table.find? bay.graph.ports config.portId = some port)

include hid hconfig hne hport

/-- An update asks the port of the config for a suggestion. -/
theorem respond_update :
    bay.respond (.setConfig request) =
      (port.suggest request (some config) >>= bay.settleConfig true) := by
  have hcurrent : bay.requestedConfig request = .ok (some config) :=
    requestedConfig_eq_ok.2 (.inr ⟨hid, config, rfl, hconfig⟩)
  have hnamed : require (config.portId ≠ 0) .portUnspecified = .ok () := require_eq_ok.2 hne
  show (bay.requestedConfig request >>= fun current => _) = _
  rw [hcurrent]
  show (require (config.portId ≠ 0) .portUnspecified >>= fun _ => _) = _
  rw [hnamed]
  show (present (Table.find? bay.graph.ports config.portId) _ >>= fun port => _) = _
  rw [hport]
  rfl

/-- An update is refused when the format that it settles with has no profile. -/
theorem step_update_unsupported
    (hnone : (request.formatOn port config).bind port.profile? = none) :
    bay.step (.setConfig request) =
      (.error (.formatUnsupported port.id (request.formatOn port config)), bay) := by
  apply step_of_error
  rw [respond_update hid hconfig hne hport, Port.suggest_current_error hnone]
  rfl

section Settled

variable (hprofile : (request.formatOn port config).bind port.profile? = some profile)

include hprofile

theorem respond_update_settled :
    bay.respond (.setConfig request) =
      bay.settleConfig true (port.suggestOver request config profile) := by
  rw [respond_update hid hconfig hne hport, Port.suggest_current hprofile]
  rfl

/-- An update that is not accepted is answered with a suggestion. -/
theorem step_update_suggested (hnot : ¬ request.Accepted port profile) :
    bay.step (.setConfig request) =
      (.ok (.config (port.suggestOver request config profile).config false), bay) := by
  have hinvalid := mt (Port.suggestOver_valid_iff config).1 hnot
  apply step_of_respond
  rw [respond_update_settled hid hconfig hne hport hprofile]
  unfold settleConfig Suggestion.applies
  simp [hinvalid]

/-- An update that is accepted is made. -/
theorem step_update_accepted (hnodup : (Table.keys bay.graph.configs).Nodup)
    (haccepted : request.Accepted port profile) :
    bay.step (.setConfig request) =
      (.ok (.config (request.laidOver config) true), bay.updated request) := by
  have hvalid := (Port.suggestOver_valid_iff config).2 haccepted
  apply step_of_respond
  rw [respond_update_settled hid hconfig hne hport hprofile]
  unfold settleConfig Suggestion.applies
  rw [hvalid, Port.suggestOver_config haccepted, ← withConfigs_replace hnodup hconfig]
  rfl

end Settled

end Outcomes

/-- That there is nothing to update is held against the request. -/
theorem step_update_unsettled (h : Reachable topology query bay) (hid : request.id ≠ 0)
    (hunsettled : bay.Unsettled request) :
    ∃ fault, bay.step (.setConfig request) = (.error fault, bay) ∧
      fault.kind = .invalidArgument := by
  by_cases hmissing : request.id ∉ Table.keys bay.graph.configs
  · exact ⟨_, step_update_missing hid hmissing, rfl⟩
  · obtain ⟨config, hconfig⟩ := Table.exists_find?.2 (Classical.not_not.1 hmissing)
    obtain ⟨port, hport⟩ := h.sound.graph.exists_port hconfig
    have hnone := (unsettled_iff hconfig hport).1 hunsettled
    exact ⟨_, step_update_unsupported hid hconfig (h.port_ne_zero hport) hport hnone, rfl⟩

/-- Where there is something to update, the update is made or answered with a suggestion. -/
theorem step_update_settled (h : Reachable topology query bay) (hid : request.id ≠ 0)
    (hsettled : ¬ bay.Unsettled request) :
    ∃ config port profile, Table.find? bay.graph.configs request.id = some config ∧
      Table.find? bay.graph.ports config.portId = some port ∧
      (request.formatOn port config).bind port.profile? = some profile ∧
      (request.Accepted port profile →
        bay.step (.setConfig request) =
          (.ok (.config (request.laidOver config) true), bay.updated request)) ∧
      (¬ request.Accepted port profile →
        ∃ suggested, bay.step (.setConfig request) = (.ok (.config suggested false), bay)) := by
  obtain ⟨config, port, profile, hconfig, hport, hprofile⟩ := exists_profile_of_settled h hsettled
  have hne := h.port_ne_zero hport
  refine ⟨config, port, profile, hconfig, hport, hprofile, ?_, ?_⟩
  · exact step_update_accepted hid hconfig hne hport hprofile h.sound.graph.configs_nodup
  · intro hnot
    exact ⟨_, step_update_suggested hid hconfig hne hport hprofile hnot⟩

/-! ## Updates that are sent again -/

theorem updated_updated (bay : Bay) (request : Config) :
    (bay.updated request).updated request = bay.updated request := by
  unfold updated withConfigs
  simp only [List.map_map]
  congr 3
  funext config
  by_cases hkey : config.id = request.id
  · have hkey' : (request.laidOver config).id = request.id := hkey
    simp [hkey, hkey', Config.laidOver_laidOver]
  · simp [hkey]

/-- An update that has been made and is sent again gets the same answer, and the bay stays as the
update has left it. -/
theorem step_update_again (h : Reachable topology query bay) (hid : request.id ≠ 0)
    (hconfig : Table.find? bay.graph.configs request.id = some config)
    (hport : Table.find? bay.graph.ports config.portId = some port)
    (hprofile : (request.formatOn port config).bind port.profile? = some profile)
    (haccepted : request.Accepted port profile) :
    (bay.updated request).step (.setConfig request) =
      (.ok (.config (request.laidOver config) true), bay.updated request) := by
  have hne := h.port_ne_zero hport
  have hstep := step_update_accepted hid hconfig hne hport hprofile h.sound.graph.configs_nodup
    haccepted
  have hnext := h.step (.setConfig request)
  rw [hstep] at hnext
  have hnodup := hnext.sound.graph.configs_nodup
  -- the config is now found as the update has left it, and on the same port
  have hkey : config.id = request.id := Table.key_of_find? hconfig
  have hmem : request.laidOver config ∈ (bay.updated request).graph.configs :=
    List.mem_map.2 ⟨config, Table.mem_of_find? hconfig, if_pos hkey⟩
  have hconfig' : Table.find? (bay.updated request).graph.configs request.id =
      some (request.laidOver config) := by
    rw [← hkey]
    exact Table.find?_of_mem hnodup hmem
  have hprofile' : (request.formatOn port (request.laidOver config)).bind port.profile? =
      some profile := by
    rw [haccepted.formatOn_laidOver]
    exact hprofile
  have hagain := step_update_accepted hid hconfig' hne hport hprofile' hnodup haccepted
  rw [Config.laidOver_laidOver, updated_updated] at hagain
  exact hagain

/-- **Updates are exact and stay within their config.** In a reachable bay, an update gets a fault
of the request exactly when there is nothing to update. Otherwise, if all that it names is
supported, it is laid over the config and nothing else changes; and if not, the answer is a
suggestion, and nothing changes at all. An update that is sent again gets the answer that it got
before, and leaves the bay as it left it before. -/
theorem config_update_exact (h : Reachable topology query bay) (request : Config)
    (hid : request.id ≠ 0) :
    ((∃ fault, bay.step (.setConfig request) = (.error fault, bay) ∧
        fault.kind = .invalidArgument) ↔ bay.Unsettled request) ∧
    (¬ bay.Unsettled request →
      ∃ config port profile, Table.find? bay.graph.configs request.id = some config ∧
        Table.find? bay.graph.ports config.portId = some port ∧
        (request.formatOn port config).bind port.profile? = some profile ∧
        (request.Accepted port profile →
          bay.step (.setConfig request) =
            (.ok (.config (request.laidOver config) true), bay.updated request)) ∧
        (¬ request.Accepted port profile →
          ∃ suggested, bay.step (.setConfig request) = (.ok (.config suggested false), bay))) ∧
    ∀ answer next, bay.step (.setConfig request) = (answer, next) →
      next.step (.setConfig request) = (answer, next) := by
  refine ⟨⟨fun hfault => ?_, step_update_unsettled h hid⟩, step_update_settled h hid, ?_⟩
  · -- where there is something to update, there is no fault
    apply Classical.byContradiction
    intro hsettled
    obtain ⟨_, port, profile, _, _, _, hmade, hsuggested⟩ := step_update_settled h hid hsettled
    by_cases haccepted : request.Accepted port profile
    · exact not_refused (hmade haccepted) hfault
    · obtain ⟨_, hstep⟩ := hsuggested haccepted
      exact not_refused hstep hfault
  · -- only an update that has been made leaves another bay behind
    intro answer next hstep
    by_cases hunsettled : bay.Unsettled request
    · obtain ⟨_, hfault, _⟩ := step_update_unsettled h hid hunsettled
      cases hfault.symm.trans hstep
      exact hfault
    · obtain ⟨config, port, profile, hconfig, hport, hprofile, hmade, hsuggested⟩ :=
        step_update_settled h hid hunsettled
      by_cases haccepted : request.Accepted port profile
      · cases (hmade haccepted).symm.trans hstep
        exact step_update_again h hid hconfig hport hprofile haccepted
      · obtain ⟨_, hsame⟩ := hsuggested haccepted
        cases hsame.symm.trans hstep
        exact hsame

/-- A bay with a simulated USB output that plays 16 bits in stereo, by way of config 9. -/
def stereoUsbBay : Bay :=
  ((builtIn .unavailable).run ((retuneSession .stereo).take 3)).2

/-- Config 9. Its port is the USB output of `usbBay`. -/
def stereoUsbConfig : Config :=
  { id := 9, portId := 8, sampleRate := some 48000, layout := some .stereo
    format := some (.pcm .int16), gain := none, flags := some usbOutput.flags
    role := usbOutput.role }

theorem stereoUsbBay_config :
    Table.find? stereoUsbBay.graph.configs 9 = some stereoUsbConfig := by
  decide

theorem stereoUsbBay_port :
    Table.find? stereoUsbBay.graph.ports stereoUsbConfig.portId = some usbOutput := by
  decide

/-- An update that names only a format, for config 9. -/
def widened (sample : Sample) : Config :=
  { Config.blank with id := 9, format := some (.pcm sample) }

/-- Without a profile for the format that is named, the update settles with that of the config. -/
theorem stereoUsbBay_settled (sample : Sample) : ¬ stereoUsbBay.Unsettled (widened sample) := by
  rw [unsettled_iff stereoUsbBay_config stereoUsbBay_port]
  cases sample <;> decide

/-- The output has a profile for 24 bits, but none for 32. There is no config 10. -/
theorem stereoUsbBay_update :
    Reachable .builtIn .unavailable stereoUsbBay ∧
      (∃ fault, stereoUsbBay.step (.setConfig { widened .int24 with id := 10 }) =
        (.error fault, stereoUsbBay) ∧ fault.kind = .invalidArgument) ∧
      (∃ suggested, stereoUsbBay.step (.setConfig (widened .int32)) =
        (.ok (.config suggested false), stereoUsbBay)) ∧
      ∃ config, stereoUsbBay.step (.setConfig (widened .int24)) =
          (.ok (.config ((widened .int24).laidOver config) true),
            stereoUsbBay.updated (widened .int24)) ∧
        (stereoUsbBay.updated (widened .int24)).step (.setConfig (widened .int24)) =
          (.ok (.config ((widened .int24).laidOver config) true),
            stereoUsbBay.updated (widened .int24)) := by
  have hstart : ofTopology? .builtIn .unavailable = .ok (builtIn .unavailable) := rfl
  have hreach : Reachable .builtIn .unavailable stereoUsbBay :=
    (Reachable.start hstart).run ((retuneSession .stereo).take 3)
  refine ⟨hreach, ?_, ?_, ?_⟩
  · have hexact := config_update_exact hreach { widened .int24 with id := 10 } (by decide)
    exact hexact.1.2 (.configMissing (by decide))
  · have hexact := config_update_exact hreach (widened .int32) (by decide)
    obtain ⟨config, port, profile, hconfig, hport, _, _, hsuggested⟩ :=
      hexact.2.1 (stereoUsbBay_settled .int32)
    cases stereoUsbBay_config.symm.trans hconfig
    cases stereoUsbBay_port.symm.trans hport
    refine hsuggested fun haccepted => ?_
    exact absurd (haccepted.format _ rfl) (by decide)
  · have hexact := config_update_exact hreach (widened .int24) (by decide)
    obtain ⟨config, port, profile, hconfig, hport, _, hmade, _⟩ :=
      hexact.2.1 (stereoUsbBay_settled .int24)
    have haccepted : (widened .int24).Accepted port profile := by
      cases stereoUsbBay_config.symm.trans hconfig
      cases stereoUsbBay_port.symm.trans hport
      refine ⟨⟨nofun, nofun, nofun⟩, fun format hformat => ?_⟩
      cases hformat
      decide
    have hstep := hmade haccepted
    exact ⟨config, hstep, hexact.2.2 _ _ hstep⟩

end Bay

end Patchbay
