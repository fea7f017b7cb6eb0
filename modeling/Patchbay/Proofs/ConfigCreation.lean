import Patchbay.Proofs.Freshness
import Patchbay.Proofs.NewSuggestion

/-!
# What becomes of a request for a new config

A request for a new config is refused outright only when its port does not exist or has no default
config (`Bay.NoDefault`). Otherwise it is answered with a suggestion, which is stored exactly if
the request is supported by the port as it stands. `Bay.config_creation_exact` says this with the
bay that the request leads to.

A client whose request was valid but left something open may send the suggestion back.
`Bay.valid_suggestion_resent` says when it gets its config in this way.
-/

namespace Patchbay

/-- The config that a request makes on a port: its flags and its role are those of the port, and
the rest is as requested. -/
def Config.madeAt (request : Config) (port : Port) (key : Key) : Config :=
  { request with id := key, portId := port.id, flags := some port.flags, role := port.role }

namespace Bay

/-- There is no default config for the port: it does not exist, it has no profiles, or its first
profile has no layouts or no sample rates. -/
inductive NoDefault (bay : Bay) (key : Key) : Prop
  | portMissing : key ∉ Table.keys bay.graph.ports → NoDefault bay key
  | noProfiles {port : Port} : Table.find? bay.graph.ports key = some port →
      port.profiles = [] → NoDefault bay key
  | noLayouts {port : Port} {profile : Profile} : Table.find? bay.graph.ports key = some port →
      port.profiles.head? = some profile → profile.layouts = [] → NoDefault bay key
  | noSampleRates {port : Port} {profile : Profile} : Table.find? bay.graph.ports key = some port →
      port.profiles.head? = some profile → profile.sampleRates = [] → NoDefault bay key

variable {topology : Topology} {query : ProfileQuery} {bay : Bay} {request base : Config}
  {port : Port} {suggestion : Suggestion} {key : Key}

theorem noDefault_iff (hport : Table.find? bay.graph.ports key = some port) :
    bay.NoDefault key ↔ ¬ ∃ base, port.defaultConfig = .ok base := by
  rw [Port.exists_defaultConfig_iff]
  constructor
  · rintro hno ⟨profile, hprofile, hlayouts, hrates⟩
    cases hno with
    | portMissing hmissing => exact hmissing (Table.exists_find?.1 ⟨port, hport⟩)
    | noProfiles hport' hnil =>
      cases hport.symm.trans hport'
      rw [hnil] at hprofile
      cases hprofile
    | noLayouts hport' hprofile' hnil =>
      cases hport.symm.trans hport'
      cases hprofile.symm.trans hprofile'
      exact hlayouts hnil
    | noSampleRates hport' hprofile' hnil =>
      cases hport.symm.trans hport'
      cases hprofile.symm.trans hprofile'
      exact hrates hnil
  · intro hno
    cases hprofile : port.profiles.head? with
    | none => exact .noProfiles hport (List.head?_eq_none_iff.1 hprofile)
    | some profile =>
      by_cases hlayouts : profile.layouts = []
      · exact .noLayouts hport hprofile hlayouts
      · by_cases hrates : profile.sampleRates = []
        · exact .noSampleRates hport hprofile hrates
        · exact absurd ⟨profile, hprofile, hlayouts, hrates⟩ hno

theorem exists_port_of_default (hdefault : ¬ bay.NoDefault key) :
    ∃ port, Table.find? bay.graph.ports key = some port := by
  rw [Table.exists_find?]
  apply Classical.byContradiction
  intro hmissing
  exact hdefault (.portMissing hmissing)

/-- The key zero, which asks for no port, is that of none. -/
theorem Reachable.port_ne_zero (h : Reachable topology query bay)
    (hport : Table.find? bay.graph.ports key = some port) : key ≠ 0 := by
  have hpos := h.sound.graph.port_pos h.wellFormed (Table.exists_find?.1 ⟨port, hport⟩)
  intro hzero
  rw [hzero] at hpos
  exact Int32.lt_irrefl hpos

theorem exists_suggestion (hport : Table.find? bay.graph.ports request.portId = some port)
    (hdefault : ¬ bay.NoDefault request.portId) :
    ∃ suggestion, port.suggest request none = .ok suggestion := by
  rw [noDefault_iff hport, Classical.not_not] at hdefault
  obtain ⟨base, hbase⟩ := hdefault
  exact Port.suggest_new hbase request

/-! ## Requests for a new config -/

/-- A request for a new config asks the port that it names for a suggestion. -/
theorem respond_setConfig_new (hnew : request.id = 0) :
    bay.respond (.setConfig request) = (do
      require (request.portId ≠ 0) .portUnspecified
      let port ← present (Table.find? bay.graph.ports request.portId) (.portMissing request.portId)
      let suggestion ← port.suggest request none
      bay.settleConfig false suggestion) := by
  have hcurrent : bay.requestedConfig request = .ok none :=
    requestedConfig_eq_ok.2 (.inl ⟨hnew, rfl⟩)
  show (bay.requestedConfig request >>= _) = _
  rw [hcurrent]
  rfl

theorem respond_setConfig_at (hnew : request.id = 0) (hne : request.portId ≠ 0)
    (hport : Table.find? bay.graph.ports request.portId = some port) :
    bay.respond (.setConfig request) = (port.suggest request none >>= bay.settleConfig false) := by
  have hnamed : require (request.portId ≠ 0) .portUnspecified = .ok () := require_eq_ok.2 hne
  rw [respond_setConfig_new hnew, hnamed, hport]
  rfl

section Outcomes

variable (hnew : request.id = 0) (hne : request.portId ≠ 0)
  (hport : Table.find? bay.graph.ports request.portId = some port)
  (hsuggest : port.suggest request none = .ok suggestion)

include hnew hne hport hsuggest

theorem respond_setConfig_suggested :
    bay.respond (.setConfig request) = bay.settleConfig false suggestion := by
  rw [respond_setConfig_at hnew hne hport, hsuggest]
  rfl

/-- What is not supported is answered with a suggestion. -/
theorem step_setConfig_suggested (hlacks : ¬ request.SupportedBy port) :
    bay.step (.setConfig request) = (.ok (.config suggestion.config false), bay) := by
  have happlies : ¬ suggestion.applies false = true := mt (Port.applies_new_iff hsuggest).1 hlacks
  apply step_of_respond
  rw [respond_setConfig_suggested hnew hne hport hsuggest]
  unfold settleConfig
  rw [if_neg happlies]

/-- What is supported is made under the next key. -/
theorem step_setConfig_made (hsupported : request.SupportedBy port)
    (hkey : bay.graph.lastKey.next? = some key) :
    bay.step (.setConfig request) =
      (.ok (.config (request.madeAt port key) true),
        { bay with graph :=
          { bay.graph with
            configs := bay.graph.configs ++ [request.madeAt port key], lastKey := key } }) := by
  have happlies := (Port.applies_new_iff hsuggest).2 hsupported
  apply step_of_respond
  rw [respond_setConfig_suggested hnew hne hport hsuggest]
  unfold settleConfig
  rw [if_pos happlies, if_neg Bool.false_ne_true, bind_eq_ok]
  refine ⟨key, Graph.freshKey_eq_ok.2 hkey, ?_⟩
  rw [Port.suggest_new_config hsuggest hsupported]
  rfl

/-- What is supported is refused when there are no keys left. -/
theorem step_setConfig_exhausted (hsupported : request.SupportedBy port)
    (hlast : bay.graph.lastKey.next? = none) :
    bay.step (.setConfig request) = (.error (.noPortKeysLeft bay.graph.lastKey), bay) := by
  have happlies := (Port.applies_new_iff hsuggest).2 hsupported
  apply step_of_error
  rw [respond_setConfig_suggested hnew hne hport hsuggest]
  unfold settleConfig
  rw [if_pos happlies, if_neg Bool.false_ne_true, bind_eq_error]
  exact .inl (present_eq_error.2 ⟨hlast, rfl⟩)

end Outcomes

/-- A port without a default config is held against the request. -/
theorem step_setConfig_noDefault (hnew : request.id = 0) (hno : bay.NoDefault request.portId) :
    ∃ fault, bay.step (.setConfig request) = (.error fault, bay) ∧
      fault.kind = .invalidArgument := by
  by_cases hne : request.portId ≠ 0
  · cases hport : Table.find? bay.graph.ports request.portId with
    | none =>
      refine ⟨.portMissing request.portId, step_of_error ?_, rfl⟩
      rw [respond_setConfig_new hnew]
      simp only [bind_eq_error, require_eq_ok, present_eq_error]
      exact .inr ⟨(), hne, .inl ⟨hport, trivial⟩⟩
    | some port =>
      cases hdefault : port.defaultConfig with
      | ok base => exact absurd ⟨base, hdefault⟩ ((noDefault_iff hport).1 hno)
      | error fault =>
        refine ⟨fault, step_of_error ?_, Port.kind_of_defaultConfig_error hdefault⟩
        rw [respond_setConfig_at hnew hne hport, bind_eq_error]
        exact .inl (Port.suggest_new_error hdefault request)
  · refine ⟨.portUnspecified, step_of_error ?_, rfl⟩
    rw [respond_setConfig_new hnew]
    simp only [bind_eq_error, require_eq_error]
    exact .inl ⟨hne, trivial⟩

/-- **A new config is made exactly when it is supported.** In a reachable bay, a request for a new
config gets a fault of the request exactly when its port does not exist or has no default config.
Otherwise, if it has the flags of the port and a format of the port, and the first profile for that
format has its layout and its sample rate, then a config is added as requested under the next key,
with the role of the port, or the request gets a fault of the state when no key is left. If not, the
answer is a suggestion without a key, and nothing changes. -/
theorem config_creation_exact (h : Reachable topology query bay) (request : Config)
    (hnew : request.id = 0) :
    ((∃ fault, bay.step (.setConfig request) = (.error fault, bay) ∧
        fault.kind = .invalidArgument) ↔ bay.NoDefault request.portId) ∧
    ∀ port, Table.find? bay.graph.ports request.portId = some port →
      ¬ bay.NoDefault request.portId →
      (¬ request.SupportedBy port →
        ∃ suggested, suggested.id = 0 ∧
          bay.step (.setConfig request) = (.ok (.config suggested false), bay)) ∧
      (request.SupportedBy port → bay.graph.lastKey = Int32.maxValue →
        ∃ fault, bay.step (.setConfig request) = (.error fault, bay) ∧
          fault.kind = .illegalState) ∧
      (request.SupportedBy port → bay.graph.lastKey ≠ Int32.maxValue →
        ∃ key, bay.graph.lastKey < key ∧ key ∉ bay.graph.keys ∧
          bay.step (.setConfig request) =
            (.ok (.config (request.madeAt port key) true),
              { bay with graph :=
                { bay.graph with
                  configs := bay.graph.configs ++ [request.madeAt port key], lastKey := key } })) := by
  refine ⟨⟨?_, step_setConfig_noDefault hnew⟩, fun port hport hdefault => ?_⟩
  · intro hfault
    apply Classical.byContradiction
    intro hdefault
    obtain ⟨port, hport⟩ := exists_port_of_default hdefault
    have hne := h.port_ne_zero hport
    obtain ⟨suggestion, hsuggest⟩ := exists_suggestion hport hdefault
    -- no outcome on a port with a default config is such a fault
    by_cases hsupported : request.SupportedBy port
    · cases hkey : bay.graph.lastKey.next? with
      | none =>
        have hstep := step_setConfig_exhausted hnew hne hport hsuggest hsupported hkey
        cases kind_unique hfault ⟨_, hstep, rfl⟩
      | some key =>
        have hstep := step_setConfig_made hnew hne hport hsuggest hsupported hkey
        exact not_refused hstep hfault
    · have hstep := step_setConfig_suggested hnew hne hport hsuggest hsupported
      exact not_refused hstep hfault
  · have hne := h.port_ne_zero hport
    obtain ⟨suggestion, hsuggest⟩ := exists_suggestion hport hdefault
    refine ⟨fun hlacks => ?_, fun hsupported hlast => ?_, fun hsupported hleft => ?_⟩
    · exact ⟨suggestion.config, Port.suggest_new_id hsuggest,
        step_setConfig_suggested hnew hne hport hsuggest hlacks⟩
    · have hkey := Key.next?_eq_none.2 hlast
      exact ⟨_, step_setConfig_exhausted hnew hne hport hsuggest hsupported hkey, rfl⟩
    · obtain ⟨key, hkey⟩ := Option.ne_none_iff_exists'.1 (mt Key.next?_eq_none.1 hleft)
      have hlt := Key.lt_of_next? hkey
      refine ⟨key, hlt, ?_, step_setConfig_made hnew hne hport hsuggest hsupported hkey⟩
      intro hmem
      exact Int32.not_le.2 hlt (h.sound.graph.key_last key hmem)

/-- A config for ordinary output with a gain, and with a role that the port does not have. -/
def loudOutput : Config :=
  { Config.blank with
    portId := 3, sampleRate := some 48000, layout := some .stereo, format := some (.pcm .int16)
    gain := some ⟨0, [-600, -600], 0⟩, flags := some ⟨.output, 2⟩, role := .mix 99 0 0 }

/-- The config is made under the last key, so it cannot be made twice. Without flags it is only
suggested, and on a template it is refused. -/
theorem loudOutput_creation :
    Reachable nearlyFull .unavailable nearlyFullBay ∧
      (∃ fault, nearlyFullBay.step (.setConfig { loudOutput with portId := 6 }) =
        (.error fault, nearlyFullBay) ∧ fault.kind = .invalidArgument) ∧
      (∃ suggested, suggested.id = 0 ∧
        nearlyFullBay.step (.setConfig { loudOutput with flags := none }) =
          (.ok (.config suggested false), nearlyFullBay)) ∧
      (∃ port key next, Table.find? nearlyFullBay.graph.ports 3 = some port ∧
        nearlyFullBay.graph.lastKey < key ∧
        nearlyFullBay.step (.setConfig loudOutput) =
          (.ok (.config (loudOutput.madeAt port key) true), next)) ∧
      ∃ fault, (nearlyFullBay.run [.setConfig loudOutput]).2.step (.setConfig loudOutput) =
        (.error fault, (nearlyFullBay.run [.setConfig loudOutput]).2) ∧
        fault.kind = .illegalState := by
  have hstart : ofTopology? nearlyFull .unavailable = .ok nearlyFullBay := rfl
  have hreach := Reachable.start hstart
  have hdefault : ¬ nearlyFullBay.NoDefault 3 := fun hno => (noDefault_iff rfl).1 hno ⟨_, rfl⟩
  refine ⟨hreach, ?_, ?_, ?_, ?_⟩
  · have hexact := config_creation_exact hreach { loudOutput with portId := 6 } rfl
    exact hexact.1.2 (.noProfiles rfl rfl)
  · have hexact := config_creation_exact hreach { loudOutput with flags := none } rfl
    exact (hexact.2 _ rfl hdefault).1 (by decide)
  · have hexact := config_creation_exact hreach loudOutput rfl
    obtain ⟨key, hlt, _, hstep⟩ := (hexact.2 _ rfl hdefault).2.2 (by decide) (by decide)
    exact ⟨_, key, _, rfl, hlt, hstep⟩
  · have hexact := config_creation_exact (hreach.run [.setConfig loudOutput]) loudOutput rfl
    have hdefault' : ¬ (nearlyFullBay.run [.setConfig loudOutput]).2.NoDefault 3 :=
      fun hno => (noDefault_iff rfl).1 hno ⟨_, rfl⟩
    exact (hexact.2 _ rfl hdefault').2.1 (by decide) (by decide)

/-! ## Suggestions that are sent back -/

/-- A suggestion for a new config has the port, its flags and its role already. -/
theorem madeAt_suggested (hsuggest : port.suggest request none = .ok suggestion) :
    suggestion.config.madeAt port key = { suggestion.config with id := key } := by
  obtain ⟨base, profile, hbase, _, rfl⟩ := Port.suggest_eq_ok.1 hsuggest
  obtain ⟨_, _, _, _, _, _, rfl⟩ := Port.defaultConfig_eq_ok.1 hbase
  rfl

/-- **A valid suggestion is a config when the request fits.** A valid suggestion for a new config
that is sent back as a request is suggested again and leaves nothing open. It applies exactly when
the profile for the requested format offers what the request has left to the default config of the
port, and then the config is made in every reachable bay that has the port and a key left. -/
theorem valid_suggestion_resent (hsuggest : port.suggest request none = .ok suggestion)
    (hvalid : suggestion.valid = true) :
    ∃ base again, port.defaultConfig = .ok base ∧
      port.suggest suggestion.config none = .ok again ∧
      again.config = suggestion.config ∧ again.complete = true ∧
      (again.applies false = true ↔ request.Fits port base) ∧
      ∀ topology query bay, Reachable topology query bay →
        Table.find? bay.graph.ports port.id = some port → bay.graph.lastKey ≠ Int32.maxValue →
        ((∃ key next, bay.step (.setConfig suggestion.config) =
            (.ok (.config { suggestion.config with id := key } true), next)) ↔
          request.Fits port base) := by
  obtain ⟨base, _, hbase, _, _⟩ := Port.suggest_of_valid hsuggest hvalid
  obtain ⟨again, hagain, hsame, hcomplete⟩ := Port.suggest_again hsuggest
  have hfits := Port.applies_again_iff hsuggest hvalid hbase hagain
  refine ⟨base, again, hbase, hagain, hsame, hcomplete, hfits, ?_⟩
  intro topology query bay hreach hport hleft
  have hnew : suggestion.config.id = 0 := Port.suggest_new_id hsuggest
  have hplace : suggestion.config.portId = port.id := Port.suggest_place_of_none hsuggest
  rw [← hplace] at hport
  have hne := hreach.port_ne_zero hport
  have hsupported := (Port.applies_new_iff hagain).symm.trans hfits
  constructor
  · rintro ⟨key, next, hmade⟩
    apply hsupported.1
    apply Classical.byContradiction
    intro hlacks
    have hsuggested := step_setConfig_suggested hnew hne hport hagain hlacks
    simp [hsuggested] at hmade
  · intro hfit
    obtain ⟨key, hkey⟩ := Option.ne_none_iff_exists'.1 (mt Key.next?_eq_none.1 hleft)
    have hmade := step_setConfig_made hnew hne hport hagain (hsupported.2 hfit) hkey
    rw [madeAt_suggested hsuggest] at hmade
    exact ⟨key, _, hmade⟩

/-- A bay with a simulated USB output, which is port 8. -/
def usbBay : Bay :=
  ((builtIn .unavailable).run [.setDebug .simulated, .connectUsb 1]).2

/-- The USB output. It plays 24 bits in stereo at 48 kHz only, and its default config is a mono one
for 16 bits. -/
def usbOutput : Port :=
  { Topology.BuiltIn.devicePort 8 "USB Out" .output .outDevice "usb" 0
      Topology.BuiltIn.usbProfiles with
    role := .device ⟨⟨.outDevice, "usb"⟩, .alsa [1, 0]⟩ 0 }

/-- A request for 24 bits in the layout and at the sample rate that it may name. -/
def wideRequest (layout : Option Layout) (sampleRate : Option UInt32) : Config :=
  { Config.blank with portId := 8, format := some (.pcm .int24), layout, sampleRate }

/-- The request does not name the flags, so it is not stored at first, but its suggestion is. -/
theorem usbOutput_suggestion_resent :
    Reachable .builtIn .unavailable usbBay ∧ Table.find? usbBay.graph.ports 8 = some usbOutput ∧
      ∃ suggestion base again,
        usbOutput.suggest (wideRequest (some .stereo) (some 48000)) none = .ok suggestion ∧
        suggestion.valid = true ∧ suggestion.complete = false ∧
        usbOutput.defaultConfig = .ok base ∧
        (wideRequest (some .stereo) (some 48000)).Fits usbOutput base ∧
        usbOutput.suggest suggestion.config none = .ok again ∧
        again.config = suggestion.config ∧ again.applies false = true ∧
        ∃ key next, usbBay.step (.setConfig suggestion.config) =
          (.ok (.config { suggestion.config with id := key } true), next) := by
  have hstart : ofTopology? .builtIn .unavailable = .ok (builtIn .unavailable) := rfl
  have hreach := (Reachable.start hstart).run [.setDebug .simulated, .connectUsb 1]
  have hport : Table.find? usbBay.graph.ports 8 = some usbOutput := rfl
  have hsuggest : ∃ suggestion,
      usbOutput.suggest (wideRequest (some .stereo) (some 48000)) none = .ok suggestion ∧
        suggestion.valid = true ∧ suggestion.complete = false := ⟨_, rfl, by decide, by decide⟩
  obtain ⟨suggestion, hsuggest, hvalid, hopen⟩ := hsuggest
  obtain ⟨base, again, hbase, hagain, hsame, _, hfits, hmade⟩ :=
    valid_suggestion_resent hsuggest hvalid
  have hfit : (wideRequest (some .stereo) (some 48000)).Fits usbOutput base := by
    cases hbase
    decide
  exact ⟨hreach, hport, suggestion, base, again, hsuggest, hvalid, hopen, hbase, hfit, hagain, hsame,
    hfits.2 hfit, (hmade _ _ usbBay hreach hport (by decide)).2 hfit⟩

/-- Not every valid suggestion can be sent back: a request that names only the format is valid, but
the default layout and the default sample rate do not belong to the format. -/
theorem not_valid_suggestion_resent :
    ¬ ∀ (port : Port) (request : Config) (suggestion : Suggestion),
      port.suggest request none = .ok suggestion → suggestion.valid = true →
        ∃ again, port.suggest suggestion.config none = .ok again ∧
          again.applies false = true ∧ again.config = suggestion.config := by
  intro h
  obtain ⟨again, hagain, happlies, _⟩ := h usbOutput (wideRequest none none) _ rfl (by decide)
  cases hagain
  exact absurd happlies (by decide)

end Bay

end Patchbay
